import Mathlib.Data.List.Basic

/-! Dictionaries that keep the order in which their keys first came, as lists of pairs. -/
namespace OrderedDict

variable {κ ν : Type} [DecidableEq κ]

/-- `d[key] = value`. -/
def put (key : κ) (value : ν) : List (κ × ν) → List (κ × ν)
  | [] => [(key, value)]
  | (k, v) :: rest => if k = key then (key, value) :: rest else (k, v) :: put key value rest

/-- `d.pop(key, None)`. -/
def drop (key : κ) (d : List (κ × ν)) : List (κ × ν) := d.filter (·.1 ≠ key)

section
variable [BEq κ] [LawfulBEq κ]

theorem lookup_cons_ite (k key : κ) (value : ν) (d : List (κ × ν)) :
    ((key, value) :: d).lookup k = if k = key then some value else d.lookup k := by
  by_cases same : k = key
  · rw [if_pos same, List.lookup_cons, beq_iff_eq.mpr same]
  · rw [if_neg same, List.lookup_cons, beq_eq_false_iff_ne.mpr same]

theorem lookup_put (key k : κ) (value : ν) (d : List (κ × ν)) :
    (put key value d).lookup k = if k = key then some value else d.lookup k := by
  induction d with
  | nil => rw [put, lookup_cons_ite]
  | cons e rest ih =>
    obtain ⟨k', v⟩ := e
    by_cases here : k' = key
    · rw [put, if_pos here, lookup_cons_ite, lookup_cons_ite, here]
      by_cases same : k = key <;> simp [same]
    · rw [put, if_neg here, lookup_cons_ite, lookup_cons_ite, ih]
      by_cases found : k = k'
      · have apart : k ≠ key := found ▸ here
        rw [if_pos found, if_neg apart, if_pos found]
      · rw [if_neg found, if_neg found]

theorem lookup_drop (key k : κ) (d : List (κ × ν)) :
    (drop key d).lookup k = if k = key then none else d.lookup k := by
  induction d with
  | nil => simp [drop]
  | cons e rest ih =>
    obtain ⟨k', v⟩ := e
    rw [drop] at *
    by_cases here : k' = key
    · rw [List.filter_cons_of_neg (by simpa using here), ih, lookup_cons_ite, here]
      by_cases same : k = key <;> simp [same]
    · rw [List.filter_cons_of_pos (by simpa using here), lookup_cons_ite, lookup_cons_ite, ih]
      by_cases found : k = k'
      · have apart : k ≠ key := found ▸ here
        rw [if_pos found, if_neg apart, if_pos found]
      · rw [if_neg found, if_neg found]

end

/-- A choice by the keys is made before or after the value is put. -/
theorem filter_put (choice : κ → Bool) (key : κ) (value : ν) (d : List (κ × ν)) :
    (put key value d).filter (fun e => choice e.1) =
      if choice key then put key value (d.filter fun e => choice e.1)
      else d.filter fun e => choice e.1 := by
  induction d with
  | nil => cases chosen : choice key <;> simp [put, chosen]
  | cons e rest ih =>
    obtain ⟨k, v⟩ := e
    by_cases here : k = key
    · subst here
      cases chosen : choice k <;> simp [put, chosen]
    · rw [put, if_neg here, List.filter_cons, List.filter_cons, ih]
      cases chosen : choice key <;> cases first : choice k <;> simp [put, here]

theorem forall_put {holds : κ × ν → Prop} {key : κ} {value : ν} {d : List (κ × ν)}
    (new : holds (key, value)) (old : ∀ e ∈ d, holds e) : ∀ e ∈ put key value d, holds e := by
  induction d with
  | nil => exact List.forall_mem_singleton.mpr new
  | cons e rest ih =>
    rw [List.forall_mem_cons] at old
    rw [put]
    split
    · exact List.forall_mem_cons.mpr ⟨new, old.2⟩
    · exact List.forall_mem_cons.mpr ⟨old.1, ih old.2⟩

end OrderedDict
