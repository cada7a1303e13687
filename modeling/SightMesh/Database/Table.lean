import Mathlib.Data.List.Nodup
import Mathlib.Data.List.Perm.Subperm

/-! Tables with a primary key. A row carries its key, and the rows stand in insertion order. -/
namespace Database

structure Table {κ ρ : Type} (key : ρ → κ) where
  rows : List ρ
  unique : (rows.map key).Nodup

namespace Table

variable {κ ρ : Type} {key : ρ → κ}

def empty : Table key := ⟨[], List.nodup_nil⟩

instance : Inhabited (Table key) := ⟨empty⟩

variable [DecidableEq κ]

def get (t : Table key) (k : κ) : Option ρ := t.rows.find? (fun r => key r = k)

def overwrite (key : ρ → κ) (rows : List ρ) (row : ρ) : List ρ :=
  rows.map fun r => if key r = key row then row else r

theorem keys_overwrite (key : ρ → κ) (rows : List ρ) (row : ρ) :
    (overwrite key rows row).map key = rows.map key := by
  simp only [overwrite, List.map_map, List.map_inj_left, Function.comp_apply]
  intro r _
  split
  · rename_i same
    exact same.symm
  · rfl

def put (t : Table key) (row : ρ) : Table key :=
  if fresh : key row ∈ t.rows.map key then
    ⟨overwrite key t.rows row, (keys_overwrite key t.rows row).symm ▸ t.unique⟩
  else
    ⟨t.rows ++ [row], by
      rw [List.map_append, List.map_singleton]
      exact t.unique.append (List.nodup_singleton _) (List.disjoint_singleton.mpr fresh)⟩

theorem key_of_get {t : Table key} {k : κ} {row : ρ} (h : t.get k = some row) : key row = k := by
  simpa using List.find?_some h

theorem mem_of_get {t : Table key} {k : κ} {row : ρ} (h : t.get k = some row) : row ∈ t.rows :=
  List.mem_of_find?_eq_some h

theorem get_of_mem {t : Table key} {row : ρ} (h : row ∈ t.rows) : t.get (key row) = some row := by
  cases found : t.get (key row) with
  | none => simpa using List.find?_eq_none.mp found row h
  | some other =>
    have same := List.inj_on_of_nodup_map t.unique (mem_of_get found) h (key_of_get found)
    rw [same]

theorem get_eq_some_iff {t : Table key} {k : κ} {row : ρ} :
    t.get k = some row ↔ row ∈ t.rows ∧ key row = k := by
  constructor
  · exact fun h => ⟨mem_of_get h, key_of_get h⟩
  · rintro ⟨mem, rfl⟩
    exact get_of_mem mem

theorem get_eq_none_iff {t : Table key} {k : κ} : t.get k = none ↔ k ∉ t.rows.map key := by
  simp [get]

@[simp] theorem get_empty (k : κ) : (empty : Table key).get k = none := rfl

theorem mem_put {t : Table key} {row r : ρ} :
    r ∈ (t.put row).rows ↔ r = row ∨ r ∈ t.rows ∧ key r ≠ key row := by
  unfold put
  split
  · rename_i known
    simp only [overwrite, List.mem_map]
    constructor
    · rintro ⟨x, mem, rfl⟩
      by_cases same : key x = key row
      · simp [same]
      · simp [same, mem]
    · rintro (rfl | ⟨mem, apart⟩)
      · obtain ⟨x, mem, same⟩ := List.mem_map.mp known
        exact ⟨x, mem, by simp [same]⟩
      · exact ⟨r, mem, by simp [apart]⟩
  · rename_i fresh
    simp only [List.mem_append, List.mem_singleton]
    constructor
    · rintro (mem | rfl)
      · exact .inr ⟨mem, fun same => fresh (same ▸ List.mem_map_of_mem mem)⟩
      · exact .inl rfl
    · rintro (rfl | ⟨mem, _⟩)
      · exact .inr rfl
      · exact .inl mem

theorem rows_put_new {t : Table key} {row : ρ} (fresh : key row ∉ t.rows.map key) :
    (t.put row).rows = t.rows ++ [row] := by
  rw [put, dif_neg fresh]

theorem rows_put_known {t : Table key} {row : ρ} (known : key row ∈ t.rows.map key) :
    (t.put row).rows = t.rows.map fun r => if key r = key row then row else r := by
  rw [put, dif_pos known]
  rfl

theorem get_put (t : Table key) (row : ρ) (k : κ) :
    (t.put row).get k = if k = key row then some row else t.get k := by
  apply Option.ext
  intro r
  simp only [get_eq_some_iff, mem_put]
  split
  · rename_i same
    subst same
    constructor
    · rintro ⟨rfl | ⟨_, apart⟩, named⟩
      · rfl
      · exact absurd named apart
    · intro h
      cases h
      exact ⟨.inl rfl, rfl⟩
  · rename_i apart
    rw [get_eq_some_iff]
    constructor
    · rintro ⟨rfl | ⟨mem, _⟩, named⟩
      · exact absurd named.symm apart
      · exact ⟨mem, named⟩
    · rintro ⟨mem, rfl⟩
      exact ⟨.inr ⟨mem, apart⟩, rfl⟩

@[simp] theorem get_put_self (t : Table key) (row : ρ) : (t.put row).get (key row) = some row := by
  simp [get_put]

theorem get_put_ne (t : Table key) {row : ρ} {k : κ} (h : k ≠ key row) :
    (t.put row).get k = t.get k := by
  simp [get_put, h]

def erase (t : Table key) (k : κ) : Table key where
  rows := t.rows.filter fun r => key r ≠ k
  unique := t.unique.sublist (List.filter_sublist.map key)

@[simp] theorem mem_erase {t : Table key} {k : κ} {r : ρ} :
    r ∈ (t.erase k).rows ↔ r ∈ t.rows ∧ key r ≠ k := by
  simp [erase]

theorem get_erase (t : Table key) (k k' : κ) :
    (t.erase k).get k' = if k' = k then none else t.get k' := by
  apply Option.ext
  intro r
  by_cases same : k' = k
  · rw [if_pos same, get_eq_some_iff, mem_erase]
    simp only [reduceCtorEq, iff_false, not_and]
    rintro ⟨_, apart⟩ named
    exact apart (named.trans same)
  · rw [if_neg same, get_eq_some_iff, get_eq_some_iff, mem_erase]
    constructor
    · rintro ⟨⟨mem, _⟩, named⟩
      exact ⟨mem, named⟩
    · rintro ⟨mem, named⟩
      exact ⟨⟨mem, fun gone => same (named.symm.trans gone)⟩, named⟩

def update (t : Table key) (f : ρ → ρ) (keeps : ∀ r, key (f r) = key r) : Table key where
  rows := t.rows.map f
  unique := by simpa [Function.comp_def, keeps] using t.unique

theorem get_update (t : Table key) (f : ρ → ρ) (keeps : ∀ r, key (f r) = key r) (k : κ) :
    (t.update f keeps).get k = (t.get k).map f := by
  have same : (fun r => decide (key r = k)) ∘ f = fun r => decide (key r = k) := by
    funext r
    exact congrArg (fun other => decide (other = k)) (keeps r)
  unfold get update
  rw [List.find?_map, same]

omit [DecidableEq κ] in
/-- Where every counted row was counted before under its key, no more rows are counted. -/
theorem length_filter_le {t t' : Table key} {p q : ρ → Bool}
    (known : ∀ r ∈ t'.rows, q r = true → ∃ r' ∈ t.rows, key r' = key r ∧ p r' = true) :
    (t'.rows.filter q).length ≤ (t.rows.filter p).length := by
  have distinct : ((t'.rows.filter q).map key).Nodup := t'.unique.sublist (List.filter_sublist.map key)
  have covered : (t'.rows.filter q).map key ⊆ (t.rows.filter p).map key := by
    intro k listed
    obtain ⟨r, counted, rfl⟩ := List.mem_map.mp listed
    obtain ⟨mem, passed⟩ := List.mem_filter.mp counted
    obtain ⟨r', mem', same, passed'⟩ := known r mem passed
    exact same ▸ List.mem_map_of_mem (List.mem_filter.mpr ⟨mem', passed'⟩)
  simpa using (List.subperm_of_subset distinct covered).length_le

def insertNew (t : Table key) (row : ρ) : Table key :=
  if key row ∈ t.rows.map key then t else t.put row

theorem get_insertNew (t : Table key) (row : ρ) (k : κ) :
    (t.insertNew row).get k = if k = key row then some ((t.get k).getD row) else t.get k := by
  unfold insertNew
  split
  · rename_i taken
    split
    · rename_i same
      subst same
      cases found : t.get (key row) with
      | none => exact absurd taken (get_eq_none_iff.mp found)
      | some other => rfl
    · rfl
  · rename_i fresh
    rw [get_put]
    split
    · rename_i same
      subst same
      rw [get_eq_none_iff.mpr fresh, Option.getD_none]
    · rfl

end Table

end Database
