import Mathlib.Data.List.Basic

/-! Sparse changes of a row: a log keeps the columns each write moved, and its replay gives them all
back. -/
namespace Database

variable {γ ν : Type*} [DecidableEq γ]

/-- What the changes, in their order, leave under a column. -/
def replayed (changes : List (List (γ × ν))) (c : γ) : Option ν :=
  changes.foldl (fun known changed => (changed.lookup c).or known) none

@[simp] theorem replayed_nil (c : γ) : replayed ([] : List (List (γ × ν))) c = none := rfl

@[simp] theorem replayed_append (changes : List (List (γ × ν))) (changed : List (γ × ν)) (c : γ) :
    replayed (changes ++ [changed]) c = (changed.lookup c).or (replayed changes c) := by
  simp [replayed]

theorem lookup_columns (columns : List γ) (row : γ → ν) (c : γ) :
    (columns.map fun c => (c, row c)).lookup c = if c ∈ columns then some (row c) else none := by
  induction columns with
  | nil => rfl
  | cons first columns ih =>
    by_cases same : c = first
    · subst same
      simp
    · have apart : (c == first) = false := by simp [same]
      simp [List.lookup_cons, apart, ih, same]

variable [DecidableEq ν]

/-- Has a write left a new value under the column? A row written first has all of its columns new. -/
def isNew (before : Option (γ → ν)) (after : γ → ν) (c : γ) : Bool :=
  before.all fun row => row c ≠ after c

/-- The columns a write moved, with their new values. -/
def sparse (columns : List γ) (before : Option (γ → ν)) (after : γ → ν) : List (γ × ν) :=
  (columns.filter (isNew before after)).map fun c => (c, after c)

variable {columns : List γ} {before : Option (γ → ν)} {after : γ → ν}
  {changes : List (List (γ × ν))} {c : γ}

theorem lookup_sparse :
    (sparse columns before after).lookup c =
      if c ∈ columns ∧ isNew before after c then some (after c) else none := by
  simp [sparse, lookup_columns]

theorem replayed_sparse (inside : c ∈ columns)
    (known : replayed changes c = before.map fun row => row c) :
    replayed (changes ++ [sparse columns before after]) c = some (after c) := by
  rw [replayed_append, lookup_sparse, known]
  by_cases new : isNew before after c
  · simp [inside, new]
  cases before with
  | none => simp [isNew] at new
  | some row =>
    have same : row c = after c := by simpa [isNew] using new
    simp [isNew, same]

omit [DecidableEq γ] in
/-- A write that moves no column leaves nothing in the log, and the replay wants nothing. -/
theorem sparse_eq_nil_iff {row : γ → ν} :
    sparse columns (some row) after = [] ↔ ∀ c ∈ columns, row c = after c := by
  simp [sparse, isNew]

omit [DecidableEq γ] in
theorem sparse_first : sparse columns none after = columns.map fun c => (c, after c) := by
  have all : isNew none after = fun _ => true := rfl
  simp [sparse, all]

omit [DecidableEq γ] in
theorem filter_sparse (p : γ → Bool) :
    (sparse columns before after).filter (fun q => p q.1) =
      sparse (columns.filter p) before after := by
  simp [sparse, List.filter_map, Function.comp_def, Bool.and_comm]

end Database
