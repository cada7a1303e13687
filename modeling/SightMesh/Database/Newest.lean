import Mathlib.Data.List.Sort
import Mathlib.Data.List.Count

/-! `ORDER BY key DESC LIMIT n`, read back to front: the newest rows of a table, oldest first. -/
namespace Database

variable {α κ : Type} [LinearOrder κ]

def newest (n : ℕ) (key : α → κ) (rows : List α) : List α :=
  ((rows.insertionSort fun a b => key b ≤ key a).take n).reverse

variable {n : ℕ} {key : α → κ} {rows : List α}

/-- The newest rows are some of the rows, in order, and no other row is newer than one of them. -/
theorem newest_split (n : ℕ) (key : α → κ) (rows : List α) :
    (newest n key rows).Pairwise (fun a b => key a ≤ key b) ∧
      (newest n key rows).length = min n rows.length ∧
      ∃ older, rows.Perm (older ++ newest n key rows) ∧
        ∀ old ∈ older, ∀ new ∈ newest n key rows, key old ≤ key new := by
  let sorted := rows.insertionSort fun a b => key b ≤ key a
  have : Std.Total fun a b : α => key b ≤ key a := ⟨fun a b => le_total (key b) (key a)⟩
  have : IsTrans α fun a b => key b ≤ key a := ⟨fun a b c first second => second.trans first⟩
  have falls : sorted.Pairwise fun a b => key b ≤ key a := List.pairwise_insertionSort _ rows
  have perm : sorted.Perm rows := List.perm_insertionSort _ rows
  refine ⟨List.pairwise_reverse.mpr (falls.sublist (List.take_sublist n sorted)), ?_,
    sorted.drop n, ?_, fun old mem new mem' => ?_⟩
  · rw [newest, List.length_reverse, List.length_take, perm.length_eq]
  · have parts : sorted.Perm (sorted.drop n ++ sorted.take n) := by
      conv_lhs => rw [← List.take_append_drop n sorted]
      exact List.perm_append_comm
    exact perm.symm.trans (parts.trans ((List.reverse_perm _).symm.append_left _))
  · have cut := List.pairwise_append.mp (List.take_append_drop n sorted ▸ falls)
    exact cut.2.2 new (List.mem_reverse.mp mem') old mem

/-- Where a row is left out, as many as were asked for are newer. -/
theorem newest_full {older : List α} {old : α} (perm : rows.Perm (older ++ newest n key rows))
    (mem : old ∈ older) : (newest n key rows).length = n := by
  have total := perm.length_eq
  have some_ := List.length_pos_of_mem mem
  have taken := (newest_split n key rows).2.1
  rw [List.length_append] at total
  omega

/-- One row more is read than is shown: whether it is there tells whether any row is hidden. -/
theorem newest_one_more (n : ℕ) (key : α → κ) (rows : List α) {read : List α}
    (reads : newest (n + 1) key rows = read) :
    ∃ hidden, rows.Perm (hidden ++ read.drop (read.length - n)) ∧
      (hidden ≠ [] ↔ n < read.length) ∧
      ∀ old ∈ hidden, ∀ new ∈ read.drop (read.length - n), key old ≤ key new := by
  obtain ⟨sorted, length, older, perm, newer⟩ := newest_split (n + 1) key rows
  have full {old : α} (mem : old ∈ older) := newest_full perm mem
  rw [reads] at sorted length perm newer full
  have parts := List.take_append_drop (read.length - n) read
  refine ⟨older ++ read.take (read.length - n), ?_, ⟨fun some_ => ?_, fun more => ?_⟩,
    fun old mem new mem' => ?_⟩
  · rw [List.append_assoc, parts]
    exact perm
  · by_contra! few
    have hidden : older ≠ [] := by
      simpa [Nat.sub_eq_zero_of_le few] using some_
    obtain ⟨old, mem⟩ := List.exists_mem_of_ne_nil older hidden
    have := full mem
    omega
  · have taken : (read.take (read.length - n)).length = read.length - n := by
      rw [List.length_take]
      omega
    exact fun none_ => by simp [(List.append_eq_nil_iff.mp none_).2] at taken; omega
  · rcases List.mem_append.mp mem with mem | mem
    · exact newer old mem new (List.mem_of_mem_drop mem')
    · exact (List.pairwise_append.mp (parts ▸ sorted)).2.2 old mem new mem'

/-- What is left of two tables, read `n` rows each and cut to the last `n` of them all, is no newer
than what is shown. -/
theorem older_than_shown {read : List α} {cut shown : List α} {last : List α} {old new : α}
    (length : last.length = n) (within : last.Subperm read) (ends : read = cut ++ shown)
    (few : shown.length ≤ n) (sorted : read.Pairwise fun a b => key a ≤ key b)
    (least : ∀ row ∈ last, key old ≤ key row) (mem : new ∈ shown) : key old ≤ key new := by
  by_contra! newer
  -- Every row of `last` is newer than `new`, and so stands behind the cut.
  have all : last.countP (fun row => decide (key new < key row)) = last.length :=
    List.countP_eq_length.mpr fun row mem => decide_eq_true (newer.trans_le (least row mem))
  have before : cut.countP (fun row => decide (key new < key row)) = 0 := by
    rw [List.countP_eq_zero]
    intro row mem'
    have first : key row ≤ key new :=
      (List.pairwise_append.mp (ends ▸ sorted)).2.2 row mem' new mem
    simpa using first
  have behind : shown.countP (fun row => decide (key new < key row)) < shown.length := by
    refine lt_of_le_of_ne List.countP_le_length fun full => ?_
    simpa using List.countP_eq_length.mp full new mem
  have counted : last.countP (fun row => decide (key new < key row)) ≤
      read.countP (fun row => decide (key new < key row)) := within.countP_le _
  rw [ends, List.countP_append, before, all, length] at counted
  omega

end Database
