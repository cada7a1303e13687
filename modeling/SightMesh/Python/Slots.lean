import Mathlib.Data.List.Perm.Basic
import Mathlib.Data.List.Sort
import Mathlib.Data.String.Basic
import Mathlib.Tactic.Common

/-! Writing a list of values into the positions of another list that hold a chosen kind of value,
and `sorted` on texts. -/
namespace Python

/-- `sorted(texts)`. -/
def sorted (texts : List String) : List String := texts.insertionSort (· ≤ ·)

theorem sorted_eq_iff {texts texts' : List String} : sorted texts = sorted texts' ↔
    texts.Perm texts' := by
  constructor
  · intro same
    have there := (List.perm_insertionSort (· ≤ ·) texts).symm
    exact (there.trans (List.Perm.of_eq same)).trans (List.perm_insertionSort (· ≤ ·) texts')
  · intro shuffled
    have whole := (List.perm_insertionSort (· ≤ ·) texts).trans
      (shuffled.trans (List.perm_insertionSort (· ≤ ·) texts').symm)
    exact whole.eq_of_pairwise' (List.pairwise_insertionSort _ _) (List.pairwise_insertionSort _ _)

section
variable {α : Type} (chosen : α → Bool)

/-- `[i for i, x in enumerate(xs, start) if chosen(x)]`. -/
def slots (xs : List α) (start : ℕ) : List ℕ :=
  ((xs.zipIdx start).filter fun entry => chosen entry.1).map Prod.snd

/-- `for slot, value in zip(places, values): xs[slot] = value`. -/
def assign (xs : List α) (places : List ℕ) (values : List α) : List α :=
  (places.zip values).foldl (fun xs entry => xs.set entry.1 entry.2) xs

/-- The same, from the front. -/
def refill : List α → List α → List α
  | [], _ => []
  | x :: xs, [] => x :: xs
  | x :: xs, y :: ys => if chosen x then y :: refill xs ys else x :: refill xs (y :: ys)

@[simp] theorem refill_nil (xs : List α) : refill chosen xs [] = xs := by cases xs <;> rfl

variable {chosen}

theorem refill_of_chosen {x y : α} (here : chosen x) (xs ys : List α) :
    refill chosen (x :: xs) (y :: ys) = y :: refill chosen xs ys := by
  simp [refill, here]

theorem refill_of_not_chosen {x : α} (apart : chosen x = false) (xs ys : List α) :
    refill chosen (x :: xs) ys = x :: refill chosen xs ys := by
  cases ys <;> simp [refill, apart]

/-- The walk over the slots, behind the items it has left. -/
theorem assign_append (passed xs ys : List α) :
    assign (passed ++ xs) (slots chosen xs passed.length) ys = passed ++ refill chosen xs ys := by
  induction xs generalizing passed ys with
  | nil => simp [assign, slots, refill]
  | cons x xs ih =>
    cases here : chosen x with
    | false =>
      have behind := ih (passed ++ [x]) ys
      simp only [List.append_assoc, List.singleton_append, List.length_append,
        List.length_singleton] at behind
      rw [refill_of_not_chosen here, ← behind]
      simp [slots, List.zipIdx_cons, here]
    | true =>
      cases ys with
      | nil => simp [assign]
      | cons y ys =>
        have behind := ih (passed ++ [y]) ys
        simp only [List.append_assoc, List.singleton_append, List.length_append,
          List.length_singleton] at behind
        rw [refill_of_chosen here, ← behind]
        simp [slots, assign, List.zipIdx_cons, here]

theorem assign_slots (xs ys : List α) :
    assign xs (slots chosen xs 0) ys = refill chosen xs ys := assign_append [] xs ys

/-! ### What refilling changes -/

theorem refill_get_of_not_chosen {xs ys : List α} {i : ℕ} {x : α} (there : xs[i]? = some x)
    (apart : chosen x = false) : (refill chosen xs ys)[i]? = some x := by
  induction xs generalizing ys i with
  | nil => simp at there
  | cons head xs ih =>
    cases ys with
    | nil => rwa [refill_nil]
    | cons y ys =>
      cases i with
      | zero =>
        obtain rfl : head = x := by simpa using there
        simp [refill_of_not_chosen apart]
      | succ i =>
        have there' : xs[i]? = some x := by simpa using there
        cases here : chosen head with
        | false => simpa [refill_of_not_chosen here] using ih there'
        | true => simpa [refill_of_chosen here] using ih there'

theorem filter_refill_of_apart {other : α → Bool} (apart : ∀ x, chosen x → other x = false)
    {xs ys : List α} (fits : ∀ y ∈ ys, chosen y) :
    (refill chosen xs ys).filter other = xs.filter other := by
  induction xs generalizing ys with
  | nil => rfl
  | cons x xs ih =>
    cases ys with
    | nil => rw [refill_nil]
    | cons y ys =>
      cases here : chosen x with
      | false => rw [refill_of_not_chosen here, List.filter_cons, ih fits, List.filter_cons]
      | true =>
        rw [refill_of_chosen here, List.filter_cons, apart y (fits y (by simp)),
          ih fun z later => fits z (by simp [later])]
        simp [apart x here]

section
variable {xs ys : List α} (fits : ∀ y ∈ ys, chosen y)
include fits

theorem refill_places : (refill chosen xs ys).map chosen = xs.map chosen := by
  induction xs generalizing ys with
  | nil => rfl
  | cons x xs ih =>
    cases ys with
    | nil => rw [refill_nil]
    | cons y ys =>
      cases here : chosen x with
      | false => simp [refill_of_not_chosen here, ih fits]
      | true =>
        have later : ∀ z ∈ ys, chosen z := fun z later => fits z (by simp [later])
        simp [refill_of_chosen here, ih later, fits y (by simp), here]

theorem filter_refill (whole : ys.length = (xs.filter chosen).length) :
    (refill chosen xs ys).filter chosen = ys := by
  induction xs generalizing ys with
  | nil => simpa [refill, eq_comm] using whole
  | cons x xs ih =>
    cases here : chosen x with
    | false =>
      rw [refill_of_not_chosen here, List.filter_cons_of_neg (by simp [here])]
      exact ih fits (by simpa [here] using whole)
    | true =>
      cases ys with
      | nil => simp [here] at whole
      | cons y ys =>
        have later : ∀ z ∈ ys, chosen z := fun z later => fits z (by simp [later])
        rw [refill_of_chosen here, List.filter_cons_of_pos (fits y (by simp)),
          ih later (by simpa [here] using whole)]

/-- The values are the chosen items, so none is lost. -/
theorem refill_perm (shuffled : ys.Perm (xs.filter chosen)) : (refill chosen xs ys).Perm xs := by
  have split := List.filter_append_perm chosen (refill chosen xs ys)
  have apart : ∀ x, chosen x → (!chosen x) = false := by simp
  rw [filter_refill fits shuffled.length_eq, filter_refill_of_apart apart fits] at split
  exact split.symm.trans ((shuffled.append_right _).trans (List.filter_append_perm chosen xs))

end

/-! ### When the values come to stand as they were given -/

theorem refill_of_none_chosen {xs : List α} (apart : ∀ x ∈ xs, chosen x = false) (ys : List α) :
    refill chosen xs ys = xs := by
  induction xs with
  | nil => rfl
  | cons x xs ih =>
    rw [refill_of_not_chosen (apart x (by simp)), ih fun z later => apart z (by simp [later])]

theorem mem_refill_of_chosen {x y : α} {xs : List α} (mem : x ∈ xs) (here : chosen x)
    (ys : List α) : y ∈ refill chosen xs (y :: ys) := by
  induction xs with
  | nil => simp at mem
  | cons head xs ih =>
    cases first : chosen head with
    | true => simp [refill_of_chosen first]
    | false =>
      have later : x ∈ xs := by
        rcases List.mem_cons.mp mem with rfl | later
        · exact absurd here (by simp [first])
        · exact later
      simp [refill_of_not_chosen first, ih later]

theorem refill_eq_self_iff {xs ys : List α} (distinct : ys.Nodup)
    (whole : ys.length = xs.length) : refill chosen xs ys = ys ↔
      ∃ lead rest, xs = lead ++ rest ∧ (∀ x ∈ lead, chosen x) ∧ (∀ x ∈ rest, chosen x = false) ∧
        ys.drop lead.length = rest := by
  constructor
  · intro same
    induction xs generalizing ys with
    | nil => exact ⟨[], [], rfl, by simp, by simp, by simpa using whole⟩
    | cons x xs ih =>
      obtain ⟨y, ys, rfl⟩ := List.exists_cons_of_length_eq_add_one whole
      cases here : chosen x with
      | true =>
        rw [refill_of_chosen here, List.cons.injEq] at same
        obtain ⟨lead, rest, rfl, led, left, fits⟩ :=
          ih distinct.of_cons (by simpa using whole) same.2
        refine ⟨x :: lead, rest, rfl, ?_, left, by simpa using fits⟩
        simpa [here] using led
      | false =>
        -- a slot further on would take the first value, which stands here already
        rw [refill_of_not_chosen here, List.cons.injEq] at same
        have none : ∀ z ∈ xs, chosen z = false := by
          intro z mem
          by_contra taken
          have twice := mem_refill_of_chosen mem (by simpa using taken) ys (y := y)
          rw [same.2] at twice
          exact (List.nodup_cons.mp distinct).1 twice
        rw [refill_of_none_chosen none] at same
        refine ⟨[], x :: xs, rfl, by simp, ?_, by simp [same.1, same.2]⟩
        simpa [here] using none
  · rintro ⟨lead, rest, rfl, led, left, fits⟩
    induction lead generalizing ys with
    | nil =>
      have same : ys = rest := by simpa using fits
      rw [List.nil_append, refill_of_none_chosen left, same]
    | cons x lead ih =>
      obtain ⟨y, ys, rfl⟩ := List.exists_cons_of_length_eq_add_one whole
      rw [List.cons_append, refill_of_chosen (led x (by simp)),
        ih distinct.of_cons (by simpa using whole) (fun z later => led z (by simp [later]))
          (by simpa using fits)]

end

end Python
