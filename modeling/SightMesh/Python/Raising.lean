import Mathlib.Data.List.Forall2

/-! Computations that may raise, one after another and over a list. -/
namespace Python.Raising

variable {ε α β γ : Type}

theorem ok_bind (a : α) (f : α → Except ε β) : (Except.ok a >>= f) = f a := rfl

theorem bind_eq_ok {x : Except ε α} {f : α → Except ε β} {b : β} (ok : (x >>= f) = .ok b) :
    ∃ a, x = .ok a ∧ f a = .ok b := by
  cases x with
  | ok a => exact ⟨a, rfl, ok⟩
  | error e => exact nomatch ok

theorem forall₂_of_mapM {f : α → Except ε β} {reads : α → β → Prop}
    (sound : ∀ a b, f a = .ok b → reads a b) {items : List α} {results : List β}
    (ok : items.mapM f = .ok results) : List.Forall₂ reads items results := by
  induction items generalizing results with
  | nil =>
    obtain rfl : [] = results := Except.ok.inj ok
    exact .nil
  | cons item items ih =>
    rw [List.mapM_cons] at ok
    obtain ⟨result, read, ok⟩ := bind_eq_ok ok
    obtain ⟨rest, readRest, ok⟩ := bind_eq_ok ok
    obtain rfl : result :: rest = results := Except.ok.inj ok
    exact .cons (sound item result read) (ih readRest)

theorem mapM_ok {f : β → Except ε γ} {write : α → β} {result : α → γ} {xs : List α}
    (reads : ∀ x ∈ xs, f (write x) = .ok (result x)) :
    (xs.map write).mapM f = .ok (xs.map result) := by
  induction xs with
  | nil => rfl
  | cons x xs ih =>
    rw [List.map_cons, List.mapM_cons, reads x (by simp),
      ih fun later mem => reads later (by simp [mem])]
    rfl

end Python.Raising
