import Mathlib.Algebra.BigOperators.Group.List.Basic
import Mathlib.Algebra.Ring.Nat
import Mathlib.Data.Nat.Cast.Basic
import Mathlib.Data.List.Basic
import Mathlib.Tactic.Common

/-! A stream cut into lines, with a bound on what is held between two line ends. The machine takes
one symbol at a time, so it cannot tell how the stream was cut into chunks. -/
namespace Framing

variable {α : Type}

structure Rule (α : Type) where
  mark : α
  weight : α → ℕ
  bound : ℕ

/-- What is kept of the line that has not ended: all of it, or nothing once it was too large. -/
inductive Held (α : Type) where
  | pending (items : List α)
  | skipping
  deriving DecidableEq

def Held.unfinished : Held α → Bool
  | .pending items => !items.isEmpty
  | .skipping => true

/-- A line without its mark, or the news that one is too large. -/
inductive Piece (α : Type) where
  | line (items : List α)
  | oversize
  deriving DecidableEq

def Rule.size (rule : Rule α) (items : List α) : ℕ := (items.map rule.weight).sum

@[simp] theorem Rule.size_nil (rule : Rule α) : rule.size [] = 0 := rfl

@[simp] theorem Rule.size_cons (rule : Rule α) (x : α) (xs : List α) :
    rule.size (x :: xs) = rule.weight x + rule.size xs := by
  simp [Rule.size]

@[simp] theorem Rule.size_append (rule : Rule α) (xs ys : List α) :
    rule.size (xs ++ ys) = rule.size xs + rule.size ys := by
  simp [Rule.size]

variable [DecidableEq α]

def Rule.skip (rule : Rule α) (x : α) : Held α := if x = rule.mark then .pending [] else .skipping

def Rule.step (rule : Rule α) : Held α → α → Held α × List (Piece α)
  | .skipping, x => (rule.skip x, [])
  | .pending items, x =>
    if rule.bound < rule.size items + rule.weight x then (rule.skip x, [.oversize])
    else if x = rule.mark then (.pending [], [.line items])
    else (.pending (items ++ [x]), [])

def Rule.run (rule : Rule α) (held : Held α) : List α → Held α × List (Piece α)
  | [] => (held, [])
  | x :: xs =>
    let now := rule.step held x
    let later := rule.run now.1 xs
    (later.1, now.2 ++ later.2)

variable (rule : Rule α)

/-- A chunk and then another is both as one chunk. -/
theorem Rule.run_append (held : Held α) (xs ys : List α) :
    rule.run held (xs ++ ys) =
      ((rule.run (rule.run held xs).1 ys).1,
        (rule.run held xs).2 ++ (rule.run (rule.run held xs).1 ys).2) := by
  induction xs generalizing held with
  | nil => rfl
  | cons x xs ih => simp only [List.cons_append, Rule.run, ih, List.append_assoc]

/-- A consumer of the pieces, beside the machine. -/
def Rule.feed {σ : Type} (rule : Rule α) (act : σ → Piece α → σ) (now : σ × Held α)
    (chunk : List α) : σ × Held α :=
  ((rule.run now.2 chunk).2.foldl act now.1, (rule.run now.2 chunk).1)

section
variable {σ : Type} (act : σ → Piece α → σ) (now : σ × Held α)

@[simp] theorem Rule.feed_nil : rule.feed act now [] = now := rfl

theorem Rule.feed_append (chunk chunk' : List α) :
    rule.feed act now (chunk ++ chunk') = rule.feed act (rule.feed act now chunk) chunk' := by
  simp only [Rule.feed, Rule.run_append, List.foldl_append]

end

theorem Rule.run_skipping {xs : List α} (unmarked : rule.mark ∉ xs) :
    rule.run .skipping xs = (.skipping, []) := by
  induction xs with
  | nil => rfl
  | cons x xs ih =>
    rw [List.mem_cons, not_or] at unmarked
    have stays : rule.skip x = .skipping := if_neg (Ne.symm unmarked.1)
    simp only [Rule.run, Rule.step, stays, ih unmarked.2, List.nil_append]

/-- What fits goes on the line. -/
theorem Rule.run_fits (items : List α) {xs : List α} (unmarked : rule.mark ∉ xs)
    (fits : rule.size items + rule.size xs ≤ rule.bound) :
    rule.run (.pending items) xs = (.pending (items ++ xs), []) := by
  induction xs generalizing items with
  | nil => simp [Rule.run]
  | cons x xs ih =>
    rw [List.mem_cons, not_or] at unmarked
    rw [Rule.size_cons] at fits
    have within : ¬ rule.bound < rule.size items + rule.weight x := by omega
    have rest : rule.size (items ++ [x]) + rule.size xs ≤ rule.bound := by
      rw [Rule.size_append, Rule.size_cons, Rule.size_nil]
      omega
    simp only [Rule.run, Rule.step, if_neg within, if_neg (Ne.symm unmarked.1), ih (items ++ [x]) unmarked.2 rest,
      List.append_assoc, List.singleton_append, List.nil_append]

/-- What does not fit is told once, and the rest of the line is skipped. -/
theorem Rule.run_exceeds {items xs : List α} (unmarked : rule.mark ∉ xs)
    (held : rule.size items ≤ rule.bound)
    (exceeds : rule.bound < rule.size items + rule.size xs) :
    rule.run (.pending items) xs = (.skipping, [.oversize]) := by
  induction xs generalizing items with
  | nil =>
    rw [Rule.size_nil] at exceeds
    omega
  | cons x xs ih =>
    rw [List.mem_cons, not_or] at unmarked
    rw [Rule.size_cons] at exceeds
    by_cases exceeded : rule.bound < rule.size items + rule.weight x
    · have stays : rule.skip x = .skipping := if_neg (Ne.symm unmarked.1)
      simp only [Rule.run, Rule.step, if_pos exceeded, stays, rule.run_skipping unmarked.2,
        List.append_nil]
    · have size : rule.size (items ++ [x]) = rule.size items + rule.weight x := by simp
      have more := @ih (items ++ [x]) unmarked.2 (by omega) (by omega)
      simp only [Rule.run, Rule.step, if_neg exceeded, if_neg (Ne.symm unmarked.1), more,
        List.nil_append]

theorem Rule.run_mark_skipping : rule.run .skipping [rule.mark] = (.pending [], []) := by
  simp only [Rule.run, Rule.step, Rule.skip, if_true, List.append_nil]

theorem Rule.run_mark {items : List α}
    (fits : rule.size items + rule.weight rule.mark ≤ rule.bound) :
    rule.run (.pending items) [rule.mark] = (.pending [], [.line items]) := by
  simp only [Rule.run, Rule.step, if_neg (Nat.not_lt.mpr fits), if_true, List.append_nil]

theorem Rule.run_mark_exceeds {items : List α}
    (exceeds : rule.bound < rule.size items + rule.weight rule.mark) :
    rule.run (.pending items) [rule.mark] = (.pending [], [.oversize]) := by
  simp only [Rule.run, Rule.step, Rule.skip, if_pos exceeds, if_true, List.append_nil]

/-! ## What the lines are -/

/-- The lines of a stream that goes on from a line begun, and what follows the last mark. -/
def cut (mark : α) (begun : List α) : List α → List (List α) × List α
  | [] => ([], begun)
  | x :: xs =>
    if x = mark then (begun :: (cut mark [] xs).1, (cut mark [] xs).2)
    else cut mark (begun ++ [x]) xs

def Rule.Within (begun xs : List α) : Prop :=
  (∀ line ∈ (cut rule.mark begun xs).1, rule.size line + rule.weight rule.mark ≤ rule.bound) ∧
    rule.size (cut rule.mark begun xs).2 ≤ rule.bound

/-- The line begun is within a line or within the rest. -/
theorem Rule.size_begun_le {begun xs : List α} (within : rule.Within begun xs) :
    rule.size begun ≤ rule.bound := by
  induction xs generalizing begun with
  | nil => exact within.2
  | cons x xs ih =>
    by_cases ends : x = rule.mark
    · rw [Rule.Within, cut, if_pos ends, List.forall_mem_cons] at within
      exact Nat.le_trans (Nat.le_add_right _ _) within.1.1
    · rw [Rule.Within, cut, if_neg ends] at within
      have longer := ih within
      rw [Rule.size_append] at longer
      exact Nat.le_trans (Nat.le_add_right _ _) longer

/-- Where all fit, the machine answers the lines and holds the rest. -/
theorem Rule.run_of_within {begun xs : List α} (within : rule.Within begun xs) :
    rule.run (.pending begun) xs =
      (.pending (cut rule.mark begun xs).2, (cut rule.mark begun xs).1.map .line) := by
  induction xs generalizing begun with
  | nil => rfl
  | cons x xs ih =>
    by_cases ends : x = rule.mark
    · rw [Rule.Within, cut, if_pos ends, List.forall_mem_cons] at within
      have fits : ¬ rule.bound < rule.size begun + rule.weight x := by
        rw [ends]
        exact Nat.not_lt.mpr within.1.1
      have rest := @ih [] ⟨within.1.2, within.2⟩
      rw [cut, if_pos ends]
      simp only [Rule.run, Rule.step, if_neg fits, if_pos ends, rest, List.map_cons,
        List.singleton_append]
    · rw [Rule.Within, cut, if_neg ends] at within
      rw [cut, if_neg ends]
      have rest := ih within
      by_cases fits : rule.bound < rule.size begun + rule.weight x
      · have held := rule.size_begun_le within
        rw [Rule.size_append, Rule.size_cons, Rule.size_nil] at held
        omega
      · simp only [Rule.run, Rule.step, if_neg fits, if_neg ends, rest, List.nil_append]

/-- Where one does not fit, the machine says so. -/
theorem Rule.oversize_of_not_within {begun xs : List α} (held : rule.size begun ≤ rule.bound)
    (exceeded : ¬ rule.Within begun xs) : Piece.oversize ∈ (rule.run (.pending begun) xs).2 := by
  induction xs generalizing begun with
  | nil => exact absurd ⟨(fun _ mem => nomatch mem), held⟩ exceeded
  | cons x xs ih =>
    rw [Rule.run, Rule.step]
    by_cases fits : rule.bound < rule.size begun + rule.weight x
    · simp [if_pos fits]
    · rw [if_neg fits]
      apply List.mem_append_right
      by_cases ends : x = rule.mark
      · rw [if_pos ends]
        apply ih (Nat.zero_le _)
        intro rest
        rw [Rule.Within, cut, if_pos ends, List.forall_mem_cons] at exceeded
        rw [ends] at fits
        exact exceeded ⟨⟨Nat.not_lt.mp fits, rest.1⟩, rest.2⟩
      · rw [if_neg ends]
        have size : rule.size (begun ++ [x]) = rule.size begun + rule.weight x := by simp
        apply ih (by omega)
        rwa [Rule.Within, cut, if_neg ends] at exceeded

end Framing
