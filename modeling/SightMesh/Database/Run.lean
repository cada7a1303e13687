import Mathlib.Data.List.Basic

/-! Runs of operations on one state: what holds in every state of a run, and what any stretch of
it keeps. -/
namespace Database

variable {σ ο : Type*} {exec : σ → ο → σ} {s : σ} {ops : List ο}

def play (exec : σ → ο → σ) (s : σ) (ops : List ο) : σ := ops.foldl exec s

@[simp] theorem play_nil : play exec s [] = s := rfl

@[simp] theorem play_cons (op : ο) : play exec s (op :: ops) = play exec (exec s op) ops := rfl

@[simp] theorem play_append (later : List ο) :
    play exec s (ops ++ later) = play exec (play exec s ops) later :=
  List.foldl_append

/-- Every operation meets a condition in the state it finds. -/
def Passes (exec : σ → ο → σ) (ok : σ → ο → Prop) : σ → List ο → Prop
  | _, [] => True
  | s, op :: ops => ok s op ∧ Passes exec ok (exec s op) ops

instance Passes.decide {ok : σ → ο → Prop} [∀ s op, Decidable (ok s op)] :
    (s : σ) → (ops : List ο) → Decidable (Passes exec ok s ops)
  | _, [] => .isTrue trivial
  | s, op :: ops => @instDecidableAnd _ _ _ (Passes.decide (exec s op) ops)

theorem passes_of_forall {ok : σ → ο → Prop} (all : ∀ s op, ok s op) (s : σ) (ops : List ο) :
    Passes exec ok s ops := by
  induction ops generalizing s with
  | nil => trivial
  | cons op ops ih => exact ⟨all s op, ih (exec s op)⟩

theorem passes_append {ok : σ → ο → Prop} {later : List ο} :
    Passes exec ok s (ops ++ later) ↔
      Passes exec ok s ops ∧ Passes exec ok (play exec s ops) later := by
  induction ops generalizing s with
  | nil => simp [Passes]
  | cons op ops ih => simp [Passes, ih, and_assoc]

/-- Every state the run comes through, the first and the last included. -/
def Throughout (exec : σ → ο → σ) (P : σ → Prop) (s : σ) (ops : List ο) : Prop :=
  ∀ before after, ops = before ++ after → P (play exec s before)

/-- Any two states the run comes through, in their order. -/
def KeptBy (exec : σ → ο → σ) (R : σ → σ → Prop) (s : σ) (ops : List ο) : Prop :=
  ∀ before stretch after, ops = before ++ stretch ++ after →
    R (play exec s before) (play exec s (before ++ stretch))

/-- What an operation keeps that meets its condition, a run keeps. -/
theorem play_invariant {ok : σ → ο → Prop} {P : σ → Prop} (start : P s)
    (step : ∀ s op, P s → ok s op → P (exec s op)) (passes : Passes exec ok s ops) :
    P (play exec s ops) := by
  induction ops generalizing s with
  | nil => exact start
  | cons op ops ih => exact ih (step s op start passes.1) passes.2

/-- What an operation is that finds a state with an invariant, it is all along a run. -/
theorem Passes.under {ok ok' : σ → ο → Prop} {P : σ → Prop} (passes : Passes exec ok s ops)
    (start : P s) (step : ∀ s op, P s → ok s op → P (exec s op) ∧ ok' s op) :
    Passes exec ok' s ops := by
  induction ops generalizing s with
  | nil => trivial
  | cons op ops ih =>
    obtain ⟨next, known⟩ := step s op start passes.1
    exact ⟨known, ih passes.2 next⟩

theorem throughout_of_step {ok : σ → ο → Prop} {P : σ → Prop} (start : P s)
    (step : ∀ s op, P s → ok s op → P (exec s op)) (passes : Passes exec ok s ops) :
    Throughout exec P s ops := by
  rintro before after rfl
  exact play_invariant start step (passes_append.mp passes).1

theorem Throughout.cons {P : σ → Prop} {op : ο} (h : Throughout exec P s (op :: ops)) :
    P s ∧ Throughout exec P (exec s op) ops := by
  constructor
  · exact h [] (op :: ops) rfl
  · rintro before after rfl
    exact h (op :: before) after rfl

/-- Where a condition fails, an operation leaves a state that betrays it. -/
theorem Throughout.passes {ok : σ → ο → Prop} {P : σ → Prop} (h : Throughout exec P s ops)
    (betrays : ∀ s op, P s → P (exec s op) → ok s op) : Passes exec ok s ops := by
  induction ops generalizing s with
  | nil => trivial
  | cons op ops ih =>
    obtain ⟨here, rest⟩ := h.cons
    exact ⟨betrays s op here (rest [] ops rfl), ih rest⟩

theorem play_related {R : σ → σ → Prop} (refl : ∀ s, R s s) (trans : ∀ a b c, R a b → R b c → R a c)
    (passes : Passes exec (fun s op => R s (exec s op)) s ops) : R s (play exec s ops) := by
  induction ops generalizing s with
  | nil => exact refl s
  | cons op ops ih => exact trans _ _ _ passes.1 (ih passes.2)

/-- A run keeps a preorder if and only if each of its operations does. -/
theorem keptBy_iff {R : σ → σ → Prop} (refl : ∀ s, R s s) (trans : ∀ a b c, R a b → R b c → R a c) :
    KeptBy exec R s ops ↔ Passes exec (fun s op => R s (exec s op)) s ops := by
  constructor
  · intro kept
    induction ops generalizing s with
    | nil => trivial
    | cons op ops ih =>
      constructor
      · exact kept [] [op] ops rfl
      · apply ih
        rintro before stretch after rfl
        exact kept (op :: before) stretch after (by simp)
  · rintro passes before stretch after rfl
    rw [passes_append, passes_append] at passes
    rw [play_append]
    exact play_related refl trans passes.1.2

end Database
