import Mathlib.Data.List.Basic
import Mathlib.Control.Monad.Basic

/-! Transaction bodies: programs over one state that may raise, and what a run of one that
committed says about its parts. -/
namespace Database

variable {ε σ α β : Type}

@[simp] theorem pure_run (a : α) (s : σ) : (pure a : StateT σ (Except ε) α) s = .ok (a, s) := rfl

@[simp] theorem throw_run (e : ε) (s : σ) :
    (throw e : StateT σ (Except ε) α) s = .error e := rfl

@[simp] theorem get_run (s : σ) : (get : StateT σ (Except ε) σ) s = .ok (s, s) := rfl

@[simp] theorem set_run (s next : σ) :
    (set next : StateT σ (Except ε) PUnit) s = .ok (⟨⟩, next) := rfl

@[simp] theorem modify_run (f : σ → σ) (s : σ) :
    (modify f : StateT σ (Except ε) PUnit) s = .ok (⟨⟩, f s) := rfl

theorem bind_ok {x : StateT σ (Except ε) α} {f : α → StateT σ (Except ε) β} {s : σ}
    {r : β × σ} : (x >>= f) s = .ok r ↔ ∃ a s', x s = .ok (a, s') ∧ f a s' = .ok r := by
  cases ran : x s with
  | error e => simp [bind, StateT.bind, Except.bind, ran]
  | ok p => cases p; simp [bind, StateT.bind, Except.bind, ran]

@[simp] theorem get_bind_run (f : σ → StateT σ (Except ε) β) (s : σ) :
    ((get : StateT σ (Except ε) σ) >>= f) s = f s s := rfl

@[simp] theorem pure_bind_run (a : α) (f : α → StateT σ (Except ε) β) (s : σ) :
    ((pure a : StateT σ (Except ε) α) >>= f) s = f a s := rfl

@[simp] theorem throw_bind_run (e : ε) (f : α → StateT σ (Except ε) β) (s : σ) :
    ((throw e : StateT σ (Except ε) α) >>= f) s = .error e := rfl

@[simp] theorem modify_bind_run (g : σ → σ) (f : PUnit → StateT σ (Except ε) β) (s : σ) :
    ((modify g : StateT σ (Except ε) PUnit) >>= f) s = f ⟨⟩ (g s) := rfl

theorem bind_after {x : StateT σ (Except ε) α} {s s' : σ} {a : α} (ran : x s = .ok (a, s'))
    (f : α → StateT σ (Except ε) β) : (x >>= f) s = f a s' := by
  simp [bind, StateT.bind, Except.bind, ran]

theorem bind_raised {x : StateT σ (Except ε) α} {s : σ} {e : ε} (ran : x s = .error e)
    (f : α → StateT σ (Except ε) β) : (x >>= f) s = .error e := by
  simp [bind, StateT.bind, Except.bind, ran]

/-- A loop whose rounds do not disturb what the later ones are checked for goes through if and only
if every element passes at the start. -/
theorem loop_run {f : α → StateT σ (Except ε) β} {accepts : σ → α → Bool} {next : σ → α → σ}
    (round : ∀ x s, accepts s x = true ∧ (∃ b, f x s = .ok (b, next s x)) ∨
      accepts s x = false ∧ ∃ e, f x s = .error e) {xs : List α}
    (apart : xs.Pairwise fun x y => ∀ s, accepts s x = true →
      accepts (next s x) y = accepts s y) (s : σ) :
    xs.all (accepts s) = true ∧ (∃ bs, xs.mapM f s = .ok (bs, xs.foldl next s)) ∨
      xs.all (accepts s) = false ∧ ∃ e, xs.mapM f s = .error e := by
  induction xs generalizing s with
  | nil => exact .inl ⟨rfl, [], rfl⟩
  | cons x xs ih =>
    rw [List.mapM_cons, List.all_cons]
    rw [List.pairwise_cons] at apart
    obtain ⟨accepted, b, ran⟩ | ⟨refused, e, ran⟩ := round x s
    · have same : xs.all (accepts (next s x)) = xs.all (accepts s) := by
        rw [Bool.eq_iff_iff, List.all_eq_true, List.all_eq_true]
        apply forall₂_congr
        intro y listed
        rw [apart.1 y listed s accepted]
      rw [bind_after ran, accepted, Bool.true_and, ← same]
      obtain ⟨all, bs, ran⟩ | ⟨some_, e, ran⟩ := ih apart.2 (next s x)
      · left
        rw [bind_after ran]
        exact ⟨all, _, rfl⟩
      · right
        exact ⟨some_, e, bind_raised ran _⟩
    · right
      rw [refused, Bool.false_and]
      exact ⟨rfl, e, bind_raised ran _⟩

/-- What such a loop answers: for each element what its own round would have answered at the
start. -/
theorem loop_ok {f : α → StateT σ (Except ε) β} {accepts : σ → α → Bool} {answer : σ → α → β}
    {next : σ → α → σ} (round : ∀ x s, accepts s x = true → f x s = .ok (answer s x, next s x))
    {xs : List α} (apart : xs.Pairwise fun x y => ∀ s, accepts s x = true →
      accepts (next s x) y = accepts s y ∧ answer (next s x) y = answer s y) {s : σ}
    (accepted : ∀ x ∈ xs, accepts s x = true) :
    xs.mapM f s = .ok (xs.map (answer s), xs.foldl next s) := by
  induction xs generalizing s with
  | nil => rfl
  | cons x xs ih =>
    rw [List.forall_mem_cons] at accepted
    rw [List.pairwise_cons] at apart
    have rest : xs.mapM f (next s x) = .ok (xs.map (answer (next s x)), xs.foldl next (next s x)) := by
      apply ih apart.2
      intro y listed
      rw [(apart.1 y listed s accepted.1).1]
      exact accepted.2 y listed
    have answers : xs.map (answer (next s x)) = xs.map (answer s) := by
      apply List.map_congr_left
      intro y listed
      exact (apart.1 y listed s accepted.1).2
    rw [List.mapM_cons, bind_after (round x s accepted.1), bind_after rest, answers]
    rfl

/-- Every run that commits moves the state along `R`. -/
def Moves (R : σ → σ → Prop) (x : StateT σ (Except ε) α) : Prop :=
  ∀ s a s', x s = .ok (a, s') → R s s'

theorem Moves.bind {R : σ → σ → Prop} (trans : ∀ a b c, R a b → R b c → R a c)
    {x : StateT σ (Except ε) α} {f : α → StateT σ (Except ε) β} (first : Moves R x)
    (rest : ∀ a, Moves R (f a)) : Moves R (x >>= f) := by
  intro s b s'' ran
  obtain ⟨a, s', ran, continued⟩ := bind_ok.mp ran
  exact trans _ _ _ (first _ _ _ ran) (rest a _ _ _ continued)

theorem Moves.mapM {R : σ → σ → Prop} (refl : ∀ s, R s s)
    (trans : ∀ a b c, R a b → R b c → R a c) {f : α → StateT σ (Except ε) β} {xs : List α}
    (round : ∀ x ∈ xs, Moves R (f x)) : Moves R (xs.mapM f) := by
  induction xs with
  | nil =>
    intro s a s' ran
    rw [List.mapM_nil] at ran
    cases ran
    exact refl s
  | cons x xs ih =>
    rw [List.mapM_cons]
    apply Moves.bind trans (round x List.mem_cons_self)
    intro y
    apply Moves.bind trans (ih fun z mem => round z (List.mem_cons_of_mem x mem))
    intro ys s a s' ran
    cases ran
    exact refl s

/-- Every error of the body satisfies `P`. -/
def Raises (P : ε → Prop) (x : StateT σ (Except ε) α) : Prop :=
  ∀ s e, x s = .error e → P e

variable {P : ε → Prop}

theorem Raises.pure (a : α) : Raises P (pure a : StateT σ (Except ε) α) :=
  fun _ _ raised => nomatch raised

theorem Raises.throw {e : ε} (allowed : P e) : Raises P (throw e : StateT σ (Except ε) α) := by
  intro s e' raised
  cases raised
  exact allowed

theorem Raises.modify (f : σ → σ) : Raises P (modify f : StateT σ (Except ε) PUnit) :=
  fun _ _ raised => nomatch raised

theorem Raises.set (next : σ) : Raises P (set next : StateT σ (Except ε) PUnit) :=
  fun _ _ raised => nomatch raised

theorem Raises.get : Raises P (get : StateT σ (Except ε) σ) := fun _ _ raised => nomatch raised

theorem Raises.bind {x : StateT σ (Except ε) α} {f : α → StateT σ (Except ε) β}
    (first : Raises P x) (rest : ∀ a, Raises P (f a)) : Raises P (x >>= f) := by
  intro s e raised
  cases ran : x s with
  | error e' =>
    rw [bind_raised ran] at raised
    cases raised
    exact first s _ ran
  | ok p =>
    obtain ⟨a, s'⟩ := p
    rw [bind_after ran] at raised
    exact rest a s' e raised

theorem Raises.mapM {f : α → StateT σ (Except ε) β} {xs : List α} (round : ∀ x, Raises P (f x)) :
    Raises P (xs.mapM f) := by
  induction xs with
  | nil => exact Raises.pure _
  | cons x xs ih =>
    rw [List.mapM_cons]
    exact (round x).bind fun _ => ih.bind fun _ => Raises.pure _

end Database
