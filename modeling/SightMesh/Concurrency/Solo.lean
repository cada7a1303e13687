import SightMesh.Concurrency.Pool

/-! A program while nothing else runs: how it ends from one state of the store and the
environment, and how its parts end. -/
namespace Concurrency

open Prog

variable {ε : Type} {T Q : Type → Type 1} {κ σ γ α β : Type} {S : System ε T Q κ σ γ}
  {ok : Shared T Q σ γ → Event T Q → Prop}

/-- Run alone from `s`, the program may end with `r` in `s'`, by events that `ok` lets pass. No lock
is ever taken by another. -/
def Prog.Ends (S : System ε T Q κ σ γ) (ok : Shared T Q σ γ → Event T Q → Prop) :
    Prog ε T Q κ α → Shared T Q σ γ → Except ε α → Shared T Q σ γ → Prop
  | .ret a, s, r, s' => r = .ok a ∧ s' = s
  | .fail e, s, r, s' => r = .error e ∧ s' = s
  | .commit tx k, s, r, s' =>
    ok s (.commit tx (S.exec tx s.store).2) ∧ (k (S.exec tx s.store).2).Ends S ok (s.commit S tx) r s'
  | .call q k, s, r, s' =>
    ∃ b env, S.answer s.env q b env ∧ ok s (.call q b) ∧ (k b).Ends S ok (s.call q b env) r s'
  | .lock _ k, s, r, s' => k.Ends S ok s r s'
  | .unlock _ k, s, r, s' => k.Ends S ok s r s'

namespace Prog

variable {s s' : Shared T Q σ γ}

@[simp] theorem ends_ret {a : α} {r : Except ε α} :
    (ret a : Prog ε T Q κ α).Ends S ok s r s' ↔ r = .ok a ∧ s' = s := Iff.rfl

@[simp] theorem ends_fail {e : ε} {r : Except ε α} :
    (fail e : Prog ε T Q κ α).Ends S ok s r s' ↔ r = .error e ∧ s' = s := Iff.rfl

theorem ends_bind {p : Prog ε T Q κ α} {f : α → Prog ε T Q κ β} {r : Except ε β} :
    (p.bind f).Ends S ok s r s' ↔
      (∃ a mid, p.Ends S ok s (.ok a) mid ∧ (f a).Ends S ok mid r s') ∨
        ∃ e, p.Ends S ok s (.error e) s' ∧ r = .error e := by
  induction p generalizing s with
  | ret a =>
    constructor
    · exact fun rest => .inl ⟨a, s, ⟨rfl, rfl⟩, rest⟩
    · rintro (⟨a', mid, ⟨same, rfl⟩, rest⟩ | ⟨e, ⟨same, _⟩, _⟩)
      · cases same
        exact rest
      · exact nomatch same
  | fail e =>
    constructor
    · rintro ⟨rfl, rfl⟩
      exact .inr ⟨e, ⟨rfl, rfl⟩, rfl⟩
    · rintro (⟨a, mid, ⟨same, _⟩, _⟩ | ⟨e', ⟨same, rfl⟩, rfl⟩)
      · exact nomatch same
      · cases same
        exact ⟨rfl, rfl⟩
  | commit tx k ih =>
    constructor
    · rintro ⟨allowed, rest⟩
      rcases (ih _).mp rest with ⟨a, mid, first, rest⟩ | ⟨e, first, rfl⟩
      · exact .inl ⟨a, mid, ⟨allowed, first⟩, rest⟩
      · exact .inr ⟨e, ⟨allowed, first⟩, rfl⟩
    · rintro (⟨a, mid, ⟨allowed, first⟩, rest⟩ | ⟨e, ⟨allowed, first⟩, rfl⟩)
      · exact ⟨allowed, (ih _).mpr (.inl ⟨a, mid, first, rest⟩)⟩
      · exact ⟨allowed, (ih _).mpr (.inr ⟨e, first, rfl⟩)⟩
  | call q k ih =>
    constructor
    · rintro ⟨b, env, answered, allowed, rest⟩
      rcases (ih b).mp rest with ⟨a, mid, first, rest⟩ | ⟨e, first, rfl⟩
      · exact .inl ⟨a, mid, ⟨b, env, answered, allowed, first⟩, rest⟩
      · exact .inr ⟨e, ⟨b, env, answered, allowed, first⟩, rfl⟩
    · rintro (⟨a, mid, ⟨b, env, answered, allowed, first⟩, rest⟩ |
        ⟨e, ⟨b, env, answered, allowed, first⟩, rfl⟩)
      · exact ⟨b, env, answered, allowed, (ih b).mpr (.inl ⟨a, mid, first, rest⟩)⟩
      · exact ⟨b, env, answered, allowed, (ih b).mpr (.inr ⟨e, first, rfl⟩)⟩
  | lock l k ih => exact ih
  | unlock l k ih => exact ih

theorem ends_handle {p : Prog ε T Q κ α} {h : ε → Prog ε T Q κ α} {r : Except ε α} :
    (p.handle h).Ends S ok s r s' ↔
      (∃ a, p.Ends S ok s (.ok a) s' ∧ r = .ok a) ∨
        ∃ e mid, p.Ends S ok s (.error e) mid ∧ (h e).Ends S ok mid r s' := by
  induction p generalizing s with
  | ret a =>
    constructor
    · rintro ⟨rfl, rfl⟩
      exact .inl ⟨a, ⟨rfl, rfl⟩, rfl⟩
    · rintro (⟨a', ⟨same, rfl⟩, rfl⟩ | ⟨e, mid, ⟨same, _⟩, _⟩)
      · cases same
        exact ⟨rfl, rfl⟩
      · exact nomatch same
  | fail e =>
    constructor
    · exact fun rest => .inr ⟨e, s, ⟨rfl, rfl⟩, rest⟩
    · rintro (⟨a, ⟨same, _⟩, _⟩ | ⟨e', mid, ⟨same, rfl⟩, rest⟩)
      · exact nomatch same
      · cases same
        exact rest
  | commit tx k ih =>
    constructor
    · rintro ⟨allowed, rest⟩
      rcases (ih _).mp rest with ⟨a, first, rfl⟩ | ⟨e, mid, first, rest⟩
      · exact .inl ⟨a, ⟨allowed, first⟩, rfl⟩
      · exact .inr ⟨e, mid, ⟨allowed, first⟩, rest⟩
    · rintro (⟨a, ⟨allowed, first⟩, rfl⟩ | ⟨e, mid, ⟨allowed, first⟩, rest⟩)
      · exact ⟨allowed, (ih _).mpr (.inl ⟨a, first, rfl⟩)⟩
      · exact ⟨allowed, (ih _).mpr (.inr ⟨e, mid, first, rest⟩)⟩
  | call q k ih =>
    constructor
    · rintro ⟨b, env, answered, allowed, rest⟩
      rcases (ih b).mp rest with ⟨a, first, rfl⟩ | ⟨e, mid, first, rest⟩
      · exact .inl ⟨a, ⟨b, env, answered, allowed, first⟩, rfl⟩
      · exact .inr ⟨e, mid, ⟨b, env, answered, allowed, first⟩, rest⟩
    · rintro (⟨a, ⟨b, env, answered, allowed, first⟩, rfl⟩ |
        ⟨e, mid, ⟨b, env, answered, allowed, first⟩, rest⟩)
      · exact ⟨b, env, answered, allowed, (ih b).mpr (.inl ⟨a, first, rfl⟩)⟩
      · exact ⟨b, env, answered, allowed, (ih b).mpr (.inr ⟨e, mid, first, rest⟩)⟩
  | lock l k ih => exact ih
  | unlock l k ih => exact ih

/-- Alone, nothing can be seen of the lock an outer bracket takes or opens. -/
theorem ends_finally {p : Prog ε T Q κ α} {after : Prog ε T Q κ Unit} {r : Except ε α}
    (silent : ∀ {m m' : Shared T Q σ γ} {u : Except ε Unit},
      after.Ends S ok m u m' ↔ u = .ok () ∧ m' = m) :
    (p.finally' after).Ends S ok s r s' ↔ p.Ends S ok s r s' := by
  induction p generalizing s with
  | ret a =>
    simp only [finally', ends_bind, silent, ends_ret]
    simp
  | fail e =>
    simp only [finally', ends_bind, silent, ends_fail]
    simp
  | commit tx k ih => exact and_congr Iff.rfl (ih _)
  | call q k ih =>
    exact exists_congr fun b => exists_congr fun env =>
      and_congr Iff.rfl (and_congr Iff.rfl (ih b))
  | lock l k ih => exact ih
  | unlock l k ih => exact ih

@[simp] theorem ends_withLock {l : κ} {p : Prog ε T Q κ α} {r : Except ε α} :
    (withLock l p).Ends S ok s r s' ↔ p.Ends S ok s r s' :=
  ends_finally (by intro m m' u; exact Iff.rfl)

@[simp] theorem ends_released {l : κ} {p : Prog ε T Q κ α} {r : Except ε α} :
    (released l p).Ends S ok s r s' ↔ p.Ends S ok s r s' :=
  ends_finally (by intro m m' u; exact Iff.rfl)

theorem ends_commit' {tx : T β} {r : Except ε β} :
    (commit' tx : Prog ε T Q κ β).Ends S ok s r s' ↔
      ok s (.commit tx (S.exec tx s.store).2) ∧ r = .ok (S.exec tx s.store).2 ∧
        s' = s.commit S tx := Iff.rfl

theorem ends_run {tx : T (Except ε β)} {r : Except ε β} :
    (run tx : Prog ε T Q κ β).Ends S ok s r s' ↔
      ok s (.commit tx (S.exec tx s.store).2) ∧ r = (S.exec tx s.store).2 ∧
        s' = s.commit S tx := by
  unfold run
  rw [Ends]
  cases (S.exec tx s.store).2 with
  | ok b => rfl
  | error e => rfl

theorem ends_query {q : Q (Except ε β)} {r : Except ε β} :
    (query q : Prog ε T Q κ β).Ends S ok s r s' ↔
      ∃ env, S.answer s.env q r env ∧ ok s (.call q r) ∧ s' = s.call q r env := by
  unfold query
  rw [Ends]
  constructor
  · rintro ⟨b, env, answered, allowed, rest⟩
    cases b with
    | ok a =>
      obtain ⟨rfl, rfl⟩ := rest
      exact ⟨env, answered, allowed, rfl⟩
    | error e =>
      obtain ⟨rfl, rfl⟩ := rest
      exact ⟨env, answered, allowed, rfl⟩
  · rintro ⟨env, answered, allowed, rfl⟩
    refine ⟨r, env, answered, allowed, ?_⟩
    cases r with
    | ok a => exact ⟨rfl, rfl⟩
    | error e => exact ⟨rfl, rfl⟩

theorem ends_commit_bind {tx : T β} {f : β → Prog ε T Q κ α} {r : Except ε α} :
    ((commit' tx).bind f).Ends S ok s r s' ↔
      ok s (.commit tx (S.exec tx s.store).2) ∧
        (f (S.exec tx s.store).2).Ends S ok (s.commit S tx) r s' := Iff.rfl

theorem ends_ask_bind {q : Q β} {f : β → Prog ε T Q κ α} {r : Except ε α} :
    ((ask q).bind f).Ends S ok s r s' ↔
      ∃ b env, S.answer s.env q b env ∧ ok s (.call q b) ∧
        (f b).Ends S ok (s.call q b env) r s' := Iff.rfl

/-- What is computed from a result changes nothing else. -/
theorem ends_bind_ret {p : Prog ε T Q κ α} {g : α → β} {r : Except ε β} :
    (p.bind fun a => ret (g a)).Ends S ok s r s' ↔
      ∃ result, p.Ends S ok s result s' ∧ r = result.map g := by
  rw [ends_bind]
  constructor
  · rintro (⟨a, mid, first, rfl, rfl⟩ | ⟨e, first, rfl⟩)
    · exact ⟨.ok a, first, rfl⟩
    · exact ⟨.error e, first, rfl⟩
  · rintro ⟨result, first, rfl⟩
    cases result with
    | ok a => exact .inl ⟨a, s', first, rfl, rfl⟩
    | error e => exact .inr ⟨e, first, rfl⟩

theorem Ends.mono {ok' : Shared T Q σ γ → Event T Q → Prop} (weaker : ∀ s e, ok s e → ok' s e)
    {p : Prog ε T Q κ α} {r : Except ε α} (h : p.Ends S ok s r s') : p.Ends S ok' s r s' := by
  induction p generalizing s with
  | ret a => exact h
  | fail e => exact h
  | commit tx k ih => exact ⟨weaker _ _ h.1, ih _ h.2⟩
  | call q k ih =>
    obtain ⟨b, env, answered, allowed, rest⟩ := h
    exact ⟨b, env, answered, weaker _ _ allowed, ih b rest⟩
  | lock l k ih => exact ih h
  | unlock l k ih => exact ih h

/-- What every answer of the environment satisfies holds of the events of a run. -/
theorem Ends.heard {P : Event T Q → Prop} (commit : ∀ {β : Type} (tx : T β) b, P (.commit tx b))
    (call : ∀ {β : Type} {env : γ} {q : Q β} {b : β} {env' : γ}, S.answer env q b env' →
      P (.call q b))
    {p : Prog ε T Q κ α} {r : Except ε α} (h : p.Ends S ok s r s') :
    p.Ends S (fun s e => ok s e ∧ P e) s r s' := by
  induction p generalizing s with
  | ret a => exact h
  | fail e => exact h
  | commit tx k ih => exact ⟨⟨h.1, commit tx _⟩, ih _ h.2⟩
  | call q k ih =>
    obtain ⟨b, env, answered, allowed, rest⟩ := h
    exact ⟨b, env, answered, ⟨allowed, call answered⟩, ih b rest⟩
  | lock l k ih => exact ih h
  | unlock l k ih => exact ih h

theorem Ends.extends {p : Prog ε T Q κ α} {r : Except ε α} (h : p.Ends S ok s r s') :
    ∃ events, s'.trace = events ++ s.trace := by
  induction p generalizing s with
  | ret a => exact ⟨[], by rw [h.2, List.nil_append]⟩
  | fail e => exact ⟨[], by rw [h.2, List.nil_append]⟩
  | commit tx k ih =>
    obtain ⟨events, left⟩ := ih _ h.2
    exact ⟨events ++ [.commit tx _], by rw [left, List.append_assoc]; rfl⟩
  | call q k ih =>
    obtain ⟨b, env, _, _, rest⟩ := h
    obtain ⟨events, left⟩ := ih b rest
    exact ⟨events ++ [.call q b], by rw [left, List.append_assoc]; rfl⟩
  | lock l k ih => exact ih h
  | unlock l k ih => exact ih h

/-- What a run comes to is told by its start and by the events of any longer run. -/
theorem Ends.determined {ok' : Shared T Q σ γ → Event T Q → Prop} {p : Prog ε T Q κ α}
    {r r' : Except ε α} {a b a' b' : Shared T Q σ γ} {trace : List (Event T Q)}
    (first : p.Ends S ok a r a') (second : p.Ends S ok' b r' b') (store : a.store = b.store)
    (events : a.trace = b.trace) (here : a'.trace <:+ trace) (there : b'.trace <:+ trace) :
    r = r' ∧ a'.store = b'.store ∧ a'.trace = b'.trace := by
  induction p generalizing a b with
  | ret v =>
    obtain ⟨rfl, rfl⟩ := first
    obtain ⟨rfl, rfl⟩ := second
    exact ⟨rfl, store, events⟩
  | fail e =>
    obtain ⟨rfl, rfl⟩ := first
    obtain ⟨rfl, rfl⟩ := second
    exact ⟨rfl, store, events⟩
  | commit tx k ih =>
    obtain ⟨_, first⟩ := first
    obtain ⟨_, second⟩ := second
    rw [store] at first
    exact ih _ first second (by simp [Shared.commit, store]) (by simp [Shared.commit, store, events])
  | call q k ih =>
    obtain ⟨v, env, _, _, first⟩ := first
    obtain ⟨v', env', _, _, second⟩ := second
    have same : v = v' := by
      obtain ⟨more, left⟩ := first.extends
      obtain ⟨more', left'⟩ := second.extends
      have suffix : .call q v :: a.trace <:+ trace := by
        apply List.IsSuffix.trans _ here
        rw [left]
        exact List.suffix_append _ _
      have suffix' : .call q v' :: a.trace <:+ trace := by
        apply List.IsSuffix.trans _ there
        rw [left', events]
        exact List.suffix_append _ _
      have equal := (List.suffix_of_suffix_length_le suffix suffix' (by simp)).eq_of_length (by simp)
      cases equal
      rfl
    subst same
    exact ih v first second store (by simp [Shared.call, events])
  | lock l k ih => exact ih first second store events
  | unlock l k ih => exact ih first second store events

/-- The run of a program alone, where an oracle answers its queries. -/
def alone (S : System ε T Q κ σ γ) (oracle : {β : Type} → γ → Q β → β × γ) :
    Prog ε T Q κ α → Shared T Q σ γ → Except ε α × Shared T Q σ γ
  | .ret a, s => (.ok a, s)
  | .fail e, s => (.error e, s)
  | .commit tx k, s => (k (S.exec tx s.store).2).alone S oracle (s.commit S tx)
  | .call q k, s => (k (oracle s.env q).1).alone S oracle (s.call q (oracle s.env q).1 (oracle s.env q).2)
  | .lock _ k, s => k.alone S oracle s
  | .unlock _ k, s => k.alone S oracle s

/-- The run that an oracle computes is one, where its answers are answers of the environment. -/
theorem ends_alone {oracle : {β : Type} → γ → Q β → β × γ}
    (sound : ∀ {β : Type} (e : γ) (q : Q β), S.answer e q (oracle e q).1 (oracle e q).2)
    (p : Prog ε T Q κ α) (s : Shared T Q σ γ) :
    p.Ends S anyEvent s (p.alone S oracle s).1 (p.alone S oracle s).2 := by
  induction p generalizing s with
  | ret a => exact ⟨rfl, rfl⟩
  | fail e => exact ⟨rfl, rfl⟩
  | commit tx k ih => exact ⟨trivial, ih _ _⟩
  | call q k ih => exact ⟨_, _, sound _ _, trivial, ih _ _⟩
  | lock l k ih => exact ih s
  | unlock l k ih => exact ih s

def alonePasses (S : System ε T Q κ σ γ) (oracle : {β : Type} → γ → Q β → β × γ)
    (ok : Shared T Q σ γ → Event T Q → Bool) : Prog ε T Q κ α → Shared T Q σ γ → Bool
  | .ret _, _ => true
  | .fail _, _ => true
  | .commit tx k, s => ok s (.commit tx (S.exec tx s.store).2) &&
    (k (S.exec tx s.store).2).alonePasses S oracle ok (s.commit S tx)
  | .call q k, s => ok s (.call q (oracle s.env q).1) &&
    (k (oracle s.env q).1).alonePasses S oracle ok (s.call q (oracle s.env q).1 (oracle s.env q).2)
  | .lock _ k, s => k.alonePasses S oracle ok s
  | .unlock _ k, s => k.alonePasses S oracle ok s

theorem ends_alone_passing {oracle : {β : Type} → γ → Q β → β × γ}
    (sound : ∀ {β : Type} (e : γ) (q : Q β), S.answer e q (oracle e q).1 (oracle e q).2)
    {ok : Shared T Q σ γ → Event T Q → Bool} {p : Prog ε T Q κ α} {s : Shared T Q σ γ}
    (passes : p.alonePasses S oracle ok s = true) :
    p.Ends S (fun s e => ok s e) s (p.alone S oracle s).1 (p.alone S oracle s).2 := by
  induction p generalizing s with
  | ret a => exact ⟨rfl, rfl⟩
  | fail e => exact ⟨rfl, rfl⟩
  | commit tx k ih =>
    obtain ⟨first, rest⟩ := Bool.and_eq_true_iff.mp passes
    exact ⟨first, ih _ rest⟩
  | call q k ih =>
    obtain ⟨first, rest⟩ := Bool.and_eq_true_iff.mp passes
    exact ⟨_, _, sound _ _, first, ih _ rest⟩
  | lock l k ih => exact ih passes
  | unlock l k ih => exact ih passes

/-- Where the environment answers as the oracle does, there is no other run. -/
theorem Ends.alone {oracle : {β : Type} → γ → Q β → β × γ}
    (told : ∀ {β : Type} (e : γ) (q : Q β) b e', S.answer e q b e' → (b, e') = oracle e q)
    {p : Prog ε T Q κ α} {r : Except ε α} (h : p.Ends S ok s r s') :
    p.alone S oracle s = (r, s') := by
  induction p generalizing s with
  | ret a =>
    obtain ⟨rfl, rfl⟩ := h
    rfl
  | fail e =>
    obtain ⟨rfl, rfl⟩ := h
    rfl
  | commit tx k ih => exact ih _ h.2
  | call q k ih =>
    obtain ⟨b, env, answered, _, rest⟩ := h
    have same := told s.env q b env answered
    rw [Prog.alone, ← same]
    exact ih b rest
  | lock l k ih => exact ih h
  | unlock l k ih => exact ih h

end Prog

/-! ### On the way -/

/-- Run alone from `s`, the program may come to `q` with `s'` still before it. -/
inductive Prog.Comes (S : System ε T Q κ σ γ) (p : Prog ε T Q κ α) (s : Shared T Q σ γ) :
    Prog ε T Q κ α → Shared T Q σ γ → Prop where
  | here : Comes S p s p s
  | commit {β : Type} {tx : T β} {k : β → Prog ε T Q κ α} {mid : Shared T Q σ γ} :
      Comes S p s (.commit tx k) mid → Comes S p s (k (S.exec tx mid.store).2) (mid.commit S tx)
  | call {β : Type} {q : Q β} {k : β → Prog ε T Q κ α} {mid : Shared T Q σ γ} {b : β} {env : γ} :
      Comes S p s (.call q k) mid → S.answer mid.env q b env → Comes S p s (k b) (mid.call q b env)
  | lock {l : κ} {k : Prog ε T Q κ α} {mid : Shared T Q σ γ} :
      Comes S p s (.lock l k) mid → Comes S p s k mid
  | unlock {l : κ} {k : Prog ε T Q κ α} {mid : Shared T Q σ γ} :
      Comes S p s (.unlock l k) mid → Comes S p s k mid

namespace Prog

variable {s s' : Shared T Q σ γ}

theorem Ends.comes {p q : Prog ε T Q κ α} {mid : Shared T Q σ γ} {r : Except ε α}
    (before : p.Comes S s q mid) (h : q.Ends S ok mid r s') :
    (∃ a, r = .ok a ∧ p.Comes S s (.ret a) s') ∨ ∃ e, r = .error e ∧ p.Comes S s (.fail e) s' := by
  induction q generalizing mid with
  | ret a =>
    obtain ⟨rfl, rfl⟩ := h
    exact .inl ⟨a, rfl, before⟩
  | fail e =>
    obtain ⟨rfl, rfl⟩ := h
    exact .inr ⟨e, rfl, before⟩
  | commit tx k ih => exact ih _ before.commit h.2
  | call q k ih =>
    obtain ⟨b, env, answered, _, rest⟩ := h
    exact ih b (before.call answered) rest
  | lock l k ih => exact ih before.lock h
  | unlock l k ih => exact ih before.unlock h

theorem Comes.trans {p q r : Prog ε T Q κ α} {mid : Shared T Q σ γ} (first : p.Comes S s q mid)
    (second : q.Comes S mid r s') : p.Comes S s r s' := by
  induction second with
  | here => exact first
  | commit _ ih => exact ih.commit
  | call _ answered ih => exact ih.call answered
  | lock _ ih => exact ih.lock
  | unlock _ ih => exact ih.unlock

theorem Ends.comes_bind {p : Prog ε T Q κ α} {f : α → Prog ε T Q κ β} {a : α}
    (h : p.Ends S ok s (.ok a) s') : (p.bind f).Comes S s (f a) s' := by
  induction p generalizing s with
  | ret b =>
    obtain ⟨same, rfl⟩ := h
    cases same
    exact .here
  | fail e => exact nomatch h.1
  | commit tx k ih => exact Comes.here.commit.trans (ih _ h.2)
  | call q k ih =>
    obtain ⟨b, env, answered, _, rest⟩ := h
    exact (Comes.here.call answered).trans (ih b rest)
  | lock l k ih => exact Comes.here.lock.trans (ih h)
  | unlock l k ih => exact Comes.here.unlock.trans (ih h)

theorem Comes.of_commit {tx : T β} {k : β → Prog ε T Q κ α} {q : Prog ε T Q κ α}
    (h : (Prog.commit tx k).Comes S s q s') :
    q = .commit tx k ∧ s' = s ∨ (k (S.exec tx s.store).2).Comes S (s.commit S tx) q s' := by
  induction h with
  | here => exact .inl ⟨rfl, rfl⟩
  | commit _ ih =>
    obtain ⟨same, rfl⟩ | after := ih
    · cases same
      exact .inr .here
    · exact .inr after.commit
  | call _ answered ih =>
    obtain ⟨same, rfl⟩ | after := ih
    · exact nomatch same
    · exact .inr (after.call answered)
  | lock _ ih =>
    obtain ⟨same, rfl⟩ | after := ih
    · exact nomatch same
    · exact .inr after.lock
  | unlock _ ih =>
    obtain ⟨same, rfl⟩ | after := ih
    · exact nomatch same
    · exact .inr after.unlock

theorem Comes.of_ret {a : α} {q : Prog ε T Q κ α} (h : (Prog.ret a).Comes S s q s') :
    q = .ret a := by
  induction h with
  | here => rfl
  | commit _ ih => exact nomatch ih
  | call _ _ ih => exact nomatch ih
  | lock _ ih => exact nomatch ih
  | unlock _ ih => exact nomatch ih

end Prog

/-! ### What a run has heard -/

/-- Everything that happened between two states satisfies `P`. -/
def Shared.Heard (P : Event T Q → Prop) (s s' : Shared T Q σ γ) : Prop :=
  ∃ events, s'.trace = events ++ s.trace ∧ ∀ ev ∈ events, P ev

namespace Shared.Heard

variable {P : Event T Q → Prop} {s mid s' : Shared T Q σ γ}

theorem refl (s : Shared T Q σ γ) : s.Heard P s := ⟨[], rfl, by simp⟩

theorem trans (first : s.Heard P mid) (second : mid.Heard P s') : s.Heard P s' := by
  obtain ⟨events, left, all⟩ := first
  obtain ⟨later, right, rest⟩ := second
  refine ⟨later ++ events, by rw [right, left, List.append_assoc], fun ev mem => ?_⟩
  rcases List.mem_append.mp mem with mem | mem
  · exact rest ev mem
  · exact all ev mem

theorem commit {tx : T β} (fine : P (.commit tx (S.exec tx s.store).2)) :
    s.Heard P (s.commit S tx) := ⟨[_], rfl, by simpa⟩

theorem call {q : Q β} {b : β} {env : γ} (fine : P (.call q b)) : s.Heard P (s.call q b env) :=
  ⟨[_], rfl, by simpa⟩

theorem call_iff {q : Q β} {b : β} {env : γ} (before : s.Heard P mid) :
    s.Heard P (mid.call q b env) ↔ P (.call q b) := by
  constructor
  · rintro ⟨all, left, fine⟩
    obtain ⟨events, known, _⟩ := before
    have split : (Event.call q b :: events) ++ s.trace = all ++ s.trace := by
      rw [← left, List.cons_append, ← known]
      rfl
    exact fine _ (by rw [← List.append_cancel_right split]; simp)
  · exact fun fine => before.trans (.call fine)

theorem rest {events later : List (Event T Q)} (first : mid.trace = events ++ s.trace)
    (second : s'.trace = later ++ mid.trace) (heard : s.Heard P s') : mid.Heard P s' := by
  obtain ⟨all, left, fine⟩ := heard
  have split : (later ++ events) ++ s.trace = all ++ s.trace := by
    rw [← left, second, first, List.append_assoc]
  exact ⟨later, second, fun ev mem =>
    fine ev (by rw [← List.append_cancel_right split]; exact List.mem_append_left _ mem)⟩

end Shared.Heard

namespace Prog

/-! ### The transactions of a program -/

/-- Every transaction the program may commit, whatever it is answered, satisfies `P`. -/
def Issues (P : {β : Type} → T β → Prop) : Prog ε T Q κ α → Prop
  | .ret _ => True
  | .fail _ => True
  | .commit tx k => P tx ∧ ∀ b, (k b).Issues P
  | .call _ k => ∀ b, (k b).Issues P
  | .lock _ k => k.Issues P
  | .unlock _ k => k.Issues P

variable {s s' : Shared T Q σ γ} {P : {β : Type} → T β → Prop}

theorem Issues.bind {p : Prog ε T Q κ α} {f : α → Prog ε T Q κ β} (first : p.Issues P)
    (rest : ∀ a, (f a).Issues P) : (p.bind f).Issues P := by
  induction p with
  | ret a => exact rest a
  | fail e => exact trivial
  | commit tx k ih => exact ⟨first.1, fun b => ih b (first.2 b)⟩
  | call q k ih => exact fun b => ih b (first b)
  | lock l k ih => exact ih first
  | unlock l k ih => exact ih first

theorem Issues.handle {p : Prog ε T Q κ α} {h : ε → Prog ε T Q κ α} (body : p.Issues P)
    (handler : ∀ e, (h e).Issues P) : (p.handle h).Issues P := by
  induction p with
  | ret a => exact trivial
  | fail e => exact handler e
  | commit tx k ih => exact ⟨body.1, fun b => ih b (body.2 b)⟩
  | call q k ih => exact fun b => ih b (body b)
  | lock l k ih => exact ih body
  | unlock l k ih => exact ih body

theorem Issues.finally {p : Prog ε T Q κ α} {after : Prog ε T Q κ Unit} (body : p.Issues P)
    (last : after.Issues P) : (p.finally' after).Issues P := by
  induction p with
  | ret a => exact last.bind fun _ => trivial
  | fail e => exact last.bind fun _ => trivial
  | commit tx k ih => exact ⟨body.1, fun b => ih b (body.2 b)⟩
  | call q k ih => exact fun b => ih b (body b)
  | lock l k ih => exact ih body
  | unlock l k ih => exact ih body

theorem Issues.withLock {l : κ} {p : Prog ε T Q κ α} (body : p.Issues P) :
    (withLock l p).Issues P := body.finally trivial

theorem Issues.released {l : κ} {p : Prog ε T Q κ α} (body : p.Issues P) :
    (released l p).Issues P := body.finally trivial

theorem Issues.commit {tx : T β} (allowed : P tx) : (commit' tx : Prog ε T Q κ β).Issues P :=
  ⟨allowed, fun _ => trivial⟩

theorem Issues.ask (q : Q β) : (ask q : Prog ε T Q κ β).Issues P := fun _ => trivial

theorem Issues.run {tx : T (Except ε β)} (allowed : P tx) :
    (run tx : Prog ε T Q κ β).Issues P := by
  refine ⟨allowed, fun b => ?_⟩
  cases b with
  | ok b => exact trivial
  | error e => exact trivial

theorem Issues.query (q : Q (Except ε β)) : (query q : Prog ε T Q κ β).Issues P := by
  intro b
  cases b with
  | ok b => exact trivial
  | error e => exact trivial

theorem Ends.moves {R : σ → σ → Prop} (refl : ∀ db, R db db)
    (trans : ∀ a b c, R a b → R b c → R a c)
    (step : ∀ {β : Type} (tx : T β) db, P tx → R db (S.exec tx db).1)
    {p : Prog ε T Q κ α} (issues : p.Issues P) {r : Except ε α} (h : p.Ends S ok s r s') :
    R s.store s'.store := by
  induction p generalizing s with
  | ret a =>
    rw [h.2]
    exact refl _
  | fail e =>
    rw [h.2]
    exact refl _
  | commit tx k ih => exact trans _ _ _ (step tx s.store issues.1) (ih _ (issues.2 _) h.2)
  | call q k ih =>
    obtain ⟨b, env, _, _, rest⟩ := h
    have later : R (s.call q b env).store s'.store := ih b (issues b) rest
    exact later
  | lock l k ih => exact ih issues h
  | unlock l k ih => exact ih issues h

end Prog

/-! ### Alone in the pool -/

def World.finished (w : World ε T Q κ σ γ) (p : ℕ) : Bool :=
  match w.procs p with
  | some (.ret ()) => true
  | _ => false

theorem World.finished_spec {w : World ε T Q κ σ γ} {p : ℕ} (h : w.finished p) :
    w.procs p = some (.ret ()) := by
  unfold World.finished at h
  split at h
  · rename_i ended
    exact ended
  · exact nomatch h

variable [DecidableEq κ]

theorem World.passes_any {oracle : {β : Type} → γ → Q β → β × γ} (schedule : List Turn)
    (w : World ε T Q κ σ γ) : w.passes S oracle (fun _ _ => true) schedule := by
  induction schedule generalizing w with
  | nil => rfl
  | cons t schedule ih =>
    rw [World.passes, ih, Bool.and_true]
    cases w.event S oracle t with
    | none => rfl
    | some e => rfl

/-- What the steps of one process come to while no other process moves. -/
theorem World.play_ends {oracle : {β : Type} → γ → Q β → β × γ}
    {ok : Shared T Q σ γ → Event T Q → Bool}
    (sound : ∀ {β : Type} (e : γ) (q : Q β), S.answer e q (oracle e q).1 (oracle e q).2)
    {p : ℕ} (n : ℕ) {w : World ε T Q κ σ γ} {P : Prog ε T Q κ Unit} (started : w.procs p = some P)
    (passes : w.passes S oracle ok (List.replicate n (.step p)))
    (ended : (w.play S oracle (List.replicate n (.step p))).finished p) :
    P.Ends S (fun s e => ok s e) w.shared (.ok ())
      (w.play S oracle (List.replicate n (.step p))).shared := by
  induction n generalizing w P with
  | zero =>
    have same : P = .ret () := Option.some.inj (started.symm.trans (World.finished_spec ended))
    rw [same]
    exact ⟨rfl, rfl⟩
  | succ n ih =>
    rw [List.replicate_succ] at passes ended ⊢
    obtain ⟨first, rest⟩ := Bool.and_eq_true_iff.mp passes
    have moved {next : World ε T Q κ σ γ} {k : Prog ε T Q κ Unit}
        (stepped : w.turn S oracle (.step p) = next) (started : next.procs p = some k) :
        k.Ends S (fun s e => ok s e) next.shared (.ok ())
          (w.play S oracle (.step p :: List.replicate n (.step p))).shared := by
      rw [stepped] at rest
      rw [World.play, List.foldl_cons, stepped] at ended ⊢
      exact ih started rest ended
    cases P with
    | ret a => exact moved (by simp [World.turn, started]) started
    | fail e => exact moved (by simp [World.turn, started]) started
    | commit tx k =>
      simp only [World.event, started, Option.all_some] at first
      exact ⟨first, moved (by simp only [World.turn, started]; rfl) (Function.update_self ..)⟩
    | call q k =>
      simp only [World.event, started, Option.all_some] at first
      exact ⟨_, _, sound _ _, first,
        moved (by simp only [World.turn, started]; rfl) (Function.update_self ..)⟩
    | lock l k =>
      by_cases free : w.holder l = none
      · have taken : w.turn S oracle (.step p) =
            { w with holder := Function.update w.holder l (some p) }.put p k := by
          simp [World.turn, started, free]
        have rest := moved taken (Function.update_self ..)
        exact rest
      · exact moved (by simp [World.turn, started, free]) started
    | unlock l k =>
      by_cases mine : w.holder l = some p
      · have given : w.turn S oracle (.step p) =
            { w with holder := Function.update w.holder l none }.put p k := by
          simp [World.turn, started, mine]
        have rest := moved given (Function.update_self ..)
        exact rest
      · exact moved (by simp [World.turn, started, mine]) started

end Concurrency
