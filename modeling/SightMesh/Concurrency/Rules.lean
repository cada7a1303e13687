import SightMesh.Concurrency.RelyGuarantee

/-! Rules for programs that give back the locks they take. A specification talks of the state a
program starts in and the state it ends in; what it says of the first that no step undoes is
carried to the second by `evolves`. -/
namespace Concurrency.Protocol

open Prog

variable {ε : Type} {T Q : Type → Type 1} {κ σ γ α β : Type} {S : System ε T Q κ σ γ}
  {R : Protocol S}

/-- Whatever a safe program does, it moves forward. -/
theorem Safe.forward {p : Prog ε T Q κ α} {H : Set κ} {done : Set κ → α → Shared T Q σ γ → Prop}
    {raised : Set κ → ε → Shared T Q σ γ → Prop} {first s : Shared T Q σ γ}
    (before : R.evolves first s) (safe : R.Safe p H done raised s) :
    R.Safe p H (fun H' a s' => R.evolves first s' ∧ done H' a s')
      (fun H' e s' => R.evolves first s' ∧ raised H' e s') s := by
  induction p generalizing H s with
  | ret a => exact ⟨before, safe⟩
  | fail e => exact ⟨before, safe⟩
  | commit tx k ih =>
    intro s' others known
    obtain ⟨allowed, rest⟩ := safe s' others known
    have reached := R.evolves_trans before others.1
    exact ⟨allowed, ih _ (R.evolves_trans reached (R.commit known allowed).2.1) rest⟩
  | call q k ih =>
    intro s' others known
    obtain ⟨allowed, rest⟩ := safe s' others known
    have reached := R.evolves_trans before others.1
    exact ⟨allowed, fun b env answered =>
      ih b (R.evolves_trans reached (R.call known allowed answered).2.1) (rest b env answered)⟩
  | lock l k ih =>
    exact fun s' others known free =>
      ih (R.evolves_trans before others.1) (safe s' others known free)
  | unlock l k ih =>
    exact fun s' others known mine =>
      ih (R.evolves_trans before others.1) (safe s' others known mine)

theorem Safe.and {p : Prog ε T Q κ α} {H : Set κ} {done done' : Set κ → α → Shared T Q σ γ → Prop}
    {raised raised' : Set κ → ε → Shared T Q σ γ → Prop} {s : Shared T Q σ γ}
    (first : R.Safe p H done raised s) (second : R.Safe p H done' raised' s) :
    R.Safe p H (fun H' a s' => done H' a s' ∧ done' H' a s')
      (fun H' e s' => raised H' e s' ∧ raised' H' e s') s := by
  induction p generalizing H s with
  | ret a => exact ⟨first, second⟩
  | fail e => exact ⟨first, second⟩
  | commit tx k ih =>
    exact fun s' others known => ⟨(first s' others known).1,
      ih _ (first s' others known).2 (second s' others known).2⟩
  | call q k ih =>
    exact fun s' others known => ⟨(first s' others known).1, fun b env answered =>
      ih b ((first s' others known).2 b env answered) ((second s' others known).2 b env answered)⟩
  | lock l k ih =>
    exact fun s' others known free => ih (first s' others known free) (second s' others known free)
  | unlock l k ih =>
    exact fun s' others known mine => ih (first s' others known mine) (second s' others known mine)

/-- Started in `s` while holding `H`, `p` issues nothing against the protocol, ends holding `H`
again, and ends with `done`. -/
def Keeps (R : Protocol S) (H : Set κ) (s : Shared T Q σ γ) (p : Prog ε T Q κ α)
    (done : α → Shared T Q σ γ → Prop) : Prop :=
  R.Safe p H (fun H' a s' => R.evolves s s' ∧ H' = H ∧ done a s')
    (fun H' _ s' => R.evolves s s' ∧ H' = H) s

variable {H : Set κ} {s : Shared T Q σ γ}

theorem Keeps.of_safe {p : Prog ε T Q κ α} {done : α → Shared T Q σ γ → Prop}
    (safe : R.Safe p H (fun H' a s' => H' = H ∧ done a s') (fun H' _ _ => H' = H) s) :
    R.Keeps H s p done :=
  safe.forward (R.evolves_refl s)

theorem Keeps.safe {p : Prog ε T Q κ α} {done : α → Shared T Q σ γ → Prop}
    (h : R.Keeps H s p done) : R.Safe p H (fun _ _ _ => True) (fun _ _ _ => True) s :=
  h.mono (fun _ _ _ _ => trivial) (fun _ _ _ _ => trivial)

theorem Keeps.mono {p : Prog ε T Q κ α} {done done' : α → Shared T Q σ γ → Prop}
    (h : R.Keeps H s p done) (weaker : ∀ a s', R.evolves s s' → done a s' → done' a s') :
    R.Keeps H s p done' :=
  Safe.mono h (fun _ a s' known => ⟨known.1, known.2.1, weaker a s' known.1 known.2.2⟩)
    (fun _ _ _ known => known)

theorem Keeps.trivially {p : Prog ε T Q κ α} {done : α → Shared T Q σ γ → Prop}
    (h : R.Keeps H s p done) : R.Keeps H s p (fun _ _ => True) :=
  h.mono fun _ _ _ _ => trivial

theorem Keeps.and {p : Prog ε T Q κ α} {done done' : α → Shared T Q σ γ → Prop}
    (first : R.Keeps H s p done) (second : R.Keeps H s p done') :
    R.Keeps H s p (fun a s' => done a s' ∧ done' a s') :=
  Safe.mono (Safe.and first second)
    (fun _ _ _ known => ⟨known.1.1, known.1.2.1, known.1.2.2, known.2.2.2⟩)
    (fun _ _ _ known => known.1)

theorem Keeps.ret {a : α} {d : α → Shared T Q σ γ → Prop} (h : d a s) :
    R.Keeps H s (.ret a) d :=
  ⟨R.evolves_refl s, rfl, h⟩

theorem Keeps.fail {e : ε} {done : α → Shared T Q σ γ → Prop} : R.Keeps H s (.fail e) done :=
  ⟨R.evolves_refl s, rfl⟩

theorem Keeps.bind {p : Prog ε T Q κ α} {f : α → Prog ε T Q κ β}
    {m : α → Shared T Q σ γ → Prop} {done : β → Shared T Q σ γ → Prop} (first : R.Keeps H s p m)
    (rest : ∀ a s', R.evolves s s' → m a s' → R.Keeps H s' (f a) done) :
    R.Keeps H s (p.bind f) done := by
  refine .of_safe (safe_bind.mpr (Safe.mono first ?_ fun _ _ _ known => known.2))
  rintro H' a s' ⟨later, rfl, known⟩
  exact Safe.mono (rest a s' later known) (fun _ _ _ end_ => end_.2) (fun _ _ _ end_ => end_.2)

theorem Keeps.handle {p : Prog ε T Q κ α} {h : ε → Prog ε T Q κ α}
    {done : α → Shared T Q σ γ → Prop} (body : R.Keeps H s p done)
    (handler : ∀ e s', R.evolves s s' → R.Keeps H s' (h e) done) :
    R.Keeps H s (p.handle h) done := by
  refine .of_safe (safe_handle.mpr (Safe.mono body (fun _ _ _ known => known.2) ?_))
  rintro H' e s' ⟨later, rfl⟩
  exact Safe.mono (handler e s' later) (fun _ _ _ end_ => end_.2) (fun _ _ _ end_ => end_.2)

theorem Keeps.commit {tx : T β} {done : β → Shared T Q σ γ → Prop}
    (h : ∀ s', R.rely H s s' → R.inv s' →
      R.pre H tx s' ∧ done (S.exec tx s'.store).2 (s'.commit S tx)) :
    R.Keeps H s (commit' tx) done :=
  .of_safe fun s' others known => ⟨(h s' others known).1, rfl, (h s' others known).2⟩

theorem Keeps.run {tx : T (Except ε β)} {done : β → Shared T Q σ γ → Prop}
    (h : ∀ s', R.rely H s s' → R.inv s' → R.pre H tx s' ∧
      ∀ b, (S.exec tx s'.store).2 = .ok b → done b (s'.commit S tx)) :
    R.Keeps H s (Prog.run tx) done := by
  refine .of_safe fun s' others known => ⟨(h s' others known).1, ?_⟩
  cases answer : (S.exec tx s'.store).2 with
  | ok b => exact ⟨rfl, (h s' others known).2 b answer⟩
  | error e => exact rfl

theorem Keeps.ask {q : Q β} {done : β → Shared T Q σ γ → Prop}
    (allowed : ∀ s', R.rely H s s' → R.inv s' → R.preCall H q s')
    (h : ∀ s' b env, R.rely H s s' → R.inv s' → S.answer s'.env q b env →
      done b (s'.call q b env)) : R.Keeps H s (Prog.ask q) done :=
  .of_safe fun s' others known =>
    ⟨allowed s' others known, fun b env answered => ⟨rfl, h s' b env others known answered⟩⟩

theorem Keeps.query {q : Q (Except ε β)} {done : β → Shared T Q σ γ → Prop}
    (allowed : ∀ s', R.rely H s s' → R.inv s' → R.preCall H q s')
    (h : ∀ s' b env, R.rely H s s' → R.inv s' → S.answer s'.env q (.ok b) env →
      done b (s'.call q (.ok b) env)) :
    R.Keeps H s (Prog.query q) done := by
  refine .of_safe fun s' others known => ⟨allowed s' others known, fun b env answered => ?_⟩
  cases b with
  | ok b => exact ⟨rfl, h s' b env others known answered⟩
  | error e => exact rfl

/-- A body under one more lock; what it ends with outlives the lock. -/
theorem Keeps.withLock {l : κ} {p : Prog ε T Q κ α} {done : α → Shared T Q σ γ → Prop}
    (body : ∀ s', R.rely H s s' → l ∉ H → R.Keeps (insert l H) s' p done)
    (stable : ∀ a s' s'', R.evolves s' s'' → done a s' → done a s'') :
    R.Keeps H s (Prog.withLock l p) done := by
  refine .of_safe fun s' others _ free => safe_finally.mpr ?_
  have back : insert l H \ {l} = H := by
    ext m
    by_cases same : m = l
    · subst same
      simp [free]
    · simp [same]
  refine Safe.mono (body s' others free) ?_ ?_
  · rintro H' a s₁ ⟨_, rfl, known⟩ s₂ later _ _
    exact ⟨back, stable a s₁ s₂ later.1 known⟩
  · rintro H' e s₁ ⟨_, rfl⟩ s₂ _ _ _
    exact back

/-- A body with the gate of a held lock open. -/
theorem Keeps.released {l : κ} {p : Prog ε T Q κ α} {done : α → Shared T Q σ γ → Prop}
    (body : ∀ s', R.rely H s s' → R.Keeps (H \ {l}) s' p done)
    (stable : ∀ a s' s'', R.rely (H \ {l}) s' s'' → done a s' → done a s'') :
    R.Keeps H s (Prog.released l p) done := by
  refine .of_safe fun s' others _ mine => safe_finally.mpr ?_
  have back : insert l (H \ {l}) = H := by
    ext m
    by_cases same : m = l
    · subst same
      simp [mine]
    · simp [same]
  refine Safe.mono (body s' others) ?_ ?_
  · rintro H' a s₁ ⟨_, rfl, known⟩ s₂ later _ _
    exact ⟨back, stable a s₁ s₂ later known⟩
  · rintro H' e s₁ ⟨_, rfl⟩ s₂ _ _ _
    exact back

/-! ### Plain programs -/

/-- A program without locks whose every step the protocol allows anywhere. -/
def Plain (R : Protocol S) : Prog ε T Q κ α → Prop
  | .ret _ => True
  | .fail _ => True
  | .commit tx k => (∀ H s, R.inv s → R.pre H tx s) ∧ ∀ b, Plain R (k b)
  | .call q k => (∀ H s, R.inv s → R.preCall H q s) ∧ ∀ b, Plain R (k b)
  | .lock _ _ => False
  | .unlock _ _ => False

theorem Plain.bind {p : Prog ε T Q κ α} {f : α → Prog ε T Q κ β} (first : R.Plain p)
    (rest : ∀ a, R.Plain (f a)) : R.Plain (p.bind f) := by
  induction p with
  | ret a => exact rest a
  | fail e => trivial
  | commit tx k ih => exact ⟨first.1, fun b => ih b (first.2 b)⟩
  | call q k ih => exact ⟨first.1, fun b => ih b (first.2 b)⟩
  | lock l k ih => exact first.elim
  | unlock l k ih => exact first.elim

theorem Plain.handle {p : Prog ε T Q κ α} {h : ε → Prog ε T Q κ α} (body : R.Plain p)
    (handler : ∀ e, R.Plain (h e)) : R.Plain (p.handle h) := by
  induction p with
  | ret a => trivial
  | fail e => exact handler e
  | commit tx k ih => exact ⟨body.1, fun b => ih b (body.2 b)⟩
  | call q k ih => exact ⟨body.1, fun b => ih b (body.2 b)⟩
  | lock l k ih => exact body.elim
  | unlock l k ih => exact body.elim

/-- A plain program leaves everything a held lock guards as it was. -/
theorem Plain.keeps {p : Prog ε T Q κ α} (plain : R.Plain p) (H : Set κ) (s : Shared T Q σ γ) :
    R.Keeps H s p (fun _ s' => R.rely H s s') := by
  suffices safe : ∀ first, R.rely H first s → R.Safe p H
      (fun H' _ s' => H' = H ∧ R.rely H first s') (fun H' _ _ => H' = H) s from
    .of_safe (safe s (rely_refl H s))
  intro first before
  induction p generalizing s with
  | ret a => exact ⟨rfl, before⟩
  | fail e => exact rfl
  | commit tx k ih =>
    intro s' others known
    obtain ⟨_, forward, fixed⟩ := R.commit known (plain.1 ∅ s' known)
    refine ⟨plain.1 H s' known, ih _ (plain.2 _) _ (rely_trans before (rely_trans others ?_))⟩
    exact ⟨forward, fun l _ => fixed l (Set.notMem_empty l)⟩
  | call q k ih =>
    intro s' others known
    refine ⟨plain.1 H s' known, fun b env answered => ?_⟩
    obtain ⟨_, forward, fixed⟩ := R.call known (plain.1 ∅ s' known) answered
    refine ih b (plain.2 b) _ (rely_trans before (rely_trans others ?_))
    exact ⟨forward, fun l _ => fixed l (Set.notMem_empty l)⟩
  | lock l k ih => exact plain.elim
  | unlock l k ih => exact plain.elim

end Concurrency.Protocol
