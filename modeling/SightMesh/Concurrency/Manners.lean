import Mathlib.Order.BooleanAlgebra.Set
import SightMesh.Concurrency.Rules

/-! What a program asks, raises and holds on every path, whatever it is answered. Nothing is known
of the store or of the environment but what they may answer. -/
namespace Concurrency

variable {ε : Type} {T Q : Type → Type 1} {κ σ γ α β : Type}

/-- What a program may ask under the locks it holds, which of them it may give back, what it may
raise, and what it may be told. -/
structure Manners (ε : Type) (T Q : Type → Type 1) (κ : Type) where
  asks : Set κ → {β : Type} → Q β → Prop
  gives : κ → Prop
  raises : ε → Prop
  answers : {β : Type} → Q β → β → Prop
  results : {β : Type} → T β → β → Prop

/-- Started with the locks `H`, the program minds its manners, takes no lock it holds and gives back
none it does not, and ends with `done` or raises with `raised`. -/
def Prog.Minds (M : Manners ε T Q κ) (done : Set κ → α → Prop) (raised : Set κ → ε → Prop) :
    Prog ε T Q κ α → Set κ → Prop
  | .ret a, H => done H a
  | .fail e, H => raised H e
  | .commit tx k, H => ∀ b, M.results tx b → (k b).Minds M done raised H
  | .call q k, H => M.asks H q ∧ ∀ b, M.answers q b → (k b).Minds M done raised H
  | .lock l k, H => l ∉ H ∧ k.Minds M done raised (insert l H)
  | .unlock l k, H => l ∈ H ∧ M.gives l ∧ k.Minds M done raised (H \ {l})

namespace Prog

variable {M : Manners ε T Q κ} {done : Set κ → α → Prop} {raised : Set κ → ε → Prop} {H : Set κ}

theorem Minds.mono {p : Prog ε T Q κ α} {done' : Set κ → α → Prop} {raised' : Set κ → ε → Prop}
    (h : p.Minds M done raised H) (on_done : ∀ H a, done H a → done' H a)
    (on_raised : ∀ H e, raised H e → raised' H e) : p.Minds M done' raised' H := by
  induction p generalizing H with
  | ret a => exact on_done H a h
  | fail e => exact on_raised H e h
  | commit tx k ih => exact fun b told => ih b (h b told)
  | call q k ih => exact ⟨h.1, fun b told => ih b (h.2 b told)⟩
  | lock l k ih => exact ⟨h.1, ih h.2⟩
  | unlock l k ih => exact ⟨h.1, h.2.1, ih h.2.2⟩

theorem Minds.bind {p : Prog ε T Q κ α} {f : α → Prog ε T Q κ β} {last : Set κ → β → Prop}
    (h : p.Minds M (fun H' a => (f a).Minds M last raised H') raised H) :
    (p.bind f).Minds M last raised H := by
  induction p generalizing H with
  | ret a => exact h
  | fail e => exact h
  | commit tx k ih => exact fun b told => ih b (h b told)
  | call q k ih => exact ⟨h.1, fun b told => ih b (h.2 b told)⟩
  | lock l k ih => exact ⟨h.1, ih h.2⟩
  | unlock l k ih => exact ⟨h.1, h.2.1, ih h.2.2⟩

theorem Minds.handle {p : Prog ε T Q κ α} {h : ε → Prog ε T Q κ α}
    (body : p.Minds M done (fun H' e => (h e).Minds M done raised H') H) :
    (p.handle h).Minds M done raised H := by
  induction p generalizing H with
  | ret a => exact body
  | fail e => exact body
  | commit tx k ih => exact fun b told => ih b (body b told)
  | call q k ih => exact ⟨body.1, fun b told => ih b (body.2 b told)⟩
  | lock l k ih => exact ⟨body.1, ih body.2⟩
  | unlock l k ih => exact ⟨body.1, body.2.1, ih body.2.2⟩

theorem Minds.finally {p : Prog ε T Q κ α} {after : Prog ε T Q κ Unit}
    (body : p.Minds M (fun H' a => after.Minds M (fun H'' _ => done H'' a) raised H')
      (fun H' e => after.Minds M (fun H'' _ => raised H'' e) raised H') H) :
    (p.finally' after).Minds M done raised H := by
  induction p generalizing H with
  | ret a => exact Minds.bind body
  | fail e => exact Minds.bind body
  | commit tx k ih => exact fun b told => ih b (body b told)
  | call q k ih => exact ⟨body.1, fun b told => ih b (body.2 b told)⟩
  | lock l k ih => exact ⟨body.1, ih body.2⟩
  | unlock l k ih => exact ⟨body.1, body.2.1, ih body.2.2⟩

end Prog

/-! ### Programs that give back the locks they take -/

namespace Manners

open Prog

variable {M : Manners ε T Q κ} {H : Set κ}

/-- Started with the locks `H`, the program minds its manners, ends with `H` again, and raises only
what it may. -/
def Heeds (M : Manners ε T Q κ) (H : Set κ) (p : Prog ε T Q κ α) (done : α → Prop) : Prop :=
  p.Minds M (fun H' a => H' = H ∧ done a) (fun H' e => H' = H ∧ M.raises e) H

variable {done : α → Prop}

theorem Heeds.mono {p : Prog ε T Q κ α} {done' : α → Prop} (h : M.Heeds H p done)
    (weaker : ∀ a, done a → done' a) : M.Heeds H p done' :=
  Minds.mono h (fun _ a known => ⟨known.1, weaker a known.2⟩) fun _ _ known => known

theorem Heeds.anyway {p : Prog ε T Q κ α} (h : M.Heeds H p done) : M.Heeds H p fun _ => True :=
  h.mono fun _ _ => trivial

theorem Heeds.ret {a : α} (known : done a) : M.Heeds H (ret a) done := ⟨rfl, known⟩

theorem Heeds.fail {e : ε} (allowed : M.raises e) : M.Heeds H (fail e) done := ⟨rfl, allowed⟩

theorem Heeds.bind {m : α → Prop} {p : Prog ε T Q κ α} {f : α → Prog ε T Q κ β} {last : β → Prop}
    (first : M.Heeds H p m) (rest : ∀ a, m a → M.Heeds H (f a) last) :
    M.Heeds H (p.bind f) last := by
  refine Minds.bind (Minds.mono first ?_ fun _ _ known => known)
  rintro _ a ⟨rfl, known⟩
  exact rest a known

theorem Heeds.handle {p : Prog ε T Q κ α} {h : ε → Prog ε T Q κ α} (body : M.Heeds H p done)
    (handler : ∀ e, M.raises e → M.Heeds H (h e) done) : M.Heeds H (p.handle h) done := by
  refine Minds.handle (Minds.mono body (fun _ _ known => known) ?_)
  rintro _ e ⟨rfl, raised⟩
  exact handler e raised

theorem Heeds.withLock {l : κ} {p : Prog ε T Q κ α} (free : l ∉ H) (gives : M.gives l)
    (body : M.Heeds (insert l H) p done) : M.Heeds H (withLock l p) done := by
  have given : insert l H \ {l} = H := Set.insert_sdiff_self_of_notMem free
  refine ⟨free, Minds.finally (Minds.mono body ?_ ?_)⟩
  · rintro _ a ⟨rfl, known⟩
    exact ⟨Set.mem_insert l H, gives, given, known⟩
  · rintro _ e ⟨rfl, raised⟩
    exact ⟨Set.mem_insert l H, gives, given, raised⟩

theorem Heeds.released {l : κ} {p : Prog ε T Q κ α} (held : l ∈ H) (gives : M.gives l)
    (body : M.Heeds (H \ {l}) p done) : M.Heeds H (released l p) done := by
  have open_ : l ∉ H \ {l} := fun mem => mem.2 rfl
  have taken : insert l (H \ {l}) = H := Set.insert_sdiff_self_of_mem held
  refine ⟨held, gives, Minds.finally (Minds.mono body ?_ ?_)⟩
  · rintro _ a ⟨rfl, known⟩
    exact ⟨open_, taken, known⟩
  · rintro _ e ⟨rfl, raised⟩
    exact ⟨open_, taken, raised⟩

theorem Heeds.commit {tx : T β} {done : β → Prop} (known : ∀ b, M.results tx b → done b) :
    M.Heeds H (commit' tx) done := fun b told => ⟨rfl, known b told⟩

theorem Heeds.ask {q : Q β} {done : β → Prop} (allowed : M.asks H q)
    (known : ∀ b, M.answers q b → done b) : M.Heeds H (ask q) done :=
  ⟨allowed, fun b told => ⟨rfl, known b told⟩⟩

theorem Heeds.run {tx : T (Except ε β)} {done : β → Prop}
    (known : ∀ b, M.results tx (.ok b) → done b)
    (raised : ∀ e, M.results tx (.error e) → M.raises e) : M.Heeds H (run tx) done := by
  intro b told
  cases b with
  | ok b => exact ⟨rfl, known b told⟩
  | error e => exact ⟨rfl, raised e told⟩

theorem Heeds.query {q : Q (Except ε β)} {done : β → Prop} (allowed : M.asks H q)
    (known : ∀ b, M.answers q (.ok b) → done b)
    (raised : ∀ e, M.answers q (.error e) → M.raises e) : M.Heeds H (query q) done := by
  refine ⟨allowed, fun b told => ?_⟩
  cases b with
  | ok b => exact ⟨rfl, known b told⟩
  | error e => exact ⟨rfl, raised e told⟩

end Manners

/-! ### Under a protocol -/

/-- What the manners allow is allowed by the protocol, and keeps `I` of the locks that are held and
of the state. -/
structure Manners.Under {S : System ε T Q κ σ γ} (M : Manners ε T Q κ) (R : Protocol S)
    (I : Set κ → Shared T Q σ γ → Prop) : Prop where
  pre : ∀ {H} {β : Type} (tx : T β) s, I H s → R.pre H tx s
  preCall : ∀ {H} {β : Type} (q : Q β) s, I H s → M.asks H q → R.preCall H q s
  results : ∀ {β : Type} (tx : T β) db, M.results tx (S.exec tx db).2
  answers : ∀ {β : Type} env (q : Q β) b env', S.answer env q b env' → M.answers q b
  rely : ∀ {H s s'}, R.rely H s s' → I H s → I H s'
  commit : ∀ {H} {β : Type} (tx : T β) s, I H s → I H (s.commit S tx)
  call : ∀ {H} {β : Type} (q : Q β) s b env, M.asks H q → S.answer s.env q b env → I H s →
    I H (s.call q b env)
  lock : ∀ {H s} l, I H s → I (insert l H) s
  unlock : ∀ {H s} l, M.gives l → I H s → I (H \ {l}) s

section

variable {S : System ε T Q κ σ γ} {M : Manners ε T Q κ} {R : Protocol S}
  {I : Set κ → Shared T Q σ γ → Prop} {H : Set κ} {s : Shared T Q σ γ}

/-- A program that minds its manners is safe, and keeps what they keep. -/
theorem Prog.Minds.safe (under : M.Under R I) {p : Prog ε T Q κ α} {done : Set κ → α → Prop}
    {raised : Set κ → ε → Prop} (h : p.Minds M done raised H) (holds : I H s) :
    R.Safe p H (fun H' a s' => done H' a ∧ I H' s') (fun H' e s' => raised H' e ∧ I H' s') s := by
  induction p generalizing H s with
  | ret a => exact ⟨h, holds⟩
  | fail e => exact ⟨h, holds⟩
  | commit tx k ih =>
    intro s' others _
    have holds := under.rely others holds
    exact ⟨under.pre tx s' holds, ih _ (h _ (under.results tx _)) (under.commit tx s' holds)⟩
  | call q k ih =>
    intro s' others _
    have holds := under.rely others holds
    refine ⟨under.preCall q s' holds h.1, fun b env answered => ?_⟩
    exact ih b (h.2 b (under.answers _ q b env answered)) (under.call q s' b env h.1 answered holds)
  | lock l k ih => exact fun s' others _ _ => ih h.2 (under.lock l (under.rely others holds))
  | unlock l k ih =>
    exact fun s' others _ _ => ih h.2.2 (under.unlock l h.2.1 (under.rely others holds))

theorem Manners.Heeds.keeps (under : M.Under R I) {p : Prog ε T Q κ α} {done : α → Prop}
    (h : M.Heeds H p done) (holds : I H s) : R.Keeps H s p fun a s' => done a ∧ I H s' := by
  apply Protocol.Keeps.of_safe
  refine (Prog.Minds.safe under h holds).mono ?_ ?_
  · rintro H' a s' ⟨⟨rfl, known⟩, still⟩
    exact ⟨rfl, known, still⟩
  · rintro H' e s' ⟨⟨rfl, _⟩, _⟩
    rfl

end

/-! ### In the pool -/

variable [DecidableEq κ] {M : Manners ε T Q κ} {S : System ε T Q κ σ γ}
  {ok : Shared T Q σ γ → Event T Q → Prop}

/-- As long as nothing has happened but what `seen` allows, the system tells its programs only what
the manners foresee. -/
structure Manners.Fits (M : Manners ε T Q κ) (S : System ε T Q κ σ γ)
    (ok : Shared T Q σ γ → Event T Q → Prop) (seen : Shared T Q σ γ → Prop) : Prop where
  committed : ∀ {β : Type} (tx : T β) s, seen (s.commit S tx) → seen s
  called : ∀ {β : Type} (q : Q β) s b env, seen (s.call q b env) → seen s
  results : ∀ {w} {β : Type} (tx : T β), Reachable S ok w → seen (w.shared.commit S tx) →
    M.results tx (S.exec tx w.shared.store).2
  answers : ∀ {w} {β : Type} (q : Q β) b env, Reachable S ok w → S.answer w.shared.env q b env →
    seen (w.shared.call q b env) → M.answers q b

variable {seen : Shared T Q σ γ → Prop}

theorem Manners.Fits.before (fits : M.Fits S ok seen) {w w' : World ε T Q κ σ γ}
    (step : Step S ok w w') (foreseen : seen w'.shared) : seen w.shared := by
  cases step with
  | commit => exact fits.committed _ _ foreseen
  | call => exact fits.called _ _ _ _ foreseen
  | spawn | lock | unlock | stop => exact foreseen

/-- Every process of a reachable world minds its manners under the locks it holds. -/
theorem Manners.Fits.reachable {done : Set κ → Unit → Prop} {raised : Set κ → ε → Prop}
    (fits : M.Fits S ok seen) (known : ∀ op, S.ops op → op.Minds M done raised ∅)
    {w : World ε T Q κ σ γ} (reached : Reachable S ok w) (foreseen : seen w.shared) {p : ℕ}
    {P : Prog ε T Q κ Unit} (running : w.procs p = some P) :
    P.Minds M done raised (w.held p) := by
  induction reached generalizing P with
  | start => exact nomatch running
  | step earlier step ih =>
    have ih := @ih (fits.before step foreseen)
    obtain ⟨running, same⟩ | ⟨op, empty⟩ | ⟨before, running, turned⟩ := step.proc running
    · rw [same]
      exact ih running
    · rw [empty]
      exact known P op
    · have minds := ih running
      generalize World.held _ p = H at minds turned
      generalize World.held _ p = H' at turned ⊢
      generalize World.shared _ = s' at foreseen turned
      cases turned with
      | commit => exact minds _ (fits.results _ earlier foreseen)
      | call answered => exact minds.2 _ (fits.answers _ _ _ earlier answered foreseen)
      | lock => exact minds.2
      | unlock => exact minds.2.2

end Concurrency
