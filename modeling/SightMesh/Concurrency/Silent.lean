import SightMesh.Concurrency.Pool

/-! Programs that leave the store as it is and do not raise, or raise only what an answer they were
given explains, whatever the other processes do to a store that keeps an invariant. -/
namespace Concurrency

open Prog

variable {ε : Type} {T Q : Type → Type 1} {κ σ γ α β : Type} {S : System ε T Q κ σ γ}
  {I : σ → Prop}

/-- In every store with `I`, and whatever it is answered, the program changes nothing, does not
raise, and ends with a result in `done`. -/
def Prog.Silent (S : System ε T Q κ σ γ) (I : σ → Prop) (done : α → Prop) :
    Prog ε T Q κ α → Prop
  | .ret a => done a
  | .fail _ => False
  | .commit tx k => ∀ db, I db → (S.exec tx db).1 = db ∧ (k (S.exec tx db).2).Silent S I done
  | .call q k => ∀ env b env', S.answer env q b env' → (k b).Silent S I done
  | .lock _ k => k.Silent S I done
  | .unlock _ k => k.Silent S I done

namespace Prog

variable {done : α → Prop}

theorem Silent.bind {m : α → Prop} {p : Prog ε T Q κ α} {f : α → Prog ε T Q κ β}
    {done : β → Prop} (first : p.Silent S I m) (rest : ∀ a, m a → (f a).Silent S I done) :
    (p.bind f).Silent S I done := by
  induction p with
  | ret a => exact rest a first
  | fail e => exact first.elim
  | commit tx k ih =>
    intro db holds
    obtain ⟨same, safe⟩ := first db holds
    exact ⟨same, ih _ safe⟩
  | call q k ih => exact fun env b env' answered => ih b (first env b env' answered)
  | lock l k ih => exact ih first
  | unlock l k ih => exact ih first

/-- A handler is never reached. -/
theorem Silent.handle {p : Prog ε T Q κ α} {h : ε → Prog ε T Q κ α} (body : p.Silent S I done) :
    (p.handle h).Silent S I done := by
  induction p with
  | ret a => exact body
  | fail e => exact body.elim
  | commit tx k ih =>
    intro db holds
    obtain ⟨same, safe⟩ := body db holds
    exact ⟨same, ih _ safe⟩
  | call q k ih => exact fun env b env' answered => ih b (body env b env' answered)
  | lock l k ih => exact ih body
  | unlock l k ih => exact ih body

theorem Silent.finally {p : Prog ε T Q κ α} {after : Prog ε T Q κ Unit} (body : p.Silent S I done)
    (last : after.Silent S I fun _ => True) : (p.finally' after).Silent S I done := by
  induction p with
  | ret a => exact last.bind fun _ _ => body
  | fail e => exact body.elim
  | commit tx k ih =>
    intro db holds
    obtain ⟨same, safe⟩ := body db holds
    exact ⟨same, ih _ safe⟩
  | call q k ih => exact fun env b env' answered => ih b (body env b env' answered)
  | lock l k ih => exact ih body
  | unlock l k ih => exact ih body

theorem Silent.withLock {l : κ} {p : Prog ε T Q κ α} (body : p.Silent S I done) :
    (withLock l p).Silent S I done := body.finally trivial

theorem Silent.released {l : κ} {p : Prog ε T Q κ α} (body : p.Silent S I done) :
    (released l p).Silent S I done := body.finally trivial

theorem Silent.commit {tx : T β} {done : β → Prop}
    (same : ∀ db, I db → (S.exec tx db).1 = db ∧ done (S.exec tx db).2) :
    (commit' tx : Prog ε T Q κ β).Silent S I done := same

theorem Silent.ask {q : Q β} {done : β → Prop}
    (answers : ∀ env b env', S.answer env q b env' → done b) :
    (ask q : Prog ε T Q κ β).Silent S I done := answers

theorem Silent.run {tx : T (Except ε β)} {done : β → Prop}
    (same : ∀ db, I db → ∃ b, S.exec tx db = (db, .ok b) ∧ done b) :
    (run tx : Prog ε T Q κ β).Silent S I done := by
  intro db holds
  obtain ⟨b, ran, ended⟩ := same db holds
  rw [ran]
  exact ⟨rfl, ended⟩

theorem Silent.query {q : Q (Except ε β)} {done : β → Prop}
    (answers : ∀ env b env', S.answer env q b env' → ∃ a, b = .ok a ∧ done a) :
    (query q : Prog ε T Q κ β).Silent S I done := by
  intro env b env' answered
  obtain ⟨a, rfl, ended⟩ := answers env b env' answered
  exact ended

/-! ### Excuses -/

/-- In every store with `I` the program changes nothing, and it raises only what `excuses` allows.
Each answer it is given adds what it explains. -/
def Excused (S : System ε T Q κ σ γ) (I : σ → Prop) (explains : Event T Q → ε → Prop)
    (done : α → Prop) : (ε → Prop) → Prog ε T Q κ α → Prop
  | _, .ret a => done a
  | excuses, .fail e => excuses e
  | excuses, .commit tx k => ∀ db, I db → (S.exec tx db).1 = db ∧
      (k (S.exec tx db).2).Excused S I explains done excuses
  | excuses, .call q k => ∀ env b env', S.answer env q b env' →
      (k b).Excused S I explains done fun e => excuses e ∨ explains (.call q b) e
  | excuses, .lock _ k => k.Excused S I explains done excuses
  | excuses, .unlock _ k => k.Excused S I explains done excuses

variable {explains : Event T Q → ε → Prop} {excuses : ε → Prop}

theorem Excused.mono {p : Prog ε T Q κ α} {more : ε → Prop}
    (excused : p.Excused S I explains done excuses) (weaker : ∀ e, excuses e → more e) :
    p.Excused S I explains done more := by
  induction p generalizing excuses more with
  | ret a => exact excused
  | fail e => exact weaker e excused
  | commit tx k ih =>
    intro db holds
    obtain ⟨same, rest⟩ := excused db holds
    exact ⟨same, ih _ rest weaker⟩
  | call q k ih =>
    exact fun env b env' answered => ih b (excused env b env' answered) fun e =>
      Or.imp_left (weaker e)
  | lock l k ih => exact ih excused weaker
  | unlock l k ih => exact ih excused weaker

theorem Silent.excused {p : Prog ε T Q κ α} (silent : p.Silent S I done) :
    p.Excused S I explains done excuses := by
  induction p generalizing excuses with
  | ret a => exact silent
  | fail e => exact silent.elim
  | commit tx k ih =>
    intro db holds
    obtain ⟨same, rest⟩ := silent db holds
    exact ⟨same, ih _ rest⟩
  | call q k ih => exact fun env b env' answered => ih b (silent env b env' answered)
  | lock l k ih => exact ih silent
  | unlock l k ih => exact ih silent

theorem Excused.bind {m : α → Prop} {p : Prog ε T Q κ α} {f : α → Prog ε T Q κ β} {done : β → Prop}
    (first : p.Excused S I explains m excuses)
    (rest : ∀ a, m a → (f a).Excused S I explains done excuses) :
    (p.bind f).Excused S I explains done excuses := by
  induction p generalizing excuses with
  | ret a => exact rest a first
  | fail e => exact first
  | commit tx k ih =>
    intro db holds
    obtain ⟨same, first⟩ := first db holds
    exact ⟨same, ih _ first rest⟩
  | call q k ih =>
    exact fun env b env' answered => ih b (first env b env' answered) fun a known =>
      (rest a known).mono fun e => .inl
  | lock l k ih => exact ih first rest
  | unlock l k ih => exact ih first rest

theorem Excused.query {q : Q (Except ε β)} {done : β → Prop}
    (explained : ∀ e, explains (.call q (.error e)) e) (answers : ∀ b, done b) :
    (query q : Prog ε T Q κ β).Excused S I explains done excuses := by
  intro env b env' answered
  cases b with
  | error e => exact .inr (explained e)
  | ok b => exact answers b

end Prog

/-! ### In the pool -/

variable [DecidableEq κ] {ok : Shared T Q σ γ → Event T Q → Prop} {p : ℕ}

/-- A run from one world to another, all through which the process is there. -/
inductive Lives (S : System ε T Q κ σ γ) (ok : Shared T Q σ γ → Event T Q → Prop) (p : ℕ)
    (w : World ε T Q κ σ γ) : World ε T Q κ σ γ → Prop where
  | here : Lives S ok p w w
  | step {mid w'} : Lives S ok p w mid → Step S ok mid w' → (w'.procs p).isSome → Lives S ok p w w'

/-- The process neither raises nor is about to change the store. -/
def World.Quiet (S : System ε T Q κ σ γ) (w : World ε T Q κ σ γ) (p : ℕ) : Prop :=
  (∀ e, w.procs p ≠ some (.fail e)) ∧
    ∀ (β : Type) (tx : T β) k, w.procs p = some (.commit tx k) →
      (S.exec tx w.shared.store).1 = w.shared.store

/-- The process is not about to change the store, and what it raises is allowed, or explained by an
event since `w`. -/
structure World.Accounts (S : System ε T Q κ σ γ) (explains : Event T Q → ε → Prop)
    (allowed : ε → Prop) (w w' : World ε T Q κ σ γ) (p : ℕ) : Prop where
  still : ∀ (β : Type) (tx : T β) k, w'.procs p = some (.commit tx k) →
    (S.exec tx w'.shared.store).1 = w'.shared.store
  raises : ∀ e, w'.procs p = some (.fail e) → allowed e ∨
    ∃ later, w'.shared.trace = later ++ w.shared.trace ∧ ∃ event ∈ later, explains event e

variable {explains : Event T Q → ε → Prop} {excuses : ε → Prop}

/-- What one step leaves of an excused program, and of the invariant its stores keep. -/
theorem Step.excused (stable : ∀ {β : Type} (tx : T β) db, I db → I (S.exec tx db).1)
    {w w' : World ε T Q κ σ γ} (holds : I w.shared.store)
    {P : Prog ε T Q κ Unit} (running : w.procs p = some P)
    (excused : P.Excused S I explains (fun _ => True) excuses) (step : Step S ok w w')
    (there : (w'.procs p).isSome) :
    I w'.shared.store ∧ ∃ new, w'.shared.trace = new ++ w.shared.trace ∧
      ∃ P', w'.procs p = some P' ∧ P'.Excused S I explains (fun _ => True)
        fun e => excuses e ∨ ∃ event ∈ new, explains event e := by
  have other {p' : ℕ} {P' : Prog ε T Q κ Unit} {next : World ε T Q κ σ γ} {more : ε → Prop}
      (same : next.procs = w.procs) (weaker : ∀ e, excuses e → more e)
      (mine : p' = p → P'.Excused S I explains (fun _ => True) more) :
      ∃ P₁, (next.put p' P').procs p = some P₁ ∧ P₁.Excused S I explains (fun _ => True) more := by
    by_cases here : p' = p
    · subst here
      exact ⟨P', Function.update_self .., mine rfl⟩
    · have kept : (next.put p' P').procs p = next.procs p := Function.update_of_ne (Ne.symm here) ..
      refine ⟨P, ?_, excused.mono weaker⟩
      rw [kept, same]
      exact running
  cases step with
  | @spawn p' op _ free _ =>
    refine ⟨holds, [], rfl, other rfl (fun e => .inl) ?_⟩
    rintro rfl
    exact nomatch free.symm.trans running
  | @commit p' β tx k at_tx _ =>
    refine ⟨stable tx _ holds, [_], rfl, other rfl (fun e => .inl) ?_⟩
    rintro rfl
    cases Option.some.inj (at_tx.symm.trans running)
    exact (excused _ holds).2.mono fun e => .inl
  | @call p' β q k b env at_q answered _ =>
    refine ⟨holds, [_], rfl, other rfl (fun e => .inl) ?_⟩
    rintro rfl
    cases Option.some.inj (at_q.symm.trans running)
    exact (excused _ b env answered).mono fun e => Or.imp_right fun explained =>
      ⟨_, List.mem_cons_self, explained⟩
  | @lock p' l k at_l _ =>
    refine ⟨holds, [], rfl, other rfl (fun e => .inl) ?_⟩
    rintro rfl
    cases Option.some.inj (at_l.symm.trans running)
    exact Prog.Excused.mono excused fun e => .inl
  | @unlock p' l k at_l _ =>
    refine ⟨holds, [], rfl, other rfl (fun e => .inl) ?_⟩
    rintro rfl
    cases Option.some.inj (at_l.symm.trans running)
    exact Prog.Excused.mono excused fun e => .inl
  | @stop p' =>
    refine ⟨holds, [], rfl, P, ?_, excused.mono fun e => .inl⟩
    by_cases here : p' = p
    · subst here
      simp [World.stop] at there
    · have kept : (w.stop p').procs p = w.procs p := Function.update_of_ne (Ne.symm here) ..
      rw [kept]
      exact running

/-- Whatever the others do, an excused program changes nothing and accounts for what it raises. -/
theorem Lives.accounts (stable : ∀ {β : Type} (tx : T β) db, I db → I (S.exec tx db).1)
    {w w' : World ε T Q κ σ γ} (lives : Lives S ok p w w') (holds : I w.shared.store)
    {P : Prog ε T Q κ Unit} (running : w.procs p = some P)
    (excused : P.Excused S I explains (fun _ => True) excuses) :
    World.Accounts S explains excuses w w' p := by
  have reached : I w'.shared.store ∧ ∃ later, w'.shared.trace = later ++ w.shared.trace ∧
      ∃ P', w'.procs p = some P' ∧ P'.Excused S I explains (fun _ => True)
        fun e => excuses e ∨ ∃ event ∈ later, explains event e := by
    induction lives with
    | here => exact ⟨holds, [], rfl, P, running, excused.mono fun e => .inl⟩
    | step _ step there ih =>
      obtain ⟨holds, later, grown, P', running, excused⟩ := ih
      obtain ⟨holds, new, grown', P', running, excused⟩ :=
        step.excused stable holds running excused there
      refine ⟨holds, new ++ later, ?_, P', running, excused.mono ?_⟩
      · rw [grown', grown, List.append_assoc]
      · rintro e ((known | ⟨event, mem, explained⟩) | ⟨event, mem, explained⟩)
        · exact .inl known
        · exact .inr ⟨event, List.mem_append_right _ mem, explained⟩
        · exact .inr ⟨event, List.mem_append_left _ mem, explained⟩
  obtain ⟨holds, later, grown, P', running, excused⟩ := reached
  constructor
  · intro β tx k at_tx
    cases Option.some.inj (at_tx.symm.trans running)
    exact (excused _ holds).1
  · intro e failed
    cases Option.some.inj (failed.symm.trans running)
    exact Or.imp_right (fun explained => ⟨later, grown, explained⟩) excused

/-! ### Scheduled runs -/

def World.raised (w : World ε T Q κ σ γ) (p : ℕ) : Bool :=
  match w.procs p with
  | some (.fail _) => true
  | _ => false

omit [DecidableEq κ] in
theorem World.Quiet.not_raised {w : World ε T Q κ σ γ} (quiet : w.Quiet S p) :
    w.raised p = false := by
  unfold World.raised
  split
  · rename_i e failed
    exact absurd failed (quiet.1 e)
  · rfl

theorem World.turn_isSome {oracle : {β : Type} → γ → Q β → β × γ} {w : World ε T Q κ σ γ}
    (there : (w.procs p).isSome) (q : ℕ) : ((w.turn S oracle (.step q)).procs p).isSome := by
  have put {next : World ε T Q κ σ γ} {P : Prog ε T Q κ Unit} (same : next.procs = w.procs) :
      ((next.put q P).procs p).isSome := by
    by_cases here : p = q
    · subst here
      exact Option.isSome_of_mem (Function.update_self ..)
    · have kept : (next.put q P).procs p = next.procs p := Function.update_of_ne here ..
      rw [kept, same]
      exact there
  unfold World.turn
  dsimp only
  split
  · exact put rfl
  · exact put rfl
  · split
    · exact put rfl
    · exact there
  · split
    · exact put rfl
    · exact there
  · exact there

theorem World.steps_lives {oracle : {β : Type} → γ → Q β → β × γ}
    (sound : ∀ {β : Type} (e : γ) (q : Q β), S.answer e q (oracle e q).1 (oracle e q).2)
    {w : World ε T Q κ σ γ} (there : (w.procs p).isSome) (q n : ℕ) :
    Lives S anyEvent p w (w.play S oracle (List.replicate n (.step q))) := by
  have reach : ∀ mid, Lives S anyEvent p w mid → (mid.procs p).isSome →
      Lives S anyEvent p w (mid.play S oracle (List.replicate n (.step q))) := by
    induction n with
    | zero => exact fun mid lives _ => lives
    | succ n ih =>
      intro mid lives there
      have next : ((mid.turn S oracle (.step q)).procs p).isSome := World.turn_isSome there q
      have moved : mid.turn S oracle (.step q) = mid ∨
          Step S anyEvent mid (mid.turn S oracle (.step q)) :=
        World.turn_step sound mid (.step q) fun _ _ => trivial
      obtain same | step := moved
      · exact ih _ (same.symm ▸ lives) next
      · exact ih _ (lives.step step next) next
  exact reach w .here there

end Concurrency
