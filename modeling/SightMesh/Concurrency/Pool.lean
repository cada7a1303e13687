import Mathlib.Data.List.Induction
import Mathlib.Logic.Function.Basic
import Mathlib.Data.Set.Insert
import SightMesh.Concurrency.Program

/-! Any number of processes over one store, in any interleaving, with a crash possible before
every step. A transaction is one step, a query is one step that may change the environment,
and a lock is held by at most one process until it releases it or stops. -/
namespace Concurrency

open Prog

/-- What the store and the environment see of a step. -/
inductive Event (T Q : Type → Type 1) : Type 1 where
  | commit {β : Type} (tx : T β) (b : β)
  | call {β : Type} (q : Q β) (b : β)

/-- Everything the processes share, with the events so far, the newest first. -/
structure Shared (T Q : Type → Type 1) (σ γ : Type) : Type 1 where
  store : σ
  env : γ
  trace : List (Event T Q)

/-- `ops` are the programs a process may be started with, `start` the opening states. -/
structure System (ε : Type) (T Q : Type → Type 1) (κ σ γ : Type) where
  exec : {β : Type} → T β → σ → σ × β
  answer : {β : Type} → γ → Q β → β → γ → Prop
  ops : Prog ε T Q κ Unit → Prop
  start : σ → γ → Prop

structure World (ε : Type) (T Q : Type → Type 1) (κ σ γ : Type) : Type 1 where
  shared : Shared T Q σ γ
  holder : κ → Option ℕ
  procs : ℕ → Option (Prog ε T Q κ Unit)

variable {ε : Type} {T Q : Type → Type 1} {κ σ γ : Type}

def Shared.commit {β : Type} (S : System ε T Q κ σ γ) (s : Shared T Q σ γ) (tx : T β) :
    Shared T Q σ γ :=
  { s with store := (S.exec tx s.store).1, trace := .commit tx (S.exec tx s.store).2 :: s.trace }

def Shared.call {β : Type} (s : Shared T Q σ γ) (q : Q β) (b : β) (env : γ) : Shared T Q σ γ :=
  { s with env := env, trace := .call q b :: s.trace }

def World.held (w : World ε T Q κ σ γ) (p : ℕ) : Set κ := {l | w.holder l = some p}

variable [DecidableEq κ]

def World.put (w : World ε T Q κ σ γ) (p : ℕ) (P : Prog ε T Q κ Unit) : World ε T Q κ σ γ :=
  { w with procs := Function.update w.procs p (some P) }

/-- A process that ends or crashes loses its locks with it. -/
def World.stop (w : World ε T Q κ σ γ) (p : ℕ) : World ε T Q κ σ γ where
  shared := w.shared
  holder l := if w.holder l = some p then none else w.holder l
  procs := Function.update w.procs p none

/-- One step of one process. `ok` restricts the events of a run; a run of the system as it is
takes every event. -/
inductive Step (S : System ε T Q κ σ γ) (ok : Shared T Q σ γ → Event T Q → Prop) :
    World ε T Q κ σ γ → World ε T Q κ σ γ → Prop where
  | spawn {w p op} : S.ops op → w.procs p = none → (∀ l, w.holder l ≠ some p) →
      Step S ok w (w.put p op)
  | commit {w p} {β : Type} {tx : T β} {k} : w.procs p = some (.commit tx k) →
      ok w.shared (.commit tx (S.exec tx w.shared.store).2) →
      Step S ok w
        ({ w with shared := w.shared.commit S tx }.put p (k (S.exec tx w.shared.store).2))
  | call {w p} {β : Type} {q : Q β} {k b env} : w.procs p = some (.call q k) →
      S.answer w.shared.env q b env → ok w.shared (.call q b) →
      Step S ok w ({ w with shared := w.shared.call q b env }.put p (k b))
  | lock {w p l k} : w.procs p = some (.lock l k) → w.holder l = none →
      Step S ok w ({ w with holder := Function.update w.holder l (some p) }.put p k)
  | unlock {w p l k} : w.procs p = some (.unlock l k) → w.holder l = some p →
      Step S ok w ({ w with holder := Function.update w.holder l none }.put p k)
  | stop {w p} : Step S ok w (w.stop p)

inductive Reachable (S : System ε T Q κ σ γ) (ok : Shared T Q σ γ → Event T Q → Prop) :
    World ε T Q κ σ γ → Prop where
  | start {s e} : S.start s e → Reachable S ok ⟨⟨s, e, []⟩, fun _ => none, fun _ => none⟩
  | step {w w'} : Reachable S ok w → Step S ok w w' → Reachable S ok w'

abbrev anyEvent (_ : Shared T Q σ γ) (_ : Event T Q) : Prop := True

theorem Step.mono {S : System ε T Q κ σ γ} {ok ok' : Shared T Q σ γ → Event T Q → Prop}
    (weaker : ∀ s e, ok s e → ok' s e) {w w' : World ε T Q κ σ γ} (step : Step S ok w w') :
    Step S ok' w w' := by
  cases step with
  | spawn hop free unlocked => exact .spawn hop free unlocked
  | commit at_tx allowed => exact .commit at_tx (weaker _ _ allowed)
  | call at_q answered allowed => exact .call at_q answered (weaker _ _ allowed)
  | lock at_l free => exact .lock at_l free
  | unlock at_l mine => exact .unlock at_l mine
  | stop => exact .stop

theorem Reachable.mono {S : System ε T Q κ σ γ} {ok ok' : Shared T Q σ γ → Event T Q → Prop}
    (weaker : ∀ s e, ok s e → ok' s e) {w : World ε T Q κ σ γ} (h : Reachable S ok w) :
    Reachable S ok' w := by
  induction h with
  | start first => exact .start first
  | step _ step ih => exact .step ih (step.mono weaker)

/-! ### One process -/

/-- What a step makes of the program of the process that takes it, of the locks it holds, and of
the shared state. -/
inductive Turned (S : System ε T Q κ σ γ) (ok : Shared T Q σ γ → Event T Q → Prop)
    (s : Shared T Q σ γ) :
    Prog ε T Q κ Unit → Set κ → Prog ε T Q κ Unit → Set κ → Shared T Q σ γ → Prop where
  | commit {H} {β : Type} {tx : T β} {k} : ok s (.commit tx (S.exec tx s.store).2) →
      Turned S ok s (.commit tx k) H (k (S.exec tx s.store).2) H (s.commit S tx)
  | call {H} {β : Type} {q : Q β} {k b env} : S.answer s.env q b env → ok s (.call q b) →
      Turned S ok s (.call q k) H (k b) H (s.call q b env)
  | lock {H l k} : l ∉ H → Turned S ok s (.lock l k) H k (insert l H) s
  | unlock {H l k} : l ∈ H → Turned S ok s (.unlock l k) H k (H \ {l}) s

/-- A process that runs after a step ran before it, untouched or by its own step, or starts with
it. -/
theorem Step.proc {S : System ε T Q κ σ γ} {ok : Shared T Q σ γ → Event T Q → Prop}
    {w w' : World ε T Q κ σ γ} (step : Step S ok w w') {q : ℕ} {P' : Prog ε T Q κ Unit}
    (running : w'.procs q = some P') :
    w.procs q = some P' ∧ w'.held q = w.held q ∨ S.ops P' ∧ w'.held q = ∅ ∨
      ∃ P, w.procs q = some P ∧
        Turned S ok w.shared P (w.held q) P' (w'.held q) w'.shared := by
  cases step with
  | @spawn p op known idle unlocked =>
    by_cases same : q = p
    · subst same
      obtain rfl : op = P' := by simpa [World.put] using running
      exact .inr (.inl ⟨known, Set.eq_empty_iff_forall_notMem.mpr unlocked⟩)
    · exact .inl ⟨by simpa [World.put, Function.update_of_ne same] using running, rfl⟩
  | @commit p β tx k at_tx allowed =>
    by_cases same : q = p
    · subst same
      obtain rfl : k _ = P' := by simpa [World.put] using running
      exact .inr (.inr ⟨_, at_tx, .commit allowed⟩)
    · exact .inl ⟨by simpa [World.put, Function.update_of_ne same] using running, rfl⟩
  | @call p β a k b env at_q answered allowed =>
    by_cases same : q = p
    · subst same
      obtain rfl : k _ = P' := by simpa [World.put] using running
      exact .inr (.inr ⟨_, at_q, .call answered allowed⟩)
    · exact .inl ⟨by simpa [World.put, Function.update_of_ne same] using running, rfl⟩
  | @lock p l k at_l free =>
    by_cases same : q = p
    · subst same
      obtain rfl : k = P' := by simpa [World.put] using running
      have grown : ({ w with holder := Function.update w.holder l (some q) }.put q k).held q =
          insert l (w.held q) := by
        ext m
        by_cases eq : m = l
        · subst eq; simp [World.held, World.put]
        · simp [World.held, World.put, eq]
      rw [grown]
      exact .inr (.inr ⟨_, at_l, .lock (by simp [World.held, free])⟩)
    · have unchanged : ({ w with holder := Function.update w.holder l (some p) }.put p k).held q =
          w.held q := by
        ext m
        by_cases eq : m = l
        · subst eq; simp [World.held, World.put, free, Ne.symm same]
        · simp [World.held, World.put, eq]
      exact .inl ⟨by simpa [World.put, Function.update_of_ne same] using running, unchanged⟩
  | @unlock p l k at_l mine =>
    by_cases same : q = p
    · subst same
      obtain rfl : k = P' := by simpa [World.put] using running
      have shrunk : ({ w with holder := Function.update w.holder l none }.put q k).held q =
          w.held q \ {l} := by
        ext m
        by_cases eq : m = l
        · subst eq; simp [World.held, World.put]
        · simp [World.held, World.put, eq]
      rw [shrunk]
      exact .inr (.inr ⟨_, at_l, .unlock mine⟩)
    · have unchanged : ({ w with holder := Function.update w.holder l none }.put p k).held q =
          w.held q := by
        ext m
        by_cases eq : m = l
        · subst eq; simp [World.held, World.put, mine, Ne.symm same]
        · simp [World.held, World.put, eq]
      exact .inl ⟨by simpa [World.put, Function.update_of_ne same] using running, unchanged⟩
  | @stop p =>
    by_cases same : q = p
    · subst same
      simp [World.stop] at running
    · have running : w.procs q = some P' := by
        simpa [World.stop, Function.update_of_ne same] using running
      have unchanged : (w.stop p).held q = w.held q := by
        ext m
        simp only [World.held, World.stop, Set.mem_ofPred_eq]
        by_cases mine : w.holder m = some p
        · simp [mine, Ne.symm same]
        · simp [mine]
      exact .inl ⟨running, unchanged⟩

/-- The induction rule for facts about the shared state: only transactions and answers move it. -/
theorem Reachable.invariant {S : System ε T Q κ σ γ} {ok : Shared T Q σ γ → Event T Q → Prop}
    (I : Shared T Q σ γ → Prop) (init : ∀ s e, S.start s e → I ⟨s, e, []⟩)
    (commit : ∀ {w p} {β : Type} {tx : T β} {k}, Reachable S ok w →
      w.procs p = some (.commit tx k) → ok w.shared (.commit tx (S.exec tx w.shared.store).2) →
      I w.shared → I (w.shared.commit S tx))
    (call : ∀ {w p} {β : Type} {q : Q β} {k b env}, Reachable S ok w →
      w.procs p = some (.call q k) → S.answer w.shared.env q b env → ok w.shared (.call q b) →
      I w.shared → I (w.shared.call q b env))
    {w : World ε T Q κ σ γ} (h : Reachable S ok w) : I w.shared := by
  induction h with
  | start first => exact init _ _ first
  | step before step ih =>
    cases step with
    | spawn => exact ih
    | commit at_tx allowed => exact commit before at_tx allowed ih
    | call at_q answered allowed => exact call before at_q answered allowed ih
    | lock => exact ih
    | unlock => exact ih
    | stop => exact ih

/-! ### Scheduled runs

A world that only starts processes and then follows a schedule against a deterministic
environment is computed, so a run can be evaluated. -/

/-- The opening world with one process for each of the given programs. -/
def World.boot (s : σ) (e : γ) (ops : List (Prog ε T Q κ Unit)) : World ε T Q κ σ γ :=
  ⟨⟨s, e, []⟩, fun _ => none, fun p => ops[p]?⟩

inductive Turn where
  | step (p : ℕ)
  | crash (p : ℕ)

/-- One turn; a step of an ended or a blocked process leaves the world as it is. -/
def World.turn (S : System ε T Q κ σ γ) (oracle : {β : Type} → γ → Q β → β × γ)
    (w : World ε T Q κ σ γ) : Turn → World ε T Q κ σ γ
  | .crash p => w.stop p
  | .step p =>
    match w.procs p with
    | some (.commit tx k) =>
      { w with shared := w.shared.commit S tx }.put p (k (S.exec tx w.shared.store).2)
    | some (.call q k) =>
      let r := oracle w.shared.env q
      { w with shared := w.shared.call q r.1 r.2 }.put p (k r.1)
    | some (.lock l k) =>
      if w.holder l = none then
        { w with holder := Function.update w.holder l (some p) }.put p k
      else w
    | some (.unlock l k) =>
      if w.holder l = some p then
        { w with holder := Function.update w.holder l none }.put p k
      else w
    | _ => w

def World.event (S : System ε T Q κ σ γ) (oracle : {β : Type} → γ → Q β → β × γ)
    (w : World ε T Q κ σ γ) : Turn → Option (Event T Q)
  | .crash _ => none
  | .step p =>
    match w.procs p with
    | some (.commit tx _) => some (.commit tx (S.exec tx w.shared.store).2)
    | some (.call q _) => some (.call q (oracle w.shared.env q).1)
    | _ => none

def World.play (S : System ε T Q κ σ γ) (oracle : {β : Type} → γ → Q β → β × γ)
    (w : World ε T Q κ σ γ) (schedule : List Turn) : World ε T Q κ σ γ :=
  schedule.foldl (World.turn S oracle) w

def World.passes (S : System ε T Q κ σ γ) (oracle : {β : Type} → γ → Q β → β × γ)
    (ok : Shared T Q σ γ → Event T Q → Bool) (w : World ε T Q κ σ γ) : List Turn → Bool
  | [] => true
  | t :: schedule => (w.event S oracle t).all (ok w.shared) &&
      (w.turn S oracle t).passes S oracle ok schedule

def World.pending (w : World ε T Q κ σ γ) (p : ℕ) : Option (Σ β, T β) :=
  match w.procs p with
  | some (.commit tx _) => some ⟨_, tx⟩
  | _ => none

def World.asking (w : World ε T Q κ σ γ) (p : ℕ) : Option (Σ β, Q β) :=
  match w.procs p with
  | some (.call q _) => some ⟨_, q⟩
  | _ => none

omit [DecidableEq κ] in
theorem World.pending_spec {w : World ε T Q κ σ γ} {p : ℕ} {tx : Σ β, T β}
    (pending : w.pending p = some tx) : ∃ k, w.procs p = some (.commit tx.2 k) := by
  unfold World.pending at pending
  split at pending
  · rename_i k at_tx
    cases pending
    exact ⟨k, at_tx⟩
  · exact nomatch pending

omit [DecidableEq κ] in
theorem World.pending_passes {w : World ε T Q κ σ γ} {p : ℕ} {test : (Σ β, T β) → Bool}
    (passes : (w.pending p).any test) :
    ∃ (β : Type) (tx : T β) (k : β → Prog ε T Q κ Unit),
      w.procs p = some (.commit tx k) ∧ test ⟨β, tx⟩ := by
  cases pending : w.pending p with
  | none => simp [pending] at passes
  | some tx =>
    obtain ⟨k, at_tx⟩ := World.pending_spec pending
    rw [pending] at passes
    exact ⟨tx.1, tx.2, k, at_tx, passes⟩

theorem World.boot_reachable {S : System ε T Q κ σ γ}
    {ok : Shared T Q σ γ → Event T Q → Prop} {s : σ} {e : γ} (first : S.start s e)
    (ops : List (Prog ε T Q κ Unit)) (known : ∀ op ∈ ops, S.ops op) :
    Reachable S ok (World.boot s e ops) := by
  induction ops using List.reverseRecOn with
  | nil =>
    have opening : Reachable S ok ⟨⟨s, e, []⟩, fun _ => none, fun _ => none⟩ := .start first
    simpa [World.boot] using opening
  | append_singleton ops op ih =>
    have before := ih fun op mem => known op (List.mem_append_left _ mem)
    have step : Step S ok (World.boot s e ops) ((World.boot s e ops).put ops.length op) :=
      .spawn (known op (by simp)) (by simp [World.boot]) (by simp [World.boot])
    have started : World.boot s e (ops ++ [op]) = (World.boot s e ops).put ops.length op := by
      simp only [World.boot, World.put, World.mk.injEq, true_and]
      funext p
      rcases lt_trichotomy p ops.length with below | rfl | above
      · simp [Function.update_of_ne below.ne, List.getElem?_append_left below]
      · simp
      · rw [Function.update_of_ne above.ne', List.getElem?_append_right above.le,
          List.getElem?_eq_none (by simp; omega), List.getElem?_eq_none above.le]
    exact started ▸ before.step step

theorem World.turn_step {S : System ε T Q κ σ γ} {oracle : {β : Type} → γ → Q β → β × γ}
    {ok : Shared T Q σ γ → Event T Q → Prop}
    (sound : ∀ {β : Type} (e : γ) (q : Q β), S.answer e q (oracle e q).1 (oracle e q).2)
    (w : World ε T Q κ σ γ) (t : Turn)
    (allowed : ∀ e, w.event S oracle t = some e → ok w.shared e) :
    w.turn S oracle t = w ∨ Step S ok w (w.turn S oracle t) := by
  cases t with
  | crash p => exact .inr .stop
  | step p =>
    unfold World.turn
    dsimp only
    split
    · rename_i at_tx
      exact .inr (.commit at_tx (allowed _ (by simp [World.event, at_tx])))
    · rename_i at_q
      exact .inr (.call at_q (sound _ _) (allowed _ (by simp [World.event, at_q])))
    · rename_i at_l
      split
      · rename_i free
        exact .inr (.lock at_l free)
      · exact .inl rfl
    · rename_i at_l
      split
      · rename_i mine
        exact .inr (.unlock at_l mine)
      · exact .inl rfl
    · exact .inl rfl

theorem World.turn_reachable {S : System ε T Q κ σ γ} {oracle : {β : Type} → γ → Q β → β × γ}
    {ok : Shared T Q σ γ → Event T Q → Prop}
    (sound : ∀ {β : Type} (e : γ) (q : Q β), S.answer e q (oracle e q).1 (oracle e q).2)
    {w : World ε T Q κ σ γ} (h : Reachable S ok w) (t : Turn)
    (allowed : ∀ e, w.event S oracle t = some e → ok w.shared e) :
    Reachable S ok (w.turn S oracle t) := by
  obtain same | step := World.turn_step sound w t allowed
  · rw [same]
    exact h
  · exact h.step step

theorem World.passes_reachable {S : System ε T Q κ σ γ} {oracle : {β : Type} → γ → Q β → β × γ}
    {ok : Shared T Q σ γ → Event T Q → Bool}
    (sound : ∀ {β : Type} (e : γ) (q : Q β), S.answer e q (oracle e q).1 (oracle e q).2)
    (schedule : List Turn) {w : World ε T Q κ σ γ} (h : Reachable S (fun s e => ok s e) w)
    (passes : w.passes S oracle ok schedule) :
    Reachable S (fun s e => ok s e) (w.play S oracle schedule) := by
  induction schedule generalizing w with
  | nil => exact h
  | cons t schedule ih =>
    obtain ⟨first, rest⟩ := Bool.and_eq_true_iff.mp passes
    refine ih (World.turn_reachable sound h t fun e known => ?_) rest
    rw [known] at first
    exact first

theorem World.play_reachable {S : System ε T Q κ σ γ} {oracle : {β : Type} → γ → Q β → β × γ}
    (sound : ∀ {β : Type} (e : γ) (q : Q β), S.answer e q (oracle e q).1 (oracle e q).2)
    (schedule : List Turn) {w : World ε T Q κ σ γ} (h : Reachable S anyEvent w) :
    Reachable S anyEvent (w.play S oracle schedule) := by
  induction schedule generalizing w with
  | nil => exact h
  | cons t schedule ih => exact ih (World.turn_reachable sound h t fun _ _ => trivial)

end Concurrency
