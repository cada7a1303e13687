import SightMesh.Concurrency.Rules
import SightMesh.Escalation.Changes
import SightMesh.Escalation.System

/-! What every process of the bridge keeps, and what it may rely on: the rows of the external runs
with the evidence they rest on, their leases, and the reasons of every message sent. -/
namespace SightMesh.Escalation

open Concurrency Python

variable {γ β : Type}

abbrev MailHistory := List MailEvent

/-! ### The life of a run -/

/-- One step along the life of a run. A receipt may come before any process is bound. -/
inductive RunState.Follows : RunState → RunState → Prop where
  | bound : Follows subscribed running
  | ended {state} : state ∈ openStates → Follows state terminal
  | lost : Follows running lost
  | terminal : Follows terminal delivering
  | vanished : Follows lost delivering
  | notified : Follows delivering notified

abbrev RunState.Reaches : RunState → RunState → Prop := Relation.ReflTransGen RunState.Follows

theorem RunState.Follows.closes {a b : RunState} (step : Follows a b) (closed : a ∉ openStates) :
    b ∉ openStates := by
  cases step with
  | bound => exact absurd (by decide) closed
  | ended opened => exact absurd opened closed
  | lost => exact absurd (by decide) closed
  | terminal => decide
  | vanished => decide
  | notified => decide

theorem RunState.Follows.binds {a b : RunState} (step : Follows a b) : b ≠ .subscribed := by
  cases step <;> decide

theorem RunState.Reaches.closes {a b : RunState} (path : Reaches a b) (closed : a ∉ openStates) :
    b ∉ openStates := by
  induction path with
  | refl => exact closed
  | tail _ step ih => exact step.closes ih

theorem RunState.Reaches.binds {a b : RunState} (path : Reaches a b) (bound : a ≠ .subscribed) :
    b ≠ .subscribed := by
  cases path with
  | refl => exact bound
  | tail _ step => exact step.binds

/-- What no operation undoes of a row. -/
structure ExternalRun.Before (row next : ExternalRun) : Prop where
  identity : next.toRunIdentity = row.toRunIdentity
  order : row.state.Reaches next.state
  settled : row.state ∉ openStates →
    next.outcome = row.outcome ∧ next.receiptDigest = row.receiptDigest
  bound : row.state ≠ .subscribed →
    next.pid = row.pid ∧ next.processFingerprint = row.processFingerprint

namespace ExternalRun.Before

theorem refl (row : ExternalRun) : row.Before row := ⟨rfl, .refl, fun _ => ⟨rfl, rfl⟩, fun _ => ⟨rfl, rfl⟩⟩

theorem trans {a b c : ExternalRun} (first : a.Before b) (second : b.Before c) : a.Before c where
  identity := second.identity.trans first.identity
  order := first.order.trans second.order
  settled closed := by
    have before := first.settled closed
    have later := second.settled (first.order.closes closed)
    exact ⟨later.1.trans before.1, later.2.trans before.2⟩
  bound started := by
    have before := first.bound started
    have later := second.bound (first.order.binds started)
    exact ⟨later.1.trans before.1, later.2.trans before.2⟩

theorem subscriptionId {row next : ExternalRun} (h : row.Before next) :
    next.subscriptionId = row.subscriptionId := congrArg RunIdentity.subscriptionId h.identity

theorem message {row next : ExternalRun} (h : row.Before next) (closed : row.state ∉ openStates) :
    runMessage next = runMessage row := by
  have runId : next.runId = row.runId := congrArg RunIdentity.runId h.identity
  have outputRoot : next.outputRoot = row.outputRoot := congrArg RunIdentity.outputRoot h.identity
  have receiptPath : next.receiptPath = row.receiptPath :=
    congrArg RunIdentity.receiptPath h.identity
  have outcome : next.outcome = row.outcome := (h.settled closed).1
  unfold Escalation.runMessage
  rw [runId, outputRoot, receiptPath, outcome]

end ExternalRun.Before

/-! ### The evidence of a row -/

/-- The receipt a row rests on was read where the row says it is. -/
def Receipted (e : Runtime) (trace : MailHistory) (row : ExternalRun) (digest outcome : String) :
    Prop :=
  ∃ raw, .call (.readReceipt row.receiptPath) (.ok raw) ∈ trace ∧
    receiptOf e row raw = .ok ⟨outcome, digest⟩

def Vanished (trace : MailHistory) (row : ExternalRun) : Prop :=
  ∃ pid fingerprint seen, row.pid = some pid ∧ row.processFingerprint = some fingerprint ∧
    .call (.observe (.live row.subscriptionId) pid) seen ∈ trace ∧ seen ≠ some fingerprint

/-- A row that says nothing it has no evidence for. -/
structure ExternalRun.Valid (e : Runtime) (trace : MailHistory) (row : ExternalRun) : Prop where
  key : row.dedupeKey = runKey row.subscriptionId
  subscribed : row.state = .subscribed → row.pid = none
  running : row.state = .running → row.pid.isSome
  bound : ∀ pid, row.pid = some pid → 0 < pid ∧ ∃ fingerprint, fingerprint ≠ "" ∧
    row.processFingerprint = some fingerprint ∧
    .call (.observe .bind pid) (some fingerprint) ∈ trace
  opened : row.state ∈ openStates → row.outcome = none ∧ row.receiptDigest = none
  settled : row.state ∉ openStates →
    (∃ digest outcome, row.receiptDigest = some digest ∧ row.outcome = some outcome ∧
      Receipted e trace row digest outcome) ∨
    row.receiptDigest = none ∧ row.outcome = some "lost/unknown" ∧ Vanished trace row

theorem receiptOf_congr (e : Runtime) {row next : ExternalRun}
    (same : next.toRunIdentity = row.toRunIdentity) (raw : Bytes) :
    receiptOf e next raw = receiptOf e row raw := by
  have subscriptionId : next.subscriptionId = row.subscriptionId :=
    congrArg RunIdentity.subscriptionId same
  have runId : next.runId = row.runId := congrArg RunIdentity.runId same
  rw [receiptOf, receiptOf, subscriptionId, runId]

variable {e : Runtime} {trace longer : MailHistory} {row next : ExternalRun}

theorem Receipted.later {digest outcome : String} (h : Receipted e trace row digest outcome)
    (grows : trace ⊆ longer) (same : next.toRunIdentity = row.toRunIdentity) :
    Receipted e longer next digest outcome := by
  obtain ⟨raw, read, valid⟩ := h
  have receiptPath : next.receiptPath = row.receiptPath := congrArg RunIdentity.receiptPath same
  exact ⟨raw, by rw [receiptPath]; exact grows read, (receiptOf_congr e same raw).trans valid⟩

theorem Vanished.later (h : Vanished trace row) (grows : trace ⊆ longer)
    (same : next.toRunIdentity = row.toRunIdentity)
    (bound : next.pid = row.pid ∧ next.processFingerprint = row.processFingerprint) :
    Vanished longer next := by
  obtain ⟨pid, fingerprint, seen, known, named, looked, gone⟩ := h
  have subscriptionId : next.subscriptionId = row.subscriptionId :=
    congrArg RunIdentity.subscriptionId same
  exact ⟨pid, fingerprint, seen, bound.1.trans known, bound.2.trans named,
    by rw [subscriptionId]; exact grows looked, gone⟩

/-- A row keeps its evidence while it moves along columns that rest on none. -/
theorem ExternalRun.Valid.later (valid : row.Valid e trace) (grows : trace ⊆ longer)
    (identity : next.toRunIdentity = row.toRunIdentity)
    (process : next.pid = row.pid ∧ next.processFingerprint = row.processFingerprint)
    (result : next.outcome = row.outcome ∧ next.receiptDigest = row.receiptDigest)
    (opened : next.state ∈ openStates ↔ row.state ∈ openStates)
    (subscribed : next.state = .subscribed → row.state = .subscribed)
    (running : next.state = .running → row.state = .running) : next.Valid e longer where
  key := by
    have dedupeKey : next.dedupeKey = row.dedupeKey := congrArg RunIdentity.dedupeKey identity
    have subscriptionId : next.subscriptionId = row.subscriptionId :=
      congrArg RunIdentity.subscriptionId identity
    rw [dedupeKey, subscriptionId, valid.key]
  subscribed here := by rw [process.1, valid.subscribed (subscribed here)]
  running here := by
    rw [process.1]
    exact valid.running (running here)
  bound pid known := by
    obtain ⟨positive, fingerprint, named, there, seen⟩ := valid.bound pid (process.1 ▸ known)
    exact ⟨positive, fingerprint, named, process.2.trans there, grows seen⟩
  opened here := by
    rw [result.1, result.2]
    exact valid.opened (opened.mp here)
  settled closed := by
    rw [result.1, result.2]
    rcases valid.settled (fun here => closed (opened.mpr here)) with
      ⟨digest, outcome, known, told, receipted⟩ | ⟨none_, told, vanished⟩
    · exact .inl ⟨digest, outcome, known, told, receipted.later grows identity⟩
    · exact .inr ⟨none_, told, vanished.later grows identity process⟩

structure ExternalRun.Starts (row : ExternalRun) : Prop where
  key : row.dedupeKey = runKey row.subscriptionId
  state : row.state = .subscribed
  pid : row.pid = none
  result : row.outcome = none ∧ row.receiptDigest = none

theorem ExternalRun.Starts.valid (h : row.Starts) : row.Valid e trace where
  key := h.key
  subscribed _ := h.pid
  running here := by simp [h.state] at here
  bound pid known := by simp [h.pid] at known
  opened _ := h.result
  settled closed := by simp [h.state, openStates] at closed

/-- The evidence a move of a row needs. -/
def Moves (e : Runtime) (trace : MailHistory) (row : ExternalRun) : RunMove → Prop
  | .bind pid fingerprint => 0 < pid ∧ fingerprint ≠ "" ∧
      .call (.observe .bind pid) (some fingerprint) ∈ trace
  | .terminal digest outcome => Receipted e trace row digest outcome
  | .lost _ => Vanished trace row
  | .deliver => True

theorem ExternalRun.Valid.moved {move : RunMove} {now : Time} (valid : row.Valid e trace)
    (guard : row.state ∈ move.states) (moves : Moves e trace row move) (grows : trace ⊆ longer) :
    (row.moved move now).Valid e longer := by
  cases move with
  | bind pid fingerprint =>
    obtain subscribed := List.mem_singleton.mp guard
    obtain ⟨positive, named, seen⟩ := moves
    constructor
    · exact valid.key
    · exact fun here => nomatch here
    · exact fun _ => rfl
    · intro known same
      cases same
      exact ⟨positive, fingerprint, named, rfl, grows seen⟩
    · exact fun _ => valid.opened (by rw [subscribed]; decide)
    · exact fun closed => absurd (by simp [RunMove.target, openStates]) closed
  | terminal digest outcome =>
    constructor
    · exact valid.key
    · exact fun here => nomatch here
    · exact fun here => nomatch here
    · intro pid known
      obtain ⟨positive, fingerprint, named, there, seen⟩ := valid.bound pid known
      exact ⟨positive, fingerprint, named, there, grows seen⟩
    · exact fun opened => absurd opened (by simp [RunMove.target, openStates])
    · exact fun _ => .inl ⟨digest, outcome, rfl, rfl, moves.later grows rfl⟩
  | lost diagnostic =>
    constructor
    · exact valid.key
    · exact fun here => nomatch here
    · exact fun here => nomatch here
    · intro pid known
      obtain ⟨positive, fingerprint, named, there, seen⟩ := valid.bound pid known
      exact ⟨positive, fingerprint, named, there, grows seen⟩
    · exact fun opened => absurd opened (by simp [RunMove.target, openStates])
    · exact fun _ => .inr ⟨(valid.opened guard).2, rfl, moves.later grows rfl ⟨rfl, rfl⟩⟩
  | deliver =>
    have closed : row.state ∉ openStates := by
      simp only [RunMove.states, List.mem_cons, List.not_mem_nil, or_false] at guard
      rcases guard with known | known
      · simp [known, openStates]
      · simp [known, openStates]
    have delivering : (row.moved .deliver now).state ∉ openStates := by
      simp [RunMove.target, openStates]
    exact valid.later grows rfl ⟨rfl, rfl⟩ ⟨rfl, rfl⟩ (iff_of_false delivering closed)
      (fun here => nomatch here) (fun here => nomatch here)

/-- A move with its evidence is a step of the life of its row: only a run that has been bound can
have vanished. -/
theorem ExternalRun.Valid.follows {move : RunMove} (valid : row.Valid e trace)
    (guard : row.state ∈ move.states) (moves : Moves e trace row move) :
    row.state.Follows move.target := by
  cases move with
  | bind pid fingerprint =>
    rw [List.mem_singleton.mp guard]
    exact .bound
  | terminal digest outcome => exact .ended guard
  | lost diagnostic =>
    obtain ⟨pid, _, _, known, _⟩ := moves
    simp only [RunMove.states, openStates, List.mem_cons, List.not_mem_nil, or_false] at guard
    rcases guard with subscribed | running
    · exact nomatch known.symm.trans (valid.subscribed subscribed)
    · rw [running]
      exact .lost
  | deliver =>
    simp only [RunMove.states, List.mem_cons, List.not_mem_nil, or_false] at guard
    rcases guard with known | known
    · rw [known]
      exact .terminal
    · rw [known]
      exact .vanished

theorem ExternalRun.Valid.before_moved {move : RunMove} (valid : row.Valid e trace)
    (guard : row.state ∈ move.states) (moves : Moves e trace row move) (now : Time) :
    row.Before (row.moved move now) where
  identity := row.moved_identity move now
  order := .single (valid.follows guard moves)
  settled closed := by
    cases move with
    | bind pid fingerprint =>
      obtain subscribed := List.mem_singleton.mp guard
      exact absurd (by rw [subscribed]; decide) closed
    | terminal digest outcome => exact absurd guard closed
    | lost diagnostic => exact absurd guard closed
    | deliver => exact ⟨rfl, rfl⟩
  bound started := by
    cases move with
    | bind pid fingerprint => exact absurd (List.mem_singleton.mp guard) started
    | _ => exact ⟨rfl, rfl⟩

/-! ### Leases -/

/-- A run and its lease: the output root is held as long as the parent is not told. -/
def Leased : Option ExternalRun → Option OutputLease → Prop
  | none, none => True
  | some row, some lease =>
    lease.outputRoot = row.outputRoot ∧ (lease.state = .active ↔ row.state ≠ .notified)
  | _, _ => False

/-! ### The reasons of a message -/

def DurableCommand.Ordinary (command : DurableCommand) : Prop :=
  ∀ key, command.dedupeKey = .str key → isLifecycle key = false

/-- Why a lifecycle key is sent: an ordinary command has ended, a process was observed, or a
condition of a policy. -/
inductive Lifecycle (e : Runtime) (trace : MailHistory) : String → Prop where
  | command {sessionId rows row} :
      .call (.sessionCommands sessionId) (.ok rows) ∈ trace → row ∈ rows →
      (commandFields e.py sessionId row).Ordinary → (commandFields e.py sessionId row).ended →
      Lifecycle e trace (childCommandKey (commandFields e.py sessionId row).id
        (commandFields e.py sessionId row).state)
  | process {sessionId processes process} :
      .call (.executionProcesses sessionId) (.ok processes) ∈ trace → process ∈ processes →
      Lifecycle e trace (childTerminalKey sessionId (processStatus e.py process))
  | policy {policy condition} : .commit (.setPolicy policy) () ∈ trace →
      condition ∈ policy.conditions →
      Lifecycle e trace (signalPolicyKey policy.sessionId condition)

theorem Lifecycle.later {key : String} (h : Lifecycle e trace key) (grows : trace ⊆ longer) :
    Lifecycle e longer key := by
  cases h with
  | command listed mem ordinary ended => exact .command (grows listed) mem ordinary ended
  | process listed mem => exact .process (grows listed) mem
  | policy set mem => exact .policy (grows set) mem

def takes (key : String) : MailEvent → Bool
  | .call (.send site _ _ _ sent _) (.ok _) => site ≠ .notice && sent = key
  | _ => false

def taken (trace : MailHistory) (key : String) : Bool := trace.any (takes key)

theorem taken_later {key : String} (was : taken trace key) (grows : trace ⊆ longer) :
    taken longer key := by
  obtain ⟨ev, mem, takes⟩ := List.any_eq_true.mp was
  exact List.any_eq_true.mpr ⟨ev, grows mem, takes⟩

theorem taken_of_sent {site : SendSite} {sessionId message sender key intent : String}
    {followUp : Json} (other : site ≠ .notice)
    (sent : .call (.send site sessionId message sender key intent) (.ok followUp) ∈ trace) :
    taken trace key :=
  List.any_eq_true.mpr ⟨_, sent, by simp [takes, other]⟩

/-- What is known of a message when it is sent. -/
def Told (e : Runtime) (s : MailShared γ) (message : String) (sender : SessionId) (key : String) :
    SendSite → Prop
  | .run id => sender = runKey id ∧ ∃ row, s.store.run id = some row ∧ row.state ∉ openStates ∧
      key = row.dedupeKey ∧ message = runMessage row
  | .session | .notice => isLifecycle key → Lifecycle e s.trace key

/-! ### The protocol -/

structure Evolves (s s' : MailShared γ) : Prop where
  rows : ∀ id row, s.store.run id = some row →
    ∃ next, s'.store.run id = some next ∧ row.Before next
  grows : s.trace <:+ s'.trace

theorem Evolves.refl (s : MailShared γ) : Evolves s s where
  rows _ row known := ⟨row, known, .refl row⟩
  grows := List.suffix_refl _

theorem Evolves.trans {a b c : MailShared γ} (first : Evolves a b) (second : Evolves b c) :
    Evolves a c where
  rows id row known := by
    obtain ⟨mid, found, before⟩ := first.rows id row known
    obtain ⟨next, there, after⟩ := second.rows id mid found
    exact ⟨next, there, before.trans after⟩
  grows := first.grows.trans second.grows

theorem Told.later {s s' : MailShared γ} {message key : String} {sender : SessionId}
    {site : SendSite} (told : Told e s message sender key site) (later : Evolves s s') :
    Told e s' message sender key site := by
  cases site with
  | run id =>
    obtain ⟨named, row, known, closed, keyed, text⟩ := told
    obtain ⟨next, there, before⟩ := later.rows id row known
    have dedupeKey : next.dedupeKey = row.dedupeKey := congrArg RunIdentity.dedupeKey before.identity
    exact ⟨named, next, there, before.order.closes closed, by rw [dedupeKey, keyed],
      by rw [before.message closed, text]⟩
  | session => exact fun lifecycle => (told lifecycle).later later.grows.subset
  | notice => exact fun lifecycle => (told lifecycle).later later.grows.subset

structure Sane (e : Runtime) (s : MailShared γ) : Prop where
  rows : ∀ id row, s.store.run id = some row → row.Valid e s.trace
  leases : ∀ id, Leased (s.store.run id) (s.store.lease id)
  policies : ∀ sessionId policy, s.store.policies.get sessionId = some policy →
    .commit (.setPolicy policy) () ∈ s.trace
  sends : ∀ site sessionId message sender key intent answer,
    .call (.send site sessionId message sender key intent) answer ∈ s.trace →
      Told e s message sender key site
  acks : ∀ key, s.store.acked key → taken s.trace key

def Issued (e : Runtime) (s : MailShared γ) : MailTx β → Prop
  | .subscribe row => row.Starts
  | .moveRun id move _ _ => ∀ row, s.store.run id = some row → Moves e s.trace row move
  | .acknowledge request _ => taken s.trace request.dedupeKey
  | _ => True

def Asks (e : Runtime) (s : MailShared γ) : MailQuery β → Prop
  | .send site _ message sender key _ => Told e s message sender key site
  | .observe (.live id) pid =>
    ∃ row, s.store.run id = some row ∧ row.pid = some pid ∧ row.state ≠ .subscribed
  | _ => True

theorem Issued.subscribes {s : MailShared γ} {tx : MailTx β} (issued : Issued e s tx)
    (inserts : tx.subscribes = some row) : row.Starts := by
  cases tx with
  | subscribe other =>
    cases inserts
    exact issued
  | _ => exact nomatch inserts

theorem Issued.moves {s : MailShared γ} {tx : MailTx β} (issued : Issued e s tx) {id : String}
    {move : RunMove} {expected : ℕ} (moves : tx.moves = some (id, move, expected))
    (known : s.store.run id = some row) : Moves e s.trace row move := by
  cases tx with
  | moveRun moved move' expected' now =>
    cases moves
    exact issued row known
  | _ => exact nomatch moves

theorem Issued.acknowledges {s : MailShared γ} {tx : MailTx β} (issued : Issued e s tx)
    {key : String} (acknowledges : tx.acknowledges = some key) : taken s.trace key := by
  cases tx with
  | acknowledge request now =>
    cases acknowledges
    exact issued
  | _ => exact nomatch acknowledges

abbrev MailShared.after (s : MailShared γ) (tx : MailTx β) : MailShared γ :=
  { s with
    store := (tx.exec s.store).1
    trace := .commit tx (tx.exec s.store).2 :: s.trace }

section

variable {s : MailShared γ} {tx : MailTx β}

theorem evolves_after (sane : Sane e s) (issued : Issued e s tx) :
    Evolves s (MailShared.after s tx) where
  rows id row known := by
    have change := runChange tx s.store id
    rw [known] at change
    dsimp only
    generalize (tx.exec s.store).1.run id = left at change ⊢
    generalize (tx.exec s.store).1.lease id = lease at change
    cases change with
    | kept => exact ⟨row, rfl, .refl row⟩
    | moved issues guard =>
      exact ⟨_, rfl, (sane.rows id row known).before_moved guard (issued.moves issues known) _⟩
    | diagnosed => exact ⟨_, rfl, rfl, .refl, fun _ => ⟨rfl, rfl⟩, fun _ => ⟨rfl, rfl⟩⟩
    | notified delivering =>
      exact ⟨_, rfl, rfl, .single (delivering ▸ .notified), fun _ => ⟨rfl, rfl⟩,
        fun _ => ⟨rfl, rfl⟩⟩
  grows := List.suffix_cons _ _

theorem rows_after (sane : Sane e s) (issued : Issued e s tx) {id : String}
    (known : (tx.exec s.store).1.run id = some next) :
    next.Valid e (MailShared.after s tx).trace := by
  have grows : s.trace ⊆ (MailShared.after s tx).trace := (evolves_after sane issued).grows.subset
  have change := runChange tx s.store id
  have before := sane.rows id
  have moves : ∀ row move expected, tx.moves = some (id, move, expected) →
      s.store.run id = some row → Moves e s.trace row move :=
    fun _ _ _ issues known => issued.moves issues known
  rw [known] at change
  generalize s.store.run id = row at change before moves
  generalize s.store.lease id = lease at change
  generalize (tx.exec s.store).1.lease id = lease' at change
  cases change with
  | kept =>
    exact (before next rfl).later grows rfl ⟨rfl, rfl⟩ ⟨rfl, rfl⟩ Iff.rfl (fun here => here)
      (fun here => here)
  | subscribed inserts named => exact (issued.subscribes inserts).valid
  | moved issues guard => exact (before _ rfl).moved guard (moves _ _ _ issues rfl) grows
  | diagnosed =>
    exact (before _ rfl).later grows rfl ⟨rfl, rfl⟩ ⟨rfl, rfl⟩ Iff.rfl (fun here => here)
      (fun here => here)
  | @notified row _ now delivering =>
    have closed : row.state ∉ openStates := by rw [delivering]; decide
    have told : RunState.notified ∉ openStates := by decide
    exact (before _ rfl).later grows rfl ⟨rfl, rfl⟩ ⟨rfl, rfl⟩ (iff_of_false told closed)
      (fun here => nomatch here) (fun here => nomatch here)

theorem leases_after (sane : Sane e s) (issued : Issued e s tx) (id : String) :
    Leased ((tx.exec s.store).1.run id) ((tx.exec s.store).1.lease id) := by
  have change := runChange tx s.store id
  have before := sane.leases id
  generalize s.store.run id = row at change before
  generalize s.store.lease id = lease at change before
  generalize (tx.exec s.store).1.run id = row' at change ⊢
  generalize (tx.exec s.store).1.lease id = lease' at change ⊢
  cases change with
  | kept => exact before
  | subscribed inserts named =>
    have starts := (issued.subscribes inserts).state
    simp [Leased, starts]
  | @moved row lease move now _ guard =>
    cases lease with
    | none => exact before.elim
    | some lease =>
      have still : row.state ≠ .notified := by
        intro told
        rw [told] at guard
        cases move <;> simp [RunMove.states, openStates] at guard
      have later : move.target ≠ .notified := by cases move <;> simp [RunMove.target]
      obtain ⟨root, held⟩ := before
      have outputRoot : (row.moved move now).outputRoot = row.outputRoot :=
        congrArg RunIdentity.outputRoot (row.moved_identity move now)
      exact ⟨root.trans outputRoot.symm, held.trans (iff_of_true still later)⟩
  | @diagnosed row lease message now =>
    cases lease with
    | none => exact before.elim
    | some lease => exact before
  | @notified row lease now delivering =>
    cases lease with
    | none => exact before.elim
    | some lease =>
      have root : lease.released.outputRoot = lease.outputRoot := by
        unfold OutputLease.released
        split <;> rfl
      exact ⟨root.trans before.1, by simp [lease.released_state]⟩

theorem policies_after (sane : Sane e s) {sessionId : SessionId} {policy : SignalPolicy}
    (known : (tx.exec s.store).1.policies.get sessionId = some policy) :
    .commit (.setPolicy policy) () ∈ (MailShared.after s tx).trace := by
  have kept : s.store.policies.get sessionId = some policy →
      .commit (.setPolicy policy) () ∈ (MailShared.after s tx).trace :=
    fun before => List.mem_cons_of_mem _ (sane.policies sessionId policy before)
  cases tx with
  | setPolicy other =>
    simp only [MailTx.exec, Database.Table.get_put] at known
    split at known
    · cases known
      exact List.mem_cons_self
    · exact kept known
  | clearPolicy cleared =>
    simp only [MailTx.exec, Database.Table.get_erase] at known
    split at known
    · cases known
    · exact kept known
  | subscribe row =>
    obtain left | ⟨_, _, left⟩ := s.store.subscribe_cases row
    · exact kept (by rwa [MailTx.exec, left] at known)
    · exact kept (by rwa [MailTx.exec, left] at known)
  | moveRun id move expected now =>
    obtain ⟨_, _, _, _, left⟩ | left := s.store.moveRun_cases id move expected now
    · exact kept (by rwa [MailTx.exec, left] at known)
    · exact kept (by rwa [MailTx.exec, left] at known)
  | diagnose id expected message now =>
    obtain ⟨_, _, _, left⟩ | left := s.store.diagnose_cases id expected message now
    · exact kept (by rwa [MailTx.exec, left] at known)
    · exact kept (by rwa [MailTx.exec, left] at known)
  | markNotified id expected now =>
    obtain ⟨_, _, _, _, left⟩ | left := s.store.markNotified_cases id expected now
    · exact kept (by rwa [MailTx.exec, left] at known)
    · exact kept (by rwa [MailTx.exec, left] at known)
  | _ => exact kept known

theorem Sane.after (sane : Sane e s) (issued : Issued e s tx) : Sane e (MailShared.after s tx) where
  rows _ _ known := rows_after sane issued known
  leases id := leases_after sane issued id
  policies _ _ known := policies_after sane known
  sends site sessionId message sender key intent answer sent := by
    rcases List.mem_cons.mp sent with same | sent
    · exact nomatch same
    · exact (sane.sends _ _ _ _ _ _ _ sent).later (evolves_after sane issued)
  acks key acked := by
    refine taken_later ?_ (List.subset_cons_self _ _)
    obtain before | acknowledges := ((mailed tx s.store).acks key).mp acked
    · exact sane.acks key before
    · exact issued.acknowledges acknowledges

theorem evolves_call (s : MailShared γ) (q : MailQuery β) (b : β) (env : γ) :
    Evolves s (s.call q b env) where
  rows _ row known := ⟨row, known, .refl row⟩
  grows := List.suffix_cons _ _

theorem Sane.asked {q : MailQuery β} (sane : Sane e s) (asked : Asks e s q) (b : β) (env : γ) :
    Sane e (s.call q b env) where
  rows id row known := (sane.rows id row known).later (List.subset_cons_self _ _) rfl ⟨rfl, rfl⟩
    ⟨rfl, rfl⟩ Iff.rfl (fun here => here) (fun here => here)
  leases := sane.leases
  policies sessionId policy known := List.mem_cons_of_mem _ (sane.policies sessionId policy known)
  sends site sessionId message sender key intent answer sent := by
    refine Told.later ?_ (evolves_call s q b env)
    rcases List.mem_cons.mp sent with same | sent
    · cases same
      exact asked
    · exact sane.sends _ _ _ _ _ _ _ sent
  acks key acked := taken_later (sane.acks key acked) (List.subset_cons_self _ _)

end

/-- The protocol of the bridge. -/
def bookkeeping (e : Runtime) (x : Outside γ) : Protocol (bridge e x) where
  inv := Sane e
  evolves := Evolves
  frozen _ _ _ := True
  pre _ _ tx s := Issued e s tx
  preCall _ _ q s := Asks e s q
  evolves_refl := .refl
  evolves_trans := .trans
  frozen_refl _ _ := trivial
  frozen_trans _ _ _ _ := trivial
  init := by
    rintro db c rfl
    constructor
    · exact fun id row known => nomatch known
    · exact fun id => trivial
    · exact fun sessionId policy known => nomatch known
    · exact fun _ _ _ _ _ _ _ sent => nomatch sent
    · exact fun key acked => nomatch acked
  commit sane issued := ⟨sane.after issued, evolves_after sane issued, fun _ _ => trivial⟩
  call sane asked _ := ⟨sane.asked asked _ _, evolves_call _ _ _ _, fun _ _ => trivial⟩

end SightMesh.Escalation
