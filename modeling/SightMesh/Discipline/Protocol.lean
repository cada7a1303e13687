import SightMesh.Discipline.Delivery

/-! The protocol every operation of the kernel keeps: what holds of the databases in every
interleaving, what a task fence keeps still, and what is known of the row a transaction is
issued for. -/
namespace SightMesh

open Concurrency Database Python

variable {γ : Type}

/-! ### What the events say -/

/-- The ids the executor named for a launch. -/
def answeredIds : Event Tx Query → Option ((TaskId × ℕ) × WorkspaceId × SessionId)
  | .call (.managedLaunch taskId epoch _) (.ok native) =>
    if native.state = "active" then
      some ((taskId, epoch), native.workspaceId, native.sessionId)
    else none
  | .call (.managedEffect taskId epoch) (.ok native) =>
    if native.state = "active" then
      some ((taskId, epoch), native.workspaceId, native.sessionId)
    else none
  | _ => none

/-- What the executor answered about a launch. -/
def launchAnswer : Event Tx Query → Option ((TaskId × ℕ) × Native)
  | .call (.managedLaunch taskId epoch _) (.ok native) => some ((taskId, epoch), native)
  | .call (.managedEffect taskId epoch) (.ok native) => some ((taskId, epoch), native)
  | _ => none

def journaledIds : Event Tx Query → Option ((TaskId × ℕ) × WorkspaceId × SessionId)
  | .commit tx answer => tx.launched answer
  | .call _ _ => none

def failedEpoch : Event Tx Query → Option (TaskId × ℕ)
  | .commit tx answer => tx.failed answer
  | .call _ _ => none

def Answered (trace : History) (key : TaskId × ℕ) (workspaceId : WorkspaceId)
    (sessionId : SessionId) : Prop :=
  ∃ e ∈ trace, answeredIds e = some (key, workspaceId, sessionId)

/-- The executor named the workspace for the launch, whatever the state it reported. -/
def Placed (trace : History) (key : TaskId × ℕ) (workspaceId : WorkspaceId) : Prop :=
  workspaceId ≠ "" ∧ ∃ e ∈ trace, ∃ native, launchAnswer e = some (key, native) ∧
    native.workspaceId = workspaceId

def Journaled (trace : History) (sessionId : SessionId) : Prop :=
  ∃ e ∈ trace, ∃ key workspaceId, journaledIds e = some (key, workspaceId, sessionId)

def Failed (trace : History) (key : TaskId × ℕ) : Prop := ∃ e ∈ trace, failedEpoch e = some key

/-! ### Snapshots -/

/-- What a row may become while others work. -/
structure TaskRow.Before (row next : TaskRow) : Prop where
  identity : next.toIdentity = row.toIdentity
  epoch : row.epoch ≤ next.epoch
  version : row.version ≤ next.version
  still : next.version = row.version → next.toLifecycle = row.toLifecycle
  events : row.childEventSeq ≤ next.childEventSeq

theorem TaskRow.Before.refl (row : TaskRow) : row.Before row :=
  ⟨rfl, le_rfl, le_rfl, fun _ => rfl, le_rfl⟩

theorem TaskRow.Before.trans {a b c : TaskRow} (first : a.Before b) (second : b.Before c) :
    a.Before c where
  identity := second.identity.trans first.identity
  epoch := first.epoch.trans second.epoch
  version := first.version.trans second.version
  still same := by
    have low := first.version
    have high := second.version
    exact (second.still (by omega)).trans (first.still (by omega))
  events := first.events.trans second.events

theorem Tx.Steps.before {β : Type} {tx : Tx β} {answer : β} {row next : TaskRow}
    (h : tx.Steps answer row next) : row.Before next :=
  ⟨h.identity, h.epoch, h.version, h.unmoved, h.events⟩

/-- The row has the lifecycle of the record, or has moved past it. -/
def Snapshot (db : Store) (seen : TaskRecord) : Prop :=
  ∃ row, db.task seen.taskId = some row ∧ row.toIdentity = seen.toIdentity ∧
    seen.epoch ≤ row.epoch ∧ seen.version ≤ row.version ∧
    (row.version = seen.version → row.toLifecycle = seen.toLifecycle)

def Current (db : Store) (seen : TaskRecord) : Prop :=
  ∃ row, db.task seen.taskId = some row ∧ row.toIdentity = seen.toIdentity ∧
    row.toLifecycle = seen.toLifecycle

theorem Current.snapshot {db : Store} {seen : TaskRecord} (h : Current db seen) :
    Snapshot db seen := by
  obtain ⟨row, known, identity, lifecycle⟩ := h
  have epoch : row.epoch = seen.epoch := congrArg Lifecycle.epoch lifecycle
  have version : row.version = seen.version := congrArg Lifecycle.version lifecycle
  exact ⟨row, known, identity, epoch.ge, version.ge, fun _ => lifecycle⟩

theorem current_of_task {db : Store} {t : TaskId} {row : TaskRow} (known : db.task t = some row) :
    Current db row.toTaskRecord := by
  have named := Store.taskId_of_task known
  refine ⟨row, ?_, rfl, rfl⟩
  rw [show row.toTaskRecord.taskId = t from named]
  exact known

/-! ### The relation between two states -/

/-- What no operation undoes. -/
structure Evolves (s s' : Shared Tx Query Store γ) : Prop where
  rows : ∀ t row, s.store.task t = some row → ∃ next, s'.store.task t = some next ∧ row.Before next
  wakes : ∀ v ∈ s.store.wakes.rows, ∃ w ∈ s'.store.wakes.rows, v.Later w
  wiring : s'.store.ownershipShared = s.store.ownershipShared
  grows : s.trace <:+ s'.trace

theorem Evolves.refl (s : Shared Tx Query Store γ) : Evolves s s where
  rows _ row known := ⟨row, known, .refl row⟩
  wakes v mem := ⟨v, mem, .refl v⟩
  wiring := rfl
  grows := List.suffix_refl _

theorem Evolves.trans {a b c : Shared Tx Query Store γ} (first : Evolves a b)
    (second : Evolves b c) : Evolves a c where
  rows t row known := by
    obtain ⟨mid, known, before⟩ := first.rows t row known
    obtain ⟨next, known, after⟩ := second.rows t mid known
    exact ⟨next, known, before.trans after⟩
  wakes v mem := by
    obtain ⟨u, mem, before⟩ := first.wakes v mem
    obtain ⟨w, mem, after⟩ := second.wakes u mem
    exact ⟨w, mem, before.trans after⟩
  wiring := second.wiring.trans first.wiring
  grows := first.grows.trans second.grows

theorem Evolves.trace {s s' : Shared Tx Query Store γ} (later : Evolves s s') :
    s.trace ⊆ s'.trace := later.grows.subset

/-- What the holder of a fence relies on: the row of its task is not moved. -/
def Frozen : LockKey → Shared Tx Query Store γ → Shared Tx Query Store γ → Prop
  | .admission, _, _ => True
  | .task t, s, s' => ∀ row next, s.store.task t = some row → s'.store.task t = some next →
      next.version = row.version

theorem Frozen.of_store {l : LockKey} {s s' : Shared Tx Query Store γ}
    (same : s'.store = s.store) : Frozen l s s' := by
  cases l with
  | admission => trivial
  | task t =>
    intro row next known known'
    rw [same] at known'
    rw [Option.some.inj (known.symm.trans known')]

theorem Frozen.trans {l : LockKey} {a b c : Shared Tx Query Store γ} (forward : Evolves a b)
    (first : Frozen l a b) (second : Frozen l b c) : Frozen l a c := by
  cases l with
  | admission => trivial
  | task t =>
    intro row next known known'
    obtain ⟨mid, found, _⟩ := forward.rows t row known
    exact (second mid next found known').trans (first row mid known found)

theorem Snapshot.evolves {s s' : Shared Tx Query Store γ} {seen : TaskRecord}
    (h : Snapshot s.store seen) (later : Evolves s s') : Snapshot s'.store seen := by
  obtain ⟨row, known, identity, epoch, version, still⟩ := h
  obtain ⟨next, known, before⟩ := later.rows _ row known
  refine ⟨next, known, before.identity.trans identity, epoch.trans before.epoch,
    version.trans before.version, fun same => ?_⟩
  have low := before.version
  exact (before.still (by omega)).trans (still (by omega))

theorem Current.frozen {s s' : Shared Tx Query Store γ} {seen : TaskRecord}
    (h : Current s.store seen) (later : Evolves s s') (held : Frozen (.task seen.taskId) s s') :
    Current s'.store seen := by
  obtain ⟨row, known, identity, lifecycle⟩ := h
  obtain ⟨next, known', before⟩ := later.rows _ row known
  have same := held row next known known'
  exact ⟨next, known', before.identity.trans identity, (before.still same).trans lifecycle⟩

theorem Answered.mono {trace trace' : History} {key : TaskId × ℕ} {workspaceId : WorkspaceId}
    {sessionId : SessionId} (h : Answered trace key workspaceId sessionId)
    (later : trace ⊆ trace') : Answered trace' key workspaceId sessionId := by
  obtain ⟨e, mem, named⟩ := h
  exact ⟨e, later mem, named⟩

theorem Placed.mono {trace trace' : History} {key : TaskId × ℕ} {workspaceId : WorkspaceId}
    (h : Placed trace key workspaceId) (later : trace ⊆ trace') : Placed trace' key workspaceId := by
  obtain ⟨named, e, mem, answered⟩ := h
  exact ⟨named, e, later mem, answered⟩

theorem Answered.placed {trace : History} {key : TaskId × ℕ} {workspaceId : WorkspaceId}
    {sessionId : SessionId} (h : Answered trace key workspaceId sessionId)
    (placed : workspaceId ≠ "") : Placed trace key workspaceId := by
  obtain ⟨e, mem, named⟩ := h
  refine ⟨placed, e, mem, ?_⟩
  cases e with
  | commit => exact nomatch named
  | call q b =>
    cases q with
    | managedLaunch | managedEffect =>
      rcases b with _ | native
      · exact nomatch named
      · simp only [answeredIds, Option.ite_none_right_eq_some, Option.some.injEq, Prod.mk.injEq]
          at named
        obtain ⟨_, rfl, rfl, _⟩ := named
        exact ⟨native, rfl, rfl⟩
    | _ => exact nomatch named

theorem Journaled.mono {trace trace' : History} {sessionId : SessionId}
    (h : Journaled trace sessionId) (later : trace ⊆ trace') : Journaled trace' sessionId := by
  obtain ⟨e, mem, named⟩ := h
  exact ⟨e, later mem, named⟩

theorem Failed.mono {trace trace' : History} {key : TaskId × ℕ} (h : Failed trace key)
    (later : trace ⊆ trace') : Failed trace' key := by
  obtain ⟨e, mem, named⟩ := h
  exact ⟨e, later mem, named⟩

/-! ### The invariant -/

/-- A wake counts no event its parent has not. -/
def CountedWake (db : Store) (w : Wake) : Prop :=
  ∀ n, w.eventSeq = some n → ∃ row, db.task w.parentTaskId = some row ∧ n ≤ row.childEventSeq

structure Sane (s : Shared Tx Query Store γ) : Prop where
  /-- A parent is another row. -/
  parents : ∀ t row p, s.store.task t = some row → row.parentTaskId = some p →
    p ≠ t ∧ (s.store.task p).isSome
  /-- No manager was woken for an event that has not happened. -/
  woken : ∀ t row, s.store.task t = some row → row.lastWokenSeq ≤ row.childEventSeq
  wakes : ∀ w ∈ s.store.wakes.rows, CountedWake s.store w
  /-- A session of the journal was launched. -/
  sessions : ∀ t n effect sessionId, s.store.effect t n = some effect →
    effect.sessionId = some sessionId → Journaled s.trace sessionId
  /-- A linked successor was launched. -/
  successors : ∀ source record successor, s.store.ownership source = some record →
    record.successorSessionId = some successor → Journaled s.trace successor
  /-- A typed outcome of the journal was recorded as a failure. -/
  outcomes : ∀ t n effect, s.store.effect t n = some effect → effect.state = .terminal →
    (routingOutcome effect.outcome).isSome → Failed s.trace (t, n)
  replayed : s.store = replay s.store.ownershipShared s.trace
  /-- A text that is chosen, and may still be sent, was rendered. -/
  chosen : ∀ w ∈ s.store.wakes.rows, w.state.settled = false → ∀ text, w.payload = some text →
    Rendered s.store.ownershipShared s.trace w text
  /-- What was sent for a wake is the text its row keeps. -/
  sends : ∀ wakeId holder text key answer,
    .call (.send (.wake wakeId) holder text key) answer ∈ s.trace →
      key = toString wakeId ∧ ∃ w ∈ s.store.wakes.rows, w.wakeId = wakeId ∧ w.payload = some text
  /-- A manager that was woken for an event was sent a wake for it. -/
  told : ∀ t row, s.store.task t = some row → row.lastWokenSeq ≠ 0 →
    ∃ w ∈ s.store.wakes.rows, w.parentTaskId = t ∧ w.eventSeq = some row.lastWokenSeq ∧
      SentWake s.store.ownershipShared s.trace w

/-! ### Preconditions -/

/-- What is known of the row a finish is issued for, by its call site. -/
def FinishSite.Known (s : Shared Tx Query Store γ) (seen : TaskRecord) (state : TaskState)
    (chargeFailure : Bool) : FinishSite → Prop
  | .lifecycle => Current s.store seen ∧ chargeFailure = false ∧
      (state = .completed ∨ state = .blocked ∨ state = .cancelled)
  | .approval _ => Current s.store seen ∧ chargeFailure = false ∧ state = .blocked
  | .exhausted => Current s.store seen ∧ chargeFailure = false ∧ state = .exhausted ∧
      seen.attempts < seen.maxAttempts ∧ seen.state = .active ∧
      Failed s.trace (seen.taskId, seen.epoch)
  | .processFailure => chargeFailure = true ∧ state = .blocked
  | .unroutable => Current s.store seen ∧ chargeFailure = true ∧ state = .blocked ∧
      seen.state = .active ∧ Failed s.trace (seen.taskId, seen.epoch)
  | .replacementEnded => Current s.store seen ∧ chargeFailure = true ∧ state = .blocked ∧
      seen.state = .replacing
  | .launchRejected => Current s.store seen ∧ chargeFailure = true ∧ state = .blocked ∧
      Failed s.trace (seen.taskId, seen.epoch)
  | .nativeLost => chargeFailure = false ∧ state = .lost ∧
      Failed s.trace (seen.taskId, seen.epoch)

/-- What holds whenever a transaction is issued. -/
def Issued (py : Library) (H : Set LockKey) (s : Shared Tx Query Store γ) {β : Type} :
    Tx β → Prop
  | .activate site seen _ sessionId _ => .task seen.taskId ∈ H ∧ Snapshot s.store seen ∧
      (site = .adoptExpired → Current s.store seen) ∧ Journaled s.trace sessionId
  | .prepareReplacement seen _ chargeFailure _ => .task seen.taskId ∈ H ∧ Snapshot s.store seen ∧
      (chargeFailure → seen.state = .active ∧ seen.attempts + 1 < seen.maxAttempts ∧
        Failed s.trace (seen.taskId, seen.epoch))
  | .resumeReplacement seen .. | .reissue seen .. | .checkpointRow seen .. =>
      .task seen.taskId ∈ H ∧ Snapshot s.store seen
  | .prepareCheckpoint seen .. => .task seen.taskId ∈ H
  | .checkpointOccurrence operation receipt _ => .task operation.taskId ∈ H ∧
      verifiedReceipt py operation receipt = .ok receipt
  | .finish site seen state _ chargeFailure _ => .task seen.taskId ∈ H ∧ Snapshot s.store seen ∧
      site.Known s seen state chargeFailure
  | .finishExpired seen _ => .task seen.taskId ∈ H ∧ Snapshot s.store seen ∧
      Failed s.trace (seen.taskId, seen.epoch)
  | .recordLoss seen reason _ _ => .task seen.taskId ∈ H ∧ Current s.store seen ∧
      seen.state = .active ∧ startsWith "lost:" reason
  | .reserveAll _ parentTaskId _ maxAttempts _ => 0 < maxAttempts ∧
      ∀ t, parentTaskId = some t → WasActive s.store.ownershipShared s.trace t
  | .markLaunched taskId epoch workspaceId sessionId _ =>
      Answered s.trace (taskId, epoch) workspaceId sessionId ∧ workspaceId ≠ "" ∧ sessionId ≠ ""
  | .markSuperseded taskId epoch workspaceId _
  | .markCleanupWorkspace taskId epoch workspaceId _ =>
      Placed s.trace (taskId, epoch) workspaceId
  | .retire record => record.successorSessionId = none
  | .linkSuccessor _ successor => Journaled s.trace successor
  | .persistPayload wake selected => KnownWake s.store wake ∧
      Rendered s.store.ownershipShared s.trace wake selected
  | .settleWake wake state .. => CountedWake s.store wake ∧ KnownWake s.store wake ∧
      (state = .resolved ∨
        state = .delivered ∧ SentWake s.store.ownershipShared s.trace wake)
  | _ => True

/-- What holds whenever a question is asked: a wake is sent with the text its row keeps. -/
def Asks (s : Shared Tx Query Store γ) {β : Type} : Query β → Prop
  | .send (.wake wakeId) _ text key => key = toString wakeId ∧
      ∃ w ∈ s.store.wakes.rows, w.wakeId = wakeId ∧ w.payload = some text
  | _ => True

theorem Issued.fenced {py : Library} {H : Set LockKey} {s : Shared Tx Query Store γ} {β : Type}
    {tx : Tx β} (h : Issued py H s tx) {t : TaskId} (mover : tx.mover = some t) : .task t ∈ H := by
  cases tx with
  | activate | prepareReplacement | resumeReplacement | reissue | checkpointRow
  | checkpointOccurrence | finish | finishExpired | recordLoss =>
    cases mover
    exact h.1
  | _ => exact nomatch mover

/-! ### Every step keeps the protocol -/

variable {py : Library} {x : Executor γ} {β : Type}

abbrev Shared.after (s : Shared Tx Query Store γ) (tx : Tx β) : Shared Tx Query Store γ :=
  { s with
    store := (tx.exec s.store).1
    trace := .commit tx (tx.exec s.store).2 :: s.trace }

theorem evolves_after (s : Shared Tx Query Store γ) (tx : Tx β) : Evolves s (Shared.after s tx) := by
  constructor
  · intro t row known
    obtain ⟨next, known', step⟩ := tx.exec_task known
    exact ⟨next, known', step.before⟩
  · exact fun v mem => tx.exec_wake mem
  · exact tx.exec_wiring s.store
  · exact List.suffix_cons _ _

theorem frozen_after {H : Set LockKey} {s : Shared Tx Query Store γ} {tx : Tx β}
    (issued : Issued py H s tx) {l : LockKey} (free : l ∉ H) : Frozen l s (Shared.after s tx) := by
  cases l with
  | admission => trivial
  | task t =>
    intro row next known known'
    obtain ⟨next', found, step⟩ := tx.exec_task known
    cases Option.some.inj (known'.symm.trans found)
    have named := Store.taskId_of_task known
    refine congrArg Lifecycle.version (step.still fun mover => free ?_)
    rw [named] at mover
    exact issued.fenced mover

/-- Where a row of the later store comes from. -/
theorem Tx.task_after (tx : Tx β) {db : Store} {t : TaskId} {next : TaskRow}
    (known : (tx.exec db).1.task t = some next) :
    (∃ row, db.task t = some row ∧ tx.Steps (tx.exec db).2 row next) ∨
      db.task t = none ∧ tx.Inserts next := by
  cases before : db.task t with
  | none => exact .inr ⟨rfl, (tx.exec_insert before known).1⟩
  | some row =>
    obtain ⟨next', known', step⟩ := tx.exec_task before
    cases Option.some.inj (known.symm.trans known')
    exact .inl ⟨row, rfl, step⟩

theorem parents_after {H : Set LockKey} {s : Shared Tx Query Store γ} (sane : Sane s) {tx : Tx β}
    (issued : Issued py H s tx) {t p : TaskId} {next : TaskRow} (known : (tx.exec s.store).1.task t = some next)
    (parented : next.parentTaskId = some p) :
    p ≠ t ∧ ((tx.exec s.store).1.task p).isSome := by
  have persists (found : (s.store.task p).isSome) : ((tx.exec s.store).1.task p).isSome := by
    obtain ⟨parent, found⟩ := Option.isSome_iff_exists.mp found
    obtain ⟨parent', found', _⟩ := tx.exec_task found
    exact Option.isSome_of_mem found'
  cases before : s.store.task t with
  | none =>
    obtain ⟨inserted, parents⟩ := tx.exec_insert before known
    have named : p ≠ "" := by
      cases tx with
      | reserveAll =>
        obtain ⟨spec, _, rfl⟩ := inserted
        exact (issued.2 p parented).named
      | _ => exact inserted.elim
    have exists_ := parents p (by rw [parented, present_of_ne named])
    refine ⟨?_, persists exists_⟩
    rintro rfl
    simp [before] at exists_
  | some row =>
    obtain ⟨next', known', step⟩ := tx.exec_task before
    cases Option.some.inj (known.symm.trans known')
    have parent : row.parentTaskId = some p :=
      (congrArg Identity.parentTaskId step.identity).symm.trans parented
    obtain ⟨apart, exists_⟩ := sane.parents t row p before parent
    exact ⟨apart, persists exists_⟩

theorem woken_after {H : Set LockKey} {s : Shared Tx Query Store γ} (sane : Sane s) {tx : Tx β}
    (issued : Issued py H s tx) {t : TaskId} {next : TaskRow}
    (known : (tx.exec s.store).1.task t = some next) :
    next.lastWokenSeq ≤ next.childEventSeq := by
  obtain ⟨row, before, step⟩ | ⟨_, inserted⟩ := tx.task_after known
  · have counted := sane.woken t row before
    have named := Store.taskId_of_task before
    obtain same | ⟨n, acknowledged, told⟩ := step.woken
    · rw [same]
      exact counted.trans step.events
    · rw [told]
      refine max_le (counted.trans step.events) ?_
      cases tx with
      | settleWake wake state resolution payload now =>
        obtain ⟨_, parent, seq⟩ := acknowledged
        obtain ⟨row', found, below⟩ := issued.1 n seq
        rw [parent, named] at found
        cases Option.some.inj (found.symm.trans before)
        exact below.trans step.events
      | _ => exact acknowledged.elim
  · cases tx with
    | reserveAll =>
      obtain ⟨spec, _, rfl⟩ := inserted
      exact le_rfl
    | _ => exact inserted.elim

theorem wakes_after {s : Shared Tx Query Store γ} (sane : Sane s) (tx : Tx β) {w : Wake}
    (mem : w ∈ (tx.exec s.store).1.wakes.rows) : CountedWake (tx.exec s.store).1 w := by
  intro n seq
  obtain ⟨v, known, origin⟩ | ⟨_, row, m, found, seq', below⟩ | ⟨silent, _⟩ :=
    tx.exec_outbox s.store w mem
  · obtain ⟨row, found, below⟩ := sane.wakes v known n (origin.eventSeq.trans seq)
    obtain ⟨next, found', step⟩ := tx.exec_task found
    rw [origin.parentTaskId] at found'
    exact ⟨next, found', below.trans step.events⟩
  · cases Option.some.inj (seq.symm.trans seq')
    exact ⟨row, found, below⟩
  · exact nomatch seq.symm.trans silent

theorem sessions_after {s : Shared Tx Query Store γ} (sane : Sane s) (tx : Tx β) {t : TaskId}
    {n : ℕ} {next : Effect} {sessionId : SessionId}
    (known : (tx.exec s.store).1.effect t n = some next)
    (named : next.sessionId = some sessionId) :
    Journaled (Shared.after s tx).trace sessionId := by
  cases before : s.store.effect t n with
  | none =>
    have opened := (tx.exec_journal s.store).opened t n next before known
    cases tx with
    | reserve =>
      subst opened
      exact nomatch named
    | _ => exact opened.elim
  | some effect =>
    have earlier (same : next.sessionId = effect.sessionId) :
        Journaled (Shared.after s tx).trace sessionId :=
      (sane.sessions t n effect sessionId before (same.symm.trans named)).mono
        (List.subset_cons_self _ _)
    obtain ⟨next', known', rfl | marks⟩ := (tx.exec_journal s.store).kept t n effect before
    · cases Option.some.inj (known.symm.trans known')
      exact earlier rfl
    · cases Option.some.inj (known.symm.trans known')
      obtain same | ⟨workspaceId, launched, recorded, _, other⟩ := marks.session
      · exact earlier same
      · cases Option.some.inj (named.symm.trans other)
        exact ⟨_, List.mem_cons_self, effect.key, workspaceId, recorded⟩

theorem outcomes_after {s : Shared Tx Query Store γ} (sane : Sane s) (tx : Tx β) {t : TaskId}
    {n : ℕ} {next : Effect} (known : (tx.exec s.store).1.effect t n = some next)
    (ended : next.state = .terminal) (routed : (routingOutcome next.outcome).isSome) :
    Failed (Shared.after s tx).trace (t, n) := by
  cases before : s.store.effect t n with
  | none =>
    have opened := (tx.exec_journal s.store).opened t n next before known
    cases tx with
    | reserve =>
      subst opened
      exact nomatch ended
    | _ => exact opened.elim
  | some effect =>
    have earlier (closed : effect.state = .terminal) (same : next.outcome = effect.outcome) :
        Failed (Shared.after s tx).trace (t, n) :=
      (sane.outcomes t n effect before closed (same ▸ routed)).mono (List.subset_cons_self _ _)
    obtain ⟨next', known', rfl | marks⟩ := (tx.exec_journal s.store).kept t n effect before
    · cases Option.some.inj (known.symm.trans known')
      exact earlier ended rfl
    · cases Option.some.inj (known.symm.trans known')
      obtain ⟨closed, same⟩ | recorded := marks.outcome ended routed
      · exact earlier closed same
      · rw [Store.key_of_effect before] at recorded
        exact ⟨_, List.mem_cons_self, recorded⟩

theorem successors_after {H : Set LockKey} {s : Shared Tx Query Store γ} (sane : Sane s)
    {tx : Tx β} (issued : Issued py H s tx) {source successor : SessionId}
    {record : TerminalOwnership} (known : (tx.exec s.store).1.ownership source = some record)
    (linked : record.successorSessionId = some successor) :
    Journaled (Shared.after s tx).trace successor := by
  obtain ⟨old, found, rfl | ⟨other, links, rfl⟩⟩ | retires :=
    tx.exec_ownership s.store source record known
  · exact (sane.successors source _ successor found linked).mono (List.subset_cons_self _ _)
  · cases linked
    cases tx with
    | linkSuccessor =>
      obtain ⟨rfl, rfl⟩ := links
      exact issued.mono (List.subset_cons_self _ _)
    | _ => exact links.elim
  · cases tx with
    | retire inserted =>
      rw [show record = inserted from retires] at linked
      exact nomatch issued.symm.trans linked
    | recordLoss =>
      rw [show record = _ from retires] at linked
      exact nomatch linked
    | _ => exact retires.elim

theorem replayed_after {s : Shared Tx Query Store γ} (sane : Sane s) (tx : Tx β) :
    (tx.exec s.store).1 =
      replay (tx.exec s.store).1.ownershipShared (Shared.after s tx).trace := by
  rw [tx.exec_wiring, replay, ← sane.replayed]

/-- A text that is chosen stays chosen, and a new one was rendered. -/
theorem chosen_after {H : Set LockKey} {s : Shared Tx Query Store γ} (sane : Sane s) {tx : Tx β}
    (issued : Issued py H s tx) {w : Wake} (mem : w ∈ (tx.exec s.store).1.wakes.rows)
    (open_ : w.state.settled = false) {text : String} (chosen : w.payload = some text) :
    Rendered (tx.exec s.store).1.ownershipShared (Shared.after s tx).trace w text := by
  rw [tx.exec_wiring]
  have old {v : Wake} (mem : v ∈ s.store.wakes.rows) (open_ : v.state.settled = false)
      (chosen : v.payload = some text) :
      Rendered s.store.ownershipShared (Shared.after s tx).trace v text :=
    (sane.chosen v mem open_ text chosen).mono (List.suffix_cons _ _)
  have posted (arming : tx.delivers = false) :
      Rendered s.store.ownershipShared (Shared.after s tx).trace w text := by
    obtain ⟨keys, added, rows, _, unsent⟩ := tx.exec_posts s.store arming
    rw [rows] at mem
    rcases List.mem_append.mp mem with known | new
    · exact old known open_ chosen
    · exact nomatch (unsent w new).2.symm.trans chosen
  cases tx with
  | claimWakes now =>
    obtain ⟨v, known, same, kept, unsettled⟩ := claimWakes_unchosen claimSeconds now s.store w mem
    exact (old known (unsettled open_) (kept.symm.trans chosen)).congr same
  | persistPayload wake selected =>
    obtain ⟨⟨v, known, same⟩, rendered⟩ := issued
    obtain left | ⟨row, there, named, claimed, left⟩ :=
      persistPayload_cases wake selected s.store
    · rw [Tx.exec, left] at mem
      exact old mem open_ chosen
    · rw [Tx.exec, left] at mem
      rcases Table.mem_put.mp mem with rfl | ⟨known, _⟩
      · cases kept : row.payload with
        | some bytes =>
          simp only [kept, Option.getD_some] at chosen
          exact (old there (by rw [claimed]; rfl) (kept.trans chosen)).congr
            ⟨rfl, rfl, rfl, rfl, rfl⟩
        | none =>
          simp only [kept, Option.getD_none] at chosen
          cases chosen
          have origin : v = row := Wake.eq_of_id known there (same.wakeId.symm.trans named.symm)
          rw [← origin]
          exact (rendered.mono (List.suffix_cons _ _)).congr
            ⟨same.wakeId, same.parentTaskId, same.predicate, same.dedupeKey, same.eventSeq⟩
      · exact old known open_ chosen
  | settleWake wake state resolution payload now =>
    obtain left | ⟨row, there, named, claimed, _, left⟩ :=
      settleWake_cases wake state resolution payload now s.store
    · rw [Tx.exec, left] at mem
      exact old mem open_ chosen
    · rw [Tx.exec, left] at mem
      rcases Table.mem_put.mp mem with rfl | ⟨known, _⟩
      · rcases issued.2.2 with rfl | ⟨rfl, _⟩
        · exact nomatch open_
        · exact nomatch open_
      · exact old known open_ chosen
  | _ => exact posted rfl

theorem sends_after {s : Shared Tx Query Store γ} (sane : Sane s) (tx : Tx β) {wakeId : ℕ}
    {holder : SessionId} {text key : String} {answer : Answer (Option String)}
    (sent : .call (.send (.wake wakeId) holder text key) answer ∈ (Shared.after s tx).trace) :
    key = toString wakeId ∧ ∃ w ∈ (tx.exec s.store).1.wakes.rows,
      w.wakeId = wakeId ∧ w.payload = some text := by
  have earlier := (List.mem_cons.mp sent).resolve_left fun same => nomatch same
  obtain ⟨named, v, mem, same, kept⟩ := sane.sends wakeId holder text key answer earlier
  obtain ⟨w, mem, later⟩ := tx.exec_wake mem
  exact ⟨named, w, mem, later.origin.wakeId.symm.trans same, later.payload text kept⟩

theorem told_after {H : Set LockKey} {s : Shared Tx Query Store γ} (sane : Sane s) {tx : Tx β}
    (issued : Issued py H s tx) {t : TaskId} {next : TaskRow}
    (known : (tx.exec s.store).1.task t = some next) (told : next.lastWokenSeq ≠ 0) :
    ∃ w ∈ (tx.exec s.store).1.wakes.rows, w.parentTaskId = t ∧
      w.eventSeq = some next.lastWokenSeq ∧
      SentWake (tx.exec s.store).1.ownershipShared (Shared.after s tx).trace w := by
  rw [tx.exec_wiring]
  have still {v : Wake} (mem : v ∈ s.store.wakes.rows) (parent : v.parentTaskId = t)
      (seq : v.eventSeq = some next.lastWokenSeq)
      (sent : SentWake s.store.ownershipShared s.trace v) :
      ∃ w ∈ (tx.exec s.store).1.wakes.rows, w.parentTaskId = t ∧
        w.eventSeq = some next.lastWokenSeq ∧
        SentWake s.store.ownershipShared (Shared.after s tx).trace w := by
    obtain ⟨w, mem, later⟩ := tx.exec_wake mem
    exact ⟨w, mem, later.origin.parentTaskId.symm.trans parent,
      later.origin.eventSeq.symm.trans seq,
      (sent.congr later.origin).mono (List.suffix_cons _ _)⟩
  obtain ⟨row, before, step⟩ | ⟨_, inserted⟩ := tx.task_after known
  · have old (same : next.lastWokenSeq = row.lastWokenSeq) :
        ∃ w ∈ (tx.exec s.store).1.wakes.rows, w.parentTaskId = t ∧
          w.eventSeq = some next.lastWokenSeq ∧
          SentWake s.store.ownershipShared (Shared.after s tx).trace w := by
      obtain ⟨v, mem, parent, seq, sent⟩ := sane.told t row before (same ▸ told)
      exact still mem parent (same ▸ seq) sent
    obtain same | ⟨n, acknowledged, now⟩ := step.woken
    · exact old same
    · rcases Nat.le_total n row.lastWokenSeq with below | above
      · rw [max_eq_left below] at now
        exact old now
      · rw [max_eq_right above] at now
        cases tx with
        | settleWake wake state resolution payload moment =>
          obtain ⟨delivered, parent, seq⟩ := acknowledged
          obtain ⟨_, ⟨v, mem, same⟩, resolved | ⟨_, sent⟩⟩ := issued
          · exact nomatch delivered.symm.trans resolved
          · have named := Store.taskId_of_task before
            apply still mem (same.parentTaskId.symm.trans (parent.trans named))
              (same.eventSeq.symm.trans (seq.trans (congrArg some now.symm))) (sent.congr same)
        | _ => exact acknowledged.elim
  · cases tx with
    | reserveAll =>
      obtain ⟨spec, _, rfl⟩ := inserted
      exact absurd rfl told
    | _ => exact inserted.elim

theorem Sane.after {H : Set LockKey} {s : Shared Tx Query Store γ} (sane : Sane s) {tx : Tx β}
    (issued : Issued py H s tx) : Sane (Shared.after s tx) where
  parents _ _ _ known parented := parents_after sane issued known parented
  woken _ _ known := woken_after sane issued known
  wakes _ mem := wakes_after sane tx mem
  sessions _ _ _ _ known named := sessions_after sane tx known named
  successors _ _ _ known linked := successors_after sane issued known linked
  outcomes _ _ _ known ended routed := outcomes_after sane tx known ended routed
  replayed := replayed_after sane tx
  chosen _ mem open_ _ chosen := chosen_after sane issued mem open_ chosen
  sends _ _ _ _ _ sent := sends_after sane tx sent
  told _ _ known told := told_after sane issued known told

theorem Sane.asked {s : Shared Tx Query Store γ} (sane : Sane s) {q : Query β}
    (asked : Asks s q) {b : β} {env : γ} : Sane (s.call q b env) where
  parents := sane.parents
  woken := sane.woken
  wakes := sane.wakes
  sessions t n effect sessionId known named :=
    (sane.sessions t n effect sessionId known named).mono (List.subset_cons_self _ _)
  successors source record successor known linked :=
    (sane.successors source record successor known linked).mono (List.subset_cons_self _ _)
  outcomes t n effect known ended routed :=
    (sane.outcomes t n effect known ended routed).mono (List.subset_cons_self _ _)
  replayed := sane.replayed
  chosen w mem open_ text chosen := (sane.chosen w mem open_ text chosen).mono (List.suffix_cons _ _)
  sends wakeId holder text key answer sent := by
    rcases List.mem_cons.mp sent with now | earlier
    · cases now
      exact asked
    · exact sane.sends wakeId holder text key answer earlier
  told t row known told := by
    obtain ⟨w, mem, parent, seq, sent⟩ := sane.told t row known told
    exact ⟨w, mem, parent, seq, sent.mono (List.suffix_cons _ _)⟩

/-- The protocol of the kernel. -/
def discipline (py : Library) (x : Executor γ) : Protocol (kernel py x) where
  inv := Sane
  evolves := Evolves
  frozen := Frozen
  pre H _ tx s := Issued py H s tx
  preCall _ _ q s := Asks s q
  evolves_refl := .refl
  evolves_trans := .trans
  frozen_refl _ _ := .of_store rfl
  frozen_trans forward _ first second := .trans forward first second
  init := by
    rintro db e ⟨ownershipShared, rfl⟩
    constructor
    · intro t row p known
      exact nomatch known
    · intro t row known
      exact nomatch known
    · intro w mem
      exact nomatch mem
    · intro t n effect sessionId known
      exact nomatch known
    · intro source record successor known
      exact nomatch known
    · intro t n effect known
      exact nomatch known
    · rfl
    · intro w mem
      exact nomatch mem
    · intro wakeId holder text key answer sent
      exact nomatch sent
    · intro t row known
      exact nomatch known
  commit sane issued :=
    ⟨sane.after issued, evolves_after _ _, fun _ free => frozen_after issued free⟩
  call {_ _ q s b env} sane asked _ := by
    refine ⟨sane.asked asked, ⟨fun t row known => ⟨row, known, .refl row⟩,
      fun v mem => ⟨v, mem, .refl v⟩, rfl, List.suffix_cons _ _⟩, fun l _ => .of_store rfl⟩

end SightMesh
