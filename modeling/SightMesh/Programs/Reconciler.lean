import SightMesh.Executor.Liveness

/-! The programs of `effects.py`, `wakes.py` and `durable.py`: every database access is a
transaction of its own, every request to the executor a query, and the task fence opens and
closes where the source opens and closes it. -/
namespace SightMesh

open Python Concurrency

/-! ### Workspace stops -/

/-- `EffectJournal.stop_terminal`: stop and acknowledge one terminal effect's workspace. -/
def stopTerminal (effect : Effect) : Kernel Unit :=
  if effect.state ≠ .terminal then .ret ()
  else match present effect.workspaceId with
    | none => .ret ()
    | some workspaceId => do
      query (.stopWorkspace effect.key workspaceId)
      let now ← clock
      Prog.commit' (.acknowledgeStop effect now)

def stopSuperseded (effect : Effect) : Kernel Unit :=
  if effect.outcome ≠ some "superseded" then .ret () else stopTerminal effect

def reconcileTerminal : Kernel Unit := do
  let rows ← read Store.terminalWorkspaces
  forEach rows fun effect =>
    isolated (taskLock effect.taskId (externalIo effect.taskId (stopTerminal effect)))

def reconcileSuperseded : Kernel Unit := do
  let rows ← read Store.supersededWorkspaces
  forEach rows fun effect => isolated (stopSuperseded effect)

/-! ### Expired reservations -/

/-- `EffectJournal._native_effect`: `none` is definitive absence. -/
def nativeEffect (py : Library) (taskId : TaskId) (epoch : ℕ) : Kernel (Option Native) := do
  match ← Prog.ask (.managedEffect taskId epoch) with
  | .ok native =>
    if native.state ∈ ["", "missing", "not_found", "lost"] then return none
    return some native
  | .error (.cdesktop failure text) =>
    if isEffectNotFound py failure text then return none
    throw (.unknowable text)
  | .error e => throw e

def unmoved (current : Option TaskRecord) (seen : TaskRecord) : Bool :=
  match current with
  | none => false
  | some now => now.epoch = seen.epoch && now.version = seen.version

/-- The last step of the sweep: retire the reservation, and finish the task it belonged to. -/
def retireExpired (seen : TaskRecord) (epoch : ℕ) (moment : Time) : Kernel Unit := do
  let retired ← Prog.commit' (.retireReservation seen.taskId epoch moment)
  if retired.isSome then
    let _ ← stamped (.finishExpired seen)

/-- One reservation of `EffectJournal.expire_reservations`, under the task's fence. It answers
the superseded effect whose workspace is still to be stopped. -/
def expireLocked (py : Library) (taskId : TaskId) (epoch : ℕ) (moment : Time) :
    Kernel (Option Effect) := do
  match ← read (·.getById taskId) with
  | none =>
    let _ ← Prog.commit' (.retireReservation taskId epoch moment)
    return none
  | some seen =>
    if seen.epoch ≠ epoch then return none
    let native ← externalIo taskId (nativeEffect py taskId epoch)
    let current ← read (·.getById taskId)
    if unmoved current seen then
      match native with
      | some native =>
        if native.state = "active" ∧ native.workspaceId ≠ "" ∧ native.sessionId ≠ "" then
          let _ ← stamped (.markLaunched taskId epoch native.workspaceId native.sessionId)
          let _ ← stamped (.activate .adoptExpired seen native.workspaceId native.sessionId)
          return none
        retireExpired seen epoch moment
        return none
      | none =>
        retireExpired seen epoch moment
        return none
    else
      match native with
      | some native =>
        if native.workspaceId ≠ "" then
          let superseded ← stamped (.markSuperseded taskId epoch native.workspaceId)
          retireExpired seen epoch moment
          return some superseded
        retireExpired seen epoch moment
        return none
      | none =>
        retireExpired seen epoch moment
        return none

def KernelError.skipsReservation : KernelError → Bool
  | unknowable _ => true
  | e => e.isTaskStore

def expireReservation (py : Library) (moment : Time) (candidate : TaskId × ℕ) : Kernel Unit := do
  let superseded ← excepting (taskLock candidate.1 (expireLocked py candidate.1 candidate.2 moment))
    KernelError.skipsReservation fun _ => .ret none
  match superseded with
  | none => return
  | some effect => isolated (stopSuperseded effect)

def expireReservations (py : Library) : Kernel Unit := do
  let moment ← clock
  let candidates ← read (·.expiredReservations moment)
  forEach candidates (expireReservation py moment)

/-! ### Wake delivery -/

def assertDeliverable (sessionId : SessionId) : Kernel Unit := do
  match ← read (·.ownership sessionId) with
  | none => return
  | some record => throw (.quarantined record)

def TerminalOwnership.refusal (record : TerminalOwnership) : String :=
  "Session " ++ record.sessionId ++ " is " ++ record.state.name ++ " (" ++ record.reason ++
    ") and can never be resumed" ++ match record.successorSessionId with
      | some successor => "; successor is " ++ successor
      | none => "; no successor recorded"

def resolveWake (wake : Wake) (reason : String) : Kernel Unit := do
  let now ← clock
  let _ ← Prog.commit' (.settleWake wake .resolved (some reason)
    (some ("suppressed: " ++ reason)) now)

def deliverWake (wake : Wake) : Kernel Unit := do
  match ← read (·.getById wake.parentTaskId) with
  | none => resolveWake wake "parent task no longer exists"
  | some parent =>
    match present parent.holderSessionId with
    | none => resolveWake wake ("parent " ++ parent.key ++ " has no holder session")
    | some holder =>
      if parent.state ∉ liveStates then
        resolveWake wake ("parent " ++ parent.key ++ " is " ++ parent.state.name)
      else
        match ← read (·.ownership holder) with
        | some record =>
          resolveWake wake ("parent " ++ parent.key ++ " session is retired: " ++ record.refusal)
        | none =>
          let children ← read (·.children parent.taskId)
          if children.any fun child => child.holderSessionId = parent.holderSessionId then
            resolveWake wake ("parent " ++ parent.key ++ " holds one of its own child sessions")
          else
            let selected := wakePayload wake.predicate parent children wake.dedupeKey.isEscalation
            match ← Prog.commit' (.persistPayload wake selected) with
            | none => return
            | some payload =>
              let _ ← query (.send (.wake wake.wakeId) holder payload (toString wake.wakeId))
              let now ← clock
              let _ ← Prog.commit' (.settleWake wake .delivered none none now)

def pump : Kernel Unit := do
  let now ← clock
  let claimed ← Prog.commit' (.claimWakes now)
  forEach claimed fun wake =>
    excepting (deliverWake wake) KernelError.isCdesktop fun _ => .ret ()

/-! ### Terminal command cleanup -/

def queueCommands (sessionId : SessionId) : Kernel (List Command) := do
  let rows ← query (.sessionCommands sessionId)
  return rows.map fun row =>
    ⟨row.id, sessionId, row.body, orText row.state "queued", row.dedupeKey, row.executionProcessId⟩

def Store.unresolvedTerminalOutgoing (db : Store) : List OutgoingCommand :=
  db.outgoing.rows.filter fun c => c.nativeId.isNone && c.state ∈ [OutgoingState.sending, .cleanup] &&
    match db.task c.taskId with
    | none => false
    | some t => t.epoch = c.epoch &&
        t.state ∈ [TaskState.completed, .cancelled, .lost, .exhausted]

def Store.terminalOutgoing (db : Store) (taskId : TaskId) (epoch : ℕ) : List OutgoingCommand :=
  db.outgoing.rows.filter fun c => c.taskId = taskId && c.epoch = epoch &&
    c.state ∈ [OutgoingState.sending, .cleanup]

def Store.pendingCleanups (db : Store) : List CleanupIntent :=
  db.cleanups.rows.filter fun i => !i.acknowledged

def stoppedStates : List String :=
  commandTerminalStates ++ ["completed", "killed", "stopped", "terminated"]

/-- The executor's answer to one cleanup intent: has it settled? -/
def requestCleanup (intent : CleanupIntent) : Kernel Bool :=
  match intent.kind with
  | .commandCancel => do
    match ← Prog.ask (.cancelCommand intent.sessionId intent.nativeId) with
    | .ok state => return state ∈ commandTerminalStates
    | .error (.cdesktop (.rejected (some 409) _) _) =>
      let commands ← queueCommands intent.sessionId
      Prog.commit' (.recordCleanupIntents intent.taskId intent.epoch intent.sessionId commands)
      return false
    | .error e => throw e
  | .executionStop => do
    let stopped ← query (.stopExecution intent.nativeId
      ("terminal:" ++ intent.taskId ++ ":" ++ intent.nativeId))
    if stopped ∈ stoppedStates then return true
    let state ← query (.executionProcess intent.nativeId)
    return state ∈ stoppedStates

def resolveOutgoing (outgoing : OutgoingCommand) : Kernel Unit :=
  taskLock outgoing.taskId do
    let commands ← externalIo outgoing.taskId (queueCommands outgoing.sessionId)
    match commands.find? fun c => c.dedupeKey = some outgoing.dedupeKey with
    | none => return
    | some command =>
      Prog.run (.settleOutgoing outgoing.taskId outgoing.epoch outgoing.dedupeKey
        (some command.id) true)

def reconcileIntent (intent : CleanupIntent) : Kernel Unit :=
  taskLock intent.taskId do
    let settled ← externalIo intent.taskId (requestCleanup intent)
    if settled then
      Prog.commit' (.acknowledgeCleanup intent.taskId intent.epoch intent.kind intent.nativeId)

def reconcileCleanupIntents : Kernel Unit := do
  let outgoing ← read Store.unresolvedTerminalOutgoing
  forEach outgoing fun command => isolated (resolveOutgoing command)
  let intents ← read Store.pendingCleanups
  forEach intents fun intent => isolated (reconcileIntent intent)

/-! ### Losses -/

/-- What `_record_loss` does before its transaction: the native commands of the holder. -/
def holderCommands (task : TaskRecord) : Kernel (List Command) :=
  match present task.holderSessionId with
  | none => .ret []
  | some holder => taskLock task.taskId (externalIo task.taskId (queueCommands holder))

/-- The fenced part of `_record_loss`; it answers whether it settled the task. -/
def recordLossLocked (task : TaskRecord) (reason payload : String) (commands : List Command) :
    Kernel Bool := do
  match ← read (·.getById task.taskId) with
  | none => return false
  | some current =>
    if current.state ≠ .active ∨ current.epoch ≠ task.epoch then return false
    if current.holderSessionId = task.holderSessionId then
      Prog.commit' (.recordCleanupIntents current.taskId current.epoch
        (current.holderSessionId.getD "None") commands)
    let _ ← stamped (.recordLoss current reason payload)
    return true

def recordLossOf (py : Library) (task : TaskRecord) (finding : Finding) : Kernel Unit := do
  let reason := "lost:" ++ finding.evidence.lostReason.getD "None"
  let commands ← holderCommands task
  let settled ← excepting
    (taskLock task.taskId (recordLossLocked task reason (finding.payload py) commands))
    KernelError.isTaskStore fun _ => .ret false
  if settled then
    match ← read (·.effect task.taskId task.epoch) with
    | none => pure ()
    | some effect =>
      if (present effect.workspaceId).isSome then
        isolated (taskLock task.taskId (externalIo task.taskId (stopTerminal effect)))
    reconcileCleanupIntents

/-- The verdict of `sweep_losses` on one task, under its fence. -/
def sweepVerdict (py : Library) (task : TaskRecord) : Kernel (Option Finding) :=
  taskLock task.taskId do
    match ← read (·.getById task.taskId) with
    | none => return none
    | some current =>
      if current.state ≠ .active ∨ current.epoch ≠ task.epoch then return none
      let evidence ← externalIo task.taskId do
        let now ← clock
        gatherEvidence py (current.holderSessionId.getD "None") now current.checkpointAt none
      if (present evidence.lostReason).isNone then return none
      let now ← clock
      return some ⟨.lost, evidence, now, false⟩

def sweepLoss (py : Library) (task : TaskRecord) : Kernel Unit := do
  match ← sweepVerdict py task with
  | none => return
  | some finding => recordLossOf py task finding

def sweepLosses (py : Library) : Kernel Unit := do
  let tasks ← read (·.listState .active)
  forEach (tasks.filter fun t => (present t.holderSessionId).isSome) fun task =>
    isolated (sweepLoss py task)

/-! ### Detection -/

/-- `_resolve_parked_approval`, of a finding read at the epoch: a parked approval times out into
`blocked`, never a kill. -/
def resolveParkedApproval (epoch : ℕ) (task : TaskRecord) (finding : Finding)
    (policy : DetectionPolicy) : Kernel Unit :=
  match task.livenessSince with
  | none => .ret ()
  | some since =>
    if finding.now - since < policy.effectiveApprovalTimeout then .ret ()
    else excepting (taskLock task.taskId do
        match ← read (·.getById task.taskId) with
        | none => return
        | some current =>
          let _ ← stamped (.finish (.approval epoch) current .blocked (some "approval") false)
          return) KernelError.isTaskStore fun _ => .ret ()

def recordObservation (py : Library) (task : TaskRecord) (finding : Finding)
    (policy : DetectionPolicy) : Kernel Unit := do
  let evidence := if finding.reason = .live then none else some (finding.payload py)
  let recorded ← excepting (do
      let _ ← Prog.run (.recordFinding task finding.reason.liveness evidence finding.overBudget
        finding.now policy.progressTimeout)
      return true) KernelError.isTaskStore fun _ => .ret false
  if recorded then
    match ← read (·.getById task.taskId) with
    | none => return
    | some current =>
      if finding.reason = .parked then
        resolveParkedApproval task.epoch current finding policy

def applyFinding (py : Library) (task : TaskRecord) (finding : Finding) (policy : DetectionPolicy) :
    Kernel Unit :=
  if finding.reason = .lost then recordLossOf py task finding
  else if finding.reason = .unknown ∧ finding.overBudget = false then .ret ()
  else recordObservation py task finding policy

/-- `_detect_one`; `baseline` is the output total the reconciler remembers for the task. -/
def detectOne (py : Library) (baseline : TaskId → Option ℕ) (task : TaskRecord) : Kernel Unit := do
  let policy := task.spec.detection
  let gatheredAt ← clock
  let evidence ← gatherEvidence py (task.holderSessionId.getD "None") gatheredAt task.checkpointAt
    (baseline task.taskId)
  let now ← clock
  let verdict := classify evidence now policy
  let yielding ←
    if verdict = .idleUnreported ∨ verdict = .stalled then
      read (·.hasLiveWaitPredicate task.taskId)
    else pure false
  let reason := if yielding then .live else verdict
  applyFinding py task ⟨reason, evidence, now, overBudget evidence policy.budget⟩ policy

def Store.watchedTasks (db : Store) : List TaskId :=
  ((db.tasks.rows.filter fun r => r.state = .active && r.holderSessionId.isSome).map
    TaskRow.id).insertionSort fun a b => a ≤ b

def readTasks : List TaskId → Kernel (List TaskRecord)
  | [] => .ret []
  | taskId :: rest => do
    let task ← read (·.getById taskId)
    let tasks ← readTasks rest
    return task.toList ++ tasks

/-- `detect_liveness`. Where the cursor of earlier passes stands and how far the budget of this
one reaches are answers of the world outside. -/
def detectLiveness (py : Library) (baseline : TaskId → Option ℕ) : Kernel Unit := do
  let watched ← read Store.watchedTasks
  let start ← Prog.ask .patience
  let reach ← Prog.ask .patience
  let selected ← readTasks ((watched.rotate start).take reach)
  forEach selected fun task => isolated (detectOne py baseline task)

/-- `reconcile_kernel`: independent repairs, each isolated from the others. -/
def reconcileKernel (py : Library) (baseline : TaskId → Option ℕ) : Kernel Unit := do
  isolated do
    let now ← clock
    Prog.commit' (.recordCohortWakes now)
  isolated (sweepLosses py)
  isolated (detectLiveness py baseline)
  isolated pump
  isolated do
    expireReservations py
    reconcileTerminal
  isolated reconcileCleanupIntents

end SightMesh
