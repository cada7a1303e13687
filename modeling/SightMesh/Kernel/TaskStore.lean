import Mathlib.Data.List.Sort
import SightMesh.Kernel.Records

/-! `TaskStore`: the guarded writes of the task rows. Every function here is the body of one
`BEGIN IMMEDIATE`, so an exception rolls all of it back; `atomically` is that bracket. -/
namespace SightMesh

open Python

/-- A transaction body: it reads and writes one connection, and may raise. -/
abbrev Txn := StateT Store (Except KernelError)

def atomically {α : Type} (body : Txn α) (db : Store) : Store × Except KernelError α :=
  match body db with
  | .ok (a, db') => (db', .ok a)
  | .error e => (db, .error e)

/-- Re-raise `sqlite3.DatabaseError` as the caller's own `TaskStoreError`. -/
def wrapping {α : Type} (prefixed : String) (body : Txn α) : Txn α := fun db =>
  match body db with
  | .error (.integrity m) => .error (.taskStore (prefixed ++ m))
  | .error (.database m) => .error (.taskStore (prefixed ++ m))
  | r => r

/-! ### Reading -/

def Store.task (db : Store) (taskId : TaskId) : Option TaskRow := db.tasks.get taskId

def Store.getById (db : Store) (taskId : TaskId) : Option TaskRecord :=
  (db.task taskId).map TaskRow.toTaskRecord

def Store.findByKey (db : Store) (scope key : String) : Option TaskRow :=
  db.tasks.rows.find? fun r => r.scope = scope && r.key = key

def Store.getByKey (db : Store) (scope key : String) : Option TaskRecord :=
  (db.findByKey scope key).map TaskRow.toTaskRecord

def Store.getBySession (db : Store) (sessionId : SessionId) : Option TaskRecord :=
  (db.tasks.rows.find? fun r => r.holderSessionId = some sessionId).map TaskRow.toTaskRecord

def Store.listState (db : Store) (state : TaskState) : List TaskRecord :=
  ((db.tasks.rows.filter fun r => r.state = state).map TaskRow.toTaskRecord).insertionSort
    fun a b => a.updatedAt ≤ b.updatedAt

def Store.children (db : Store) (parentTaskId : TaskId) : List TaskRecord :=
  ((db.tasks.rows.filter fun r => r.parentTaskId = some parentTaskId).map
    TaskRow.toTaskRecord).insertionSort fun a b => a.createdAt ≤ b.createdAt

/-! ### Guarded transitions -/

def Store.putTask (db : Store) (row : TaskRow) : Store := { db with tasks := db.tasks.put row }

/-- The row a transition leaves: the assigned columns, the next version, the new time. -/
def TaskRow.moved (row : TaskRow) (assign : Lifecycle → Lifecycle) (observe : Health → Health)
    (now : Time) : TaskRow :=
  { row with
    toLifecycle := { assign row.toLifecycle with version := row.version + 1 }
    toHealth := observe row.toHealth
    updatedAt := now }

/-- Another row already holds this row's session, in a state the unique index covers. -/
def Store.holderTaken (db : Store) (row : TaskRow) : Bool :=
  row.state ∈ holderStates && row.holderSessionId.isSome &&
    db.tasks.rows.any fun r => r.taskId ≠ row.taskId && r.state ∈ holderStates &&
      r.holderSessionId = row.holderSessionId

/-- `TaskStore._transition`: apply one state change only if the observed task still holds. -/
def transition (taskId : TaskId) (expectStates : List TaskState) (expectVersion : Option ℕ)
    (assign : Lifecycle → Lifecycle) (observe : Health → Health) (attempted : String) (now : Time) :
    Txn TaskRecord := do
  match (← get).task taskId with
  | none => throw (.taskStore "Managed task not found")
  | some row =>
    if row.state ∈ expectStates ∧ (expectVersion = none ∨ expectVersion = some row.version) then
      let next := row.moved assign observe now
      if (← get).holderTaken next then
        throw (.integrity "UNIQUE constraint failed: managed_tasks.holder_session_id")
      modify fun db => db.putTask next
      return next.toTaskRecord
    else
      throw (.stale row.toTaskRecord attempted)

def transaction (taskId : TaskId) (expectStates : List TaskState) (expectVersion : Option ℕ)
    (assign : Lifecycle → Lifecycle) (attempted : String) (now : Time) : Txn TaskRecord :=
  wrapping "Cannot update managed task: " <|
    transition taskId expectStates expectVersion assign id attempted now

def Lifecycle.activated (workspaceId : WorkspaceId) (sessionId : SessionId) (l : Lifecycle) :
    Lifecycle :=
  { l with state := .active, workspaceId := workspaceId, holderSessionId := sessionId }

def activate (taskId : TaskId) (workspaceId : WorkspaceId) (sessionId : SessionId) (now : Time) :
    Txn TaskRecord :=
  transaction taskId activatePredecessors none (Lifecycle.activated workspaceId sessionId)
    "active" now

def circuitBreaker (task : TaskRow) : String :=
  "Task '" ++ task.key ++ "' tripped its " ++ toString task.maxAttempts ++ "-attempt circuit breaker"

def Lifecycle.replaced (target : Option Target) (chargeFailure : Bool) (l : Lifecycle) :
    Lifecycle :=
  { l with
    state := .replacing
    epoch := l.epoch + 1
    attempts := if chargeFailure then l.attempts + 1 else l.attempts
    spec := match target with
      | none => l.spec
      | some t => { l.spec with target := t }
    checkpointAt := none }

/-- `TaskStore.prepare_replacement`: open the next epoch as a fresh subject. -/
def prepareReplacement (taskId : TaskId) (target : Option Target) (chargeFailure : Bool)
    (expectVersion : Option ℕ) (now : Time) : Txn TaskRecord :=
  wrapping "Cannot prepare task replacement: " do
    match (← get).task taskId with
    | none => throw (.taskStore "Managed task not found")
    | some task =>
      if task.attempts ≥ task.maxAttempts then
        throw (.taskStore (circuitBreaker task))
      transition taskId replacePredecessors expectVersion
        (Lifecycle.replaced target chargeFailure) (fun _ => Health.fresh) "replacing" now

/-- An automatic recovery is taken over under a new epoch and charged, a manual replacement keeps
its epoch. -/
def Lifecycle.resumed (spec : TaskSpec) (automaticRecovery : Bool) (l : Lifecycle) : Lifecycle :=
  { l with
    epoch := if automaticRecovery then l.epoch + 1 else l.epoch
    attempts := if automaticRecovery then l.attempts + 1 else l.attempts
    spec := spec }

def resumeReplacement (task : TaskRecord) (target : Target) (automaticRecovery : Bool) (now : Time) :
    Txn TaskRecord :=
  transaction task.taskId [.replacing] (some task.version)
    (Lifecycle.resumed { task.spec with target := target } automaticRecovery)
    "manual replacement resume" now

def Lifecycle.reissued (resolvedSpec : TaskSpec) (l : Lifecycle) : Lifecycle :=
  { l with
    state := .reserved
    epoch := l.epoch + 1
    spec := resolvedSpec
    workspaceId := none
    holderSessionId := none
    result := none }

def reissue (task : TaskRecord) (resolvedSpec : TaskSpec) (now : Time) : Txn TaskRecord :=
  transaction task.taskId [.lost] (some task.version) (Lifecycle.reissued resolvedSpec)
    "reservation retry" now

def Lifecycle.checkpointed (reference : String) (now : Time) (l : Lifecycle) : Lifecycle :=
  { l with checkpoint := some reference, checkpointAt := some now }

def checkpointRow (task : TaskRecord) (reference : String) (now : Time) : Txn TaskRecord :=
  transaction task.taskId liveStates (some task.version) (Lifecycle.checkpointed reference now)
    "checkpoint" now

/-! ### Finishing -/

/-- `TaskStore._record_failure`: charge one durable failure, or expose the final one. -/
def recordFailure (taskId : TaskId) (state : TaskState) (predecessors : List TaskState)
    (result : Option String) (expectVersion : Option ℕ) (now : Time) : Txn TaskRecord := do
  match (← get).task taskId with
  | none => throw (.taskStore "Managed task not found")
  | some task =>
    if task.attempts ≥ task.maxAttempts then
      throw (.taskStore (circuitBreaker task))
    if task.attempts + 1 ≥ task.maxAttempts then
      transition taskId predecessors expectVersion
        (fun l => { l with
          state := .exhausted
          attempts := l.attempts + 1
          result := some ("exhausted: " ++ orText result state.name) })
        id "exhausted" now
    else
      transition taskId predecessors expectVersion
        (fun l => { l with state := state, attempts := l.attempts + 1, result := result })
        id state.name now

def recordExhaustion (taskId : TaskId) (predecessors : List TaskState) (result : Option String)
    (expectVersion : Option ℕ) (now : Time) : Txn TaskRecord :=
  transition taskId predecessors expectVersion
    (fun l => { l with
      state := .exhausted
      attempts := l.attempts + 1
      result := some ("exhausted: " ++ orText result "failed") })
    id "exhausted" now

def finish (taskId : TaskId) (state : TaskState) (result : Option String)
    (expectVersion : Option ℕ) (chargeFailure : Bool) (now : Time) : Txn TaskRecord :=
  match finishPredecessors state with
  | none => throw (.value ("Unsupported task finish state: " ++ state.name))
  | some predecessors =>
    if state = .lost ∨ chargeFailure then
      recordFailure taskId state predecessors result expectVersion now
    else if state = .exhausted then
      recordExhaustion taskId predecessors result expectVersion now
    else
      transition taskId predecessors expectVersion
        (fun l => { l with state := state, result := result }) id state.name now

/-! ### Reserving -/

/-- `TaskStore.task_id`: the text the source digests with `uuid5`, kept undigested. -/
def taskIdOf (scope key : String) : TaskId := scope ++ "\x00" ++ key

theorem taskIdOf_ne_empty (scope key : String) : taskIdOf scope key ≠ "" := by
  intro empty
  have length := congrArg String.length empty
  simp [taskIdOf] at length

def TaskRow.reserved (scope : String) (parentTaskId : Option TaskId) (maxAttempts : ℕ)
    (spec : TaskSpec) (now : Time) : TaskRow where
  taskId := taskIdOf scope spec.key
  scope := scope
  key := spec.key
  parentTaskId := parentTaskId
  maxAttempts := maxAttempts
  childLimit := spec.children
  createdAt := now
  state := .reserved
  epoch := 1
  attempts := 0
  spec := spec
  workspaceId := none
  holderSessionId := none
  checkpoint := none
  checkpointAt := none
  result := none
  version := 0
  toHealth := .fresh
  updatedAt := now
  childEventSeq := 0
  lastWokenSeq := 0

def reserveOne (scope : String) (parentTaskId : Option TaskId) (maxAttempts : ℕ) (now : Time)
    (spec : TaskSpec) : Txn (TaskRecord × Bool) := do
  match (← get).findByKey scope spec.key with
  | some row =>
    if row.spec ≠ spec then
      throw (.taskStore ("Task '" ++ spec.key ++ "' already exists with a different specification"))
    return (row.toTaskRecord, false)
  | none =>
    let row := TaskRow.reserved scope parentTaskId maxAttempts spec now
    if ((← get).task row.taskId).isSome then
      throw (.integrity "UNIQUE constraint failed: managed_tasks.task_id")
    modify fun db => db.putTask row
    return (row.toTaskRecord, true)

def checkChildLimit (scope : String) (parentTaskId : Option TaskId) (specs : List TaskSpec) :
    Txn Unit := do
  match present parentTaskId with
  | none => return
  | some parentId =>
    let db ← get
    match db.task parentId with
    | none => throw (.taskStore "The current managed parent no longer exists")
    | some parent =>
      let existingChildren := (db.tasks.rows.filter fun r => r.parentTaskId = some parentId).length
      let newKeys := (specs.filter fun spec => (db.findByKey scope spec.key).isNone).length
      if existingChildren + newKeys > parent.childLimit then
        throw (.taskStore ("Task child limit is " ++ toString parent.childLimit ++
          "; this batch would create " ++ toString (existingChildren + newKeys)))

def reserveAll (scope : String) (parentTaskId : Option TaskId) (specs : List TaskSpec)
    (maxAttempts : ℕ) (now : Time) : Txn (List (TaskRecord × Bool)) :=
  if specs.isEmpty then return []
  else wrapping "Cannot reserve managed tasks: " do
    if ¬ (specs.map fun spec => spec.key).Nodup then
      throw (.taskStore "A start batch cannot contain duplicate task keys")
    checkChildLimit scope parentTaskId specs
    specs.mapM (reserveOne scope parentTaskId maxAttempts now)

/-! ### Observing -/

/-- `TaskStore.record_liveness`: open, continue or close a stall episode. A finding is no
transition: neither the version nor `updated_at` moves. -/
def recordLiveness (taskId : TaskId) (liveness : Liveness) (evidence : Option String) (now : Time) :
    Txn Unit := do
  match (← get).task taskId with
  | none => throw (.taskStore "Managed task not found")
  | some row =>
    if row.state ∈ liveStates then
      let health :=
        if livenessStretch row.liveness = livenessStretch liveness then
          { row.toHealth with liveness := liveness, livenessEvidence := evidence }
        else
          let closing : Bool := liveness = .live
          { row.toHealth with
            liveness := liveness
            livenessEpisode := row.livenessEpisode + if closing then 0 else 1
            livenessSince := if closing then none else some now
            livenessWakes := 0
            livenessEvidence := if closing then none else evidence }
      modify fun db => db.putTask { row with toHealth := health }

def recordOverBudget (taskId : TaskId) : Txn Unit := do
  match (← get).task taskId with
  | none => return
  | some row =>
    if row.overBudget = false ∧ row.state ∈ liveStates then
      modify fun db => db.putTask { row with overBudget := true }

/-! ### Cleanup intents and outgoing mail -/

/-- A native command as `NativeCommandQueue` reads it. -/
structure Command where
  id : String
  sessionId : SessionId
  body : String
  state : String
  dedupeKey : Option String
  executionProcessId : Option String
  deriving DecidableEq

def settledCommandStates : List String := ["done", "failed", "cancelled", "completed", "killed"]

def commandIntents (taskId : TaskId) (epoch : ℕ) (sessionId : SessionId) (command : Command) :
    List CleanupIntent :=
  if command.state ∈ settledCommandStates then []
  else
    let cancel : CleanupIntent := ⟨taskId, epoch, .commandCancel, command.id, sessionId, false⟩
    match command.executionProcessId with
    | none => [cancel]
    | some "" => [cancel]
    | some process => [cancel, ⟨taskId, epoch, .executionStop, process, sessionId, false⟩]

def Store.addIntent (db : Store) (intent : CleanupIntent) : Store :=
  if (db.cleanups.get intent.key).isSome then db
  else { db with cleanups := db.cleanups.put intent }

def recordCleanupIntents (taskId : TaskId) (epoch : ℕ) (sessionId : SessionId)
    (commands : List Command) (db : Store) : Store :=
  (commands.flatMap (commandIntents taskId epoch sessionId)).foldl Store.addIntent db

def beginOutgoingCommand (taskId : TaskId) (epoch : ℕ) (sessionId : SessionId) (dedupeKey : String)
    (db : Store) : Store :=
  let command : OutgoingCommand := ⟨taskId, epoch, dedupeKey, sessionId, none, .sending⟩
  if (db.outgoing.get command.key).isSome then db
  else { db with outgoing := db.outgoing.put command }

def settleOutgoingCommand (taskId : TaskId) (epoch : ℕ) (dedupeKey : String)
    (nativeId : Option String) (terminal : Bool) : Txn Unit := do
  match (← get).outgoing.get (taskId, epoch, dedupeKey) with
  | none => throw (.taskStore "outgoing command was not prepared")
  | some command =>
    let settled : OutgoingCommand := { command with
      nativeId := nativeId.or command.nativeId
      state := if terminal then .cleanup else .settled }
    modify fun db => { db with outgoing := db.outgoing.put settled }
    match nativeId with
    | some id =>
      if terminal ∧ id ≠ "" then
        modify fun db => db.addIntent ⟨taskId, epoch, .commandCancel, id, command.sessionId, false⟩
    | none => return

def acknowledgeCleanupIntent (taskId : TaskId) (epoch : ℕ) (kind : CleanupKind) (nativeId : String)
    (db : Store) : Store :=
  let acked := match db.cleanups.get (taskId, epoch, kind, nativeId) with
    | some intent => { db with cleanups := db.cleanups.put { intent with acknowledged := true } }
    | none => db
  if kind = .commandCancel then
    (db.outgoing.rows.filter fun c => c.taskId = taskId && c.epoch = epoch &&
      c.nativeId = some nativeId && c.state = .cleanup).foldl
      (fun db c => { db with outgoing := db.outgoing.put { c with state := .acknowledged } }) acked
  else acked

/-! ### Checkpoint operations -/

def checkCheckpointOwner (current : TaskRow) (epoch : ℕ) (holder : Option SessionId) (version : ℕ) :
    Txn Unit :=
  if current.state ∉ liveStates ∨ current.epoch ≠ epoch ∨ holder = none ∨ holder = some "" ∨
      current.holderSessionId ≠ holder ∨ current.version ≠ version then
    throw (.stale current.toTaskRecord "checkpoint")
  else pure ()

def prepareCheckpointOperation (task : TaskRecord) (operationId checkpoint : String)
    (facts : CheckpointFacts) : Txn CheckpointOperation := do
  if ¬ Python.canonicalUuid operationId then
    throw (.taskStore "checkpoint operation ID must be a canonical UUID")
  let db ← get
  match db.task task.taskId with
  | none => throw (.taskStore "checkpoint task no longer exists")
  | some current =>
    match db.checkpoints.get operationId with
    | some operation =>
      if (operation.taskId, operation.epoch, some operation.holderSessionId, operation.checkpoint,
          operation.facts) ≠
          (task.taskId, task.epoch, task.holderSessionId, checkpoint, facts) then
        throw (.taskStore "checkpoint operation immutable facts changed")
      if operation.receipt = none then
        checkCheckpointOwner current operation.epoch operation.holderSessionId
          operation.expectedVersion
      return operation
    | none =>
      checkCheckpointOwner current task.epoch task.holderSessionId task.version
      if db.checkpoints.rows.any fun o => o.taskId = task.taskId && o.epoch = task.epoch &&
          o.checkpoint = checkpoint then
        throw (.integrity "UNIQUE constraint failed: task_checkpoint_operations.task_id")
      let operation : CheckpointOperation :=
        ⟨operationId, task.taskId, task.epoch, task.holderSessionId.getD "", task.version,
          checkpoint, facts, none⟩
      modify fun db => { db with checkpoints := db.checkpoints.put operation }
      return operation

/-- `TaskStore.checkpoint_with_occurrence`: the confirmed occurrence and the row as one fact. -/
def checkpointWithOccurrence (operation : CheckpointOperation) (receipt : Receipt) (now : Time) :
    Txn TaskRecord := do
  match (← get).checkpoints.get operation.operationId with
  | none => throw (.taskStore "checkpoint operation was not prepared")
  | some stored =>
    if (stored.taskId, stored.epoch, stored.holderSessionId, stored.expectedVersion,
        stored.checkpoint, stored.facts) ≠
        (operation.taskId, operation.epoch, operation.holderSessionId, operation.expectedVersion,
          operation.checkpoint, operation.facts) then
      throw (.taskStore "checkpoint operation immutable facts changed")
    match (← get).task stored.taskId with
    | none => throw (.taskStore "checkpoint task no longer exists")
    | some current =>
      match stored.receipt with
      | some known =>
        if known ≠ receipt then
          throw (.taskStore "checkpoint occurrence changed during replay")
        return current.toTaskRecord
      | none =>
        checkCheckpointOwner current stored.epoch stored.holderSessionId stored.expectedVersion
        let record ← transition stored.taskId liveStates (some stored.expectedVersion)
          (Lifecycle.checkpointed stored.checkpoint now) id "checkpoint" now
        let committed : CheckpointOperation := { stored with receipt := some receipt }
        modify fun db => { db with checkpoints := db.checkpoints.put committed }
        return record

end SightMesh
