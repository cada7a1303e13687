import SightMesh.Kernel.Retention
import SightMesh.Programs.Reconciler

/-! The programs of `sdk.py` and the ownership transfer of `succession.py`. -/
namespace SightMesh

open Python Concurrency

def maxAttempts : ℕ := 3

/-! ### Finishing a task -/

/-- `SightMesh._finish`: a repeated finish of the state already reached is no conflict. -/
def finishTask (site : FinishSite) (task : TaskRecord) (state : TaskState) (result : Option String)
    (chargeFailure : Bool) : Kernel TaskRecord :=
  ((stamped (.finish site task state result chargeFailure)).bind fun r => .ret r.1).handle fun e =>
    match e with
    | .stale current attempted =>
      if current.state = state then .ret current else .fail (.stale current attempted)
    | e => .fail e

def terminalFinishStates : List TaskState := [.completed, .cancelled, .lost, .exhausted]

/-- `OwnershipStore.retire`: the first terminal record wins. -/
def retireSession (record : TerminalOwnership) : Kernel TerminalOwnership := do
  match ← read (·.ownership record.sessionId) with
  | some existing => return existing
  | none => Prog.commit' (.retire record)

def recordOutgoingIntents (current : TaskRecord) (holder : SessionId) : Kernel Unit := do
  let outgoing ← read (·.terminalOutgoing current.taskId current.epoch)
  forEach outgoing fun command =>
    match present command.nativeId with
    | none => .ret ()
    | some native => Prog.commit' (.recordCleanupIntents current.taskId current.epoch holder
        [⟨native, holder, "", "pending", none, none⟩])

def retireHolder (current : TaskRecord) (reason : String) : Kernel Unit :=
  match present current.holderSessionId with
  | none => .ret ()
  | some holder => do
    let _ ← retireSession ⟨holder, .retired, reason,
      some ("task:" ++ current.taskId ++ ":" ++ toString current.epoch), none⟩

def settleEffect (current : TaskRecord) (state : TaskState) (wanted : Option WorkspaceId) :
    Kernel (Option Effect × Option WorkspaceId) := do
  match ← read (·.effect current.taskId current.epoch) with
  | none => return (none, wanted)
  | some effect =>
    if state ∉ terminalFinishStates then return (some effect, wanted)
    let settled ← if effect.state = .terminal then pure effect
      else stamped (.markTerminal current.taskId current.epoch state.name none)
    return (some settled, if settled.workspaceId.isNone then none else wanted)

def recordHolderIntents (task current : TaskRecord) (state : TaskState) (commands : List Command) :
    Kernel Unit :=
  if state ∈ terminalFinishStates ∧ current.holderSessionId = task.holderSessionId then do
    Prog.commit' (.recordCleanupIntents current.taskId current.epoch
      (current.holderSessionId.getD "None") commands)
    recordOutgoingIntents current (current.holderSessionId.getD "None")
  else .ret ()

/-- The fenced decision of `_finish_locked`: the finished row, its effect, and the workspace that
is still to be stopped. -/
def finishDecision (task : TaskRecord) (state : TaskState) (result : Option String)
    (stopWorkspace : Bool) (commands : List Command) :
    Kernel (TaskRecord × ℕ × Option Effect × Option WorkspaceId) := do
  match ← read (·.getById task.taskId) with
  | none => throw (.sightMesh ("Task '" ++ task.key ++ "' no longer exists"))
  | some current =>
    recordHolderIntents task current state commands
    let updated ← finishTask .lifecycle current state result false
    let settled ← settleEffect current state (if stopWorkspace then current.workspaceId else none)
    if state ∈ terminalFinishStates then
      retireHolder current ("managed task " ++ state.name)
    return (updated, current.epoch, settled)

def stopFinished (task : TaskRecord) (epoch : ℕ) (effect : Option Effect)
    (workspaceId : Option WorkspaceId) : Kernel Unit :=
  match present workspaceId with
  | none => .ret ()
  | some workspaceId =>
    taskLock task.taskId <| externalIo task.taskId <|
      match effect.filter fun e => (present e.workspaceId).isSome with
      | some effect => stopTerminal effect
      | none => query (.stopWorkspace (task.taskId, epoch) workspaceId)

def announceFinish (task updated : TaskRecord) : Kernel Unit := do
  match ← taskLock task.taskId (read (·.getById task.taskId)) with
  | none => return
  | some current =>
    if current.version = updated.version then
      pump
      reconcileCleanupIntents

def finishCommands (task : TaskRecord) (state : TaskState) : Kernel (List Command) :=
  if state ∈ terminalFinishStates then holderCommands task else .ret []

def finishLocked (task : TaskRecord) (state : TaskState) (result : Option String)
    (stopWorkspace : Bool) : Kernel Unit := do
  let commands ← finishCommands task state
  let (updated, epoch, effect, workspaceId) ←
    taskLock task.taskId (finishDecision task state result stopWorkspace commands)
  stopFinished task epoch effect workspaceId
  announceFinish task updated

/-! ### Launching -/

def coolBinding (task : TaskRecord) (outcome : String) (retryAt : Option Time) : Kernel Unit :=
  match present task.spec.target.authBindingId with
  | none => .ret ()
  | some binding =>
    if outcome ∈ rerouteOutcomes ∧ binding ≠ freeAuthBinding then
      query (.coolOutcome outcome binding task.spec.target.routeClass task.spec.target.routeId
        retryAt)
    else .ret ()

/-- `SightMesh._record_provider_outcome`: cool first, then record. -/
def recordProviderOutcome (task : TaskRecord) (outcome : String) (retryAt : Option Time) :
    Kernel Unit := do
  coolBinding task outcome retryAt
  let _ ← stamped (.markTerminal task.taskId task.epoch outcome retryAt)

def launchRejected (task : TaskRecord) (e : KernelError) : Kernel Native :=
  match e with
  | .cdesktop failure _ =>
    if failure.isRejected then do
      let current ← read (·.getById task.taskId)
      if !unmoved current task then
        let _ ← stamped (.markTerminal task.taskId task.epoch "superseded" none)
      else
        match failure with
        | .rejected status retryAt =>
          recordProviderOutcome task (rejectionOutcome status) retryAt
          let _ ← finishTask .launchRejected task .blocked
            (some ("launch rejected: " ++ rejectionOutcome status)) true
        | _ => pure ()
      throw e
    else .fail e
  | e => .fail e

def effectIds (task : TaskRecord) (py : Library) (native : Native) :
    Kernel (WorkspaceId × SessionId) := do
  let reason := py.strip native.reason
  if native.state = "pending" ∧ native.retryable then
    let _ ← stamped (.markRefused task.taskId task.epoch (orText (some reason) "refused")
      native.retryAfterSeconds)
    throw (.cdesktop .pending ("launch refused for '" ++ task.key ++ "': " ++
      orText (some reason) "temporary refusal"))
  else if native.state = "lost" then
    let reason := orText (some reason) "lost"
    let _ ← stamped (.markTerminal task.taskId task.epoch ("lost:" ++ reason) none)
    let _ ← finishTask .nativeLost task .lost (some reason) false
    throw (.sightMesh ("Native launch for '" ++ task.key ++ "' was lost: " ++ reason))
  else if native.state ≠ "active" ∨ native.workspaceId = "" ∨ native.sessionId = "" then
    throw (.sightMesh ("Native launch for '" ++ task.key ++ "' is " ++
      orText (some native.state) "invalid"))
  else return (native.workspaceId, native.sessionId)

/-- The reservation loop of `_journaled_launch`: wait out a live owner with the gate open. -/
def reserveLaunch (task : TaskRecord) (launch : Launch) (owner : String) : ℕ → Kernel Effect
  | 0 => (stamped (.reserve task.taskId task.epoch launch owner)).bind fun r => .ret r.1
  | patience + 1 =>
    ((stamped (.reserve task.taskId task.epoch launch owner)).bind fun r => .ret r.1).handle fun e =>
      match e with
      | .effectBusy _ =>
        (externalIo task.taskId (.ret ())).bind fun _ => reserveLaunch task launch owner patience
      | e => .fail e

def supersedeLaunch (task : TaskRecord) (workspaceId : WorkspaceId) : Kernel Effect := do
  let existing ← read (·.effect task.taskId task.epoch)
  if existing.any fun effect => effect.state = .terminal then
    stamped (.markCleanupWorkspace task.taskId task.epoch workspaceId)
  else stamped (.markSuperseded task.taskId task.epoch workspaceId)

def launchSuperseded (task : TaskRecord) (workspaceId : WorkspaceId) :
    Kernel (WorkspaceId × SessionId) := do
  let superseded ← supersedeLaunch task workspaceId
  externalIo task.taskId (stopTerminal superseded)
  throw (.sightMesh ("Native launch for '" ++ task.key ++ "' was superseded"))

/-- `SightMesh._journaled_launch`: reserve, launch once, and record the native identifiers. -/
def journaledLaunch (py : Library) (owner : String) (task : TaskRecord) (launch : Launch) :
    Kernel (WorkspaceId × SessionId) := do
  let patience ← Prog.ask .patience
  let effect ← reserveLaunch task launch owner patience
  match effect.state, present effect.workspaceId, present effect.sessionId with
  | .launched, some workspaceId, some sessionId => return (workspaceId, sessionId)
  | _, _, _ => do
    let native ← (externalIo task.taskId
      (query (.managedLaunch task.taskId task.epoch launch))).handle (launchRejected task)
    let (workspaceId, sessionId) ← effectIds task py native
    let current ← read (·.getById task.taskId)
    if !unmoved current task then
      launchSuperseded task workspaceId
    else
      let _ ← stamped (.markLaunched task.taskId task.epoch workspaceId sessionId)
      return (workspaceId, sessionId)

def changedWhilePrepared (task : TaskRecord) : KernelError :=
  .sightMesh ("Task '" ++ task.key ++ "' changed while its launch was being prepared; " ++
    "not launching from a stale snapshot")

def requireUnchanged (task : TaskRecord) : Kernel Unit := do
  let current ← read (·.getById task.taskId)
  if !unmoved current task then throw (changedWhilePrepared task)

/-- The forwarding loop of `transfer_ownership`: each open command goes to the successor under
its own dedupe key. -/
def forwardCommands (taskId : TaskId) (key : String) (successor : SessionId)
    (commands : List NativeCommand) : Kernel Unit :=
  forEach commands fun row =>
    if row.body = "" then .ret ()
    else do
      let _ ← externalIo taskId (query (.send .forwarded successor row.body
        (orText row.dedupeKey (key ++ ":command:" ++ row.id))))

def cancelCommands (taskId : TaskId) (commands : List NativeCommand) : Kernel Unit :=
  forEach commands fun row =>
    match present row.executionProcessId with
    | none => .ret ()
    | some process => do
      let _ ← externalIo taskId (query (.stopExecution process ("quarantine:" ++ row.id)))

/-- The successor of a retired session: the one already linked, or a new one. -/
def linkedSuccessor (prepared : TaskRecord) (source : SessionId) (record : TerminalOwnership)
    (spawn : Kernel SessionId) : Kernel SessionId :=
  match present record.successorSessionId with
  | some linked => .ret linked
  | none => do
    requireUnchanged prepared
    let spawned ← spawn
    if spawned = "" then throw (.succession "Successor spawn did not return a session id")
    let _ ← Prog.run (.linkSuccessor source spawned)
    return spawned

/-- `transfer_ownership`, for the holder of a prepared replacement; `spawn` fills its epoch. -/
def transferOwnership (prepared : TaskRecord) (source : SessionId) (spawn : Kernel SessionId) :
    Kernel SessionId := do
  let logicalKey := "task:" ++ prepared.taskId ++ ":epoch:" ++ toString prepared.epoch
  let record ← retireSession ⟨source, .superseded, "managed task replacement", some logicalKey, none⟩
  let key := orText record.logicalKey logicalKey
  let rows ← externalIo prepared.taskId (query (.sessionCommands source))
  let openCommands := rows.filter fun row => orText row.state "pending" ∉ commandTerminalStates
  let successor ← linkedSuccessor prepared source record spawn
  assertDeliverable successor
  forwardCommands prepared.taskId key successor openCommands
  cancelCommands prepared.taskId openCommands
  return successor

def launchRequest (task : TaskRecord) (prompt : String) : LaunchRequest where
  name := task.key
  prompt := prompt
  executor := task.spec.target.executor
  permissionPolicy := task.spec.permission
  model := task.spec.target.model
  reasoning := task.spec.target.reasoning
  providerId := task.spec.target.providerId
  authBindingId := task.spec.target.authBindingId

/-- `SightMesh._workspace_request`: building it registers the repository. -/
def workspaceRequest (task : TaskRecord) (prompt : String) : Kernel Launch := do
  let repoId ← query (.registerRepo task.spec.repoPath task.spec.setupScript)
  return .workspace repoId task.spec.base (launchRequest task prompt)

def replacePrepared (py : Library) (owner : String) (prepared : TaskRecord) (prompt : String) :
    Kernel TaskRecord := do
  let launch := Launch.session prepared.workspaceId prepared.holderSessionId
    (launchRequest prepared prompt)
  let successor ← transferOwnership prepared (prepared.holderSessionId.getD "None") do
    let ids ← journaledLaunch py owner prepared launch
    return ids.2
  stamped (.activate .replacePrepared prepared (prepared.workspaceId.getD "None") successor)

def launchPrepared (py : Library) (owner : String) (prepared : TaskRecord) (prompt : String) :
    Kernel TaskRecord := do
  match present prepared.workspaceId, present prepared.holderSessionId with
  | some _, some _ => replacePrepared py owner prepared prompt
  | _, _ =>
    let launch ← externalIo prepared.taskId (workspaceRequest prepared prompt)
    requireUnchanged prepared
    let (workspaceId, sessionId) ← journaledLaunch py owner prepared launch
    stamped (.activate .launchPrepared prepared workspaceId sessionId)

/-! ### Starting -/

/-- The wait loop of `_wait_for_launch_capacity`: it looks at least once. -/
def waitForLaunchCapacity (task : TaskRecord) (cap patience : ℕ) : Kernel Unit :=
  (externalIo task.taskId (query .runningProcesses)).bind fun processes =>
    (lift (countRunning processes)).bind fun running =>
      if running < cap then .ret ()
      else match patience with
        | 0 => .fail (.sightMesh ("capacity: " ++ toString running ++ " managed workers running " ++
            ">= cap " ++ toString cap ++ "; '" ++ task.key ++
            "' stays reserved - retry start (it adopts the reservation)"))
        | patience + 1 => waitForLaunchCapacity task cap patience

def startReservedLocked (py : Library) (owner : String) (cap : ℕ) (task : TaskRecord) :
    Kernel Unit := do
  if task.state ≠ .reserved then return
  let launch ← externalIo task.taskId (workspaceRequest task task.spec.prompt)
  let prepared ← read (·.getById task.taskId)
  if !unmoved prepared task then return
  let patience ← Prog.ask .patience
  waitForLaunchCapacity task cap patience
  let current ← read (·.getById task.taskId)
  if !unmoved current task then return
  let (workspaceId, sessionId) ← journaledLaunch py owner task launch
  let _ ← stamped (.activate .startReserved task workspaceId sessionId)

def startReserved (py : Library) (owner : String) (cap : ℕ) (task : TaskRecord) : Kernel Unit :=
  Prog.withLock .admission <| taskLock task.taskId do
    match ← read (·.getById task.taskId) with
    | none => throw (.sightMesh ("Task '" ++ task.key ++ "' no longer exists"))
    | some current => startReservedLocked py owner cap current

def reissueExpired (scope : String) (spec : TaskSpec) : Kernel Unit := do
  let expired := fun (task : TaskRecord) =>
    task.state = .lost ∧ task.result = some "reservation expired"
  match ← read (·.getByKey scope spec.key) with
  | none => return
  | some task =>
    if ¬ expired task then return
    taskLock task.taskId do
      match ← read (·.getById task.taskId) with
      | none => return
      | some current =>
        if ¬ expired current then return
        if current.attempts ≥ current.maxAttempts then
          throw (.sightMesh ("Task '" ++ spec.key ++ "' expired and tripped its " ++
            toString current.maxAttempts ++ "-attempt circuit breaker"))
        let _ ← stamped (.reissue current spec)

def callerContext (caller : Option SessionId) : Kernel (String × Option TaskRecord) :=
  match present caller with
  | none => .ret ("operator", none)
  | some session => do
    match ← read (·.getBySession session) with
    | some parent => return (parent.taskId, some parent)
    | none => return ("session:" ++ session, none)

def permissionPolicies : List String :=
  ["BYPASS_PERMISSIONS", "ACCEPT_EDITS", "PLAN", "SUPERVISED"]

def validKey (key : String) : Bool :=
  let letter := fun (c : Char) => ('a' ≤ c && c ≤ 'z') || ('0' ≤ c && c ≤ '9')
  match key.toList with
  | [] => false
  | c :: rest => letter c && rest.length ≤ 23 && rest.all fun c => letter c || c = '_' || c = '-'

def validateSpec (py : Library) (spec : WorkerSpec) : Answer Unit :=
  if !validKey spec.key then .error (.sightMesh
    "Task keys use 1 to 24 lowercase letters, numbers, hyphens, or underscores")
  else if py.strip spec.prompt = "" then
    .error (.sightMesh ("Prompt for '" ++ spec.key ++ "' must not be empty"))
  else if py.strip spec.base = "" then
    .error (.sightMesh ("Base branch for '" ++ spec.key ++ "' must not be empty"))
  else if spec.children < 0 ∨ 1000 < spec.children then
    .error (.sightMesh "children must be between 0 and 1000")
  else if spec.permission ∉ permissionPolicies then
    .error (.sightMesh ("Unknown permission policy '" ++ spec.permission ++ "'"))
  else if spec.routeClass.any (· ∉ routeClasses) then
    .error (.sightMesh "route_class must be one of standard, deep")
  else .ok ()

def isEphemeralRepoPath (path : String) : Bool :=
  contains "/conductor/workspaces/" path || contains "/.cdesktop-workspaces/" path

/-- `SightMesh._prepare_spec`: a task that already exists keeps the resolution it was stored
with, unless it is an expired reservation. -/
def prepareSpec (py : Library) (scope : String) (topLevel : Bool) (requested : WorkerSpec) :
    Kernel TaskSpec := do
  lift (validateSpec py requested)
  let repo ← query (.resolveRepo requested.repo)
  if isEphemeralRepoPath repo.path then
    throw (.sightMesh ("Repository " ++ repo.path ++
      " is an ephemeral worktree; register its canonical checkout"))
  let asked : PublicSpec := {
    key := requested.key, prompt := requested.prompt, repo := repo.name, repoId := repo.id,
    repoPath := repo.path, base := requested.base, profile := requested.profile,
    executor := requested.executor, model := requested.model, reasoning := requested.reasoning,
    permission := requested.permission, children := requested.children.toNat,
    routeClass := requested.routeClass }
  let existing ← read (·.getByKey scope requested.key)
  let kept := existing.filter fun task =>
    ¬ (task.state = .lost ∧ task.result = some "reservation expired")
  match kept with
  | some task =>
    if task.spec.toPublicSpec ≠ asked then
      throw (.sightMesh ("Task '" ++ requested.key ++
        "' already exists with a different specification"))
    return task.spec
  | none =>
    let setupScript ← query (.setupScript repo.path requested.base)
    let target ← query (.selectTarget requested topLevel)
    let detection ← query (.resolvePolicy requested)
    return { asked with setupScript := setupScript, target := target, detection := detection }

def sweepAdmission (py : Library) : Kernel Unit := do
  sweepLosses py
  expireReservations py
  reconcileTerminal

def ensureSwept (py : Library) (swept : Bool) : Kernel Unit :=
  if swept then .ret () else sweepAdmission py

/-- The errors one reservation of a batch keeps to itself. -/
def KernelError.staysInBatch : KernelError → Bool
  | value _ => true
  | e => e.isCdesktop || e.isSightMesh || e.isTaskStore

def collect {α β : Type} : List α → (α → Kernel β) → Kernel (List β)
  | [], _ => .ret []
  | x :: xs, body => (body x).bind fun y => (collect xs body).bind fun ys => .ret (y :: ys)

def requireActiveParent (parent : Option TaskRecord) : Kernel Unit :=
  match parent with
  | none => .ret ()
  | some parent =>
    if parent.state = .active then .ret ()
    else .fail (.sightMesh ("Task '" ++ parent.key ++ "' cannot start children while " ++
      parent.state.name))

def startAll (py : Library) (owner : String) (cap : ℕ) (caller : Option SessionId)
    (swept : Bool) (requested : List WorkerSpec) : Kernel Unit := do
  ensureSwept py swept
  let (scope, parent) ← callerContext caller
  requireActiveParent parent
  let prepared ← collect requested (prepareSpec py scope parent.isNone)
  forEach prepared (reissueExpired scope)
  query .contract
  let now ← clock
  let reservations ← Prog.run (.reserveAll scope (parent.map fun p => p.taskId) prepared
    maxAttempts now)
  forEach reservations fun reservation =>
    excepting (startReserved py owner cap reservation.1) KernelError.staysInBatch fun _ => .ret ()

/-! ### Lifecycle calls of a worker or a manager -/

def findTask (caller : Option SessionId) (key : String) : Kernel TaskRecord := do
  let (scope, _) ← callerContext caller
  match ← read (·.getByKey scope key) with
  | some task => return task
  | none => throw (.sightMesh ("Unknown task: " ++ key))

def currentTask (caller : Option SessionId) : Kernel TaskRecord :=
  match present caller with
  | none => .fail (.sightMesh "This process is not running inside a managed task")
  | some session => do
    match ← read (·.getBySession session) with
    | some task => return task
    | none => throw (.sightMesh "This process is not running inside a managed task")

def namedTask (caller : Option SessionId) (worker : Option String) : Kernel TaskRecord :=
  match worker with
  | none => currentTask caller
  | some key => findTask caller key

def complete (caller : Option SessionId) (summary worker : Option String) : Kernel Unit := do
  finishLocked (← namedTask caller worker) .completed summary true

def blocked (py : Library) (caller : Option SessionId) (reason : String) (worker : Option String) :
    Kernel Unit := do
  if py.strip reason = "" then throw (.sightMesh "Blocked reason must not be empty")
  finishLocked (← namedTask caller worker) .blocked (some reason) false

def cancel (caller : Option SessionId) (worker : String) : Kernel Unit := do
  finishLocked (← findTask caller worker) .cancelled none true

/-- The prompt of a replacement: the caller's, or the saved checkpoint, read with the gate of
the fence open. -/
def replacementPrompt (py : Library) (fence : TaskId) (task : TaskRecord) (prompt : Option String) :
    Kernel String := do
  let text ← if (present prompt).isSome then pure prompt
    else externalIo fence (query (.readCheckpoint task))
  match text.filter fun text => py.strip text ≠ "" with
  | some text => return text
  | none => throw (.sightMesh "Replacement requires a prompt or saved checkpoint")

/-- `TaskStore._require_fence`: the only check of it that a caller can fail. -/
def requireFence (taskId fence : TaskId) : Kernel Unit :=
  if fence = taskId then .ret ()
  else .fail (.taskStore "Lifecycle state writes require the task fence")

def prepareReplace (task : TaskRecord) : Kernel TaskRecord :=
  let target := { task.spec.target with recovery := none }
  if task.state = .replacing then
    stamped (.resumeReplacement task target (routingOutcome task.spec.target.recovery).isSome)
  else stamped (.prepareReplacement task (some target) false)

/-- The fenced part of `SightMesh.replace`. The task is found again by its name, so it need not
be the one whose fence is held. -/
def replaceLocked (py : Library) (owner : String) (caller : Option SessionId) (worker : String)
    (prompt : Option String) (fence : TaskId) : Kernel Unit := do
  let task ← findTask caller worker
  if (present task.workspaceId).isNone ∨ (present task.holderSessionId).isNone then
    throw (.sightMesh ("Task '" ++ worker ++ "' has no session to replace"))
  let text ← replacementPrompt py fence task prompt
  requireFence task.taskId fence
  let prepared ← prepareReplace task
  let _ ← replacePrepared py owner prepared text

def replace (py : Library) (owner : String) (caller : Option SessionId) (worker : String)
    (prompt : Option String) : Kernel Unit := do
  let task ← findTask caller worker
  query .contract
  taskLock task.taskId (replaceLocked py owner caller worker prompt task.taskId)

/-! ### Recovery -/

def blockUnroutable (site : FinishSite) (task : TaskRecord) (reason : String) : Kernel Unit := do
  if task.state = .blocked then return
  let _ ← finishTask site task .blocked (some reason) true

def queueStillOwns (sessionId : SessionId) : Kernel Bool := do
  let rows ← query (.sessionCommands sessionId)
  return rows.any fun row => orText row.state "pending" ∉ commandTerminalStates

/-- `_observe_session_failure_locked`; it answers whether it blocked the task. -/
def observeSessionFailureLocked (py : Library) (task : TaskRecord) (sessionId : SessionId) :
    Kernel Bool := do
  if task.state ≠ .active then return false
  match ← read (·.effect task.taskId task.epoch) with
  | none => return false
  | some effect =>
    if effect.state ≠ .launched then return false
    let processes ← externalIo task.taskId (query (.executionProcesses sessionId))
    match latestExecutionProcess py (processes.filter fun p =>
        (p.get "run_reason").isText "codingagent") with
    | none => return false
    | some process =>
      if py.str ((process.get "status").orElse' (.str "")) ∉ processFailureStatuses then return false
      let now ← clock
      match processProviderOutcome py now process with
      | some (outcome, retryAt) =>
        recordProviderOutcome task outcome retryAt
        return false
      | none =>
        let owned ← externalIo task.taskId (queueStillOwns sessionId)
        if owned then return false
        blockUnroutable .processFailure task (processFailureReason py process)
        return true

def observeSessionFailure (py : Library) (task : TaskRecord) (sessionId : SessionId) :
    Kernel Bool :=
  taskLock task.taskId do
    match ← read (·.getById task.taskId) with
    | none => return false
    | some current => observeSessionFailureLocked py current sessionId

/-- `SightMesh._resume_replacement`: an unfilled epoch is filled, an ended one is settled. -/
def resumePrepared (py : Library) (owner : String) (task : TaskRecord) (effect : Option Effect) :
    Kernel Unit := do
  match effect with
  | some effect =>
    if effect.state = .terminal then
      blockUnroutable .replacementEnded task
        ("replacement epoch ended: " ++ effect.outcome.getD "None")
    else
      let _ ← launchPrepared py owner task task.spec.prompt
  | none =>
    let _ ← launchPrepared py owner task task.spec.prompt

def nextTarget (task : TaskRecord) (selected : RouteTarget) (providerId outcome : String) :
    Target where
  executor := some selected.executor
  model := selected.model
  reasoning := task.spec.reasoning
  providerId := some providerId
  authBindingId := selected.authBindingId
  routeClass := selected.routeClass
  routeId := selected.routeId
  billingClass := selected.billingClass
  failover := some "auto"
  recovery := some outcome

def exhaustTask (task : TaskRecord) (outcome : String) : Kernel Unit := do
  let _ ← finishTask .exhausted task .exhausted
    (some (outcome ++ " on route " ++ task.spec.target.routeId.getD "None")) false
  retireHolder task "managed task exhausted"

def rerouteTask (py : Library) (owner : String) (task : TaskRecord) (outcome : String) :
    Kernel Unit := do
  let routeId := task.spec.target.routeId.getD "None"
  let routeClass := orText task.spec.target.routeClass defaultRouteClass
  if task.spec.target.failover = some "pinned" then
    blockUnroutable .unroutable task (outcome ++ " on " ++ routeId ++ "; automatic failover is off")
  else
    match ← query (.advanceRoute outcome (some routeClass) task.spec.target.authBindingId) with
    | .unresolved reason =>
      blockUnroutable .unroutable task (outcome ++ " on route " ++ routeId ++ " (" ++ routeClass ++
        "); " ++ reason)
    | .resolved selected =>
      let providerId ← externalIo task.taskId (query .defaultProvider)
      let prepared ← stamped (.prepareReplacement task
        (some (nextTarget task selected providerId outcome)) (task.state = .active))
      let _ ← launchPrepared py owner prepared task.spec.prompt

def advancePastOutcomeLocked (py : Library) (owner : String) (task : TaskRecord) :
    Kernel Unit := do
  let effect ← read (·.effect task.taskId task.epoch)
  if task.state = .replacing then
    if (routingOutcome task.spec.target.recovery).isNone then return
    resumePrepared py owner task effect
  else
    if task.state ≠ .active ∧ task.state ≠ .blocked then return
    let outcome := (effect.filter fun e => e.state = .terminal).bind fun e => routingOutcome e.outcome
    match outcome with
    | none => return
    | some outcome =>
      if task.attempts ≥ task.maxAttempts then return
      if task.state = .active ∧ task.attempts + 1 ≥ task.maxAttempts then
        exhaustTask task outcome
      else rerouteTask py owner task outcome

def advancePastOutcome (py : Library) (owner : String) (task : TaskRecord) : Kernel Unit := do
  query .contract
  taskLock task.taskId do
    match ← read (·.getById task.taskId) with
    | none => return
    | some current => advancePastOutcomeLocked py owner current

def reconcileProviderOutcome (py : Library) (owner : String) (sessionId : SessionId) :
    Kernel Unit := do
  match ← read (·.getBySession sessionId) with
  | none => return
  | some task =>
    if ← observeSessionFailure py task sessionId then return
    let fresh ← read (·.getById task.taskId)
    advancePastOutcome py owner (fresh.getD task)

/-- The errors one task of the outcome sweep keeps to itself. -/
def KernelError.staysInSweep : KernelError → Bool
  | routing _ | pool _ => true
  | e => e.isCdesktop || e.isSightMesh || e.isSuccession || e.isTaskStore

def reconcileProviderOutcomes (py : Library) (owner : String) : Kernel Unit := do
  let effects ← read (·.withOutcomes sweepableOutcomes)
  let stuck ← readTasks (effects.map Effect.taskId)
  let replacing ← read (·.listState .replacing)
  let pending := stuck ++ replacing.filter fun t => !stuck.any fun s => s.taskId = t.taskId
  forEach pending fun task =>
    excepting (advancePastOutcome py owner task) KernelError.staysInSweep fun _ => .ret ()

/-! ### Mail and checkpoints -/

def sendLocked (entry : TaskRecord) (prompt operationId : String) : Kernel Unit := do
  let dedupeKey := "task-command:" ++ entry.taskId ++ ":" ++ toString entry.epoch ++ ":" ++
    operationId
  match ← read (·.getById entry.taskId) with
  | none => throw (.sightMesh ("Task '" ++ entry.key ++ "' is no longer active for mail"))
  | some current =>
    if current.state ≠ .active ∨ !unmoved (some current) entry ∨
        current.holderSessionId ≠ entry.holderSessionId then
      throw (.sightMesh ("Task '" ++ entry.key ++ "' is no longer active for mail"))
    let holder := current.holderSessionId.getD "None"
    assertDeliverable holder
    Prog.commit' (.beginOutgoing current.taskId current.epoch holder dedupeKey)
    let nativeId ← externalIo current.taskId do
      match ← query (.send (.mail current.taskId current.epoch) holder prompt dedupeKey) with
      | some id => return some id
      | none =>
        let commands ← queueCommands holder
        return (commands.find? fun c => c.dedupeKey = some dedupeKey).map Command.id
    let latest ← read (·.getById current.taskId)
    let terminal := match latest with
      | none => false
      | some latest => decide (latest.epoch = current.epoch ∧
          latest.holderSessionId = current.holderSessionId ∧
          latest.state ∈ terminalFinishStates)
    Prog.run (.settleOutgoing current.taskId current.epoch dedupeKey nativeId terminal)

def sendTarget (py : Library) (caller : Option SessionId) (entry : String × String × String) :
    Kernel (TaskRecord × String × String) := do
  if py.strip entry.2.1 = "" then
    throw (.sightMesh ("Command for '" ++ entry.1 ++ "' must not be empty"))
  let task ← findTask caller entry.1
  if task.state ≠ .active ∨ (present task.holderSessionId).isNone then
    throw (.sightMesh ("Task '" ++ entry.1 ++ "' does not accept mail: it is " ++ task.state.name))
  assertDeliverable (task.holderSessionId.getD "")
  return (task, entry.2)

/-- `SightMesh.send_all`, of `(worker, prompt, operation id)` commands. -/
def sendAll (py : Library) (caller : Option SessionId) (entries : List (String × String × String)) :
    Kernel Unit := do
  if ¬ (entries.map Prod.fst).Nodup then
    throw (.sightMesh "A command batch cannot target a worker twice")
  let targets ← collect entries (sendTarget py caller)
  forEach targets fun target =>
    excepting (taskLock target.1.taskId (sendLocked target.1 target.2.1 target.2.2))
      (fun e => e.isCdesktop || e.isSightMesh) fun _ => .ret ()
  reconcileCleanupIntents

def savedCheckpoint (operationId : Option String) : Kernel (Option CheckpointOperation) :=
  match present operationId with
  | none => .ret none
  | some id => read fun db => db.checkpoints.get id

/-- An explicit retry is for the task, the epoch and the bytes of the saved operation. -/
def checkRetry (py : Library) (task : TaskRecord) (text : String) :
    Option CheckpointOperation → Answer Unit
  | none => .ok ()
  | some saved =>
    if saved.taskId ≠ task.taskId ∨ saved.epoch ≠ task.epoch ∨
        saved.facts.sha256 ≠ py.sha256 text ∨ saved.facts.sizeBytes ≠ text.utf8ByteSize then
      .error (.sightMesh "Checkpoint retry does not match the saved task/epoch/bytes")
    else .ok ()

/-- `CheckpointRetention.publish`: the artifact, or its receipt where the operation has one. -/
def publishCheckpoint (py : Library) (operation : CheckpointOperation) : Kernel Receipt := do
  let receipt ← query (.publishCheckpoint operation)
  lift (verifiedReceipt py operation receipt)

def KernelError.isPending : KernelError → Bool
  | evidence _ | database _ | integrity _ => true
  | _ => false

/-- The part of `SightMesh.checkpoint` under the task fence, where native evidence is kept. -/
def checkpointNatively (py : Library) (task : TaskRecord) (operationId reference : String)
    (facts : CheckpointFacts) : Kernel Unit :=
  excepting (do
    let operation ← Prog.run (.prepareCheckpoint task operationId reference facts)
    let receipt ← externalIo task.taskId (publishCheckpoint py operation)
    let receipt ← lift (verifiedReceipt py operation receipt)
    let _ ← stamped (.checkpointOccurrence operation receipt))
    KernelError.isPending fun _ => throw (.sightMesh ("Checkpoint " ++ operationId ++
      " was not acknowledged; retain its working copy and retry with this operation_id"))

/-- `SightMesh.checkpoint` of the task it has read; the file work around it is the answer
`checkpointFile`. -/
def checkpointTask (py : Library) (task : TaskRecord) (text : String)
    (operationId : Option String) : Kernel Unit := do
  let native ← query .checkpointEvidence
  let saved ← savedCheckpoint operationId
  lift (checkRetry py task text saved)
  if operationId.isSome ∧ ¬ native then
    throw (.evidence "explicit checkpoint retries require native evidence v1")
  if (present task.workspaceId).isNone then
    throw (.sightMesh ("Task '" ++ task.key ++ "' has no workspace"))
  let (newId, reference, facts) ← query (.checkpointFile task text operationId saved)
  taskLock task.taskId do
    if native then
      match saved with
      | some saved =>
        checkpointNatively py task saved.operationId saved.checkpoint saved.facts
      | none => checkpointNatively py task newId reference facts
    else
      let _ ← stamped (.checkpointRow task reference)

def checkpoint (py : Library) (caller : Option SessionId) (text : String)
    (worker operationId : Option String) : Kernel Unit := do
  if py.strip text = "" then throw (.sightMesh "Checkpoint must not be empty")
  checkpointTask py (← namedTask caller worker) text operationId

end SightMesh
