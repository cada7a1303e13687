import SightMesh.Database.Table
import SightMesh.Python.Value

/-! The rows of the task database. A row keeps apart what never changes after its insertion
(`Identity`), what only a lifecycle transition changes, always with a version bump (`Lifecycle`),
and what the detector observes without one (`Health`). -/
namespace SightMesh

abbrev TaskId := String
abbrev SessionId := String
abbrev WorkspaceId := String

abbrev Time := ℚ

inductive TaskState where
  | reserved | active | replacing | blocked | completed | cancelled | lost | exhausted
  deriving DecidableEq

def TaskState.name : TaskState → String
  | reserved => "reserved"
  | active => "active"
  | replacing => "replacing"
  | blocked => "blocked"
  | completed => "completed"
  | cancelled => "cancelled"
  | lost => "lost"
  | exhausted => "exhausted"

def liveStates : List TaskState := [.reserved, .active, .replacing, .blocked]

/-- `FINISH_PREDECESSORS`; the states that are no finish target answer `none`. -/
def finishPredecessors : TaskState → Option (List TaskState)
  | .completed => some [.active, .replacing, .blocked]
  | .blocked => some [.reserved, .active, .replacing]
  | .cancelled => some [.reserved, .active, .replacing, .blocked]
  | .lost => some [.reserved, .active, .replacing]
  | .exhausted => some [.reserved, .active, .replacing, .blocked]
  | .reserved | .active | .replacing => none

def activatePredecessors : List TaskState := [.reserved, .active, .replacing]

def replacePredecessors : List TaskState := [.active, .blocked, .lost]

def holderStates : List TaskState := [.active, .replacing, .blocked]

/-- States in which a child is working on its manager's behalf. -/
def yieldStates : List TaskState := [.active, .replacing]

inductive Liveness where
  | live | parked | idleUnreported | limbo | stalled
  deriving DecidableEq

def Liveness.name : Liveness → String
  | live => "live"
  | parked => "parked"
  | idleUnreported => "idle_unreported"
  | limbo => "limbo"
  | stalled => "stalled"

def stallLivenessStates : List Liveness := [.idleUnreported, .limbo, .stalled]

inductive Stretch where
  | live | parked | silent
  deriving DecidableEq

def livenessStretch : Liveness → Stretch
  | .live => .live
  | .parked => .parked
  | .idleUnreported | .limbo | .stalled => .silent

structure Budget where
  maxTurns : Option ℚ
  maxTokens : Option ℚ
  maxCost : Option ℚ
  deriving DecidableEq

structure DetectionPolicy where
  progressTimeout : Time
  approvalTimeout : Option Time
  budget : Option Budget
  deriving DecidableEq

structure Target where
  executor : Option String
  model : Option String
  reasoning : Option String
  providerId : Option String
  authBindingId : Option String
  routeClass : Option String
  routeId : Option String
  billingClass : Option String
  failover : Option String
  recovery : Option String
  deriving DecidableEq

/-- What was asked for, and so the fingerprint a repeated start compares. -/
structure PublicSpec where
  key : String
  prompt : String
  repo : String
  repoId : String
  repoPath : String
  base : String
  profile : Option String
  executor : Option String
  model : Option String
  reasoning : Option String
  permission : String
  children : ℕ
  routeClass : Option String
  deriving DecidableEq

structure TaskSpec extends PublicSpec where
  setupScript : Option String
  target : Target
  detection : DetectionPolicy
  deriving DecidableEq

structure Identity where
  taskId : TaskId
  scope : String
  key : String
  parentTaskId : Option TaskId
  maxAttempts : ℕ
  childLimit : ℕ
  createdAt : Time
  deriving DecidableEq

structure Lifecycle where
  state : TaskState
  epoch : ℕ
  attempts : ℕ
  spec : TaskSpec
  workspaceId : Option WorkspaceId
  holderSessionId : Option SessionId
  checkpoint : Option String
  checkpointAt : Option Time
  result : Option String
  version : ℕ
  deriving DecidableEq

structure Health where
  liveness : Liveness
  livenessEpisode : ℕ
  livenessSince : Option Time
  livenessWakes : ℕ
  livenessEvidence : Option String
  overBudget : Bool
  deriving DecidableEq

def Health.fresh : Health where
  liveness := .live
  livenessEpisode := 0
  livenessSince := none
  livenessWakes := 0
  livenessEvidence := none
  overBudget := false

structure TaskRecord extends Identity, Lifecycle, Health where
  updatedAt : Time
  deriving DecidableEq

structure TaskRow extends TaskRecord where
  childEventSeq : ℕ
  lastWokenSeq : ℕ
  deriving DecidableEq

def TaskRow.id (r : TaskRow) : TaskId := r.taskId

/-! ### Effects -/

inductive EffectState where
  | reserved | launched | terminal
  deriving DecidableEq

def EffectState.name : EffectState → String
  | reserved => "reserved"
  | launched => "launched"
  | terminal => "terminal"

structure LaunchRequest where
  name : String
  prompt : String
  executor : Option String
  permissionPolicy : String
  model : Option String
  reasoning : Option String
  providerId : Option String
  authBindingId : Option String
  deriving DecidableEq

/-- The two launch shapes of the managed launch contract. -/
inductive Launch where
  | workspace (repoId targetBranch : String) (request : LaunchRequest)
  | session (workspaceId callerSessionId : Option String) (request : LaunchRequest)
  deriving DecidableEq

structure Effect where
  taskId : TaskId
  epoch : ℕ
  requestHash : Launch
  state : EffectState
  workspaceId : Option WorkspaceId
  sessionId : Option SessionId
  outcome : Option String
  retryAt : Option Time
  ownerInstance : String
  leaseExpiresAt : Time
  updatedAt : Time
  deriving DecidableEq

def Effect.key (e : Effect) : TaskId × ℕ := (e.taskId, e.epoch)

/-! ### Wakes -/

inductive Predicate where
  | allChildrenTerminal | anyChildBlocked | anyChildLost | anyChildStalled | anyChildOverBudget
  deriving DecidableEq

def Predicate.name : Predicate → String
  | allChildrenTerminal => "all_children_terminal"
  | anyChildBlocked => "any_child_blocked"
  | anyChildLost => "any_child_lost"
  | anyChildStalled => "any_child_stalled"
  | anyChildOverBudget => "any_child_over_budget"

/-- The typed reasons of a liveness wake. -/
inductive WakeReason where
  | lost | idleUnreported | limbo | stalled | overBudget
  deriving DecidableEq

def livenessPredicates : WakeReason → Predicate
  | .lost => .anyChildLost
  | .idleUnreported | .limbo | .stalled => .anyChildStalled
  | .overBudget => .anyChildOverBudget

/-- The two spellings of a dedupe key, `{parent}:{predicate}` and
`{child}:{epoch}:{reason}:{episode}[:escalation]`, kept apart by their parts. -/
inductive DedupeKey where
  | cohort (parentTaskId : TaskId) (predicate : Predicate)
  | episode (childTaskId : TaskId) (epoch : ℕ) (reason : WakeReason) (episode : ℕ)
      (escalation : Bool)
  deriving DecidableEq

def DedupeKey.isEscalation : DedupeKey → Bool
  | cohort _ _ => false
  | episode _ _ _ _ escalation => escalation

inductive WakeState where
  | pending | claimed | delivered | resolved
  deriving DecidableEq

def toldWakeStates : List WakeState := [.pending, .claimed, .delivered]

def liveWakeStates : List WakeState := [.pending, .claimed]

structure Wake where
  wakeId : ℕ
  parentTaskId : TaskId
  predicate : Predicate
  dedupeKey : DedupeKey
  eventSeq : Option ℕ
  state : WakeState
  claimExpiresAt : Option Time
  claimToken : Option ℕ
  payload : Option String
  resolution : Option String
  createdAt : Time
  deriving DecidableEq

/-! ### Ownership, cleanup, mail and checkpoints -/

inductive TerminalState where
  | retired | superseded
  deriving DecidableEq

def TerminalState.name : TerminalState → String
  | retired => "retired"
  | superseded => "superseded"

structure TerminalOwnership where
  sessionId : SessionId
  state : TerminalState
  reason : String
  logicalKey : Option String
  successorSessionId : Option SessionId
  deriving DecidableEq

inductive CleanupKind where
  | commandCancel | executionStop
  deriving DecidableEq

structure CleanupIntent where
  taskId : TaskId
  epoch : ℕ
  kind : CleanupKind
  nativeId : String
  sessionId : SessionId
  acknowledged : Bool
  deriving DecidableEq

def CleanupIntent.key (i : CleanupIntent) : TaskId × ℕ × CleanupKind × String :=
  (i.taskId, i.epoch, i.kind, i.nativeId)

inductive OutgoingState where
  | sending | settled | cleanup | acknowledged
  deriving DecidableEq

structure OutgoingCommand where
  taskId : TaskId
  epoch : ℕ
  dedupeKey : String
  sessionId : SessionId
  nativeId : Option String
  state : OutgoingState
  deriving DecidableEq

def OutgoingCommand.key (c : OutgoingCommand) : TaskId × ℕ × String :=
  (c.taskId, c.epoch, c.dedupeKey)

structure CheckpointFacts where
  executionId : String
  originalPath : String
  originalName : String
  sha256 : String
  sizeBytes : ℕ
  deriving DecidableEq

/-- A native receipt, as `receipt_facts` reads it. -/
structure Receipt where
  id : String
  executionId : String
  attachmentId : String
  originalPath : String
  originalName : Option String
  producerRef : Option String
  publicationKey : Option String
  capturedAt : String
  sha256 : String
  sizeBytes : ℕ
  durability : String
  deriving DecidableEq

structure CheckpointOperation where
  operationId : String
  taskId : TaskId
  epoch : ℕ
  holderSessionId : SessionId
  expectedVersion : ℕ
  checkpoint : String
  facts : CheckpointFacts
  receipt : Option Receipt
  deriving DecidableEq

/-- The databases. `ownershipShared` is the default wiring, in which `terminal_ownerships`
lives in the file of the task tables; `fresh` is the next unused uuid. -/
structure Store where
  tasks : Database.Table TaskRow.id
  effects : Database.Table Effect.key
  wakes : Database.Table Wake.wakeId
  ownerships : Database.Table TerminalOwnership.sessionId
  cleanups : Database.Table CleanupIntent.key
  outgoing : Database.Table OutgoingCommand.key
  checkpoints : Database.Table CheckpointOperation.operationId
  ownershipShared : Bool
  fresh : ℕ

def Store.initial (ownershipShared : Bool) : Store where
  tasks := .empty
  effects := .empty
  wakes := .empty
  ownerships := .empty
  cleanups := .empty
  outgoing := .empty
  checkpoints := .empty
  ownershipShared := ownershipShared
  fresh := 0

/-! ### Exceptions -/

/-- The ways a request to the executor fails. `transport` has no answer, and `other` is every
answer without a typed status. -/
inductive CdesktopFailure where
  | rejected (status : Option ℕ) (retryAt : Option Time)
  | interrupted
  | pending
  | transport
  | other
  deriving DecidableEq

inductive KernelError where
  | taskStore (message : String)
  | stale (current : TaskRecord) (attempted : String)
  | effectBusy (message : String)
  | effectConflict (message : String)
  | effectTerminal (message : String)
  | integrity (message : String)
  | database (message : String)
  | sightMesh (message : String)
  | cdesktop (failure : CdesktopFailure) (message : String)
  | succession (message : String)
  | quarantined (record : TerminalOwnership)
  | routing (message : String)
  | pool (message : String)
  | value (message : String)
  | unknowable (message : String)
  | evidence (message : String)

def KernelError.isTaskStore : KernelError → Bool
  | taskStore _ | stale _ _ | effectBusy _ | effectConflict _ | effectTerminal _ => true
  | _ => false

def KernelError.isSuccession : KernelError → Bool
  | succession _ | quarantined _ => true
  | _ => false

def KernelError.isCdesktop : KernelError → Bool
  | cdesktop _ _ => true
  | _ => false

def KernelError.isSightMesh : KernelError → Bool
  | sightMesh _ => true
  | _ => false

end SightMesh
