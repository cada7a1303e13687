import SightMesh.Concurrency.RelyGuarantee
import SightMesh.Kernel.Effects

/-! The transactions of the kernel, and the questions it asks outside its databases. A
transaction carries the record its caller holds, so a stale writer can be told from a current
one; the label of its call site changes nothing about what it does. -/
namespace SightMesh

open Concurrency Python

inductive LockKey where
  | admission
  | task (taskId : TaskId)
  deriving DecidableEq

/-- The call sites of `finish_with_wake`; `approval` is of a finding read at the epoch. -/
inductive FinishSite where
  | lifecycle
  | approval (epoch : ℕ)
  | exhausted | processFailure | unroutable | replacementEnded | launchRejected | nativeLost
  deriving DecidableEq

inductive ActivateSite where
  | startReserved | launchPrepared | replacePrepared | adoptExpired
  deriving DecidableEq

/-- What a command is sent for: mail to an epoch, a command of a retired session, or a wake. -/
inductive SendSite where
  | mail (taskId : TaskId) (epoch : ℕ)
  | forwarded
  | wake (wakeId : ℕ)
  deriving DecidableEq

abbrev Answer (β : Type) := Except KernelError β

inductive Tx : Type → Type 1 where
  | read {β : Type} (view : Store → β) : Tx β
  | reserveAll (scope : String) (parentTaskId : Option TaskId) (specs : List TaskSpec)
      (maxAttempts : ℕ) (now : Time) : Tx (Answer (List (TaskRecord × Bool)))
  | activate (site : ActivateSite) (seen : TaskRecord) (workspaceId : WorkspaceId)
      (sessionId : SessionId) (now : Time) : Tx (Answer TaskRecord)
  | prepareReplacement (seen : TaskRecord) (target : Option Target) (chargeFailure : Bool)
      (now : Time) : Tx (Answer TaskRecord)
  | resumeReplacement (seen : TaskRecord) (target : Target) (automaticRecovery : Bool)
      (now : Time) : Tx (Answer TaskRecord)
  | reissue (seen : TaskRecord) (resolvedSpec : TaskSpec) (now : Time) : Tx (Answer TaskRecord)
  | checkpointRow (seen : TaskRecord) (reference : String) (now : Time) : Tx (Answer TaskRecord)
  | prepareCheckpoint (seen : TaskRecord) (operationId checkpoint : String)
      (facts : CheckpointFacts) : Tx (Answer CheckpointOperation)
  | checkpointOccurrence (operation : CheckpointOperation) (receipt : Receipt) (now : Time) :
      Tx (Answer TaskRecord)
  | finish (site : FinishSite) (seen : TaskRecord) (state : TaskState) (result : Option String)
      (chargeFailure : Bool) (now : Time) : Tx (Answer (TaskRecord × List ℕ))
  | finishExpired (seen : TaskRecord) (now : Time) : Tx (Answer TaskRecord)
  | recordLoss (seen : TaskRecord) (reason payload : String) (now : Time) : Tx (Answer (List ℕ))
  | recordFinding (seen : TaskRecord) (liveness : Option Liveness) (evidence : Option String)
      (overBudget : Bool) (now progressTimeout : Time) : Tx (Answer (List ℕ))
  | reserve (taskId : TaskId) (epoch : ℕ) (requestHash : Launch) (owner : String) (now : Time) :
      Tx (Answer (Effect × Bool))
  | markLaunched (taskId : TaskId) (epoch : ℕ) (workspaceId : WorkspaceId)
      (sessionId : SessionId) (now : Time) : Tx (Answer Effect)
  | markTerminal (taskId : TaskId) (epoch : ℕ) (outcome : String) (retryAt : Option Time)
      (now : Time) : Tx (Answer Effect)
  | markRefused (taskId : TaskId) (epoch : ℕ) (reason : String) (retryAfter : Option Time)
      (now : Time) : Tx (Answer Effect)
  | markSuperseded (taskId : TaskId) (epoch : ℕ) (workspaceId : WorkspaceId) (now : Time) :
      Tx (Answer Effect)
  | markCleanupWorkspace (taskId : TaskId) (epoch : ℕ) (workspaceId : WorkspaceId) (now : Time) :
      Tx (Answer Effect)
  | retireReservation (taskId : TaskId) (epoch : ℕ) (moment : Time) : Tx (Option Effect)
  | acknowledgeStop (effect : Effect) (now : Time) : Tx Unit
  | retire (record : TerminalOwnership) : Tx TerminalOwnership
  | linkSuccessor (source successor : SessionId) : Tx (Answer TerminalOwnership)
  | recordCohortWakes (now : Time) : Tx Unit
  | claimWakes (now : Time) : Tx (List Wake)
  | persistPayload (wake : Wake) (selected : String) : Tx (Option String)
  | settleWake (wake : Wake) (state : WakeState) (resolution payload : Option String)
      (now : Time) : Tx Bool
  | recordCleanupIntents (taskId : TaskId) (epoch : ℕ) (sessionId : SessionId)
      (commands : List Command) : Tx Unit
  | beginOutgoing (taskId : TaskId) (epoch : ℕ) (sessionId : SessionId) (dedupeKey : String) :
      Tx Unit
  | settleOutgoing (taskId : TaskId) (epoch : ℕ) (dedupeKey : String) (nativeId : Option String)
      (terminal : Bool) : Tx (Answer Unit)
  | acknowledgeCleanup (taskId : TaskId) (epoch : ℕ) (kind : CleanupKind) (nativeId : String) :
      Tx Unit

def recordFinding (taskId : TaskId) (liveness : Option Liveness) (evidence : Option String)
    (overBudget : Bool) (now progressTimeout : Time) : Txn (List ℕ) := do
  match liveness with
  | some liveness => recordLiveness taskId liveness evidence now
  | none => pure ()
  if overBudget then
    recordOverBudget taskId
  let armed := recordLivenessWakes taskId now progressTimeout (← get)
  set armed.1
  return armed.2

/-- The `cohort_wakes` stage: every parent, in the order its first child was inserted. -/
def recordCohortWakes (now : Time) (db : Store) : Store :=
  (db.tasks.rows.filterMap fun r => r.parentTaskId).dedup.foldl
    (fun db parentTaskId => (recordWakes parentTaskId now db).1) db

/-- What a transaction does to the databases, and what it answers. -/
def Tx.exec {β : Type} (tx : Tx β) (db : Store) : Store × β :=
  match tx with
  | .read view => (db, view db)
  | .reserveAll scope parent specs maxAttempts now =>
    atomically (SightMesh.reserveAll scope parent specs maxAttempts now) db
  | .activate _ seen workspaceId sessionId now =>
    atomically (SightMesh.activate seen.taskId workspaceId sessionId now) db
  | .prepareReplacement seen target chargeFailure now =>
    atomically (SightMesh.prepareReplacement seen.taskId target chargeFailure
      (some seen.version) now) db
  | .resumeReplacement seen target automatic now =>
    atomically (SightMesh.resumeReplacement seen target automatic now) db
  | .reissue seen spec now => atomically (SightMesh.reissue seen spec now) db
  | .checkpointRow seen reference now => atomically (SightMesh.checkpointRow seen reference now) db
  | .prepareCheckpoint seen operationId checkpoint facts =>
    atomically (prepareCheckpointOperation seen operationId checkpoint facts) db
  | .checkpointOccurrence operation receipt now =>
    atomically (checkpointWithOccurrence operation receipt now) db
  | .finish _ seen state result chargeFailure now =>
    atomically (finishWithWake seen.taskId state result none chargeFailure now) db
  | .finishExpired seen now =>
    atomically (SightMesh.finish seen.taskId .lost (some "reservation expired") none false now) db
  | .recordLoss seen reason payload now => SightMesh.recordLoss seen reason payload now db
  | .recordFinding seen liveness evidence overBudget now progressTimeout =>
    atomically (SightMesh.recordFinding seen.taskId liveness evidence overBudget now
      progressTimeout) db
  | .reserve taskId epoch requestHash owner now =>
    atomically (reserveEffect taskId epoch requestHash owner reservationTtlSeconds now) db
  | .markLaunched taskId epoch workspaceId sessionId now =>
    atomically (SightMesh.markLaunched taskId epoch workspaceId sessionId now) db
  | .markTerminal taskId epoch outcome retryAt now =>
    atomically (SightMesh.markTerminal taskId epoch outcome retryAt now) db
  | .markRefused taskId epoch reason retryAfter now =>
    atomically (SightMesh.markRefused taskId epoch reason retryAfter now) db
  | .markSuperseded taskId epoch workspaceId now =>
    atomically (SightMesh.markSuperseded taskId epoch workspaceId now) db
  | .markCleanupWorkspace taskId epoch workspaceId now =>
    atomically (SightMesh.markCleanupWorkspace taskId epoch workspaceId now) db
  | .retireReservation taskId epoch moment => SightMesh.retireReservation taskId epoch moment db
  | .acknowledgeStop effect now => (SightMesh.acknowledgeStop effect now db, ())
  | .retire record => db.insertOwnership record
  | .linkSuccessor source successor => atomically (SightMesh.linkSuccessor source successor) db
  | .recordCohortWakes now => (SightMesh.recordCohortWakes now db, ())
  | .claimWakes now => SightMesh.claimWakes claimSeconds now db
  | .persistPayload wake selected => SightMesh.persistPayload wake selected db
  | .settleWake wake state resolution payload now =>
    SightMesh.settleWake wake state resolution payload now db
  | .recordCleanupIntents taskId epoch sessionId commands =>
    (SightMesh.recordCleanupIntents taskId epoch sessionId commands db, ())
  | .beginOutgoing taskId epoch sessionId dedupeKey =>
    (beginOutgoingCommand taskId epoch sessionId dedupeKey db, ())
  | .settleOutgoing taskId epoch dedupeKey nativeId terminal =>
    atomically (settleOutgoingCommand taskId epoch dedupeKey nativeId terminal) db
  | .acknowledgeCleanup taskId epoch kind nativeId =>
    (acknowledgeCleanupIntent taskId epoch kind nativeId db, ())

/-! ### The world outside -/

/-- The request of a start, before its repository and target are resolved. -/
structure WorkerSpec where
  key : String
  prompt : String
  repo : String
  base : String
  profile : Option String
  executor : Option String
  model : Option String
  reasoning : Option String
  permission : String
  children : ℤ
  routeClass : Option String

structure Repo where
  id : String
  name : String
  path : String

/-- The body of a managed launch or lookup; a missing text is empty. -/
structure Native where
  state : String
  reason : String
  retryable : Bool
  retryAfterSeconds : Option Time
  workspaceId : String
  sessionId : String

/-- A row of a session's native command queue. -/
structure NativeCommand where
  id : String
  body : String
  state : Option String
  dedupeKey : Option String
  executionProcessId : Option String

structure RouteTarget where
  executor : String
  model : Option String
  authBindingId : Option String
  routeClass : Option String
  routeId : Option String
  billingClass : Option String

inductive Selection where
  | resolved (target : RouteTarget)
  | unresolved (reason : String)

inductive Query : Type → Type 1 where
  | clock : Query Time
  | patience : Query ℕ
  | contract : Query (Answer Unit)
  | resolveRepo (handle : String) : Query (Answer Repo)
  | setupScript (repoPath base : String) : Query (Answer (Option String))
  | selectTarget (spec : WorkerSpec) (topLevel : Bool) : Query (Answer Target)
  | resolvePolicy (spec : WorkerSpec) : Query (Answer DetectionPolicy)
  | registerRepo (repoPath : String) (setupScript : Option String) : Query (Answer String)
  | defaultProvider : Query (Answer String)
  | advanceRoute (outcome : String) (routeClass failedBindingId : Option String) :
      Query (Answer Selection)
  | coolOutcome (outcome bindingId : String) (routeClass routeId : Option String)
      (retryAt : Option Time) : Query (Answer Unit)
  | readCheckpoint (task : TaskRecord) : Query (Answer (Option String))
  | checkpointEvidence : Query (Answer Bool)
  | checkpointFile (task : TaskRecord) (text : String) (operationId : Option String)
      (saved : Option CheckpointOperation) : Query (Answer (String × String × CheckpointFacts))
  | publishCheckpoint (operation : CheckpointOperation) : Query (Answer Receipt)
  | runningProcesses : Query (Answer (List Dict))
  | executionProcesses (sessionId : SessionId) : Query (Answer (List Dict))
  | executionProcess (processId : String) : Query (Answer String)
  | normalizedSnapshot (processId : String) : Query (Answer Json)
  | queueStatus (sessionId : SessionId) : Query (Answer Dict)
  | sessionCommands (sessionId : SessionId) : Query (Answer (List NativeCommand))
  | send (site : SendSite) (sessionId : SessionId) (prompt dedupeKey : String) :
      Query (Answer (Option String))
  | cancelCommand (sessionId : SessionId) (commandId : String) : Query (Answer String)
  | stopExecution (processId dedupeKey : String) : Query (Answer String)
  | managedLaunch (taskId : TaskId) (epoch : ℕ) (launch : Launch) : Query (Answer Native)
  | managedEffect (taskId : TaskId) (epoch : ℕ) : Query (Answer Native)
  | stopWorkspace (cleanup : TaskId × ℕ) (workspaceId : WorkspaceId) : Query (Answer Unit)

/-- A program of one SightMesh process. -/
abbrev Kernel := Prog KernelError Tx Query LockKey

def clock : Kernel Time := Prog.ask .clock

def read {β : Type} (view : Store → β) : Kernel β := Prog.commit' (.read view)

def stamped {β : Type} (tx : Time → Tx (Answer β)) : Kernel β :=
  clock.bind fun now => Prog.run (tx now)

def query {β : Type} (q : Query (Answer β)) : Kernel β := Prog.query q

def taskLock {β : Type} (taskId : TaskId) (body : Kernel β) : Kernel β :=
  Prog.withLock (.task taskId) body

def externalIo {β : Type} (taskId : TaskId) (body : Kernel β) : Kernel β :=
  Prog.released (.task taskId) body

def isolated (body : Kernel Unit) : Kernel Unit := body.handle fun _ => .ret ()

def excepting {β : Type} (body : Kernel β) (caught : KernelError → Bool)
    (handler : KernelError → Kernel β) : Kernel β :=
  body.handle fun e => if caught e then handler e else .fail e

def forEach {α : Type} : List α → (α → Kernel Unit) → Kernel Unit
  | [], _ => .ret ()
  | x :: xs, body => (body x).bind fun _ => forEach xs body

end SightMesh
