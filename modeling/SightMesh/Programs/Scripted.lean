import SightMesh.Concurrency.Solo
import SightMesh.Programs.System
import SightMesh.Python.Ascii

/-! An executor that follows a script, and the runs it computes. Such a run decides whether a
property of every reachable state can hold, and whether the hypotheses of a theorem can be met. -/
namespace SightMesh

open Python Concurrency

/-! ### Scripts -/

/-- What a script decides; every other question has a fixed answer. The clock moves by `tick` with
every question. -/
structure Script where
  tick : Time
  launch : TaskId → ℕ → Answer Native
  effect : TaskId → ℕ → Answer Native
  processes : List Dict
  snapshot : Answer Json
  /-- The receipts of the native evidence, where it is kept. -/
  evidence : Option (CheckpointOperation → Receipt)
  /-- The working copies of checkpoints are edited later. -/
  edited : Bool

def workspaceOf (taskId : TaskId) : WorkspaceId := "workspace:" ++ taskId

def sessionOf (taskId : TaskId) (epoch : ℕ) : SessionId :=
  "session:" ++ taskId ++ ":" ++ toString epoch

def launched (taskId : TaskId) (epoch : ℕ) : Answer Native :=
  .ok ⟨"active", "", false, none, workspaceOf taskId, sessionOf taskId epoch⟩

def noAnswer {β : Type} : Answer β := .error (.cdesktop .transport "no answer")

def notFound {β : Type} : Answer β :=
  .error (.cdesktop (.rejected (some 404) none) effectNotFoundMessage)

/-- Every launch works, nothing fails, and time stands still. -/
def Script.calm : Script where
  tick := 0
  launch := launched
  effect _ _ := notFound
  processes := []
  snapshot := noAnswer
  evidence := none
  edited := false

def savedOperationId : String := "00000000-0000-4000-8000-000000000001"

def savedFacts (text : String) : CheckpointFacts where
  executionId := "00000000-0000-4000-8000-000000000002"
  originalPath := "/note.md"
  originalName := "note.md"
  sha256 := asciiLibrary.sha256 text
  sizeBytes := text.utf8ByteSize

def confirmedReceipt (operation : CheckpointOperation) : Receipt where
  id := "00000000-0000-4000-8000-000000000003"
  executionId := operation.facts.executionId
  attachmentId := "00000000-0000-4000-8000-000000000004"
  originalPath := operation.facts.originalPath
  originalName := some operation.facts.originalName
  producerRef := some (operation.taskId ++ ":" ++ toString operation.epoch)
  publicationKey := some ("checkpoint:" ++ operation.operationId)
  capturedAt := "2026-01-01T00:00:00+00:00"
  sha256 := operation.facts.sha256
  sizeBytes := operation.facts.sizeBytes
  durability := "confirmed"

/-- The worker runs, and was last heard of long ago. -/
def silentWorkerScript : Script :=
  { Script.calm with
    tick := 100
    processes := [[("status", .str "running"), ("run_reason", .str "codingagent"),
      ("updated_at", .num (.int 1))]] }

def failedProcess (outcome : String) : Dict :=
  [("status", .str "failed"), ("run_reason", .str "codingagent"), ("outcome", .str outcome)]

def scriptTarget : Target where
  executor := some "codex"
  model := none
  reasoning := none
  providerId := none
  authBindingId := none
  routeClass := some "standard"
  routeId := some "route-a"
  billingClass := none
  failover := some "auto"
  recovery := none

def Script.reply (script : Script) (calls : ℕ) {β : Type} : Query β → β
  | .clock => script.tick * calls
  | .patience => 1
  | .contract => .ok ()
  | .resolveRepo handle => .ok ⟨handle, handle, "/" ++ handle⟩
  | .setupScript _ _ => .ok none
  | .selectTarget _ _ => .ok scriptTarget
  | .resolvePolicy _ => .ok ⟨1500, none, none⟩
  | .registerRepo repoPath _ => .ok repoPath
  | .defaultProvider => .ok "codex"
  | .advanceRoute _ _ _ =>
    .ok (.resolved ⟨"codex", none, none, some "standard", some "route-b", none⟩)
  | .coolOutcome _ _ _ _ _ => .ok ()
  | .readCheckpoint task => .ok task.checkpoint
  | .checkpointEvidence => .ok script.evidence.isSome
  | .checkpointFile _ text _ saved =>
    if script.edited ∧ saved.isSome then
      .error (.sightMesh ("Checkpoint bytes changed at " ++ (savedFacts text).originalPath))
    else .ok (savedOperationId, text, savedFacts text)
  | .publishCheckpoint operation =>
    match script.evidence with
    | some receipt => .ok (receipt operation)
    | none => .error (.evidence "no native evidence")
  | .runningProcesses => .ok []
  | .executionProcesses _ => .ok script.processes
  | .executionProcess _ => .ok "killed"
  | .normalizedSnapshot _ => script.snapshot
  | .queueStatus _ => .ok []
  | .sessionCommands _ => .ok []
  | .send _ _ _ _ => .ok none
  | .cancelCommand _ _ => .ok "cancelled"
  | .stopExecution _ _ => .ok "killed"
  | .managedLaunch taskId epoch _ => script.launch taskId epoch
  | .managedEffect taskId epoch => script.effect taskId epoch
  | .stopWorkspace _ _ => .ok ()

/-- The executor remembers how many questions it has answered. -/
def Script.oracle (script : Script) {β : Type} (calls : ℕ) (q : Query β) : β × ℕ :=
  (script.reply calls q, calls + 1)

def Script.executor (script : Script) : Executor ℕ where
  answer calls q b next := (b, next) = script.oracle calls q

abbrev ScriptWorld := World KernelError Tx Query LockKey Store ℕ

def Script.run (script : Script) (ops : List (Kernel Unit)) (schedule : List Turn) : ScriptWorld :=
  (World.boot (Store.initial true) 0 ops).play (kernel asciiLibrary script.executor) script.oracle
    schedule

def Script.allows (script : Script) (ok : Shared Tx Query Store ℕ → Event Tx Query → Bool)
    (ops : List (Kernel Unit)) (schedule : List Turn) : Bool :=
  (World.boot (Store.initial true) 0 ops).passes (kernel asciiLibrary script.executor) script.oracle
    ok schedule

theorem Script.boot_reachable (script : Script)
    {ok : Shared Tx Query Store ℕ → Event Tx Query → Prop} {ops : List (Kernel Unit)}
    (known : ∀ op ∈ ops, KernelOp asciiLibrary op) :
    Reachable (kernel asciiLibrary script.executor) ok
      (World.boot (Store.initial true) 0 ops) :=
  World.boot_reachable (S := kernel asciiLibrary script.executor) ⟨true, rfl⟩ ops known

theorem Script.run_reachable (script : Script) {ops : List (Kernel Unit)}
    (known : ∀ op ∈ ops, KernelOp asciiLibrary op) (schedule : List Turn) :
    Reachable (kernel asciiLibrary script.executor) anyEvent (script.run ops schedule) :=
  World.play_reachable (fun _ _ => rfl) schedule (script.boot_reachable known)

theorem Script.run_allowed (script : Script) {ops : List (Kernel Unit)}
    (known : ∀ op ∈ ops, KernelOp asciiLibrary op)
    {ok : Shared Tx Query Store ℕ → Event Tx Query → Bool} {schedule : List Turn}
    (allowed : script.allows ok ops schedule) :
    Reachable (kernel asciiLibrary script.executor) (fun s e => ok s e)
      (script.run ops schedule) :=
  World.passes_reachable (fun _ _ => rfl) schedule (script.boot_reachable known) allowed

def steps (p n : ℕ) : List Turn := List.replicate n (.step p)

theorem Script.ends_passing (script : Script)
    {ok : Shared Tx Query Store ℕ → Event Tx Query → Bool} {w : ScriptWorld} {p n : ℕ}
    {P : Kernel Unit}
    (passes : (w.put p P).passes (kernel asciiLibrary script.executor) script.oracle ok
      (steps p n))
    (ended : ((w.put p P).play (kernel asciiLibrary script.executor) script.oracle
      (steps p n)).finished p) :
    P.Ends (kernel asciiLibrary script.executor) (fun s e => ok s e) w.shared (.ok ())
      ((w.put p P).play (kernel asciiLibrary script.executor) script.oracle (steps p n)).shared := by
  have sound {β : Type} (env : ℕ) (q : Query β) : (kernel asciiLibrary script.executor).answer env q
      (script.oracle env q).1 (script.oracle env q).2 := rfl
  exact World.play_ends sound n (Function.update_self ..) passes ended

theorem Script.ends_alone (script : Script) {w : ScriptWorld} {p n : ℕ} {P : Kernel Unit}
    (ended : ((w.put p P).play (kernel asciiLibrary script.executor) script.oracle
      (steps p n)).finished p) :
    P.Ends (kernel asciiLibrary script.executor) anyEvent w.shared (.ok ())
      ((w.put p P).play (kernel asciiLibrary script.executor) script.oracle (steps p n)).shared :=
  Prog.Ends.mono (fun _ _ _ => trivial) (script.ends_passing (World.passes_any _ _) ended)

def workerSpec (key : String) (children : ℤ) : WorkerSpec where
  key := key
  prompt := "do the work"
  repo := "repo"
  base := "main"
  profile := none
  executor := none
  model := none
  reasoning := none
  permission := "PLAN"
  children := children
  routeClass := none

def startOne (caller : Option SessionId) (key : String) (children : ℤ) : Kernel Unit :=
  startAll asciiLibrary "owner" 4 caller true [workerSpec key children]

def workerId : TaskId := taskIdOf "operator" "worker"

def startWorker : Kernel Unit := startOne none "worker" 0

def bossId : TaskId := taskIdOf "operator" "boss"

def childId : TaskId := taskIdOf bossId "child"

def startBoss : Kernel Unit := startOne none "boss" 1

def startChild : Kernel Unit := startOne (some (sessionOf bossId 1)) "child" 0

end SightMesh
