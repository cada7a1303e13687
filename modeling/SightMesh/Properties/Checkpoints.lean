import SightMesh.Concurrency.Silent
import SightMesh.Discipline.Operations
import SightMesh.Kernel.Checkpoints
import SightMesh.Programs.Scripted
import SightMesh.Properties.EndedEffects

/-! Checkpoint operations: prepared, published, committed and retried. -/
namespace SightMesh

open Concurrency Database Python

variable {γ : Type} {py : Library} {x : Executor γ}

def Store.after (db : Store) (run : List AnyTx) : Store := play AnyTx.exec db run

theorem Store.after_append (db : Store) (run later : List AnyTx) :
    db.after (run ++ later) = (db.after run).after later := play_append later

theorem Store.after_one (db : Store) (tx : AnyTx) : db.after [tx] = tx.exec db := rfl

def Store.KeepsCommitted (a b : Store) : Prop :=
  ∀ operationId operation, a.operation operationId = some operation → operation.receipt.isSome →
    b.operation operationId = some operation

/-- What a run does with its operations. -/
structure CheckpointsSound (db : Store) (run : List AnyTx) : Prop where
  /-- An operation is applied at most once. -/
  once : ∀ before tx between tx' after, run = before ++ [tx] ++ between ++ [tx'] ++ after →
    ∀ operationId,
      (db.after before).Applies (db.after (before ++ [tx])) operationId →
      ¬ (db.after (before ++ [tx] ++ between)).Applies
        (db.after (before ++ [tx] ++ between ++ [tx'])) operationId
  /-- It is applied while its task is as it was when the operation was prepared. -/
  current : ∀ before tx after, run = before ++ [tx] ++ after → ∀ operationId,
    (db.after before).Applies (db.after (before ++ [tx])) operationId →
      ∃ operation, (db.after before).operation operationId = some operation ∧
        (db.after before).Owns operation ∧ ∃ earlier later, before = earlier ++ later ∧
          (db.after earlier).operation operationId = none ∧ (db.after earlier).Owns operation
  /-- A commit that does not apply its operation changes nothing. -/
  commits : ∀ before operation receipt now after,
    run = before ++ [⟨_, .checkpointOccurrence operation receipt now⟩] ++ after →
      db.after (before ++ [⟨_, .checkpointOccurrence operation receipt now⟩]) = db.after before ∨
      (db.after before).Applies
        (db.after (before ++ [⟨_, .checkpointOccurrence operation receipt now⟩]))
        operation.operationId
  /-- A committed operation keeps its facts and its receipt. -/
  kept : KeptBy AnyTx.exec Store.KeepsCommitted db run

/-! ### Over a run -/

theorem Store.exists_later (db : Store) (run : List AnyTx) {operationId : String}
    {operation : CheckpointOperation} (known : db.operation operationId = some operation) :
    ∃ next, (db.after run).operation operationId = some next ∧ operation.Later next := by
  induction run generalizing db operation with
  | nil => exact ⟨operation, known, .refl _⟩
  | cons tx run ih =>
    obtain ⟨mid, known, first⟩ := (tx.2.exec_prepares db).later known
    obtain ⟨next, known, second⟩ := ih (tx.exec db) known
    exact ⟨next, known, first.trans second⟩

theorem Store.Applies.never_again {db : Store} {tx : AnyTx} {operationId : String}
    (applied : db.Applies (tx.exec db) operationId) (between : List AnyTx) (b : Store) :
    ¬ ((tx.exec db).after between).Applies b operationId := by
  obtain ⟨operation, receipt, _, _, filled⟩ := applied
  obtain ⟨next, known, later⟩ := Store.exists_later (tx.exec db) between filled
  rintro ⟨operation', _, known', unset, _⟩
  cases Option.some.inj (known.symm.trans known')
  exact nomatch (later.receipt receipt rfl).symm.trans unset

/-- Every operation was prepared at some time, against its task as it then was. -/
theorem Store.prepared_against {db : Store} (opening : ∀ operationId, db.operation operationId = none)
    (run : List AnyTx) {operationId : String} {operation : CheckpointOperation}
    (known : (db.after run).operation operationId = some operation) :
    ∃ earlier later, run = earlier ++ later ∧ (db.after earlier).operation operationId = none ∧
      (db.after earlier).Owns operation := by
  induction run using List.reverseRecOn generalizing operation with
  | nil => exact nomatch (opening operationId).symm.trans known
  | append_singleton run tx ih =>
    have longer {operation : CheckpointOperation}
        (known : (db.after run).operation operationId = some operation) :
        ∃ earlier later, run ++ [tx] = earlier ++ later ∧
          (db.after earlier).operation operationId = none ∧ (db.after earlier).Owns operation := by
      obtain ⟨earlier, later, rfl, fresh, owns⟩ := ih known
      exact ⟨earlier, later ++ [tx], List.append_assoc .., fresh, owns⟩
    rw [Store.after_append, Store.after_one] at known
    cases tx.2.exec_prepares (db.after run) with
    | same left => exact longer ((Store.operation_same left _).symm.trans known)
    | prepared other fresh _ _ owns left =>
      have left := congrArg Store.checkpoints left
      rw [AnyTx.exec, Store.operation_put left] at known
      by_cases same : operationId = other.operationId
      · rw [if_pos same] at known
        cases known
        subst same
        exact ⟨run, [tx], rfl, fresh, owns⟩
      · rw [if_neg same] at known
        exact longer known
    | committed other _ receipt _ _ _ found _ _ left =>
      rw [AnyTx.exec, Store.operation_put left] at known
      by_cases same : operationId = other.operationId
      · rw [if_pos same] at known
        cases known
        subst same
        exact @longer other found
      · rw [if_neg same] at known
        exact longer known

theorem Store.KeepsCommitted.refl (db : Store) : db.KeepsCommitted db := fun _ _ known _ => known

theorem Store.KeepsCommitted.trans (a b c : Store) (first : a.KeepsCommitted b)
    (second : b.KeepsCommitted c) : a.KeepsCommitted c :=
  fun operationId operation known committed =>
    second operationId operation (first operationId operation known committed) committed

theorem exec_keepsCommitted (db : Store) (tx : AnyTx) : db.KeepsCommitted (tx.exec db) := by
  intro operationId operation known committed
  obtain ⟨receipt, receipted⟩ := Option.isSome_iff_exists.mp committed
  obtain ⟨next, known, later⟩ := (tx.2.exec_prepares db).later known
  rw [AnyTx.exec, known, later.facts, later.receipt receipt receipted, ← receipted]

theorem checkpoints_sound (db : Store) (opening : ∀ operationId, db.operation operationId = none)
    (run : List AnyTx) : CheckpointsSound db run where
  once := by
    rintro before tx between tx' after rfl operationId applied
    rw [Store.after_append db before [tx]] at applied
    rw [Store.after_append, Store.after_append db before [tx]]
    exact applied.never_again between _
  current := by
    rintro before tx after rfl operationId applied
    rw [Store.after_append] at applied
    obtain ⟨operation, known, owns⟩ := (tx.2.exec_prepares (db.after before)).owns applied
    exact ⟨operation, known, owns, Store.prepared_against opening before known⟩
  commits := by
    rintro before operation receipt now after rfl
    rw [Store.after_append]
    exact (checkpointOccurrence_effect operation receipt now (db.after before)).imp_right And.left
  kept := by
    rw [keptBy_iff Store.KeepsCommitted.refl Store.KeepsCommitted.trans]
    exact passes_of_forall exec_keepsCommitted db run

/-! ### Receipts -/

/-- The receipt of a committed operation was verified. -/
def Store.ReceiptsVerified (py : Library) (db : Store) : Prop :=
  ∀ operationId operation receipt, db.operation operationId = some operation →
    operation.receipt = some receipt → verifiedReceipt py operation receipt = .ok receipt

theorem receiptsVerified_after {β : Type} {H : Set LockKey} {s : Shared Tx Query Store γ}
    {tx : Tx β} (issued : Issued py H s tx) (h : s.store.ReceiptsVerified py) :
    (Shared.after s tx).store.ReceiptsVerified py := by
  intro operationId operation receipt known receipted
  obtain before | ⟨stored, seen, attached, named, agrees, rfl⟩ :=
    (tx.exec_prepares s.store).receipt known receipted
  · exact h operationId operation receipt before receipted
  · cases tx with
    | checkpointOccurrence =>
      cases attached
      simp only [CheckpointOperation.Agrees, Prod.mk.injEq] at agrees
      obtain ⟨task, epoch, _, _, _, facts⟩ := agrees
      exact verifiedReceipt_again named task epoch facts issued.2
    | _ => exact nomatch attached

/-! ### Retries -/

def Store.Committed (operation : CheckpointOperation) (receipt : Receipt) (db : Store) : Prop :=
  db.OperationsPlaced ∧ db.operation operation.operationId = some operation ∧
    operation.receipt = some receipt

/-- The native evidence of an operation is there: the client keeps evidence, and answers the operation
with that receipt. -/
structure Executor.Retains (x : Executor γ) (operation : CheckpointOperation)
    (receipt : Receipt) : Prop where
  evidence : ∀ env b env', x.answer env .checkpointEvidence b env' → b = .ok true
  published : ∀ env b env', x.answer env (.publishCheckpoint operation) b env' → b = .ok receipt

/-- The text, and the record of the task, that the operation was prepared with. -/
structure CheckpointOperation.Matches (operation : CheckpointOperation) (py : Library)
    (task : TaskRecord) (text : String) : Prop where
  named : task.taskId = operation.taskId
  epoch : task.epoch = operation.epoch
  holder : task.holderSessionId = some operation.holderSessionId
  sha256 : operation.facts.sha256 = py.sha256 text
  size : operation.facts.sizeBytes = text.utf8ByteSize

variable {operation : CheckpointOperation} {receipt : Receipt} {task : TaskRecord} {text : String}

theorem Store.Committed.exec {db : Store} (h : db.Committed operation receipt) {β : Type}
    (tx : Tx β) : (tx.exec db).1.Committed operation receipt := by
  obtain ⟨placed, known, receipted⟩ := h
  have committed : operation.receipt.isSome := by simp [receipted]
  exact ⟨placed.exec tx, exec_keepsCommitted db ⟨β, tx⟩ _ _ known committed, receipted⟩

theorem checkpointNatively_silent (retains : x.Retains operation receipt)
    (verified : verifiedReceipt py operation receipt = .ok receipt)
    (same : operation.Matches py task text) :
    (checkpointNatively py task operation.operationId operation.checkpoint
      operation.facts).Silent (kernel py x) (Store.Committed operation receipt)
      fun _ => True := by
  unfold checkpointNatively
  apply Prog.Silent.handle
  apply Prog.Silent.bind (m := fun prepared => prepared = operation)
  · apply Prog.Silent.run
    rintro db ⟨placed, found, receipted⟩
    exact ⟨operation, prepareCheckpoint_replay placed found receipted same.named same.epoch
      same.holder, rfl⟩
  rintro operation rfl
  apply Prog.Silent.bind (m := fun answered => answered = receipt)
  · apply Prog.Silent.released
    apply Prog.Silent.bind (m := fun answered => answered = receipt)
    · apply Prog.Silent.query
      intro env b env' answered
      exact ⟨receipt, retains.published env b env' answered, rfl⟩
    · rintro receipt rfl
      rw [verified]
      exact rfl
  rintro receipt rfl
  rw [verified]
  apply Prog.Silent.bind (m := fun answered => answered = receipt)
  · exact rfl
  rintro receipt rfl
  apply Prog.Silent.bind (m := fun _ => True)
  · apply Prog.Silent.bind (m := fun _ => True)
    · exact Prog.Silent.ask fun _ _ _ _ => trivial
    intro now _
    apply Prog.Silent.run
    rintro db ⟨placed, found, receipted⟩
    obtain ⟨record, ran⟩ := checkpointOccurrence_replay placed found receipted now
    exact ⟨record, ran, trivial⟩
  · exact fun _ _ => trivial

/-- The task has no workspace a retry could find its working copy in. -/
def TaskRecord.Homeless (task : TaskRecord) (e : KernelError) : Prop :=
  (present task.workspaceId).isNone ∧
    e = .sightMesh ("Task '" ++ task.key ++ "' has no workspace")

/-- The file work around a retry raised: its working copy was edited, or cannot be written. -/
def CheckpointOperation.Misfiled (operation : CheckpointOperation) (task : TaskRecord) (text : String)
    (event : Event Tx Query) (e : KernelError) : Prop :=
  event = .call (.checkpointFile task text (some operation.operationId) (some operation)) (.error e)

/-- A retry with the record and the text of a committed operation changes nothing. -/
theorem checkpointTask_excused (canonical : canonicalUuid operation.operationId = true)
    (retains : x.Retains operation receipt)
    (verified : verifiedReceipt py operation receipt = .ok receipt)
    (same : operation.Matches py task text) :
    (checkpointTask py task text (some operation.operationId)).Excused (kernel py x)
      (Store.Committed operation receipt) (operation.Misfiled task text) (fun _ => True)
      task.Homeless := by
  have named : present (some operation.operationId) = some operation.operationId := by
    apply Option.filter_eq_some_iff.mpr
    refine ⟨rfl, ?_⟩
    simp only [ne_eq, decide_not, Bool.not_eq_eq_eq_not, Bool.not_true, decide_eq_false_iff_not]
    intro empty
    rw [empty] at canonical
    exact nomatch canonical
  unfold checkpointTask
  apply Prog.Excused.bind (m := fun native => native = true)
  · apply Prog.Silent.excused
    apply Prog.Silent.query
    intro env b env' answered
    exact ⟨true, retains.evidence env b env' answered, rfl⟩
  rintro _ rfl
  apply Prog.Excused.bind (m := fun saved => saved = some operation)
  · apply Prog.Silent.excused
    rw [savedCheckpoint, named]
    exact Prog.Silent.commit fun db holds => ⟨rfl, holds.2.1⟩
  rintro saved rfl
  have checked : checkRetry py task text (some operation) = .ok () := by
    simp [checkRetry, same.named, same.epoch, same.sha256, same.size]
  rw [checked]
  apply Prog.Excused.bind (m := fun _ => True)
  · exact trivial
  intro _ _
  simp only [not_true_eq_false, and_false, if_false, if_true]
  split
  · rename_i homeless
    exact ⟨homeless, rfl⟩
  apply Prog.Excused.bind (m := fun _ => True)
  · exact Prog.Excused.query (fun e => rfl) fun _ => trivial
  intro file _
  apply Prog.Silent.excused
  apply Prog.Silent.withLock
  exact checkpointNatively_silent retains verified same

/-! ### In every interleaving -/

def committed : History → List AnyTx
  | [] => []
  | .commit tx _ :: earlier => committed earlier ++ [⟨_, tx⟩]
  | .call _ _ :: earlier => committed earlier

theorem replay_committed (ownershipShared : Bool) (trace : History) :
    replay ownershipShared trace = (Store.initial ownershipShared).after (committed trace) := by
  induction trace with
  | nil => rfl
  | cons e earlier ih =>
    cases e with
    | commit tx b =>
      rw [replay, ih, committed, Store.after_append]
      rfl
    | call q b => exact ih

/-- Replaying a committed operation at the store answers it, and changes nothing. -/
def Store.Replays (db : Store) (operation : CheckpointOperation) (receipt : Receipt) : Prop :=
  (∀ seen : TaskRecord, seen.taskId = operation.taskId → seen.epoch = operation.epoch →
    seen.holderSessionId = some operation.holderSessionId →
      (Tx.prepareCheckpoint seen operation.operationId operation.checkpoint operation.facts).exec db =
        (db, .ok operation)) ∧
  ∀ now, ∃ record, (Tx.checkpointOccurrence operation receipt now).exec db = (db, .ok record)

/-- From a world on, each retry of the operation with its own record and text changes nothing, and
raises only where its task has no workspace or the file work around it raised. -/
def RetriesSilent (py : Library) (x : Executor γ) (w : World KernelError Tx Query LockKey Store γ)
    (operation : CheckpointOperation) : Prop :=
  ∀ (p : ℕ) (task : TaskRecord) (text : String),
    w.procs p = some (checkpointTask py task text (some operation.operationId)) →
      operation.Matches py task text → ∀ w', Lives (kernel py x) anyEvent p w w' →
        World.Accounts (kernel py x) (operation.Misfiled task text) task.Homeless w w' p

theorem reachable_operations {w : World KernelError Tx Query LockKey Store γ}
    (reached : Reachable (kernel py x) anyEvent w) :
    w.shared.store.OperationsPlaced ∧ w.shared.store.ReceiptsVerified py := by
  constructor
  · apply run_invariant (x := x) (fun s => s.store.OperationsPlaced) _ _ _ reached
    · intro ownershipShared e operationId operation known
      exact nomatch known
    · intro H s β tx _ _ _ placed
      exact placed.exec tx
    · exact fun _ _ placed => placed
  · apply run_invariant (x := x) (fun s => s.store.ReceiptsVerified py) _ _ _ reached
    · intro ownershipShared e operationId operation receipt known
      exact nomatch known
    · intro H s β tx _ issued _ verified
      exact receiptsVerified_after issued verified
    · exact fun _ _ verified => verified

def noteScript : Script := { Script.calm with evidence := some confirmedReceipt }

def editedNoteScript : Script := { noteScript with edited := true }

def noteOps : List (Kernel Unit) :=
  [startWorker, checkpoint asciiLibrary none "note" (some "worker") none,
    checkpoint asciiLibrary none "note" (some "worker") (some savedOperationId),
    replace asciiLibrary "owner" none "worker" (some "go on")]

theorem noteOps_known : ∀ op ∈ noteOps, KernelOp asciiLibrary op := by
  simp [noteOps, startWorker, startOne, KernelOp.startAll, KernelOp.checkpoint, KernelOp.replace]

def retriedNoteWorld : ScriptWorld :=
  noteScript.run noteOps (steps 0 100 ++ steps 1 20 ++ steps 2 1)

def staleNoteWorld : ScriptWorld :=
  noteScript.run noteOps (steps 0 100 ++ steps 1 20 ++ steps 3 40 ++ steps 2 1)

def editedNoteWorld : ScriptWorld :=
  editedNoteScript.run noteOps (steps 0 100 ++ steps 1 20 ++ steps 2 1)

def noteOperation : CheckpointOperation :=
  let prepared : CheckpointOperation := {
    operationId := savedOperationId
    taskId := workerId
    epoch := 1
    holderSessionId := sessionOf workerId 1
    expectedVersion := 1
    checkpoint := "note"
    facts := savedFacts "note"
    receipt := none }
  { prepared with receipt := some (confirmedReceipt prepared) }

def noteReceipt : Receipt := confirmedReceipt noteOperation

theorem note_retained {script : Script} (evidence : script.evidence = some confirmedReceipt) :
    script.executor.Retains noteOperation noteReceipt where
  evidence env b env' answered := by
    have same : b = .ok script.evidence.isSome := congrArg Prod.fst answered
    rw [same, evidence]
    rfl
  published env b env' answered := by
    have same : b = script.reply env (.publishCheckpoint noteOperation) :=
      congrArg Prod.fst answered
    rw [same, Script.reply, evidence]
    rfl

/-- The third process is about to checkpoint the worker's note once more. -/
def NoteRetried (w : ScriptWorld) (row : TaskRow) : Prop :=
  w.shared.store.task workerId = some row ∧ w.procs 2 =
    some (checkpointTask asciiLibrary row.toTaskRecord "note" (some savedOperationId))

set_option maxRecDepth 100000 in
theorem notes_retried : (∃ row, NoteRetried retriedNoteWorld row) ∧
    (∃ row, NoteRetried staleNoteWorld row) ∧ ∃ row, NoteRetried editedNoteWorld row :=
  ⟨⟨_, rfl, rfl⟩, ⟨_, rfl, rfl⟩, ⟨_, rfl, rfl⟩⟩

/-- Every retry of a committed operation with its own text succeeds, while the evidence is there. -/
def RetriesSucceed (script : Script) : Prop :=
  ∀ (w : ScriptWorld) (operation : CheckpointOperation) (receipt : Receipt) (p : ℕ)
      (row : TaskRow) (text : String),
    Reachable (kernel asciiLibrary script.executor) anyEvent w →
    w.shared.store.operation operation.operationId = some operation →
    operation.receipt = some receipt → script.executor.Retains operation receipt →
    w.shared.store.task operation.taskId = some row →
    operation.facts.sha256 = asciiLibrary.sha256 text →
    operation.facts.sizeBytes = text.utf8ByteSize →
    w.procs p = some (checkpointTask asciiLibrary row.toTaskRecord text
      (some operation.operationId)) →
    ∀ w', Lives (kernel asciiLibrary script.executor) anyEvent p w w' →
      w'.Quiet (kernel asciiLibrary script.executor) p

theorem not_retriesSucceed {script : Script} {w : ScriptWorld} {row : TaskRow} (n : ℕ)
    (reached : Reachable (kernel asciiLibrary script.executor) anyEvent w)
    (evidence : script.evidence = some confirmedReceipt)
    (stored : w.shared.store.operation noteOperation.operationId = some noteOperation)
    (retried : NoteRetried w row)
    (raised : (w.play (kernel asciiLibrary script.executor) script.oracle (steps 2 n)).raised 2) :
    ¬ RetriesSucceed script := by
  intro all
  obtain ⟨known, started⟩ := retried
  have there : (w.procs 2).isSome := by
    rw [started]
    rfl
  have lives : Lives (kernel asciiLibrary script.executor) anyEvent 2 w
      (w.play (kernel asciiLibrary script.executor) script.oracle (steps 2 n)) :=
    World.steps_lives (fun _ _ => rfl) there 2 n
  have quiet := all w noteOperation noteReceipt 2 row "note" reached stored rfl
    (note_retained evidence) known rfl (by decide +kernel) started _ lives
  exact absurd raised (by rw [quiet.not_raised]; decide)

end SightMesh
