import SightMesh.Properties.LossRecording

/-! A loss in the default wiring, where the ownership table is in the file of the tasks. -/
namespace SightMesh

open Concurrency Database Python Prog

variable {γ : Type} {py : Library} {x : Executor γ} {s s' : Shared Tx Query Store γ}

/-- An active task with attempts left, its launch in the journal, and a holder that is not retired
yet, in the default wiring. -/
structure LossDue (db : Store) (row : TaskRow) (holder : SessionId) : Prop where
  known : db.task row.taskId = some row
  active : row.state = .active
  left : row.attempts < row.maxAttempts
  journaled : (db.effect row.taskId row.epoch).isSome
  held : row.holderSessionId = some holder
  unretired : db.ownership holder = none
  shared : db.ownershipShared

/-- What is wanted of `_record_loss`: it comes to its end, and leaves the loss with all that belongs
to it. -/
def RecordsLoss (row : TaskRow) (r : Answer Unit) (s s' : Shared Tx Query Store γ) : Prop :=
  r = .ok () ∧ LossSettled s.store s'.store row.toTaskRecord

theorem LossDue.lockedOut {db : Store} {row : TaskRow} {holder : SessionId}
    (due : LossDue db row holder) : db.lockedOut row.toTaskRecord := by
  have named : (lossOwnership row.toTaskRecord).sessionId = holder := by
    simp [lossOwnership, due.held]
  simp [Store.lockedOut, named, due.unretired, due.shared]

theorem LossDue.unsettled {db db' : Store} {row : TaskRow} {holder : SessionId}
    (due : LossDue db row holder) (same : db'.tasks = db.tasks) :
    ¬ LossSettled db db' row.toTaskRecord := by
  intro settled
  obtain ⟨next, found, _, lost⟩ := settled.row
  have known : db'.task row.taskId = some row := by
    rw [Store.task, same]
    exact due.known
  cases Option.some.inj (found.symm.trans known)
  rw [due.active] at lost
  exact absurd lost (by decide)

theorem LossDue.ends {row : TaskRow} {holder : SessionId} {finding : Finding} {r : Answer Unit}
    (due : LossDue s.store row holder)
    (parents : ∀ p, row.parentTaskId = some p → p ≠ row.taskId ∧ (s.store.task p).isSome)
    (run : (recordLossOf py row.toTaskRecord finding).Ends (kernel py x) anyEvent s r s') :
    s'.store.tasks = s.store.tasks := by
  have outcome : LossOutcome row s s' r := recordLossOf_ends due.known due.active parents run
  cases outcome with
  | unlisted _ _ _ _ same => exact congrArg Store.tasks same
  | settled _ recordable _ _ =>
    rw [Store.recordable, due.lockedOut] at recordable
    simp at recordable
  | refused _ _ tasks _ => exact tasks

/-- No such loss is recorded: its transaction waits for a file it holds itself, raises, and leaves
nothing. -/
theorem losses_locked_out {w : KernelWorld γ} (reached : Reachable (kernel py x) anyEvent w)
    {row : TaskRow} {holder : SessionId} (due : LossDue w.shared.store row holder) :
    (∀ reason payload now,
      (Tx.recordLoss row.toTaskRecord reason payload now).exec w.shared.store =
        (w.shared.store, .error (lockedOutError row.toTaskRecord))) ∧
    ∀ finding r s',
      (recordLossOf py row.toTaskRecord finding).Ends (kernel py x) anyEvent w.shared r s' →
        s'.store.tasks = w.shared.store.tasks ∧ ¬ RecordsLoss row r w.shared s' := by
  have sane := reachable_sane reached
  have parents : ∀ p, row.parentTaskId = some p →
      p ≠ row.taskId ∧ (w.shared.store.task p).isSome := fun p parented =>
    sane.parents row.taskId row p due.known parented
  constructor
  · intro reason payload now
    obtain ⟨effect, found⟩ := Option.isSome_iff_exists.mp due.journaled
    exact recordLoss_locked found due.lockedOut reason payload now
  · intro finding r s' run
    have same := due.ends parents run
    exact ⟨same, fun records => due.unsettled same records.2⟩

/-! ### A run of a script -/

def workingWorld : ScriptWorld := Script.calm.run [startWorker] (steps 0 100)

theorem workingWorld_reachable :
    Reachable (kernel asciiLibrary Script.calm.executor) anyEvent workingWorld := by
  refine Script.calm.run_reachable ?_ _
  simp [startWorker, startOne, KernelOp.startAll]

def killedFinding : Finding where
  reason := .lost
  evidence := { ProgressEvidence.unread none [] with lostReason := some "killed" }
  now := 0
  overBudget := false

def killedLoss (row : TaskRow) : Answer Unit × Shared Tx Query Store ℕ :=
  (recordLossOf asciiLibrary row.toTaskRecord killedFinding).alone
    (kernel asciiLibrary Script.calm.executor) Script.calm.oracle workingWorld.shared

theorem killedLoss_ends (row : TaskRow) :
    (recordLossOf asciiLibrary row.toTaskRecord killedFinding).Ends
      (kernel asciiLibrary Script.calm.executor) anyEvent workingWorld.shared (killedLoss row).1
      (killedLoss row).2 :=
  Prog.ends_alone (fun _ _ => rfl) _ _

set_option maxRecDepth 100000 in
theorem workingWorld_due : ∃ row ∈ workingWorld.shared.store.tasks.rows, ∃ holder,
    LossDue workingWorld.shared.store row holder := by
  have found : ∃ row ∈ workingWorld.shared.store.tasks.rows, row.state = .active ∧
      row.attempts < row.maxAttempts ∧
      (workingWorld.shared.store.effect row.taskId row.epoch).isSome ∧
      row.holderSessionId.any (fun holder => workingWorld.shared.store.ownership holder = none) ∧
      workingWorld.shared.store.ownershipShared := by decide +kernel
  obtain ⟨row, mem, active, left, journaled, free, shared⟩ := found
  cases held : row.holderSessionId with
  | none => simp [held] at free
  | some holder =>
    have unretired : workingWorld.shared.store.ownership holder = none := by
      simpa [held] using free
    exact ⟨row, mem, holder, Table.get_of_mem mem, active, left, journaled, held, unretired, shared⟩

theorem killed_worker_locked_out : ∃ row ∈ workingWorld.shared.store.tasks.rows,
    ¬ RecordsLoss row (killedLoss row).1 workingWorld.shared (killedLoss row).2 := by
  obtain ⟨row, mem, holder, due⟩ := workingWorld_due
  have out := (losses_locked_out workingWorld_reachable due).2 _ _ _ (killedLoss_ends row)
  exact ⟨row, mem, out.2⟩

theorem loss_not_recorded : ¬ ∀ (w : ScriptWorld) (row : TaskRow) (holder : SessionId)
    (finding : Finding) (r : Answer Unit) (s' : Shared Tx Query Store ℕ),
    Reachable (kernel asciiLibrary Script.calm.executor) anyEvent w →
    LossDue w.shared.store row holder →
    (recordLossOf asciiLibrary row.toTaskRecord finding).Ends
      (kernel asciiLibrary Script.calm.executor) anyEvent w.shared r s' →
    RecordsLoss row r w.shared s' := by
  intro all
  obtain ⟨row, mem, holder, due⟩ := workingWorld_due
  have records := all _ row holder killedFinding _ _ workingWorld_reachable due (killedLoss_ends row)
  have same := due.ends
    (fun p parented => (reachable_sane workingWorld_reachable).parents _ row p due.known parented)
    (killedLoss_ends row)
  exact due.unsettled same records.2

end SightMesh
