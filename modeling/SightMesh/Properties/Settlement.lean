import SightMesh.Properties.Lifecycle

/-! What the commit that settles a task leaves for its parent. -/
namespace SightMesh

open Concurrency Database Python

variable {γ β : Type} {py : Library} {x : Executor γ}

def settledStates : List TaskState := [.blocked, .completed, .cancelled, .lost, .exhausted]

/-- The sweep over reservations finishes the task without its wakes. -/
def Tx.Expires (t : TaskId) : Tx β → Prop
  | .finishExpired seen _ => seen.taskId = t
  | _ => False

theorem finish_exec (site : FinishSite) (seen : TaskRecord) (state : TaskState)
    (result : Option String) (charge : Bool) (now : Time) (db : Store) :
    (∃ answer, finishWithWakeWithin seen.taskId state result none charge now db =
      .ok (answer, ((Tx.finish site seen state result charge now).exec db).1)) ∨
    ((Tx.finish site seen state result charge now).exec db).1 = db := by
  obtain ⟨answer, db', ran, left⟩ | ⟨e, _, left⟩ :=
    atomically_cases (finishWithWake seen.taskId state result none charge now) db
  · have exec : ((Tx.finish site seen state result charge now).exec db).1 = db' :=
      congrArg Prod.fst left
    rw [exec]
    exact .inl ⟨answer, wrapping_ok.mp ran⟩
  · exact .inr (congrArg Prod.fst left)

theorem finish_exec_row (site : FinishSite) (seen : TaskRecord) (state : TaskState)
    (result : Option String) (charge : Bool) (now : Time) {db : Store} {row : TaskRow}
    (known : db.task seen.taskId = some row) :
    (row.toLifecycle.Finishable row.maxAttempts state charge ∧
        db.holderTaken (row.finish state result charge now) = false ∧
        ∃ answer, finishWithWakeWithin seen.taskId state result none charge now db =
          .ok (answer, ((Tx.finish site seen state result charge now).exec db).1)) ∨
      ¬ (row.toLifecycle.Finishable row.maxAttempts state charge ∧
        db.holderTaken (row.finish state result charge now) = false) ∧
        ((Tx.finish site seen state result charge now).exec db).1 = db := by
  by_cases accepted : row.toLifecycle.Finishable row.maxAttempts state charge ∧
      db.holderTaken (row.finish state result charge now) = false
  · have finished := finish_ok.mpr ⟨row, known, accepted.1, .inl rfl, accepted.2, rfl⟩
    let next := row.finish state result charge now
    let armed := wakeParent next.toTaskRecord now (db.putTask next)
    have ran : finishWithWakeWithin seen.taskId state result none charge now db =
        .ok ((next.toTaskRecord, armed.2), armed.1) := bind_ok.mpr ⟨_, _, finished, rfl⟩
    have exec : ((Tx.finish site seen state result charge now).exec db).1 = armed.1 :=
      congrArg Prod.fst (atomically_ok (wrapping_ok.mpr ran))
    rw [exec]
    exact .inl ⟨accepted.1, accepted.2, _, ran⟩
  · rcases finish_exec site seen state result charge now db with ⟨answer, ran⟩ | refused
    · obtain ⟨record, mid, finished, _⟩ := bind_ok.mp ran
      obtain ⟨other, found, finishable, _, free, _⟩ := finish_ok.mp finished
      cases Option.some.inj (known.symm.trans found)
      exact absurd ⟨finishable, free⟩ accepted
    · exact .inr ⟨accepted, refused⟩

theorem recordLoss_exec (seen : TaskRecord) (reason payload : String) (now : Time) (db : Store) :
    (∃ mid answer, db.Observed mid ∧
      finishWithWakeWithin seen.taskId .lost (some reason) none false now mid =
        .ok (answer, ((Tx.recordLoss seen reason payload now).exec db).1)) ∨
    ((Tx.recordLoss seen reason payload now).exec db).1.tasks = db.tasks := by
  show (∃ mid answer, db.Observed mid ∧
      finishWithWakeWithin seen.taskId .lost (some reason) none false now mid =
        .ok (answer, (SightMesh.recordLoss seen reason payload now db).1)) ∨
    (SightMesh.recordLoss seen reason payload now db).1.tasks = db.tasks
  obtain ⟨e, same⟩ | ⟨e, same⟩ | ⟨marked, record, wakes, db', evidence, settled, same⟩ :=
    recordLoss_cases seen reason payload now db
  · rw [same]
    exact .inr rfl
  · rw [same]
    have only : (db.insertOwnership (lossOwnership seen)).1 = _ := insertOwnership_only db _
    have tasks : (db.insertOwnership (lossOwnership seen)).1.tasks = db.tasks := by rw [only]
    exact .inr tasks
  · rw [same]
    have noted := noteEvidence_observed db seen.taskId payload
    have tasks : marked.tasks = (db.noteEvidence seen.taskId payload).tasks := by
      obtain ⟨effect, _, ⟨_, marks⟩ | ⟨_, marks⟩⟩ := lossEvidence_ok evidence
      · rw [show marked = _ from marks]
      · rw [show marked = _ from marks]
        rfl
    have observed : db.Observed
        { marked with ownerships := (db.insertOwnership (lossOwnership seen)).1.ownerships } :=
      noted.trans _ _ _ (.of_tasks tasks)
    exact .inl ⟨_, _, observed, settled⟩

/-- A row settles in the sweep over reservations, or together with its wakes. -/
theorem Tx.exec_settles (tx : Tx β) {db : Store} {t : TaskId} {row next : TaskRow}
    (known : db.task t = some row) (found : (tx.exec db).1.task t = some next)
    (settled : next.state ∈ settledStates) (moves : next.state ≠ row.state) :
    tx.Expires t ∨ ∃ mid state result charge now answer, db.Observed mid ∧
      finishWithWakeWithin t state result none charge now mid =
        .ok (answer, (tx.exec db).1) := by
  have named := Store.taskId_of_task known
  obtain ⟨next', found', step⟩ := tx.exec_task known
  cases Option.some.inj (found.symm.trans found')
  rcases step.lifecycle with same | ⟨l, assigned, moved⟩
  · exact absurd (congrArg Lifecycle.state same) moves
  have state : next.state = l.state := by rw [moved]
  generalize (tx.exec db).2 = answer at assigned
  cases tx with
  | activate =>
    rcases answer with _ | _
    · exact assigned.elim
    obtain ⟨_, _, rfl⟩ := assigned
    rw [state] at settled
    exact absurd settled (by simp [Lifecycle.activated, settledStates])
  | prepareReplacement =>
    rcases answer with _ | _
    · exact assigned.elim
    obtain ⟨_, _, _, _, rfl⟩ := assigned
    rw [state] at settled
    exact absurd settled (by simp [Lifecycle.replaced, settledStates])
  | reissue =>
    rcases answer with _ | _
    · exact assigned.elim
    obtain ⟨_, _, _, rfl⟩ := assigned
    rw [state] at settled
    exact absurd settled (by simp [Lifecycle.reissued, settledStates])
  | resumeReplacement =>
    rcases answer with _ | _
    · exact assigned.elim
    obtain ⟨_, _, _, rfl⟩ := assigned
    exact absurd state moves
  | checkpointRow | checkpointOccurrence =>
    rcases answer with _ | _
    · exact assigned.elim
    obtain ⟨_, _, _, rfl⟩ := assigned
    exact absurd state moves
  | finishExpired seen now =>
    rcases answer with _ | _
    · exact assigned.elim
    exact .inl (assigned.1.symm.trans named)
  | finish site seen target result charge now =>
    have same : seen.taskId = t := Option.some.inj (assigned.mover.trans (congrArg some named))
    rcases finish_exec site seen target result charge now db with ⟨answer, ran⟩ | refused
    · rw [same] at ran
      exact .inr ⟨db, target, result, charge, now, answer, .refl db, ran⟩
    · rw [refused, known] at found
      exact absurd (congrArg (fun r : TaskRow => r.state) (Option.some.inj found).symm) moves
  | recordLoss seen reason payload now =>
    have same : seen.taskId = t := Option.some.inj (assigned.mover.trans (congrArg some named))
    rcases recordLoss_exec seen reason payload now db with ⟨mid, answer, noted, ran⟩ | refused
    · rw [same] at ran
      exact .inr ⟨mid, .lost, some reason, false, now, answer, noted, ran⟩
    · have still : ((Tx.recordLoss seen reason payload now).exec db).1.task t = db.task t := by
        rw [Store.task, refused]
        rfl
      rw [still, known] at found
      exact absurd (congrArg (fun r : TaskRow => r.state) (Option.some.inj found).symm) moves
  | _ => exact assigned.elim

theorem finishExpired_others (seen : TaskRecord) (now : Time) (db : Store) {t : TaskId}
    (other : t ≠ seen.taskId) :
    ((Tx.finishExpired seen now).exec db).1.task t = db.task t := by
  obtain ⟨answer, db', ran, left⟩ | ⟨e, _, left⟩ := atomically_cases
    (SightMesh.finish seen.taskId .lost (some "reservation expired") none false now) db
  · have exec : ((Tx.finishExpired seen now).exec db).1 = db' := congrArg Prod.fst left
    obtain ⟨row, known, _, _, _, same⟩ := finish_ok.mp ran
    cases same
    have named : row.taskId = seen.taskId := Store.taskId_of_task known
    rw [exec, Store.task_putTask, if_neg]
    exact fun same => other (same.trans named)
  · have exec : ((Tx.finishExpired seen now).exec db).1 = db := congrArg Prod.fst left
    rw [exec]

/-- A loss may still be recorded on the row. -/
def TaskRow.losable (row : TaskRow) : Bool :=
  row.state ∈ [TaskState.reserved, .active, .replacing] && row.attempts < row.maxAttempts

theorem TaskRow.losable_iff (row : TaskRow) :
    row.losable = true ↔ row.toLifecycle.Finishable row.maxAttempts .lost false := by
  simp [TaskRow.losable, Lifecycle.Finishable, finishPredecessors]

theorem finished_lost_state (l : Lifecycle) (maxAttempts : ℕ) (result : Option String) :
    (l.finished maxAttempts .lost result false).state ∈ [TaskState.lost, .exhausted] := by
  unfold Lifecycle.finished
  rw [if_pos (.inl rfl)]
  split
  · simp
  · simp

theorem holderTaken_lost (db : Store) (row : TaskRow) (result : Option String) (now : Time) :
    db.holderTaken (row.finish .lost result false now) = false := by
  have state : (row.finish .lost result false now).state ∈ [TaskState.lost, .exhausted] :=
    finished_lost_state ..
  have unheld : ∀ s ∈ [TaskState.lost, .exhausted], s ∉ holderStates := by decide
  simp [Store.holderTaken, unheld _ state]

theorem finishExpired_exec (seen : TaskRecord) (now : Time) {db : Store} {row : TaskRow}
    (known : db.task seen.taskId = some row) :
    ((Tx.finishExpired seen now).exec db).1 =
      if row.losable then db.putTask (row.finish .lost (some "reservation expired") false now)
      else db := by
  split
  · rename_i open_
    have ran := finish_ok.mpr ⟨row, known, row.losable_iff.mp open_, .inl rfl,
      holderTaken_lost db row (some "reservation expired") now, rfl⟩
    exact congrArg Prod.fst (atomically_ok ran)
  · rename_i shut
    obtain ⟨answer, db', ran, _⟩ | ⟨e, _, left⟩ := atomically_cases
      (SightMesh.finish seen.taskId .lost (some "reservation expired") none false now) db
    · obtain ⟨other, known', accepted, _⟩ := finish_ok.mp ran
      cases Option.some.inj (known.symm.trans known')
      exact absurd (row.losable_iff.mpr accepted) shut
    · exact congrArg Prod.fst left

/-- Every child that settles in the commit counts for its parent, past everything the parent's
manager has acknowledged. -/
def Tx.CountsSettlements (tx : Tx β) (db : Store) : Prop :=
  ∀ row ∈ db.tasks.rows, ∀ parentId ∈ row.parentTaskId,
    ∀ next ∈ (tx.exec db).1.task row.taskId, row.state ∈ liveStates →
      next.state ∈ settledStates → next.state ≠ row.state →
      ∃ parent ∈ db.task parentId, ∃ parent' ∈ (tx.exec db).1.task parentId,
        parent.childEventSeq < parent'.childEventSeq ∧
        parent.lastWokenSeq < parent'.childEventSeq

instance (tx : Tx β) (db : Store) : Decidable (tx.CountsSettlements db) := by
  unfold Tx.CountsSettlements
  infer_instance

/-- The sweep over reservations is about to finish a child. -/
def Tx.expiresChild (db : Store) : Tx β → Bool
  | .finishExpired seen _ =>
    (db.task seen.taskId).any fun row => row.parentTaskId.isSome && row.losable
  | _ => false

/-- In every interleaving, every settlement of a child counts for its parent in the same commit,
except where the sweep over reservations finishes the child. -/
theorem settlements_count_iff {w : KernelWorld γ} (reached : Reachable (kernel py x) anyEvent w)
    {p : ℕ} {tx : Tx β} {k : β → Kernel Unit} (_ : w.procs p = some (.commit tx k)) :
    tx.CountsSettlements w.shared.store ↔ tx.expiresChild w.shared.store = false := by
  have sane := reachable_sane reached
  constructor
  · intro counts
    cases tx with
    | finishExpired seen now =>
      cases known : w.shared.store.task seen.taskId with
      | none => simp [Tx.expiresChild, known]
      | some row =>
        by_contra expires
        simp only [Tx.expiresChild, known, Option.any_some, Bool.not_eq_false,
          Bool.and_eq_true] at expires
        obtain ⟨parented, open_⟩ := expires
        obtain ⟨parentId, parented⟩ := Option.isSome_iff_exists.mp parented
        have named : row.taskId = seen.taskId := Store.taskId_of_task known
        have exec := finishExpired_exec seen now known
        rw [if_pos open_] at exec
        have state := finished_lost_state row.toLifecycle row.maxAttempts
          (some "reservation expired")
        have accepted := row.losable_iff.mp open_
        have found : ((Tx.finishExpired seen now).exec w.shared.store).1.task row.taskId =
            some (row.finish .lost (some "reservation expired") false now) := by
          rw [exec]
          exact Store.task_putTask_self _ _
        have settles : ∀ s ∈ [TaskState.lost, .exhausted], s ∈ settledStates := by decide
        have moves : ∀ s ∈ liveStates, ∀ s' ∈ [TaskState.lost, .exhausted], s' ≠ s := by decide
        obtain ⟨parent, parent_known, parent', parent_found, grown, _⟩ :=
          counts row (Table.mem_of_get known) parentId parented _ found accepted.live
            (settles _ state) (moves _ accepted.live _ state)
        have apart := (sane.parents _ row parentId known parented).1
        have still := finishExpired_others seen now w.shared.store apart
        rw [Option.mem_def, still, Option.mem_def.mp parent_known] at parent_found
        cases Option.some.inj parent_found
        exact lt_irrefl _ grown
    | _ => rfl
  · intro timely row mem parentId parented next found live settled moves
    have known := Table.get_of_mem mem
    obtain ⟨apart, parent_known⟩ := sane.parents _ row parentId known parented
    obtain ⟨parent, parent_known⟩ := Option.isSome_iff_exists.mp parent_known
    have woken := sane.woken parentId parent parent_known
    rcases tx.exec_settles known found settled moves with expires |
      ⟨mid, state, result, charge, now, answer, observed, ran⟩
    · cases tx with
      | finishExpired seen now =>
        have known : w.shared.store.task seen.taskId = some row := by
          rw [show seen.taskId = row.taskId from expires]
          exact known
        have parented : row.parentTaskId = some parentId := parented
        rw [Option.mem_def, ← show seen.taskId = row.taskId from expires,
          finishExpired_exec seen now known, if_neg, known] at found
        · cases found
          exact absurd rfl moves
        · simpa [Tx.expiresChild, known, parented] using timely
      | _ => exact expires.elim
    obtain ⟨row', next', known', _, _, _, counts⟩ := finishWithWakeWithin_rows ran
    obtain ⟨mid_row, mid_known, seen⟩ := observed.kept _ row known
    cases Option.some.inj (known'.symm.trans mid_known)
    obtain ⟨mid_parent, mid_parent_known, bumped⟩ := observed.kept parentId parent parent_known
    have parent_of : row'.parentTaskId = some parentId :=
      (congrArg Identity.parentTaskId seen.identity).trans parented
    obtain ⟨parent', parent_found, grown⟩ :=
      counts parentId mid_parent parent_of apart mid_parent_known
    have events := bumped.events
    exact ⟨parent, parent_known, parent', parent_found, by omega, by omega⟩

def completedOps : List (Kernel Unit) :=
  [startBoss, startChild, complete (some (sessionOf childId 1)) none none]

theorem completedOps_known : ∀ op ∈ completedOps, KernelOp asciiLibrary op := by
  simp [completedOps, startBoss, startChild, startOne, KernelOp.startAll, KernelOp.complete]

def completingWorld : ScriptWorld :=
  Script.calm.run completedOps (steps 0 100 ++ steps 1 100 ++ steps 2 11)

set_option maxRecDepth 100000 in
theorem completed_child_counted :
    ∃ (β : Type) (tx : Tx β), tx.mover = some childId ∧
      tx.CountsSettlements completingWorld.shared.store := by
  have reached : Reachable (kernel asciiLibrary Script.calm.executor) anyEvent completingWorld :=
    Script.calm.run_reachable completedOps_known _
  have finishing : (completingWorld.pending 2).any fun tx =>
      tx.2.mover = some childId && !tx.2.expiresChild completingWorld.shared.store := by
    decide +kernel
  obtain ⟨β, tx, k, at_tx, known⟩ := World.pending_passes finishing
  simp only [Bool.and_eq_true, decide_eq_true_eq, Bool.not_eq_true'] at known
  exact ⟨β, tx, known.1, (settlements_count_iff reached at_tx).mpr known.2⟩

set_option maxRecDepth 100000 in
example : ((Script.calm.run completedOps (steps 0 100 ++ steps 1 100 ++ steps 2 12)).shared.store.task
    bossId).any fun boss => boss.childEventSeq = 1 := by decide +kernel

def lostScript : Script :=
  { Script.calm with
    tick := 60
    launch := fun taskId epoch => if taskId = childId then noAnswer else launched taskId epoch }

def lostOps : List (Kernel Unit) := [startBoss, startChild, sweepAdmission asciiLibrary]

theorem lostOps_known : ∀ op ∈ lostOps, KernelOp asciiLibrary op := by
  simp [lostOps, startBoss, startChild, startOne, KernelOp.startAll, KernelOp.sweepAdmission]

def sweptWorld : ScriptWorld :=
  lostScript.run lostOps (steps 0 100 ++ steps 1 100 ++ steps 2 18)

set_option maxRecDepth 100000 in
theorem expired_child_uncounted :
    ¬ ∀ (w : ScriptWorld) (p : ℕ) (β : Type) (tx : Tx β) (k : β → Kernel Unit),
      Reachable (kernel asciiLibrary lostScript.executor) anyEvent w →
      w.procs p = some (.commit tx k) → tx.CountsSettlements w.shared.store := by
  intro all
  have reached : Reachable (kernel asciiLibrary lostScript.executor) anyEvent sweptWorld :=
    lostScript.run_reachable lostOps_known _
  have uncounted : (sweptWorld.pending 2).any
      fun tx => ¬ tx.2.CountsSettlements sweptWorld.shared.store := by decide +kernel
  obtain ⟨β, tx, k, at_tx, missed⟩ := World.pending_passes uncounted
  exact of_decide_eq_true missed (all sweptWorld 2 β tx k reached at_tx)

end SightMesh
