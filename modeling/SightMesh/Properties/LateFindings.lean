import SightMesh.Kernel.Findings
import SightMesh.Properties.FreshSubject

/-! What a finding of the detector does to a task that was replaced while it was computed. -/
namespace SightMesh

open Concurrency Database Python

variable {γ β : Type} {py : Library} {x : Executor γ}

/-- The task and the epoch whose evidence a finding was computed from. -/
def Tx.finds : Tx β → Option (TaskId × ℕ)
  | .recordFinding seen .. => some (seen.taskId, seen.epoch)
  | .recordLoss seen .. => some (seen.taskId, seen.epoch)
  | .finish (.approval epoch) seen .. => some (seen.taskId, epoch)
  | _ => none

/-- A finding changes no row of a later epoch, and arms no wake for it. -/
def Tx.SparesLater (tx : Tx β) (db : Store) : Prop :=
  ∀ found ∈ tx.finds, ∀ row ∈ db.task found.1, found.2 < row.epoch →
    (tx.exec db).1.task found.1 = some row ∧ (tx.exec db).1.wakes.rows = db.wakes.rows

instance (tx : Tx β) (db : Store) : Decidable (tx.SparesLater db) := by
  unfold Tx.SparesLater
  infer_instance

def TaskRow.Unmarked (row : TaskRow) : Prop :=
  row.liveness ∉ stallLivenessStates ∧ row.overBudget = false ∧ row.state ≠ .blocked

instance (row : TaskRow) : Decidable row.Unmarked := inferInstanceAs (Decidable (_ ∧ _ ∧ _))

/-- Every row whose epoch the commit raises starts unmarked. -/
def Tx.OpensUnmarked (tx : Tx β) (db : Store) : Prop :=
  ∀ row ∈ db.tasks.rows, ∀ next ∈ (tx.exec db).1.task row.taskId,
    row.epoch < next.epoch → next.Unmarked

instance (tx : Tx β) (db : Store) : Decidable (tx.OpensUnmarked db) := by
  unfold Tx.OpensUnmarked
  infer_instance

/-- What was found of an epoch stays with it. -/
def Tx.FindingsStay (tx : Tx β) (db : Store) : Prop := tx.SparesLater db ∧ tx.OpensUnmarked db

instance (tx : Tx β) (db : Store) : Decidable (tx.FindingsStay db) :=
  inferInstanceAs (Decidable (_ ∧ _))

def TaskRow.takesNote (row : TaskRow) (liveness : Option Liveness) (evidence : Option String)
    (overBudget : Bool) : Bool :=
  row.state ∈ liveStates &&
    (liveness.any (fun l => row.liveness ≠ l || row.livenessEvidence ≠ evidence) ||
      overBudget && !row.overBudget)

def TaskRow.marked (row : TaskRow) : Bool :=
  row.liveness ∈ stallLivenessStates || row.overBudget

/-- A finding is about to land on an open row of a later epoch, or an epoch is about to be opened on
a row that is marked. -/
def Tx.outlivesEpoch (db : Store) : Tx β → Bool
  | .recordFinding seen liveness evidence exceeded now progressTimeout =>
    (db.task seen.taskId).any fun row => seen.epoch < row.epoch &&
      (row.takesNote liveness evidence exceeded || decide (db.WakeDue row now progressTimeout))
  | .finish (.approval epoch) seen state result charge now =>
    (db.task seen.taskId).any fun row => epoch < row.epoch &&
      decide (row.toLifecycle.Finishable row.maxAttempts state charge ∧
        db.holderTaken (row.finish state result charge now) = false)
  | .resumeReplacement seen target true now => (db.task seen.taskId).any fun row =>
    decide (row.state = .replacing ∧ row.version = seen.version ∧ db.holderTaken (row.moved
      (Lifecycle.resumed { seen.spec with target := target } true) id now) = false) && row.marked
  | .reissue seen resolvedSpec now => (db.task seen.taskId).any fun row =>
    decide (row.state = .lost ∧ row.version = seen.version ∧ db.holderTaken (row.moved
      (Lifecycle.reissued resolvedSpec) id now) = false) && row.marked
  | _ => false

/-! ### Findings -/

def Health.said (h : Health) : Liveness × Option String × Bool :=
  (h.liveness, h.livenessEvidence, h.overBudget)

theorem noted_said {row : TaskRow} {liveness : Option Liveness} {evidence : Option String}
    {overBudget : Bool} (now : Time) (notes : row.takesNote liveness evidence overBudget) :
    (row.noted liveness evidence overBudget now).said ≠ row.said := by
  simp only [TaskRow.takesNote, Bool.and_eq_true, decide_eq_true_eq, Bool.or_eq_true,
    Option.any_eq_true, ne_eq, Bool.not_eq_true'] at notes
  obtain ⟨live, notes⟩ := notes
  rw [TaskRow.noted, if_pos live]
  rcases notes with ⟨l, rfl, differs⟩ | ⟨rfl, unlatched⟩
  · intro same
    simp only [Health.said, Health.noted, Health.relabelled] at same
    split at same
    · simp_all
    · simp_all
  · intro same
    simp [Health.said, Health.noted, unlatched] at same

theorem relabelled_same (h : Health) (now : Time) :
    h.relabelled h.liveness h.livenessEvidence now = h := by
  rw [Health.relabelled, if_pos rfl]

theorem noted_quiet {row : TaskRow} {liveness : Option Liveness} {evidence : Option String}
    {overBudget : Bool} {now : Time} (quiet : row.takesNote liveness evidence overBudget = false) :
    row.noted liveness evidence overBudget now = row := by
  unfold TaskRow.noted
  split
  · rename_i live
    simp only [TaskRow.takesNote, live, decide_true, Bool.true_and, Bool.or_eq_false_iff] at quiet
    obtain ⟨unlabelled, unlatched⟩ := quiet
    have latch : (row.overBudget || overBudget) = row.overBudget := by
      revert unlatched
      cases overBudget <;> cases row.overBudget <;> simp
    have health : row.toHealth.noted liveness evidence overBudget now = row.toHealth := by
      cases liveness with
      | none =>
        simp only [Health.noted, latch]
      | some l =>
        have same : row.liveness = l ∧ row.livenessEvidence = evidence := by
          simpa using unlabelled
        obtain ⟨rfl, rfl⟩ := same
        simp only [Health.noted, relabelled_same, latch]
    rw [health]
  · rfl

theorem Store.WakeDue.congr {a b : Store} (same : b.wakes = a.wakes) {row : TaskRow}
    {now progressTimeout : Time} (due : a.WakeDue row now progressTimeout) :
    b.WakeDue row now progressTimeout := by
  simpa only [Store.WakeDue, Store.StallDue, Store.Told, Store.Armed, same] using due

/-- A finding changes a row, or arms a wake for it, exactly when it says something new of it, or a
wake was due all along. -/
theorem recordFinding_spares_iff (seen : TaskRecord) (liveness : Option Liveness)
    (evidence : Option String) (overBudget : Bool) (now progressTimeout : Time) {db : Store}
    {row : TaskRow} (known : db.task seen.taskId = some row) :
    (((Tx.recordFinding seen liveness evidence overBudget now progressTimeout).exec db).1.task
        seen.taskId = some row ∧
      ((Tx.recordFinding seen liveness evidence overBudget now progressTimeout).exec
        db).1.wakes.rows = db.wakes.rows) ↔
      row.takesNote liveness evidence overBudget = false ∧
        ¬ db.WakeDue row now progressTimeout := by
  obtain ⟨mid, rewrites, exec⟩ :=
    recordFinding_exec seen liveness evidence overBudget now progressTimeout known
  rw [exec]
  constructor
  · rintro ⟨kept, outbox⟩
    have quiet : row.takesNote liveness evidence overBudget = false := by
      by_contra notes
      have changed := noted_said now (Bool.not_eq_false _ ▸ notes)
      rcases recordLivenessWakes_row rewrites.known with left | ⟨_, left⟩
      · rw [kept] at left
        exact changed (congrArg (fun r : TaskRow => r.said) (Option.some.inj left)).symm
      · rw [kept] at left
        exact changed (congrArg (fun r : TaskRow => r.said) (Option.some.inj left)).symm
    refine ⟨quiet, fun due => ?_⟩
    rw [noted_quiet quiet] at rewrites
    obtain ⟨w, mem, fresh⟩ :=
      recordLivenessWakes_due rewrites.known (due.congr rewrites.wakes)
    rw [outbox] at mem
    rw [rewrites.wakes] at fresh
    exact fresh mem
  · rintro ⟨quiet, rested⟩
    rw [noted_quiet quiet] at rewrites
    have still : ¬ mid.WakeDue row now progressTimeout :=
      fun due => rested (due.congr rewrites.wakes.symm)
    rw [recordLivenessWakes_quiet rewrites.known still, rewrites.wakes]
    exact ⟨rewrites.known, rfl⟩

theorem approval_spares_iff (epoch : ℕ) (seen : TaskRecord) (state : TaskState)
    (result : Option String) (charge : Bool) (now : Time) {db : Store} {row : TaskRow}
    (known : db.task seen.taskId = some row) :
    (((Tx.finish (.approval epoch) seen state result charge now).exec db).1.task seen.taskId =
        some row ∧
      ((Tx.finish (.approval epoch) seen state result charge now).exec db).1.wakes.rows =
        db.wakes.rows) ↔
      ¬ (row.toLifecycle.Finishable row.maxAttempts state charge ∧
        db.holderTaken (row.finish state result charge now) = false) := by
  constructor
  · exact fun spared =>
      (finish_spares_iff (.approval epoch) seen state result charge now known).mp spared.1
  · intro refused
    rcases finish_exec_row (.approval epoch) seen state result charge now known with
      ⟨finishable, free, _⟩ | ⟨_, left⟩
    · exact absurd ⟨finishable, free⟩ refused
    · rw [left]
      exact ⟨known, rfl⟩

theorem spares_later_iff (tx : Tx β) (db : Store) {t : TaskId} {n : ℕ} (lands : TaskRow → Bool)
    (finds : tx.finds = some (t, n))
    (spared : ∀ row, db.task t = some row →
      (((tx.exec db).1.task t = some row ∧ (tx.exec db).1.wakes.rows = db.wakes.rows) ↔
        lands row = false)) :
    tx.SparesLater db ↔ ((db.task t).any fun row => decide (n < row.epoch) && lands row) = false := by
  unfold Tx.SparesLater
  rw [finds]
  cases known : db.task t with
  | none =>
    constructor
    · exact fun _ => rfl
    · intro _ found same row there
      cases same
      exact nomatch known.symm.trans there
  | some row =>
    constructor
    · intro spares
      by_contra landed
      simp only [Option.any_some, Bool.not_eq_false, Bool.and_eq_true, decide_eq_true_eq] at landed
      have same := (spared row known).mp (spares (t, n) rfl row known landed.1)
      rw [landed.2] at same
      exact nomatch same
    · intro quiet found same row' there later
      cases same
      cases Option.some.inj (known.symm.trans there)
      apply (spared row known).mpr
      simpa [later] using quiet

/-! ### Opened epochs -/

theorem moved_unmarked (row : TaskRow) {assign : Lifecycle → Lifecycle} (now : Time)
    (runs : (assign row.toLifecycle).state ≠ .blocked) :
    (row.moved assign id now).Unmarked ↔ row.marked = false := by
  have state : (row.moved assign id now).state ≠ .blocked := runs
  have health : (row.moved assign id now).toHealth = row.toHealth := rfl
  simp only [TaskRow.Unmarked, TaskRow.marked, Bool.or_eq_false_iff, decide_eq_false_iff_not,
    health]
  exact ⟨fun h => ⟨h.1, h.2.1⟩, fun h => ⟨h.1, h.2, state⟩⟩

theorem opensUnmarked_of_quiet (tx : Tx β) (quiet : tx.opensEpoch = false) (db : Store) :
    tx.OpensUnmarked db := by
  intro row mem next found rises
  obtain ⟨next', found', step⟩ := tx.exec_task (Table.get_of_mem mem)
  cases Option.some.inj (found'.symm.trans found)
  have opens := (step.opens rises).1
  rw [quiet] at opens
  exact nomatch opens

theorem opener_unmarked_iff (tx : Tx β) (db : Store) {t : TaskId} {before : TaskState}
    {version : ℕ} {assign : Lifecycle → Lifecycle} {attempted : String} {now : Time}
    (exec : (tx.exec db).1 = (atomically
      (transaction t [before] (some version) assign attempted now) db).1)
    (rises : ∀ l : Lifecycle, l.epoch < (assign l).epoch)
    (runs : ∀ l : Lifecycle, l.state = before → (assign l).state ≠ .blocked) :
    tx.OpensUnmarked db ↔ ((db.task t).any fun row => decide (row.state = before ∧
      row.version = version ∧ db.holderTaken (row.moved assign id now) = false) &&
        row.marked) = false := by
  have opened := opener_iff tx db TaskRow.Unmarked exec rises
  refine Iff.trans opened (iff_of_eq (congrArg (· = false) (congrArg (db.task t).any ?_)))
  funext row
  by_cases there : row.state = before
  · have same := moved_unmarked row now (runs row.toLifecycle there)
    cases marked : row.marked
    · simp [same.mpr marked]
    · have stays : ¬ (row.moved assign id now).Unmarked := fun clean => by
        simpa [marked] using same.mp clean
      simp [stays]
  · simp [there]

/-- In every interleaving, what was found of an epoch stays with it, except where a finding lands on
an open row of a later one, or a manual replacement or a reissue opens an epoch on a marked row. -/
theorem findings_stay_iff {w : KernelWorld γ} (reached : Reachable (kernel py x) anyEvent w)
    {p : ℕ} {tx : Tx β} {k : β → Kernel Unit} (pending : w.procs p = some (.commit tx k)) :
    tx.FindingsStay w.shared.store ↔ tx.outlivesEpoch w.shared.store = false := by
  have issued := reachable_issued reached pending
  have unmarked := fun quiet => opensUnmarked_of_quiet tx quiet w.shared.store
  cases tx with
  | recordFinding seen liveness evidence exceeded now progressTimeout =>
    have spares := spares_later_iff
      (.recordFinding seen liveness evidence exceeded now progressTimeout) w.shared.store
      (fun row => row.takesNote liveness evidence exceeded ||
        decide (w.shared.store.WakeDue row now progressTimeout)) rfl fun row known => by
      rw [recordFinding_spares_iff seen liveness evidence exceeded now progressTimeout known]
      simp
    exact ⟨fun stay => spares.mp stay.1, fun quiet => ⟨spares.mpr quiet, unmarked rfl⟩⟩
  | finish site seen state result charge now =>
    cases site with
    | approval epoch =>
      have spares := spares_later_iff
        (.finish (.approval epoch) seen state result charge now) w.shared.store
        (fun row => decide (row.toLifecycle.Finishable row.maxAttempts state charge ∧
            w.shared.store.holderTaken (row.finish state result charge now) = false)) rfl
        fun row known => by
          rw [approval_spares_iff epoch seen state result charge now known]
          simp
      exact ⟨fun stay => spares.mp stay.1, fun quiet => ⟨spares.mpr quiet, unmarked rfl⟩⟩
    | _ => exact ⟨fun _ => rfl, fun _ => ⟨fun found same => (nomatch same), unmarked rfl⟩⟩
  | recordLoss seen reason payload now =>
    refine ⟨fun _ => rfl, fun _ => ⟨fun found same row known later => ?_, unmarked rfl⟩⟩
    cases same
    have epoch : row.epoch = seen.epoch := congrArg Lifecycle.epoch (issued.2.1.row known)
    exact absurd epoch later.ne'
  | prepareReplacement seen target charge now =>
    refine ⟨fun _ => rfl, fun _ => ⟨fun found same => (nomatch same),
      fun row mem next found rises => ?_⟩⟩
    obtain ⟨⟨fresh, _⟩, state⟩ := prepareReplacement_opens seen target charge now mem found rises
    rw [TaskRow.Unmarked, fresh, state]
    decide
  | resumeReplacement seen target automatic now =>
    cases automatic with
    | true =>
      have opened := opener_unmarked_iff (.resumeReplacement seen target true now) w.shared.store rfl
        (fun l => Nat.lt_succ_self l.epoch) fun l there blocked => by
          rw [show l.state = .blocked from blocked] at there
          exact nomatch there
      exact ⟨fun stay => opened.mp stay.2,
        fun quiet => ⟨fun found same => (nomatch same), opened.mpr quiet⟩⟩
    | false => exact ⟨fun _ => rfl, fun _ => ⟨fun found same => (nomatch same), unmarked rfl⟩⟩
  | reissue seen resolvedSpec now =>
    have opened := opener_unmarked_iff (.reissue seen resolvedSpec now) w.shared.store rfl
      (fun l => Nat.lt_succ_self l.epoch) fun l _ blocked => nomatch blocked
    exact ⟨fun stay => opened.mp stay.2,
      fun quiet => ⟨fun found same => (nomatch same), opened.mpr quiet⟩⟩
  | _ => exact ⟨fun _ => rfl, fun _ => ⟨fun found same => (nomatch same), unmarked rfl⟩⟩

def detectedOps : List (Kernel Unit) :=
  [startWorker, reconcileKernel asciiLibrary fun _ => none,
    replace asciiLibrary "owner" none "worker" (some "go on"), cancel none "worker"]

theorem detectedOps_known : ∀ op ∈ detectedOps, KernelOp asciiLibrary op := by
  simp [detectedOps, startWorker, startOne, KernelOp.startAll, KernelOp.reconcileKernel,
    KernelOp.replace, KernelOp.cancel]

def detectedEndedWorld : ScriptWorld :=
  silentWorkerScript.run detectedOps
    (steps 0 100 ++ steps 1 17 ++ steps 2 30 ++ steps 3 40 ++ steps 1 3)

def detectedLateWorld : ScriptWorld :=
  silentWorkerScript.run detectedOps (steps 0 100 ++ steps 1 17 ++ steps 2 30 ++ steps 1 3)

def Tx.findsLate (tx : Tx β) (db : Store) : Bool :=
  tx.finds.any fun found => (db.task found.1).any fun row => found.2 < row.epoch

set_option maxRecDepth 100000 in
theorem ended_epoch_unstalled :
    ∃ (β : Type) (tx : Tx β), tx.findsLate detectedEndedWorld.shared.store ∧
      tx.FindingsStay detectedEndedWorld.shared.store := by
  have reached : Reachable (kernel asciiLibrary silentWorkerScript.executor) anyEvent
      detectedEndedWorld := silentWorkerScript.run_reachable detectedOps_known _
  have finding : (detectedEndedWorld.pending 1).any fun tx =>
      tx.2.findsLate detectedEndedWorld.shared.store &&
        !tx.2.outlivesEpoch detectedEndedWorld.shared.store := by decide +kernel
  obtain ⟨β, tx, k, at_tx, known⟩ := World.pending_passes finding
  simp only [Bool.and_eq_true, Bool.not_eq_true'] at known
  exact ⟨β, tx, known.1, (findings_stay_iff reached at_tx).mpr known.2⟩

set_option maxRecDepth 100000 in
theorem stall_marks_replacement :
    ¬ ∀ (w : ScriptWorld) (p : ℕ) (β : Type) (tx : Tx β) (k : β → Kernel Unit),
      Reachable (kernel asciiLibrary silentWorkerScript.executor) anyEvent w →
      w.procs p = some (.commit tx k) → tx.FindingsStay w.shared.store := by
  intro all
  have reached : Reachable (kernel asciiLibrary silentWorkerScript.executor) anyEvent
      detectedLateWorld := silentWorkerScript.run_reachable detectedOps_known _
  have late : (detectedLateWorld.pending 1).any
      fun tx => ¬ tx.2.FindingsStay detectedLateWorld.shared.store := by decide +kernel
  obtain ⟨β, tx, k, at_tx, missed⟩ := World.pending_passes late
  exact of_decide_eq_true missed (all detectedLateWorld 1 β tx k reached at_tx)

end SightMesh
