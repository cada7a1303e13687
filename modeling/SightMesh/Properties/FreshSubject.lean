import SightMesh.Properties.Overtaken

/-! What the commit that opens an epoch carries over from the one before. -/
namespace SightMesh

open Concurrency Database Python

variable {γ β : Type} {py : Library} {x : Executor γ}

/-- Nothing has been observed of the row yet. -/
def TaskRow.FreshSubject (row : TaskRow) : Prop :=
  row.toHealth = .fresh ∧ row.checkpointAt = none

instance (row : TaskRow) : Decidable row.FreshSubject := inferInstanceAs (Decidable (_ ∧ _))

/-- Every row whose epoch the commit raises is a fresh subject. -/
def Tx.OpensFresh (tx : Tx β) (db : Store) : Prop :=
  ∀ row ∈ db.tasks.rows, ∀ next ∈ (tx.exec db).1.task row.taskId,
    row.epoch < next.epoch → next.FreshSubject

instance (tx : Tx β) (db : Store) : Decidable (tx.OpensFresh db) := by
  unfold Tx.OpensFresh
  infer_instance

/-- A manual replacement of an automatic recovery, or the reissue of an expired reservation, is
about to open an epoch on a row that is no fresh subject. -/
def Tx.carriesOver (db : Store) : Tx β → Bool
  | .resumeReplacement seen target true now => (db.task seen.taskId).any fun row =>
    decide (row.state = .replacing ∧ row.version = seen.version ∧ db.holderTaken (row.moved
      (Lifecycle.resumed { seen.spec with target := target } true) id now) = false) &&
      !decide row.FreshSubject
  | .reissue seen resolvedSpec now => (db.task seen.taskId).any fun row =>
    decide (row.state = .lost ∧ row.version = seen.version ∧ db.holderTaken (row.moved
      (Lifecycle.reissued resolvedSpec) id now) = false) && !decide row.FreshSubject
  | _ => false

def Tx.opensEpoch : Tx β → Bool
  | .prepareReplacement .. | .resumeReplacement _ _ true _ | .reissue .. => true
  | _ => false

theorem Tx.Assigns.opens {tx : Tx β} {answer : β} {i : Identity} {l l' : Lifecycle}
    (h : tx.Assigns i l l' answer) (rises : l.epoch < l'.epoch) : tx.opensEpoch := by
  cases tx with
  | prepareReplacement | reissue => rfl
  | resumeReplacement seen target automatic now =>
    rcases answer with _ | _
    · exact h.elim
    obtain ⟨_, _, _, rfl⟩ := h
    cases automatic with
    | true => rfl
    | false => exact absurd rises (lt_irrefl _)
  | activate =>
    rcases answer with _ | _
    · exact h.elim
    obtain ⟨_, _, rfl⟩ := h
    exact absurd rises (lt_irrefl _)
  | checkpointRow | checkpointOccurrence =>
    rcases answer with _ | _
    · exact h.elim
    obtain ⟨_, _, _, rfl⟩ := h
    exact absurd rises (lt_irrefl _)
  | finish | finishExpired | recordLoss =>
    rcases answer with _ | _
    · exact h.elim
    obtain ⟨_, _, rfl⟩ := h
    rw [Lifecycle.finished_epoch] at rises
    exact absurd rises (lt_irrefl _)
  | _ => exact h.elim

theorem Tx.Steps.opens {tx : Tx β} {answer : β} {row next : TaskRow}
    (h : tx.Steps answer row next) (rises : row.epoch < next.epoch) :
    tx.opensEpoch ∧ tx.mover = some row.taskId := by
  rcases h.lifecycle with same | ⟨l, assigned, moved⟩
  · rw [same] at rises
    exact absurd rises (lt_irrefl _)
  · rw [moved] at rises
    exact ⟨assigned.opens rises, assigned.mover⟩

theorem prepareReplacement_opens (seen : TaskRecord) (target : Option Target) (charge : Bool)
    (now : Time) {db : Store} {row next : TaskRow} (mem : row ∈ db.tasks.rows)
    (found : ((Tx.prepareReplacement seen target charge now).exec db).1.task row.taskId = some next)
    (rises : row.epoch < next.epoch) : next.FreshSubject ∧ next.state = .replacing := by
  have known : db.task row.taskId = some row := Table.get_of_mem mem
  obtain ⟨answer, db', ran, left⟩ | ⟨e, _, left⟩ := atomically_cases
    (SightMesh.prepareReplacement seen.taskId target charge (some seen.version) now) db
  · have exec : ((Tx.prepareReplacement seen target charge now).exec db).1 = db' :=
      congrArg Prod.fst left
    obtain ⟨_, _, _, went⟩ := prepareReplacement_ok ran
    obtain ⟨row', _, _, _, _, same⟩ := transition_ok.mp went
    cases same
    rw [exec, Store.task_putTask] at found
    split at found
    · cases found
      exact ⟨⟨rfl, rfl⟩, rfl⟩
    · cases Option.some.inj (known.symm.trans found)
      exact absurd rises (lt_irrefl _)
  · have exec : ((Tx.prepareReplacement seen target charge now).exec db).1 = db :=
      congrArg Prod.fst left
    rw [exec] at found
    cases Option.some.inj (known.symm.trans found)
    exact absurd rises (lt_irrefl _)

/-- What every row satisfies whose epoch a transition raises. -/
theorem opener_iff (tx : Tx β) (db : Store) (P : TaskRow → Prop) [DecidablePred P] {t : TaskId}
    {expectStates : List TaskState} {version : ℕ} {assign : Lifecycle → Lifecycle}
    {attempted : String} {now : Time}
    (exec : (tx.exec db).1 = (atomically
      (transaction t expectStates (some version) assign attempted now) db).1)
    (rises : ∀ l : Lifecycle, l.epoch < (assign l).epoch) :
    (∀ row ∈ db.tasks.rows, ∀ next ∈ (tx.exec db).1.task row.taskId,
        row.epoch < next.epoch → P next) ↔
      ((db.task t).any fun row => decide (row.state ∈ expectStates ∧ row.version = version ∧
        db.holderTaken (row.moved assign id now) = false) &&
          !decide (P (row.moved assign id now))) = false := by
  cases known : db.task t with
  | none =>
    rw [transaction_exec_none known] at exec
    refine ⟨fun _ => rfl, fun _ row mem next found rose => ?_⟩
    rw [exec, Option.mem_def, show db.task row.taskId = some row from Table.get_of_mem mem] at found
    cases found
    exact absurd rose (lt_irrefl _)
  | some row =>
    have named : row.taskId = t := Store.taskId_of_task known
    rw [transaction_exec known] at exec
    constructor
    · intro opens
      by_contra carries
      simp only [Option.any_some, Bool.not_eq_false, Bool.and_eq_true, decide_eq_true_eq,
        Bool.not_eq_true', decide_eq_false_iff_not] at carries
      obtain ⟨⟨before, seen, free⟩, stale⟩ := carries
      rw [if_pos ⟨before, .inr (congrArg some seen.symm), free⟩] at exec
      have found : (tx.exec db).1.task row.taskId = some (row.moved assign id now) := by
        rw [exec]
        exact Store.task_putTask_self db _
      exact stale (opens row (Table.mem_of_get known) _ found (rises row.toLifecycle))
    · intro quiet other mem next found rose
      have still : db.task other.taskId = some other := Table.get_of_mem mem
      split at exec
      · rename_i accepted
        rw [exec, Option.mem_def, Store.task_putTask] at found
        split at found
        · rename_i same
          cases found
          have same : other.taskId = t := same.trans named
          rw [same, known] at still
          cases still
          have seen : version = row.version := by simpa using accepted.2.1
          simpa [accepted.1, accepted.2.2, seen.symm] using quiet
        · rw [still] at found
          cases found
          exact absurd rose (lt_irrefl _)
      · rw [exec, Option.mem_def, still] at found
        cases found
        exact absurd rose (lt_irrefl _)

theorem moved_freshSubject {assign : Lifecycle → Lifecycle}
    (keeps : ∀ l : Lifecycle, (assign l).checkpointAt = l.checkpointAt) (row : TaskRow)
    (now : Time) : (row.moved assign id now).FreshSubject ↔ row.FreshSubject := by
  have kept : (row.moved assign id now).checkpointAt = row.checkpointAt := keeps row.toLifecycle
  unfold TaskRow.FreshSubject
  rw [kept]
  rfl

/-- A transition that raises the epoch and assigns no observation carries all of them over. -/
theorem opener_fresh_iff (tx : Tx β) (db : Store) {t : TaskId} {expectStates : List TaskState}
    {version : ℕ} {assign : Lifecycle → Lifecycle} {attempted : String} {now : Time}
    (exec : (tx.exec db).1 = (atomically
      (transaction t expectStates (some version) assign attempted now) db).1)
    (rises : ∀ l : Lifecycle, l.epoch < (assign l).epoch)
    (keeps : ∀ l : Lifecycle, (assign l).checkpointAt = l.checkpointAt) :
    tx.OpensFresh db ↔ ((db.task t).any fun row =>
      decide (row.state ∈ expectStates ∧ row.version = version ∧
        db.holderTaken (row.moved assign id now) = false) && !decide row.FreshSubject) = false := by
  have opened := opener_iff tx db TaskRow.FreshSubject exec rises
  simp only [moved_freshSubject keeps] at opened
  exact opened

theorem resumeReplacement_opensFresh_iff (seen : TaskRecord) (target : Target) (automatic : Bool)
    (now : Time) (db : Store) :
    (Tx.resumeReplacement seen target automatic now).OpensFresh db ↔
      (Tx.resumeReplacement seen target automatic now).carriesOver db = false := by
  cases automatic with
  | true =>
    have opened := opener_fresh_iff (.resumeReplacement seen target true now) db rfl
      (fun l => Nat.lt_succ_self l.epoch) (fun _ => rfl)
    simpa [Tx.carriesOver] using opened
  | false =>
    refine ⟨fun _ => rfl, fun _ row mem next found rises => ?_⟩
    have known : db.task row.taskId = some row := Table.get_of_mem mem
    obtain ⟨next', found', step⟩ := (Tx.resumeReplacement seen target false now).exec_task known
    cases Option.some.inj (found'.symm.trans found)
    exact nomatch (step.opens rises).1

/-- Every commit that opens an epoch leaves a fresh subject, except where a manual replacement takes
over an automatic recovery, or a reservation is issued again, on a row that has been observed or
checkpointed. -/
theorem epochs_open_fresh_iff (tx : Tx β) (db : Store) :
    tx.OpensFresh db ↔ tx.carriesOver db = false := by
  cases tx with
  | prepareReplacement seen target charge now =>
    refine ⟨fun _ => rfl, fun _ row mem next found rises => ?_⟩
    exact (prepareReplacement_opens seen target charge now mem found rises).1
  | resumeReplacement seen target automatic now => exact resumeReplacement_opensFresh_iff ..
  | reissue seen resolvedSpec now =>
    have opened := opener_fresh_iff (.reissue seen resolvedSpec now) db rfl
      (fun l => Nat.lt_succ_self l.epoch) (fun _ => rfl)
    simpa [Tx.carriesOver] using opened
  | _ =>
    refine ⟨fun _ => rfl, fun _ row mem next found rises => ?_⟩
    obtain ⟨next', found', step⟩ := Tx.exec_task _ (Table.get_of_mem mem)
    cases Option.some.inj (found'.symm.trans found)
    exact nomatch (step.opens rises).1

def recoveringScript : Script :=
  { Script.calm with
    launch := fun taskId epoch => if epoch = 2 then noAnswer else launched taskId epoch
    processes := [failedProcess "quota_exhausted"] }

/-- An automatic recovery, a checkpoint of it, and a manual replacement that takes it over. -/
def takenOverOps : List (Kernel Unit) :=
  [startWorker, reconcileProviderOutcome asciiLibrary "owner" (sessionOf workerId 1),
    checkpoint asciiLibrary none "note" (some "worker") none,
    replace asciiLibrary "owner" none "worker" (some "go on")]

theorem takenOverOps_known : ∀ op ∈ takenOverOps, KernelOp asciiLibrary op := by
  simp [takenOverOps, startWorker, startOne, KernelOp.startAll, KernelOp.reconcileProviderOutcome,
    KernelOp.checkpoint, KernelOp.replace]

def takenOverWorld : ScriptWorld :=
  recoveringScript.run takenOverOps (steps 0 60 ++ steps 1 80 ++ steps 2 30 ++ steps 3 5)

set_option maxRecDepth 100000 in
theorem checkpoint_carried_over :
    ¬ ∀ (w : ScriptWorld) (p : ℕ) (β : Type) (tx : Tx β) (k : β → Kernel Unit),
      Reachable (kernel asciiLibrary recoveringScript.executor) anyEvent w →
      w.procs p = some (.commit tx k) → tx.OpensFresh w.shared.store := by
  intro all
  have reached : Reachable (kernel asciiLibrary recoveringScript.executor) anyEvent
      takenOverWorld := recoveringScript.run_reachable takenOverOps_known _
  have carried : (takenOverWorld.pending 3).any
      fun tx => ¬ tx.2.OpensFresh takenOverWorld.shared.store := by decide +kernel
  obtain ⟨β, tx, k, at_tx, missed⟩ := World.pending_passes carried
  exact of_decide_eq_true missed (all takenOverWorld 3 β tx k reached at_tx)

end SightMesh
