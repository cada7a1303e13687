import SightMesh.Kernel.Changes
import SightMesh.Properties.Rotation

/-! Whose output a baseline was read from. The memory is keyed by the task alone, so a total outlives
the worker it was read from wherever a task changes hands without a scan between. -/
namespace SightMesh

open Python

variable {β : Type} {py : Library} {tasksPerPass : ℕ} {d : Detector}

/-! ### Workers -/

/-- Who works on a task: its epoch, and the session that holds it. -/
def TaskRecord.worker (task : TaskRecord) : ℕ × Option SessionId :=
  (task.epoch, task.holderSessionId)

def Store.worker (db : Store) (taskId : TaskId) : Option (ℕ × Option SessionId) :=
  (db.getById taskId).map TaskRecord.worker

/-- The record the last total of a task was read under, and the total. -/
def lastRecorded : List BaselineUse → TaskId → Option (TaskRecord × ℕ)
  | [], _ => none
  | .recorded task bytes :: earlier, taskId =>
    if task.taskId = taskId then some (task, bytes) else lastRecorded earlier taskId
  | .passed _ _ :: earlier, taskId => lastRecorded earlier taskId

/-- The total was last recorded from the worker that now has the task. -/
def RecordedFrom (earlier : List BaselineUse) (task : TaskRecord) (bytes : ℕ) : Prop :=
  ∃ reader ∈ lastRecorded earlier task.taskId,
    reader.2 = bytes ∧ reader.1.worker = task.worker

instance (earlier : List BaselineUse) (task : TaskRecord) (bytes : ℕ) :
    Decidable (RecordedFrom earlier task bytes) :=
  inferInstanceAs (Decidable (∃ reader ∈ lastRecorded earlier task.taskId, _))

/-- Every baseline was recorded from the very worker it is passed for. -/
def OwnBaselines : List BaselineUse → Prop
  | [] => True
  | .passed task bytes :: earlier => RecordedFrom earlier task bytes ∧ OwnBaselines earlier
  | .recorded _ _ :: earlier => OwnBaselines earlier

instance OwnBaselines.decidable : (uses : List BaselineUse) → Decidable (OwnBaselines uses)
  | [] => isTrue trivial
  | .passed task bytes :: earlier =>
    have := decidable earlier
    inferInstanceAs (Decidable (RecordedFrom earlier task bytes ∧ OwnBaselines earlier))
  | .recorded _ _ :: earlier => decidable earlier

/-! ### Quiet runs -/

def Stage.inHand : Stage → List TaskRecord
  | .idle => []
  | .choosing _ _ selected => selected
  | .classifying selected => selected
  | .gathering task rest => task :: rest

/-- The detector remembers a total of the task, or has its record in hand. -/
def Detector.Minds (d : Detector) (taskId : TaskId) : Prop :=
  (d.baselines taskId).isSome ∨ ∃ task ∈ d.stage.inHand, task.taskId = taskId

/-- A transaction gives no task the detector minds to another worker. -/
def Detector.Quiet (d : Detector) : DetectorStep → Prop
  | .commit tx => ∀ taskId, d.Minds taskId →
    Store.worker (tx.2.exec d.db).1 taskId = d.db.worker taskId
  | _ => True

def Detector.QuietRun (py : Library) (tasksPerPass : ℕ) (d : Detector) : List DetectorStep → Prop
  | [] => True
  | step :: rest => d.Quiet step ∧ ∀ next, d.step py tasksPerPass step = some next →
    next.QuietRun py tasksPerPass rest

/-! ### The invariant -/

/-- Everything the detector holds of a task is of the worker that now has it. -/
structure Detector.Current (d : Detector) : Prop where
  own : OwnBaselines d.uses
  hand : ∀ task ∈ d.stage.inHand, d.db.worker task.taskId = some task.worker
  kept : ∀ taskId bytes, d.baselines taskId = some bytes →
    ∃ reader ∈ lastRecorded d.uses taskId, reader.2 = bytes ∧
      d.db.worker taskId = some reader.1.worker

theorem Detector.start_current (db : Store) : (Detector.start db).Current :=
  ⟨trivial, fun _ mem => absurd mem List.not_mem_nil, fun _ _ none => nomatch none⟩

theorem Detector.Current.commit (current : d.Current) {tx : (β : Type) × Tx β}
    (quiet : d.Quiet (.commit tx)) : ({ d with db := (tx.2.exec d.db).1 } : Detector).Current := by
  constructor
  · exact current.own
  · intro task mem
    rw [← current.hand task mem]
    exact quiet task.taskId (.inr ⟨task, mem, rfl⟩)
  · intro taskId bytes remembered
    obtain ⟨reader, last, total, worker⟩ := current.kept taskId bytes remembered
    refine ⟨reader, last, total, ?_⟩
    rw [← worker]
    exact quiet taskId (.inl (by rw [remembered]; rfl))

theorem Detector.Current.restage (current : d.Current) {stage : Stage} (cursor : TaskId)
    (fewer : ∀ task ∈ stage.inHand, d.db.worker task.taskId = some task.worker) :
    ({ d with cursor := cursor, stage := stage } : Detector).Current :=
  ⟨current.own, fewer, current.kept⟩

theorem Store.worker_of_getById {db : Store} {taskId : TaskId} {task : TaskRecord}
    (found : db.getById taskId = some task) : db.worker task.taskId = some task.worker := by
  have named : task.taskId = taskId := by
    obtain ⟨row, known, rfl⟩ := Option.map_eq_some_iff.mp found
    have keyed : row.id = taskId := Database.Table.key_of_get known
    exact keyed
  rw [Store.worker, named, found]
  rfl

theorem Detector.Current.evict (current : d.Current) (watched : List TaskId) {stage : Stage}
    (same : stage.inHand = d.stage.inHand) :
    ({ d with baselines := evictBaselines d.baselines watched, stage := stage } :
      Detector).Current := by
  constructor
  · exact current.own
  · rw [same]
    exact current.hand
  · intro taskId bytes remembered
    dsimp only [evictBaselines] at remembered
    split at remembered
    · exact current.kept taskId bytes remembered
    · exact nomatch remembered

theorem Detector.Current.pass (current : d.Current) {task : TaskRecord} {rest : List TaskRecord}
    (next : d.stage = .classifying (task :: rest)) :
    ({ d with stage := .gathering task rest, uses := d.passing task } : Detector).Current := by
  have hand := current.hand
  rw [next] at hand
  unfold Detector.passing
  cases remembered : d.baselines task.taskId with
  | none => exact ⟨current.own, hand, current.kept⟩
  | some bytes =>
    obtain ⟨reader, last, total, worker⟩ := current.kept task.taskId bytes remembered
    have mine : reader.1.worker = task.worker :=
      Option.some.inj (worker.symm.trans (hand task List.mem_cons_self))
    exact ⟨⟨⟨reader, last, total, mine⟩, current.own⟩, hand, current.kept⟩

theorem Detector.Current.record (current : d.Current) {task : TaskRecord}
    (hand : d.db.worker task.taskId = some task.worker) (bytes : ℕ) :
    ({ d with baselines := Function.update d.baselines task.taskId (some bytes),
              uses := .recorded task bytes :: d.uses } : Detector).Current := by
  constructor
  · exact current.own
  · exact current.hand
  · intro taskId total remembered
    dsimp only at remembered ⊢
    by_cases this : taskId = task.taskId
    · subst this
      rw [Function.update_self] at remembered
      obtain rfl := Option.some.inj remembered
      exact ⟨(task, bytes), by simp [lastRecorded], rfl, hand⟩
    · rw [Function.update_of_ne this] at remembered
      obtain ⟨reader, last, same⟩ := current.kept taskId total remembered
      refine ⟨reader, ?_, same⟩
      rw [lastRecorded, if_neg (Ne.symm this)]
      exact last

theorem Detector.Current.proceed (current : d.Current) {task : TaskRecord}
    {rest : List TaskRecord} (hand : ∀ other ∈ rest, d.db.worker other.taskId = some other.worker)
    (fate : Fate) : (d.proceed task rest fate).Current := by
  unfold Detector.proceed
  split
  · exact current.restage _ fun other mem => absurd mem List.not_mem_nil
  · exact current.restage d.cursor hand
  · exact current.restage d.cursor hand

theorem Detector.Current.observed (current : d.Current) {task : TaskRecord}
    {rest : List TaskRecord} (next : d.stage = .gathering task rest) (answers : ExecutorAnswers)
    (now : Time) (fate : Fate) : (d.observed py task rest answers now fate).Current := by
  have hand := current.hand
  rw [next] at hand
  have others : ∀ other ∈ rest, d.db.worker other.taskId = some other.worker :=
    fun other mem => hand other (List.mem_cons_of_mem _ mem)
  unfold Detector.observed
  cases evidenceFrom py answers now task.checkpointAt (d.baselines task.taskId) with
  | error e => exact current.restage d.cursor others
  | ok evidence =>
    dsimp only [recordBaseline]
    cases evidence.outputBytes with
    | none => exact Detector.Current.proceed current others fate
    | some bytes =>
      dsimp only
      split
      · exact (current.record (hand task List.mem_cons_self) bytes).proceed others fate
      · exact Detector.Current.proceed current others fate

/-! ### Over a run -/

theorem Detector.Current.step (current : d.Current) {step : DetectorStep} {next : Detector}
    (quiet : d.Quiet step) (taken : d.step py tasksPerPass step = some next) : next.Current := by
  have none : ∀ task ∈ Stage.idle.inHand, d.db.worker task.taskId = some task.worker :=
    fun task mem => absurd mem List.not_mem_nil
  cases step with
  | commit tx =>
    obtain rfl := Option.some.inj taken
    exact current.commit quiet
  | scan answered =>
    cases at' : d.stage with
    | idle =>
      simp only [Detector.step, at'] at taken
      split at taken
      · obtain rfl := Option.some.inj taken
        exact current.restage _ fun task mem => absurd mem List.not_mem_nil
      · obtain rfl := Option.some.inj taken
        exact current
    | _ => simp [Detector.step, at'] at taken
  | read answered =>
    cases at' : d.stage with
    | choosing watched chosen selected =>
      have hand := current.hand
      rw [at'] at hand
      cases chosen with
      | nil => simp [Detector.step, at'] at taken
      | cons taskId chosen =>
        simp only [Detector.step, at'] at taken
        split at taken
        · obtain rfl := Option.some.inj taken
          refine current.restage d.cursor fun task mem => ?_
          rcases List.mem_append.mp mem with before | now
          · exact hand task before
          · exact Store.worker_of_getById (Option.mem_toList.mp now)
        · obtain rfl := Option.some.inj taken
          exact current.restage d.cursor none
    | _ => simp [Detector.step, at'] at taken
  | evict =>
    cases at' : d.stage with
    | choosing watched chosen selected =>
      cases chosen with
      | nil =>
        simp only [Detector.step, at'] at taken
        obtain rfl := Option.some.inj taken
        exact current.evict watched (by rw [at']; rfl)
      | cons taskId chosen => simp [Detector.step, at'] at taken
    | _ => simp [Detector.step, at'] at taken
  | skip =>
    have hand := current.hand
    cases at' : d.stage with
    | classifying selected =>
      cases selected with
      | nil => simp [Detector.step, at'] at taken
      | cons task rest =>
        rw [at'] at hand
        simp only [Detector.step, at'] at taken
        obtain rfl := Option.some.inj taken
        exact current.restage d.cursor fun other mem => hand other (List.mem_cons_of_mem _ mem)
    | _ => simp [Detector.step, at'] at taken
  | gather =>
    cases at' : d.stage with
    | classifying selected =>
      cases selected with
      | nil => simp [Detector.step, at'] at taken
      | cons task rest =>
        simp only [Detector.step, at'] at taken
        obtain rfl := Option.some.inj taken
        exact current.pass at'
    | _ => simp [Detector.step, at'] at taken
  | observe answers now fate =>
    cases at' : d.stage with
    | gathering task rest =>
      simp only [Detector.step, at'] at taken
      obtain rfl := Option.some.inj taken
      exact current.observed at' answers now fate
    | _ => simp [Detector.step, at'] at taken
  | finish =>
    cases at' : d.stage with
    | classifying selected =>
      cases selected with
      | nil =>
        simp only [Detector.step, at'] at taken
        obtain rfl := Option.some.inj taken
        exact current.restage d.cursor none
      | cons task rest => simp [Detector.step, at'] at taken
    | _ => simp [Detector.step, at'] at taken

theorem Detector.Current.run {steps : List DetectorStep} {d' : Detector} (current : d.Current)
    (quiet : d.QuietRun py tasksPerPass steps) (ran : d.run py tasksPerPass steps = some d') :
    d'.Current := by
  induction steps generalizing d with
  | nil =>
    obtain rfl := Option.some.inj ran
    exact current
  | cons step steps ih =>
    obtain ⟨mid, taken, ran⟩ := Option.bind_eq_some_iff.mp ran
    exact ih (current.step quiet.1 taken) (quiet.2 mid taken) ran

/-! ### What disturbs a run -/

/-- The task a transaction can give to another worker. -/
def Tx.rehires : Tx β → Option TaskId
  | .activate _ seen .. | .prepareReplacement seen .. | .resumeReplacement seen ..
  | .reissue seen .. => some seen.taskId
  | _ => none

/-- Only activating, replacing, taking over and reissuing change a worker. -/
theorem Tx.Assigns.worker {tx : Tx β} {answer : β} {i : Identity} {l l' : Lifecycle}
    (h : tx.Assigns i l l' answer) (other : tx.rehires ≠ some i.taskId) :
    l'.epoch = l.epoch ∧ l'.holderSessionId = l.holderSessionId := by
  have finished (maxAttempts : ℕ) (state : TaskState) (result : Option String) (charge : Bool) :
      (l.finished maxAttempts state result charge).epoch = l.epoch ∧
        (l.finished maxAttempts state result charge).holderSessionId = l.holderSessionId := by
    unfold Lifecycle.finished
    split
    · split
      · exact ⟨rfl, rfl⟩
      · exact ⟨rfl, rfl⟩
    · split
      · exact ⟨rfl, rfl⟩
      · exact ⟨rfl, rfl⟩
  cases tx with
  | activate | prepareReplacement | resumeReplacement | reissue =>
    cases answer with
    | ok => exact absurd (congrArg some h.1.symm) other
    | error => exact h.elim
  | checkpointRow | checkpointOccurrence =>
    rcases answer with _ | _
    · exact h.elim
    obtain ⟨_, _, _, rfl⟩ := h
    exact ⟨rfl, rfl⟩
  | finish | finishExpired | recordLoss =>
    rcases answer with _ | _
    · exact h.elim
    obtain ⟨_, _, rfl⟩ := h
    exact finished _ _ _ _
  | _ => exact h.elim

theorem Tx.exec_worker (tx : Tx β) {db : Store} {t : TaskId} (known : (db.worker t).isSome)
    (other : tx.rehires ≠ some t) : Store.worker (tx.exec db).1 t = db.worker t := by
  obtain ⟨row, found⟩ : ∃ row, db.task t = some row := by
    cases at' : db.task t with
    | none => simp [Store.worker, Store.getById, at'] at known
    | some row => exact ⟨row, rfl⟩
  have keyed : row.id = t := Database.Table.key_of_get found
  obtain ⟨next, found', steps⟩ := tx.exec_task found
  have same : next.toTaskRecord.worker = row.toTaskRecord.worker := by
    rcases steps.lifecycle with still | ⟨l, assigned, moved⟩
    · exact congrArg (fun l : Lifecycle => (l.epoch, l.holderSessionId)) still
    · obtain ⟨epoch, holder⟩ := assigned.worker (by rw [← keyed] at other; exact other)
      have after := congrArg (fun l : Lifecycle => (l.epoch, l.holderSessionId)) moved
      exact after.trans (Prod.ext epoch holder)
  rw [Store.worker, Store.worker, Store.getById, Store.getById, found, found']
  exact congrArg some same

theorem Detector.Current.known (current : d.Current) {taskId : TaskId} (minds : d.Minds taskId) :
    (d.db.worker taskId).isSome := by
  rcases minds with remembered | ⟨task, mem, rfl⟩
  · obtain ⟨bytes, total⟩ := Option.isSome_iff_exists.mp remembered
    obtain ⟨reader, _, _, worker⟩ := current.kept taskId bytes total
    rw [worker]
    rfl
  · rw [current.hand task mem]
    rfl

/-- Any other transaction is quiet: completions, losses, checkpoints, new tasks, and what a pass
itself records. -/
theorem Detector.Current.quiet (current : d.Current) {tx : (β : Type) × Tx β}
    (other : ∀ taskId, d.Minds taskId → tx.2.rehires ≠ some taskId) : d.Quiet (.commit tx) :=
  fun taskId minds => tx.2.exec_worker (current.known minds) (other taskId minds)

/-- In every run of passes and transactions that leaves no task the detector minds to another
worker, a baseline is passed only for the worker it was recorded from. -/
theorem baselines_own {db : Store} {steps : List DetectorStep}
    (ran : (Detector.start db).run py tasksPerPass steps = some d)
    (quiet : (Detector.start db).QuietRun py tasksPerPass steps) : OwnBaselines d.uses :=
  ((Detector.start_current db).run quiet ran).own

/-! ### A replacement between two passes -/

def fleetAnswers (bytes : ℤ) : ExecutorAnswers where
  processes := some (.arr [.obj [("id", .str "process"), ("status", .str "running"),
    ("output_bytes", .num (.int bytes))]])
  snapshot _ := none
  queueStatus := none

def fleetPass (bytes : ℤ) : List DetectorStep :=
  [.scan true, .read true, .evict, .gather, .observe (fleetAnswers bytes) 1 (.returned false),
    .finish]

def fleetOfOne : Store :=
  [(⟨_, .reserveAll "operator" none [fleetSpec "a"] 3 0⟩ : AnyTx),
    ⟨_, .activate .startReserved (fleetTask "a") "/a" "session-a" 0⟩].foldl AnyTx.exec
    (Store.initial true)

def replacedBetween : List DetectorStep :=
  fleetPass 4096 ++
    [.commit ⟨_, .prepareReplacement { fleetTask "a" with version := 1 } none false 2⟩,
      .commit ⟨_, .activate .replacePrepared (fleetTask "a") "/a2" "session-a2" 3⟩] ++
    fleetPass 8192

set_option maxRecDepth 100000 in
theorem replacement_inherits_baseline :
    ¬ ∀ (db : Store) (steps : List DetectorStep) (d : Detector),
      (Detector.start db).run asciiLibrary 50 steps = some d → OwnBaselines d.uses := by
  intro all
  have reused : ((Detector.start fleetOfOne).run asciiLibrary 50 replacedBetween).any
      fun d => ¬ OwnBaselines d.uses := by decide +kernel
  obtain ⟨d, ran, foreign⟩ := (Option.any_eq_true _ _).mp reused
  exact of_decide_eq_true foreign (all fleetOfOne replacedBetween d ran)

/-- Passes are quiet among transactions that give no task to another worker. -/
theorem Detector.Current.quietRun (current : d.Current) {steps : List DetectorStep}
    (keeps : ∀ tx, .commit tx ∈ steps → tx.2.rehires = none) :
    d.QuietRun py tasksPerPass steps := by
  induction steps generalizing d with
  | nil => trivial
  | cons step steps ih =>
    have quiet : d.Quiet step := by
      cases step with
      | commit tx =>
        apply current.quiet
        intro taskId _
        rw [keeps tx List.mem_cons_self]
        exact Option.some_ne_none taskId |>.symm
      | _ => trivial
    exact ⟨quiet, fun next taken => ih (current.step quiet taken) fun tx mem =>
      keeps tx (List.mem_cons_of_mem _ mem)⟩

def checkpointedBetween : List DetectorStep :=
  fleetPass 4096 ++ [.commit ⟨_, .checkpointRow { fleetTask "a" with version := 1 } "note" 2⟩] ++
    fleetPass 8192

set_option maxRecDepth 100000 in
/-- After a checkpoint the second pass still compares the worker with itself. -/
theorem same_worker_baseline :
    ∃ d, (Detector.start fleetOfOne).run asciiLibrary 50 checkpointedBetween = some d ∧
      OwnBaselines d.uses ∧ d.uses.length = 3 ∧
      (d.db.task (fleetTask "a").taskId).any fun row => row.checkpoint = some "note" := by
  have passes : ((Detector.start fleetOfOne).run asciiLibrary 50 checkpointedBetween).any fun d =>
      d.uses.length = 3 && (d.db.task (fleetTask "a").taskId).any fun row =>
        row.checkpoint = some "note" := by decide +kernel
  obtain ⟨d, ran, used⟩ := (Option.any_eq_true _ _).mp passes
  rw [Bool.and_eq_true, decide_eq_true_eq] at used
  have quiet : (Detector.start fleetOfOne).QuietRun asciiLibrary 50 checkpointedBetween := by
    apply (Detector.start_current fleetOfOne).quietRun
    intro tx mem
    simp only [checkpointedBetween, fleetPass, List.cons_append, List.nil_append, List.mem_cons,
      List.not_mem_nil, reduceCtorEq, DetectorStep.commit.injEq, false_or, or_false] at mem
    subst mem
    rfl
  exact ⟨d, ran, baselines_own ran quiet, used⟩

end SightMesh
