import Mathlib.Data.String.Basic
import SightMesh.Executor.Evidence
import SightMesh.Programs.Reconciler
import SightMesh.Scheduling.RoundRobin

/-! What the detector remembers between its passes: the cursor that takes a large fleet in turns,
and the output totals it compares the next read with. -/
namespace SightMesh

open Python RoundRobin

/-! ### The cursor -/

/-- `_detection_slice` of the ids it watches: the chosen ones, resuming past the cursor, and where
the cursor stands then. -/
def detectionSlice (tasksPerPass : ℕ) (ordered : List TaskId) (cursor : TaskId) :
    List TaskId × TaskId :=
  let start := startAfter ordered cursor
  let rotated := ordered.drop start ++ ordered.take start
  let complete := decide (rotated.length ≤ tasksPerPass)
  let chosen := if complete then rotated else rotated.take tasksPerPass
  (chosen, match chosen.getLast? with
    | some last => if complete then "" else last
    | none => "")

/-- How the classification of one task ends: it raises, or it returns before or after the deadline
of its pass. -/
inductive Fate where
  | raised
  | returned (late : Bool)
  deriving DecidableEq

/-- The loop of `detect_liveness`: the tasks it attempts, and where it leaves the cursor. An
exception costs the task its turn and skips the look at the clock. -/
def detectEach (fate : TaskId → Fate) : List TaskRecord → TaskId → List TaskId × TaskId
  | [], cursor => ([], cursor)
  | task :: rest, cursor =>
    match fate task.taskId with
    | .returned true => ([task.taskId], task.taskId)
    | .raised | .returned false =>
      let (attempted, cursor) := detectEach fate rest cursor
      (task.taskId :: attempted, cursor)

def detectionPass (tasksPerPass : ℕ) (db : Store) (fate : TaskId → Fate) (cursor : TaskId) :
    List TaskId × TaskId :=
  let (chosen, cursor) := detectionSlice tasksPerPass db.watchedTasks cursor
  detectEach fate (chosen.filterMap db.getById) cursor

/-- Where the cursor stands before each pass. -/
def cursorAt (tasksPerPass : ℕ) (stores : ℕ → Store) (fates : ℕ → TaskId → Fate) (cursor : TaskId) :
    ℕ → TaskId
  | 0 => cursor
  | k + 1 =>
    (detectionPass tasksPerPass (stores k) (fates k) (cursorAt tasksPerPass stores fates cursor k)).2

def attemptedIn (tasksPerPass : ℕ) (stores : ℕ → Store) (fates : ℕ → TaskId → Fate)
    (cursor : TaskId) (k : ℕ) : List TaskId :=
  (detectionPass tasksPerPass (stores k) (fates k) (cursorAt tasksPerPass stores fates cursor k)).1

/-! ### The baselines -/

/-- `_output_bytes`: the last output total of a task, where one was read. -/
abbrev Baselines := TaskId → Option ℕ

def evictBaselines (baselines : Baselines) (watched : List TaskId) : Baselines := fun taskId =>
  if taskId ∈ watched then baselines taskId else none

/-- Only a complete, successful read updates the baseline. -/
def recordBaseline (baselines : Baselines) (taskId : TaskId) (evidence : ProgressEvidence) :
    Baselines :=
  match evidence.outputBytes with
  | some bytes => if evidence.observed then Function.update baselines taskId (some bytes)
      else baselines
  | none => baselines

/-- Where a pass of the detector stands. -/
inductive Stage where
  | idle
  | choosing (watched chosen : List TaskId) (selected : List TaskRecord)
  | classifying (selected : List TaskRecord)
  | gathering (task : TaskRecord) (rest : List TaskRecord)

inductive BaselineUse where
  | passed (task : TaskRecord) (bytes : ℕ)
  | recorded (task : TaskRecord) (bytes : ℕ)

/-- A detector over its database, and what it has done with baselines, the latest first. -/
structure Detector where
  db : Store
  baselines : Baselines
  cursor : TaskId
  stage : Stage
  uses : List BaselineUse

def Detector.start (db : Store) : Detector := ⟨db, fun _ => none, "", .idle, []⟩

/-- A step: a transaction of anyone, the pass itself included, or what the pass does next. -/
inductive DetectorStep where
  | commit (tx : (β : Type) × Tx β)
  /-- The scan of the watched tasks, which the database may refuse. -/
  | scan (answered : Bool)
  | read (answered : Bool)
  | evict
  /-- The policy of the next task cannot be used. -/
  | skip
  | gather
  | observe (answers : ExecutorAnswers) (now : Time) (fate : Fate)
  | finish

/-- How the pass goes on once a task has had its turn. -/
def Detector.proceed (d : Detector) (task : TaskRecord) (rest : List TaskRecord) (fate : Fate) :
    Detector :=
  match fate with
  | .returned true => { d with cursor := task.taskId, stage := .idle }
  | .raised | .returned false => { d with stage := .classifying rest }

def Detector.observed (py : Library) (d : Detector) (task : TaskRecord) (rest : List TaskRecord)
    (answers : ExecutorAnswers) (now : Time) (fate : Fate) : Detector :=
  match evidenceFrom py answers now task.checkpointAt (d.baselines task.taskId) with
  | .error _ => { d with stage := .classifying rest }
  | .ok evidence =>
    let uses := match evidence.outputBytes with
      | some bytes => if evidence.observed then .recorded task bytes :: d.uses else d.uses
      | none => d.uses
    { d with baselines := recordBaseline d.baselines task.taskId evidence, uses := uses }.proceed
      task rest fate

def Detector.passing (d : Detector) (task : TaskRecord) : List BaselineUse :=
  match d.baselines task.taskId with
  | some bytes => .passed task bytes :: d.uses
  | none => d.uses

def Detector.step (py : Library) (tasksPerPass : ℕ) (d : Detector) :
    DetectorStep → Option Detector
  | .commit tx => some { d with db := (tx.2.exec d.db).1 }
  | .scan answered =>
    match d.stage with
    | .idle =>
      if answered then
        let (chosen, cursor) := detectionSlice tasksPerPass d.db.watchedTasks d.cursor
        some { d with cursor := cursor, stage := .choosing d.db.watchedTasks chosen [] }
      else some d
    | _ => none
  | .read answered =>
    match d.stage with
    | .choosing watched (taskId :: chosen) selected =>
      if answered then
        some { d with
          stage := .choosing watched chosen (selected ++ (d.db.getById taskId).toList) }
      else some { d with stage := .idle }
    | _ => none
  | .evict =>
    match d.stage with
    | .choosing watched [] selected =>
      some { d with baselines := evictBaselines d.baselines watched, stage := .classifying selected }
    | _ => none
  | .skip =>
    match d.stage with
    | .classifying (_ :: rest) => some { d with stage := .classifying rest }
    | _ => none
  | .gather =>
    match d.stage with
    | .classifying (task :: rest) =>
      some { d with stage := .gathering task rest, uses := d.passing task }
    | _ => none
  | .observe answers now fate =>
    match d.stage with
    | .gathering task rest => some (d.observed py task rest answers now fate)
    | _ => none
  | .finish =>
    match d.stage with
    | .classifying [] => some { d with stage := .idle }
    | _ => none

def Detector.run (py : Library) (tasksPerPass : ℕ) (d : Detector) :
    List DetectorStep → Option Detector
  | [] => some d
  | step :: rest => (d.step py tasksPerPass step).bind fun d => d.run py tasksPerPass rest

end SightMesh
