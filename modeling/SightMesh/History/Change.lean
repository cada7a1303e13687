import SightMesh.Python.Raising
import SightMesh.Database.Sparse
import SightMesh.Database.Run
import SightMesh.Database.Table
import Mathlib.Algebra.Order.Ring.Rat

/-! `history.py`: the append-only table beside the five projection tables. A row is read by its
columns, and the statements inside a `change` are whatever they write to the row of its key. -/
namespace SightMesh.History

open Database

abbrev Column := String

inductive Entity where
  | task | effect | wake | outgoingCommand | cleanupIntent
  deriving DecidableEq

def Entity.all : List Entity := [.task, .effect, .wake, .outgoingCommand, .cleanupIntent]

/-- A value of a column, up to Python's `==`. -/
inductive Value where
  | null
  | number (value : ℚ)
  | text (value : String)
  deriving DecidableEq

def Value.str : Value → String
  | .null => "None"
  | .number value => toString value
  | .text value => value

def Value.int : Value → Option ℤ
  | .number value => some (value.num.tdiv value.den)
  | _ => none

inductive CleanupKind where
  | commandCancel | executionStop
  deriving DecidableEq

def CleanupKind.column : CleanupKind → String
  | .commandCancel => "command_cancel"
  | .executionStop => "execution_stop"

inductive Key where
  | task (taskId : String)
  | effect (taskId : String) (epoch : ℤ)
  | wake (wakeId : String)
  | outgoingCommand (taskId : String) (epoch : ℤ) (dedupeKey : String)
  | cleanupIntent (taskId : String) (epoch : ℤ) (kind : CleanupKind) (nativeId : String)
  deriving DecidableEq

def Key.entity : Key → Entity
  | .task _ => .task
  | .effect .. => .effect
  | .wake _ => .wake
  | .outgoingCommand .. => .outgoingCommand
  | .cleanupIntent .. => .cleanupIntent

def Key.values : Key → List (Column × Value)
  | .task taskId => [("task_id", .text taskId)]
  | .effect taskId epoch => [("task_id", .text taskId), ("epoch", .number epoch)]
  | .wake wakeId => [("wake_id", .text wakeId)]
  | .outgoingCommand taskId epoch dedupeKey =>
    [("task_id", .text taskId), ("epoch", .number epoch), ("dedupe_key", .text dedupeKey)]
  | .cleanupIntent taskId epoch kind nativeId =>
    [("task_id", .text taskId), ("epoch", .number epoch), ("kind", .text kind.column),
      ("native_id", .text nativeId)]

/-- The key columns of `_PROJECTIONS`. -/
def Entity.keyColumns : Entity → List Column
  | .task => ["task_id"]
  | .effect => ["task_id", "epoch"]
  | .wake => ["wake_id"]
  | .outgoingCommand => ["task_id", "epoch", "dedupe_key"]
  | .cleanupIntent => ["task_id", "epoch", "kind", "native_id"]

def Entity.columns : Entity → List Column
  | .task => ["task_id", "scope", "task_key", "parent_task_id", "state", "epoch", "attempts",
      "max_attempts", "child_limit", "spec_json", "workspace_id", "holder_session_id", "checkpoint",
      "result", "version", "child_event_seq", "last_woken_seq", "liveness", "liveness_episode",
      "liveness_since", "liveness_wakes", "liveness_evidence", "over_budget", "checkpoint_at",
      "created_at", "updated_at"]
  | .effect => ["task_id", "epoch", "request_hash", "state", "workspace_id", "session_id",
      "outcome", "retry_at", "owner_instance", "lease_expires_at", "created_at", "updated_at"]
  | .wake => ["wake_id", "parent_task_id", "predicate", "dedupe_key", "event_seq", "state",
      "claim_expires_at", "claim_token", "payload", "resolution", "created_at", "updated_at"]
  | .outgoingCommand => ["task_id", "epoch", "dedupe_key", "session_id", "native_id", "state",
      "created_at", "updated_at"]
  | .cleanupIntent => ["task_id", "epoch", "kind", "native_id", "session_id", "state",
      "created_at", "updated_at"]

/-- A row: its key, and what stands in its other columns. -/
structure Row where
  key : Key
  rest : Column → Value

def Row.column (row : Row) (c : Column) : Value := (row.key.values.lookup c).getD (row.rest c)

abbrev Rows := Table Row.key

inductive Kind where
  | created | transition | observation | baseline
  deriving DecidableEq

structure Identity where
  taskId : String
  epoch : Option ℤ
  entityId : Option String
  deriving DecidableEq

/-- A row of `task_history`; its `seq` is its place. -/
structure Entry extends Identity where
  entity : Entity
  kind : Kind
  cause : String
  changed : List (Column × Value)
  missingHistory : Bool
  recordedAt : ℚ
  deriving DecidableEq

def orNone (text : String) : Option String := if text = "" then none else some text

def identity (entity : Entity) (values : Column → Value) : Identity where
  taskId := (values (if entity = .wake then "parent_task_id" else "task_id")).str
  epoch := if entity = .wake then none else (values "epoch").int
  entityId := orNone (":".intercalate
    ((entity.keyColumns.filter fun c => c ∉ ["task_id", "epoch"]).map fun c => (values c).str))

def historyVersion : ℤ := 1

inductive Fault where
  | contract (version : ℤ)
  | database (message : String)
  | raised (message : String)
  deriving DecidableEq

/-- The projections, the version in `evidence_contract`, and `task_history` once it is created. -/
structure Store where
  rows : Rows
  contract : Option ℤ
  history : Option (List Entry)

/-- `changed_columns`. `updated_at` is derived. -/
def changedColumns (entity : Entity) (before : Option (Column → Value)) (after : Column → Value) :
    List (Column × Value) :=
  sparse (entity.columns.filter (· ≠ "updated_at")) before after

/-- The bytes of a wake are written once, and its row is their home. -/
def popPayload (entity : Entity) (changed : List (Column × Value)) : List (Column × Value) :=
  if entity = .wake then changed.filter fun p => p.1 ≠ "payload" else changed

def recordChange (entry : Entry) (s : Store) : Except Fault Store :=
  if entry.changed = [] then .ok s
  else
    match s.history with
    | none => .error (.database "no such table: task_history")
    | some entries => .ok { s with history := some (entries ++ [entry]) }

/-- What an `INSERT` or `UPDATE` writes to the row under its key, if it writes it. -/
abbrev Statement := Rows → Except Fault (Option (Column → Value))

def Statement.exec (statement : Statement) (key : Key) (s : Store) : Except Fault Store := do
  match ← statement s.rows with
  | none => return s
  | some rest => return { s with rows := s.rows.put ⟨key, rest⟩ }

def changeEntry (before : Option Row) (after : Row) (cause : String) (observation : Bool)
    (now : ℚ) : Entry where
  toIdentity := identity after.key.entity after.column
  entity := after.key.entity
  kind := if before.isNone then .created else if observation then .observation else .transition
  cause := cause
  changed := popPayload after.key.entity
    (changedColumns after.key.entity (before.map Row.column) after.column)
  missingHistory := false
  recordedAt := now

/-- `change`, around the statement of its body. What raises is rolled back to the savepoint. -/
def change (key : Key) (cause : String) (observation : Bool) (now : ℚ) (body : Statement)
    (s : Store) : Except Fault Store := do
  let before := s.rows.get key
  let s ← body.exec key s
  match s.rows.get key with
  | none => return s
  | some after => recordChange (changeEntry before after cause observation now) s

def baselineEntry (now : ℚ) (row : Row) : Entry where
  toIdentity := identity row.key.entity row.column
  entity := row.key.entity
  kind := .baseline
  cause := "observed-baseline"
  changed := popPayload row.key.entity (row.key.entity.columns.map fun c => (c, row.column c))
  missingHistory := true
  recordedAt := now

def Store.allRows (s : Store) : List Row :=
  Entity.all.flatMap fun entity => s.rows.rows.filter fun row => row.key.entity = entity

def recordBaselines (now : ℚ) (s : Store) : Except Fault Store :=
  s.allRows.foldlM (fun s row => recordChange (baselineEntry now row) s) s

def ensureSchema (now : ℚ) (s : Store) : Except Fault Store :=
  match s.contract with
  | some version => if version = historyVersion then .ok s else .error (.contract version)
  | none =>
    match s.history with
    | some _ => .error (.database "table task_history already exists")
    | none => do
      let s ← recordBaselines now { s with history := some [] }
      return { s with contract := some historyVersion }

/-! ### The statements outside every `change` -/

def Value.plus : Value → ℚ → Value
  | .number value, more => .number (value + more)
  | other, _ => other

def Value.atLeast : Value → ℚ → Value
  | .number value, other => .number (max value other)
  | other, _ => other

def Value.coalesce : Value → Value → Value
  | .null, other => other
  | value, _ => value

inductive Unrecorded where
  /-- `wakes.finish_with_wake` -/
  | countChildEvent (parentTaskId : String)
  /-- `wakes.record_liveness_wakes` -/
  | countLivenessWake (childTaskId : String) (moment : ℚ)
  /-- `WakeDelivery._persist_payload` -/
  | persistPayload (wakeId claimToken selected : String) (now : ℚ)
  /-- `WakeDelivery._settle` -/
  | advanceWatermark (parentTaskId : String) (eventSeq : ℤ) (now : ℚ)
  /-- `DurableExecutionReconciler._record_loss` -/
  | noteLossEvidence (taskId payload : String)
  /-- `DurableExecutionReconciler._record_loss` -/
  | endLostEffect (taskId : String) (epoch : ℤ) (reason : String) (now : ℚ)

def Unrecorded.key : Unrecorded → Key
  | .countChildEvent taskId | .countLivenessWake taskId _ | .advanceWatermark taskId _ _
  | .noteLossEvidence taskId _ => .task taskId
  | .persistPayload wakeId _ _ _ => .wake wakeId
  | .endLostEffect taskId epoch _ _ => .effect taskId epoch

def Unrecorded.guard (row : Row) : Unrecorded → Bool
  | .persistPayload _ claimToken _ _ =>
    row.column "state" = .text "claimed" ∧ row.column "claim_token" = .text claimToken
  | .noteLossEvidence _ _ =>
    row.column "state" ∈ ["active", "blocked", "replacing", "reserved"].map Value.text
  | .endLostEffect _ _ _ _ => row.column "state" ∈ ["reserved", "launched"].map Value.text
  | _ => true

def Unrecorded.assign (row : Row) : Unrecorded → List (Column × Value)
  | .countChildEvent _ => [("child_event_seq", (row.column "child_event_seq").plus 1)]
  | .countLivenessWake _ moment =>
    [("liveness_wakes", (row.column "liveness_wakes").plus 1), ("liveness_since", .number moment)]
  | .persistPayload _ _ selected now =>
    [("payload", (row.column "payload").coalesce (.text selected)), ("updated_at", .number now)]
  | .advanceWatermark _ eventSeq now =>
    [("last_woken_seq", (row.column "last_woken_seq").atLeast eventSeq),
      ("updated_at", .number now)]
  | .noteLossEvidence _ payload => [("liveness_evidence", .text payload)]
  | .endLostEffect _ _ reason now =>
    [("state", .text "terminal"), ("outcome", .text reason), ("updated_at", .number now)]

def Unrecorded.exec (write : Unrecorded) : Statement := fun rows =>
  match rows.get write.key with
  | none => .ok none
  | some row =>
    if write.guard row then
      .ok (some fun c => ((write.assign row).lookup c).getD (row.rest c))
    else .ok none

/-! ### Runs -/

inductive Write where
  | recorded (key : Key) (cause : String) (observation : Bool) (now : ℚ) (body : Statement)
  | unrecorded (write : Unrecorded)

def Write.exec (s : Store) : Write → Except Fault Store
  | .recorded key cause observation now body => change key cause observation now body s
  | .unrecorded write => write.exec.exec write.key s

/-- One commit: the schema step of a store being opened, or a transaction of the kernel. -/
inductive Op where
  | openStore (now : ℚ)
  | transaction (writes : List Write)

def Op.body (s : Store) : Op → Except Fault Store
  | .openStore now => ensureSchema now s
  | .transaction writes => writes.foldlM Write.exec s

/-- What raises rolls its transaction back. -/
def Op.exec (s : Store) (op : Op) : Store :=
  match op.body s with
  | .ok s' => s'
  | .error _ => s

def Store.unversioned (rows : Rows) : Store where
  rows := rows
  contract := none
  history := none

/-! ### Reading it back -/

/-- Is the entry one of the row under the key? The task an entry of a wake names is its parent. -/
def Entry.about (entry : Entry) : Key → Bool
  | .task taskId => entry.entity = .task ∧ entry.taskId = taskId
  | .effect taskId epoch =>
    entry.entity = .effect ∧ entry.taskId = taskId ∧ entry.epoch = some epoch
  | .wake wakeId => entry.entity = .wake ∧ entry.entityId = orNone wakeId
  | .outgoingCommand taskId epoch dedupeKey =>
    entry.entity = .outgoingCommand ∧ entry.taskId = taskId ∧ entry.epoch = some epoch ∧
      entry.entityId = orNone dedupeKey
  | .cleanupIntent taskId epoch kind nativeId =>
    entry.entity = .cleanupIntent ∧ entry.taskId = taskId ∧ entry.epoch = some epoch ∧
      entry.entityId = some (kind.column ++ ":" ++ nativeId)

def entriesOf (key : Key) (entries : List Entry) : List Entry := entries.filter (·.about key)

def replay (entries : List Entry) (key : Key) (c : Column) : Option Value :=
  replayed ((entriesOf key entries).map Entry.changed) c

end SightMesh.History
