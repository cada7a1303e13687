import Mathlib.Data.Multiset.Basic
import SightMesh.Database.Transaction
import SightMesh.Kernel.History
import SightMesh.Python.Text

/-! `failure_accounting.reset_budget` and what it uses of `history`: one transaction, of which any
statement may fail. What SQLite keeps for itself (automatic indexes, `sqlite_sequence`) is left
out. -/
namespace SightMesh.Accounting

open Database Python

/-! ### The database -/

inductive SqlValue where
  | null
  | integer (n : ℤ)
  | real (q : ℚ)
  | text (s : String)
  | blob (bytes : List UInt8)
  deriving DecidableEq

abbrev SqlRow := List (String × SqlValue)

/-- A row of `sqlite_master`. -/
structure SchemaObject where
  kind : String
  name : String
  tblName : String
  sql : String
  deriving DecidableEq

/-- A row of `managed_tasks`: the columns the reset looks at, and the others. SQLite lets the text
of a primary key be null. -/
structure BudgetRow where
  taskId : Option String
  epoch : ℤ
  attempts : ℤ
  version : ℤ
  columns : SqlRow
  distinct : (["task_id", "epoch", "attempts", "version"] ++ columns.map Prod.fst).Nodup := by
    decide
  deriving DecidableEq

/-- The entities whose rows the history preserves. -/
inductive Entity where
  | task | effect | wake | outgoingCommand | cleanupIntent
  deriving DecidableEq

/-- A row of `task_history`; its `seq` is its place. -/
structure HistoryRow where
  entity : Entity
  taskId : String
  epoch : Option ℤ
  entityId : Option String
  kind : HistoryKind
  cause : String
  changed : SqlRow
  missingHistory : Bool
  recordedAt : ℚ
  deriving DecidableEq

structure TaskDatabase where
  master : List SchemaObject
  userVersion : ℤ := 0
  applicationId : ℤ := 0
  tasks : List BudgetRow := []
  contract : List (String × ℤ) := []
  history : List HistoryRow := []
  tables : List (String × List SqlRow) := []
  /-- The primary key of `managed_tasks`. -/
  keyed : (tasks.filterMap BudgetRow.taskId).Nodup := by decide
  deriving DecidableEq

/-- Names are one to SQLite up to the case of their ASCII letters. -/
def sameName (a b : String) : Bool := a.toList.map Char.toLower = b.toList.map Char.toLower

/-- `SELECT 1 FROM sqlite_master WHERE type='table' AND name=?`, where the case matters. -/
def TaskDatabase.hasTable (db : TaskDatabase) (name : String) : Bool :=
  db.master.any fun object => object.kind = "table" && object.name = name

/-- Does a statement that names the table find one? -/
def TaskDatabase.findsTable (db : TaskDatabase) (name : String) : Bool :=
  db.master.any fun object => object.kind = "table" && sameName object.name name

def TaskDatabase.hasName (db : TaskDatabase) (name : String) : Bool :=
  db.master.any fun object => sameName object.name name

def TaskDatabase.contractRows (db : TaskDatabase) : List (String × ℤ) :=
  if db.findsTable "evidence_contract" then db.contract else []

def TaskDatabase.historyRows (db : TaskDatabase) : List HistoryRow :=
  if db.findsTable "task_history" then db.history else []

/-- What the fingerprint covers: the schema, two numbers, and the rows of each table in no order. -/
structure Contents where
  master : Multiset SchemaObject
  userVersion : ℤ
  applicationId : ℤ
  tasks : Multiset BudgetRow
  contract : Multiset (String × ℤ)
  history : Multiset HistoryRow
  tables : Multiset (String × Multiset SqlRow)
  deriving DecidableEq

def TaskDatabase.contents (db : TaskDatabase) : Contents where
  master := db.master
  userVersion := db.userVersion
  applicationId := db.applicationId
  tasks := db.tasks
  contract := db.contractRows
  history := db.historyRows
  tables := db.tables.map fun (name, rows) => (name, (rows : Multiset SqlRow))

/-! ### Statements -/

inductive ResetFault where
  /-- A statement failed. -/
  | sqlite
  /-- `AccountingContractError`. -/
  | accounting (message : String)
  /-- `HistoryContractError`. -/
  | historyContract (version : ℤ)
  /-- A row that has no JSON, or lacks a column. -/
  | unencodable
  deriving DecidableEq

/-- What the world decides of a call: which statement fails, and the time at each. -/
structure World where
  fails : ℕ → Bool := fun _ => false
  clock : ℕ → ℚ := fun _ => 0

/-- Beside the database, how many statements have run. -/
abbrev Sql := StateT (TaskDatabase × ℕ) (Except ResetFault)

variable (world : World)

def statement {α : Type} (act : TaskDatabase → Except ResetFault (α × TaskDatabase)) : Sql α :=
  fun (db, k) =>
    if world.fails k then .error .sqlite
    else
      match act db with
      | .ok (a, db') => .ok (a, (db', k + 1))
      | .error fault => .error fault

def select {α : Type} (query : TaskDatabase → α) : Sql α :=
  statement world fun db => .ok (query db, db)

def execute (change : TaskDatabase → Except ResetFault TaskDatabase) : Sql Unit :=
  statement world fun db => (change db).map fun db' => ((), db')

/-- `BEGIN IMMEDIATE`, `SAVEPOINT`, `RELEASE`, `COMMIT`. -/
def bracket : Sql Unit := execute world .ok

def now : Sql ℚ := fun s => .ok (world.clock s.2, s)

def TaskDatabase.create (object : SchemaObject) (db : TaskDatabase) :
    Except ResetFault TaskDatabase :=
  if db.hasName object.name then .error .sqlite
  else .ok { db with master := db.master ++ [object] }

/-! ### `history` -/

/-- What of Python's library an identity is made with: the texts of a `float` and of `bytes`, and
`int` of a text and of bytes where it does not raise. -/
structure SqlLibrary where
  reprFloat : ℚ → String
  reprBytes : List UInt8 → String
  intOfText : String → Option ℤ
  intOfBytes : List UInt8 → Option ℤ

variable (lib : SqlLibrary)

def SqlLibrary.str : SqlValue → String
  | .null => "None"
  | .integer n => toString n
  | .real q => lib.reprFloat q
  | .text s => s
  | .blob bytes => lib.reprBytes bytes

/-- `int(epoch) if epoch is not None else None`. -/
def SqlLibrary.epoch : SqlValue → Option (Option ℤ)
  | .null => some none
  | .integer n => some (some n)
  | .real q => some (some (q.num.tdiv q.den))
  | .text s => (lib.intOfText s).map some
  | .blob bytes => (lib.intOfBytes bytes).map some

def Entity.table : Entity → String
  | .task => "managed_tasks"
  | .effect => "task_effects"
  | .wake => "task_wakes"
  | .outgoingCommand => "task_outgoing_commands"
  | .cleanupIntent => "task_cleanup_intents"

def Entity.key : Entity → List String
  | .task => ["task_id"]
  | .effect => ["task_id", "epoch"]
  | .wake => ["wake_id"]
  | .outgoingCommand => ["task_id", "epoch", "dedupe_key"]
  | .cleanupIntent => ["task_id", "epoch", "kind", "native_id"]

def projections : List Entity := [.task, .effect, .wake, .outgoingCommand, .cleanupIntent]

def BudgetRow.toSql (row : BudgetRow) : SqlRow :=
  [("task_id", row.taskId.elim .null .text), ("epoch", .integer row.epoch),
    ("attempts", .integer row.attempts), ("version", .integer row.version)] ++ row.columns

def TaskDatabase.rows (db : TaskDatabase) : Entity → List SqlRow
  | .task => db.tasks.map BudgetRow.toSql
  | entity => (db.tables.lookup entity.table).getD []

structure Identity where
  taskId : String
  epoch : Option ℤ
  entityId : Option String

/-- `_identity`, with the conversions of `record_change`; nothing where one of them raises. -/
def identity (entity : Entity) (values : SqlRow) : Option Identity := do
  let owner ← values.lookup (if entity = .wake then "parent_task_id" else "task_id")
  let epoch ←
    if entity = .wake then some none else (values.lookup "epoch").bind lib.epoch
  let parts ← (entity.key.filter (· ∉ ["task_id", "epoch"])).mapM fun column => values.lookup column
  let entityId := ":".intercalate (parts.map lib.str)
  some ⟨lib.str owner, epoch, if entityId = "" then none else some entityId⟩

def changedColumns (before : Option SqlRow) (after : SqlRow) : SqlRow :=
  after.filter fun (column, value) =>
    column ≠ "updated_at" && (before.getD []).lookup column ≠ some value

/-- `json.dumps` takes every value of the row. -/
def encodable (row : SqlRow) : Bool :=
  row.all fun field =>
    match field.2 with
    | .blob _ => false
    | _ => true

/-- The row of an entry; nothing where making it raises. -/
def entry (entity : Entity) (values changed : SqlRow) (kind : HistoryKind) (cause : String)
    (missingHistory : Bool) (time : ℚ) : Option HistoryRow :=
  (identity lib entity values).bind fun identity =>
    if encodable changed then
      some
        { entity := entity
          taskId := identity.taskId
          epoch := identity.epoch
          entityId := identity.entityId
          kind := kind
          cause := cause
          changed := changed
          missingHistory := missingHistory
          recordedAt := time }
    else none

def TaskDatabase.append (row : HistoryRow) (db : TaskDatabase) : Except ResetFault TaskDatabase :=
  if db.findsTable "task_history" then .ok { db with history := db.history ++ [row] }
  else .error .sqlite

def recordChange : Option HistoryRow → Sql Unit
  | none => throw .unencodable
  | some row => if row.changed.isEmpty then pure () else execute world (·.append row)

def contractTable : SchemaObject where
  kind := "table"
  name := "evidence_contract"
  tblName := "evidence_contract"
  sql := "CREATE TABLE evidence_contract (
        component TEXT PRIMARY KEY,
        version INTEGER NOT NULL CHECK (version > 0)
    )"

def historyTable : SchemaObject where
  kind := "table"
  name := "task_history"
  tblName := "task_history"
  sql := "CREATE TABLE task_history (
        seq INTEGER PRIMARY KEY AUTOINCREMENT,
        entity TEXT NOT NULL CHECK (entity IN ('task', 'effect', 'wake', 'outgoing_command', 'cleanup_intent')),
        task_id TEXT NOT NULL,
        epoch INTEGER,
        entity_id TEXT,
        kind TEXT NOT NULL CHECK (kind IN ('created', 'transition', 'observation', 'baseline')),
        cause TEXT NOT NULL,
        changed TEXT NOT NULL,
        missing_history INTEGER NOT NULL DEFAULT 0
            CHECK (missing_history IN (0, 1)),
        recorded_at REAL NOT NULL
    )"

def historyIndex : SchemaObject where
  kind := "index"
  name := "idx_task_history_task"
  tblName := "task_history"
  sql := "CREATE INDEX idx_task_history_task ON task_history(task_id, seq)"

/-- `CONTRACT_DDL`: `CREATE TABLE IF NOT EXISTS`. -/
def TaskDatabase.createContract (db : TaskDatabase) : Except ResetFault TaskDatabase :=
  if db.findsTable "evidence_contract" then .ok db
  else (db.create contractTable).map ({ · with contract := [] })

def TaskDatabase.createHistory (db : TaskDatabase) : Except ResetFault TaskDatabase :=
  (db.create historyTable).map ({ · with history := [] })

def TaskDatabase.insertContract (component : String) (db : TaskDatabase) :
    Except ResetFault TaskDatabase :=
  if db.findsTable "evidence_contract" ∧ db.contract.lookup component = none then
    .ok { db with contract := db.contract ++ [(component, 1)] }
  else .error .sqlite

def baselineEntry (entity : Entity) (row : SqlRow) (time : ℚ) : Option HistoryRow :=
  let values := if entity = .wake then row.filter (·.1 ≠ "payload") else row
  entry lib entity values values .baseline "observed-baseline" true time

def recordBaselinesOf (time : ℚ) (entity : Entity) : Sql Unit := do
  if ← select world (·.hasTable entity.table) then
    let rows ← select world (·.rows entity)
    rows.forM fun row => recordChange world (baselineEntry lib entity row time)

def recordBaselines : Sql Unit := do
  let time ← now world
  projections.forM (recordBaselinesOf world lib time)

def beginHistory : Sql Unit := do
  execute world TaskDatabase.createHistory
  execute world (·.create historyIndex)
  recordBaselines world lib
  execute world (·.insertContract "task_history")

def ensureSchema : Sql Unit := do
  execute world TaskDatabase.createContract
  match ← select world (·.contract.lookup "task_history") with
  | some version => if version ≠ 1 then throw (.historyContract version) else pure ()
  | none => beginHistory world lib

/-! ### `failure_accounting` -/

def supported : Option ℤ → Sql (Option ℤ)
  | none => pure none
  | some version =>
    if version ≠ 1 then throw (.accounting "Unsupported failure accounting contract")
    else pure (some version)

def version : Sql (Option ℤ) := do
  if ← select world (·.hasTable "evidence_contract") then
    supported (← select world (·.contract.lookup "failure_accounting"))
  else pure none

variable {δ : Type} [DecidableEq δ] (digest : Contents → δ)

/-- The comparison with `fingerprint`, whose queries count as one. -/
def requireSnapshot (expected : δ) : Sql Unit := do
  let found ← select world fun db => digest db.contents
  if found ≠ expected then throw (.accounting "Database changed since approved snapshot")

def managedTasksDdl : String := "
    CREATE TABLE managed_tasks (
        task_id TEXT PRIMARY KEY,
        scope TEXT NOT NULL,
        task_key TEXT NOT NULL,
        parent_task_id TEXT,
        state TEXT NOT NULL CHECK (state IN
            ('reserved', 'active', 'replacing', 'blocked',
             'completed', 'cancelled', 'lost', 'exhausted')),
        epoch INTEGER NOT NULL CHECK (epoch > 0),
        attempts INTEGER NOT NULL CHECK (attempts >= 0),
        max_attempts INTEGER NOT NULL CHECK (max_attempts > 0),
        child_limit INTEGER NOT NULL CHECK (child_limit >= 0),
        spec_json TEXT NOT NULL,
        workspace_id TEXT,
        holder_session_id TEXT,
        checkpoint TEXT,
        result TEXT,
        version INTEGER NOT NULL DEFAULT 0,
        child_event_seq INTEGER NOT NULL DEFAULT 0,
        last_woken_seq INTEGER NOT NULL DEFAULT 0,
        liveness TEXT NOT NULL DEFAULT 'live' CHECK (liveness IN
            ('live', 'parked', 'idle_unreported', 'limbo', 'stalled')),
        liveness_episode INTEGER NOT NULL DEFAULT 0,
        liveness_since REAL,
        liveness_wakes INTEGER NOT NULL DEFAULT 0,
        liveness_evidence TEXT,
        over_budget INTEGER NOT NULL DEFAULT 0 CHECK (over_budget IN (0, 1)),
        checkpoint_at REAL,
        created_at REAL NOT NULL,
        updated_at REAL NOT NULL,
        UNIQUE(scope, task_key),
        CHECK (parent_task_id IS NULL OR parent_task_id != task_id),
        FOREIGN KEY(parent_task_id) REFERENCES managed_tasks(task_id)
    )
"

def unquoted (sql : String) : List Char :=
  replaceAll "\"managed_tasks\"".toList "managed_tasks".toList sql.toList

def TaskDatabase.taskSchema (db : TaskDatabase) : Option String :=
  if db.master.any (·.kind = "trigger") then none
  else
    (db.master.find? fun object => object.kind = "table" && object.name = "managed_tasks").map
      SchemaObject.sql

def TaskDatabase.isCurrent (db : TaskDatabase) : Bool :=
  db.taskSchema.any fun sql => words (unquoted sql) = words managedTasksDdl.toList

def requireSchema : Sql Unit := do
  let current ← select world TaskDatabase.isCurrent
  if ¬ current then throw (.accounting "Budget reset requires the current task schema")

/-- `task_id=?`; nothing equals a null. -/
def BudgetRow.is (key : Option String) (row : BudgetRow) : Bool :=
  key.isSome && row.taskId = key

def BudgetRow.reset (row : BudgetRow) : BudgetRow :=
  { row with attempts := 0, version := row.version + 1 }

@[simp] theorem BudgetRow.taskId_reset (row : BudgetRow) : row.reset.taskId = row.taskId := rfl

theorem filterMap_taskId_reset (tasks : List BudgetRow) (p : BudgetRow → Bool) :
    (tasks.map fun row => if p row then row.reset else row).filterMap BudgetRow.taskId =
      tasks.filterMap BudgetRow.taskId := by
  rw [List.filterMap_map]
  apply List.filterMap_congr
  intro row _
  rw [Function.comp_apply]
  split <;> rfl

def TaskDatabase.resetTask (key : Option String) (db : TaskDatabase) : TaskDatabase :=
  { db with
    tasks := db.tasks.map fun row => if row.is key then row.reset else row
    keyed := by
      rw [filterMap_taskId_reset]
      exact db.keyed }

def TaskDatabase.task (key : Option String) (db : TaskDatabase) : Option BudgetRow :=
  db.tasks.find? (BudgetRow.is key)

def resetEntry (before : Option BudgetRow) (after : BudgetRow) (time : ℚ) : Option HistoryRow :=
  entry lib .task after.toSql (changedColumns (before.map BudgetRow.toSql) after.toSql)
    (if before.isNone then .created else .transition) "failure-budget-reset" false time

/-- What `history.change` does once its block is left. -/
def recordReset (before : Option BudgetRow) : Option BudgetRow → Sql Unit
  | none => pure ()
  | some after => do recordChange world (resetEntry lib before after (← now world))

def resetOne (hasHistory : Bool) (key : Option String) : Sql Unit :=
  if hasHistory then do
    bracket world
    let before ← select world (·.task key)
    execute world fun db => .ok (db.resetTask key)
    let after ← select world (·.task key)
    recordReset world lib before after
    bracket world
  else execute world fun db => .ok (db.resetTask key)

def cutOver (expected : δ) : Sql Unit := do
  requireSnapshot world digest expected
  requireSchema world
  let tasks ← select world (·.tasks.map BudgetRow.taskId)
  let hasHistory ← select world (·.hasTable "task_history")
  tasks.forM (resetOne world lib hasHistory)
  ensureSchema world lib
  execute world (·.insertContract "failure_accounting")

def resetBody (expected : δ) : Sql Bool := do
  bracket world
  let changed := (← version world).isNone
  if changed then cutOver world lib digest expected
  bracket world
  pure changed

def resetBudget (expected : δ) (db : TaskDatabase) : Except ResetFault Bool × TaskDatabase :=
  match resetBody world lib digest expected (db, 0) with
  | .ok (changed, (db', _)) => (.ok changed, db')
  | .error fault => (.error fault, db)

end SightMesh.Accounting
