import SightMesh.Kernel.Batches

/-! `history.change`: the append-only table beside the rows, for the writes of a start batch. -/
namespace SightMesh

open Database

inductive HistoryKind where
  | created | transition | observation | baseline
  deriving DecidableEq

/-- The row a write leaves beside the one it found. `changed_columns` is a function of the two, kept
undigested. -/
inductive Changed where
  | task (before : Option TaskRow) (after : TaskRow)
  | effect (before : Option Effect) (after : Effect)
  | wake (before : Option Wake) (after : Wake)
  | outgoingCommand (before : Option OutgoingCommand) (after : OutgoingCommand)
  | cleanupIntent (before : Option CleanupIntent) (after : CleanupIntent)
  deriving DecidableEq

/-- A row of `task_history`; its `seq` is its place. -/
structure HistoryEntry where
  taskId : TaskId
  epoch : Option ℕ
  kind : HistoryKind
  cause : String
  changed : Changed
  missingHistory : Bool
  recordedAt : Time
  deriving DecidableEq

/-- The tables of the scheduler, and their history. -/
structure Chronicle where
  db : Store
  history : List HistoryEntry

abbrev RecordedTxn := StateT Chronicle (Except KernelError)

variable {α β : Type}

def atomicallyRecorded (body : RecordedTxn α) (s : Chronicle) : Chronicle × Except KernelError α :=
  match body s with
  | .ok (a, s') => (s', .ok a)
  | .error e => (s, .error e)

def unrecorded (body : Txn α) : RecordedTxn α := fun s =>
  match body s.db with
  | .ok (a, db) => .ok (a, { s with db := db })
  | .error e => .error e

def wrappingRecorded (prefixed : String) (body : RecordedTxn α) : RecordedTxn α := fun s =>
  match body s with
  | .error (.integrity m) => .error (.taskStore (prefixed ++ m))
  | .error (.database m) => .error (.taskStore (prefixed ++ m))
  | r => r

theorem wrappingRecorded_ok {prefixed : String} {body : RecordedTxn α} {s : Chronicle}
    {p : α × Chronicle} (ran : body s = .ok p) : wrappingRecorded prefixed body s = .ok p := by
  rw [wrappingRecorded, ran]

def TaskRow.sameColumns (before after : TaskRow) : Bool :=
  { before with updatedAt := after.updatedAt } = after

/-- The entry of one write of a task row; a write that moves no column has none. -/
def taskChange (before : Option TaskRow) (after : TaskRow) (cause : String) (kind : HistoryKind)
    (recordedAt : Time) : List HistoryEntry :=
  if before.any fun row => row.sameColumns after then []
  else [{
    taskId := after.taskId
    epoch := some after.epoch
    kind := if before.isNone then .created else kind
    cause := cause
    changed := .task before after
    missingHistory := false
    recordedAt := recordedAt }]

/-- `history.change` around one write of a task row. -/
def change (taskId : TaskId) (cause : String) (kind : HistoryKind) (recordedAt : Time)
    (write : Txn Unit) : RecordedTxn (Option TaskRow) := do
  let before := (← get).db.task taskId
  unrecorded write
  match (← get).db.task taskId with
  | none => return none
  | some after =>
    modify fun s =>
      { s with history := s.history ++ taskChange before after cause kind recordedAt }
    return some after

def insertTask (row : TaskRow) : Txn Unit := do
  if ((← get).task row.taskId).isSome then
    throw (.integrity "UNIQUE constraint failed: managed_tasks.task_id")
  modify fun db => db.putTask row

def reserveOneRecorded (scope : String) (parentTaskId : Option TaskId) (maxAttempts : ℕ)
    (now : Time) (recordedAt : TaskId → Time) (spec : TaskSpec) :
    RecordedTxn (TaskRecord × Bool) := do
  match (← get).db.findByKey scope spec.key with
  | some row =>
    if row.spec ≠ spec then
      throw (.taskStore ("Task '" ++ spec.key ++ "' already exists with a different specification"))
    return (row.toTaskRecord, false)
  | none =>
    let row := TaskRow.reserved scope parentTaskId maxAttempts spec now
    let after ← change row.taskId "reserved" .transition (recordedAt row.taskId) (insertTask row)
    return ((after.getD row).toTaskRecord, true)

def reserveAllRecorded (scope : String) (parentTaskId : Option TaskId) (specs : List TaskSpec)
    (maxAttempts : ℕ) (now : Time) (recordedAt : TaskId → Time) :
    RecordedTxn (List (TaskRecord × Bool)) :=
  if specs.isEmpty then return []
  else wrappingRecorded "Cannot reserve managed tasks: " do
    if ¬ (specs.map fun spec => spec.key).Nodup then
      throw (.taskStore "A start batch cannot contain duplicate task keys")
    unrecorded (checkChildLimit scope parentTaskId specs)
    specs.mapM (reserveOneRecorded scope parentTaskId maxAttempts now recordedAt)

/-! ### The history changes no answer -/

/-- The body with its history does to the rows what the plain one does. -/
def Records (body : RecordedTxn α) (plain : Txn α) : Prop :=
  ∀ s, (body s).map (fun p => (p.1, p.2.db)) = plain s.db

theorem Records.pure (a : α) : Records (pure a) (pure a) := fun _ => rfl

theorem Records.throw (e : KernelError) :
    Records (throw e : RecordedTxn α) (throw e : Txn α) := fun _ => rfl

theorem Records.bind {body : RecordedTxn α} {plain : Txn α} {f : α → RecordedTxn β}
    {g : α → Txn β} (first : Records body plain) (rest : ∀ a, Records (f a) (g a)) :
    Records (body >>= f) (plain >>= g) := by
  intro s
  have here := first s
  cases ran : body s with
  | error e =>
    rw [ran] at here
    rw [bind_raised ran, bind_raised here.symm]
    rfl
  | ok p =>
    obtain ⟨a, s'⟩ := p
    rw [ran] at here
    rw [bind_after ran, bind_after here.symm]
    exact rest a s'

theorem Records.mapM {f : α → RecordedTxn β} {g : α → Txn β} (round : ∀ x, Records (f x) (g x))
    (xs : List α) : Records (xs.mapM f) (xs.mapM g) := by
  induction xs with
  | nil => exact Records.pure _
  | cons x xs ih =>
    rw [List.mapM_cons, List.mapM_cons]
    exact (round x).bind fun _ => ih.bind fun _ => Records.pure _

theorem Records.unrecorded (body : Txn α) : Records (unrecorded body) body := by
  intro s
  unfold SightMesh.unrecorded
  cases body s.db with
  | error e => rfl
  | ok p => rfl

theorem Records.wrapping {body : RecordedTxn α} {plain : Txn α} (h : Records body plain)
    (prefixed : String) : Records (wrappingRecorded prefixed body) (wrapping prefixed plain) := by
  intro s
  have here := h s
  unfold wrappingRecorded SightMesh.wrapping
  rw [← here]
  cases body s with
  | ok p => rfl
  | error e => cases e <;> rfl

theorem Records.atomically {body : RecordedTxn α} {plain : Txn α} (h : Records body plain)
    (s : Chronicle) :
    ((atomicallyRecorded body s).1.db, (atomicallyRecorded body s).2) =
      SightMesh.atomically plain s.db := by
  have here := h s
  unfold atomicallyRecorded SightMesh.atomically
  rw [← here]
  cases body s with
  | ok p => rfl
  | error e => rfl

theorem change_insert {row : TaskRow} {s : Chronicle} (vacant : s.db.task row.taskId = none)
    (cause : String) (kind : HistoryKind) (recordedAt : Time) :
    change row.taskId cause kind recordedAt (insertTask row) s = .ok (some row,
      { db := s.db.putTask row
        history := s.history ++ taskChange none row cause kind recordedAt }) := by
  have inserted : unrecorded (insertTask row) s = .ok ((), { s with db := s.db.putTask row }) := by
    simp [unrecorded, insertTask, vacant]
  rw [change, get_bind_run, bind_after inserted, get_bind_run]
  simp [Store.task_putTask_self, vacant]

theorem change_taken {row : TaskRow} {s : Chronicle} (taken : (s.db.task row.taskId).isSome)
    (cause : String) (kind : HistoryKind) (recordedAt : Time) :
    change row.taskId cause kind recordedAt (insertTask row) s =
      .error (.integrity "UNIQUE constraint failed: managed_tasks.task_id") := by
  have refused : unrecorded (insertTask row) s =
      .error (.integrity "UNIQUE constraint failed: managed_tasks.task_id") := by
    simp [unrecorded, insertTask, taken]
  rw [change, get_bind_run, bind_raised refused]

variable {scope : String} {parentTaskId : Option TaskId} {maxAttempts : ℕ} {now : Time}
  {recordedAt : TaskId → Time} {specs : List TaskSpec}

theorem reserveOne_records (spec : TaskSpec) :
    Records (reserveOneRecorded scope parentTaskId maxAttempts now recordedAt spec)
      (reserveOne scope parentTaskId maxAttempts now spec) := by
  intro s
  simp only [reserveOneRecorded, reserveOne, get_bind_run]
  cases s.db.findByKey scope spec.key with
  | some row => by_cases same : row.spec = spec <;> simp [same, Except.map]
  | none =>
    cases taken : (s.db.task (TaskRow.reserved scope parentTaskId maxAttempts spec now).taskId) with
    | some other =>
      simp only [taken, get_bind_run]
      rw [bind_raised (change_taken (by rw [taken]; rfl) ..)]
      rfl
    | none =>
      simp only [taken, get_bind_run]
      rw [bind_after (change_insert taken ..)]
      rfl

theorem reserveAll_records (scope : String) (parentTaskId : Option TaskId) (specs : List TaskSpec)
    (maxAttempts : ℕ) (now : Time) (recordedAt : TaskId → Time) :
    Records (reserveAllRecorded scope parentTaskId specs maxAttempts now recordedAt)
      (reserveAll scope parentTaskId specs maxAttempts now) := by
  unfold reserveAllRecorded reserveAll
  split
  · exact Records.pure _
  · apply Records.wrapping
    split
    · exact (Records.throw _).bind fun _ => (Records.unrecorded _).bind fun _ =>
        Records.mapM reserveOne_records _
    · exact (Records.unrecorded _).bind fun _ => Records.mapM reserveOne_records _

end SightMesh
