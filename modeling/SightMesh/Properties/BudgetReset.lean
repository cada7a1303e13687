import SightMesh.Accounting.Budget

/-! The reset of the failure budgets, over every database, every failing statement and every number
of calls. -/
namespace SightMesh.Accounting

open Database Python

/-! ### Rows -/

theorem eq_of_nodup_filterMap {α β : Type} {f : α → Option β} {xs : List α}
    (nodup : (xs.filterMap f).Nodup) {x y : α} (hx : x ∈ xs) (hy : y ∈ xs) {b : β}
    (fx : f x = some b) (fy : f y = some b) : x = y := by
  induction xs with
  | nil => exact nomatch hx
  | cons z zs ih =>
    have there {w : α} (hw : w ∈ zs) (fw : f w = some b) : b ∈ zs.filterMap f :=
      List.mem_filterMap.mpr ⟨w, hw, fw⟩
    rw [List.mem_cons] at hx hy
    rcases hx with rfl | hx <;> rcases hy with rfl | hy
    · rfl
    · rw [List.filterMap_cons_some fx, List.nodup_cons] at nodup
      exact absurd (there hy fy) nodup.1
    · rw [List.filterMap_cons_some fy, List.nodup_cons] at nodup
      exact absurd (there hx fx) nodup.1
    · apply ih _ hx hy
      rw [List.filterMap_cons] at nodup
      split at nodup
      · exact nodup
      · exact (List.nodup_cons.mp nodup).2

def BudgetRow.isAmong (keys : List (Option String)) (row : BudgetRow) : Bool :=
  row.taskId.isSome && keys.contains row.taskId

@[simp] theorem BudgetRow.isAmong_reset (keys : List (Option String)) (row : BudgetRow) :
    row.reset.isAmong keys = row.isAmong keys := rfl

theorem BudgetRow.isAmong_cons (key : Option String) (keys : List (Option String))
    (row : BudgetRow) : row.isAmong (key :: keys) = (row.is key || row.isAmong keys) := by
  rw [Bool.eq_iff_iff]
  simp only [BudgetRow.isAmong, BudgetRow.is, List.contains_cons, Bool.and_eq_true,
    Bool.or_eq_true, beq_iff_eq, decide_eq_true_eq]
  constructor
  · rintro ⟨named, rfl | listed⟩
    · exact .inl ⟨named, rfl⟩
    · exact .inr ⟨named, listed⟩
  · rintro (⟨named, rfl⟩ | ⟨named, listed⟩)
    · exact ⟨named, .inl rfl⟩
    · exact ⟨named, .inr listed⟩

theorem TaskDatabase.task_of_mem {db : TaskDatabase} {key : Option String} {row : BudgetRow}
    (listed : row ∈ db.tasks) (is : row.is key) : db.task key = some row := by
  simp only [BudgetRow.is, Bool.and_eq_true, decide_eq_true_eq] at is
  obtain ⟨id, rfl⟩ := Option.isSome_iff_exists.mp is.1
  cases found : db.task (some id) with
  | none =>
    have none_is := List.find?_eq_none.mp found row listed
    simp [BudgetRow.is, is.2] at none_is
  | some row' =>
    have is' := List.find?_some found
    simp only [BudgetRow.is, Bool.and_eq_true, decide_eq_true_eq] at is'
    rw [eq_of_nodup_filterMap db.keyed (List.mem_of_find?_eq_some found) listed is'.2 is.2]

theorem TaskDatabase.task_resetTask (db : TaskDatabase) (key : Option String) :
    (db.resetTask key).task key = (db.task key).map BudgetRow.reset := by
  simp only [TaskDatabase.task, TaskDatabase.resetTask, List.find?_map]
  have same : BudgetRow.is key ∘ (fun row => if row.is key then row.reset else row) =
      BudgetRow.is key := by
    funext row
    rw [Function.comp_apply]
    split <;> rfl
  rw [same]
  cases found : db.tasks.find? (BudgetRow.is key) with
  | none => rfl
  | some row => rw [Option.map_some, Option.map_some, if_pos (List.find?_some found)]

/-! ### Entries -/

def resetColumns (row : BudgetRow) : SqlRow :=
  (if row.attempts = 0 then [] else [("attempts", .integer 0)]) ++
    [("version", .integer (row.version + 1))]

def resetLine (lib : SqlLibrary) (row : BudgetRow) (time : ℚ) : HistoryRow where
  entity := .task
  taskId := lib.str (row.taskId.elim .null .text)
  epoch := some row.epoch
  entityId := none
  kind := .transition
  cause := "failure-budget-reset"
  changed := resetColumns row
  missingHistory := false
  recordedAt := time

def baselineLine (lib : SqlLibrary) (row : BudgetRow) (time : ℚ) : HistoryRow where
  entity := .task
  taskId := lib.str (row.taskId.elim .null .text)
  epoch := some row.epoch
  entityId := none
  kind := .baseline
  cause := "observed-baseline"
  changed := row.toSql
  missingHistory := true
  recordedAt := time

theorem BudgetRow.lookup_columns {row : BudgetRow} {column : String} {value : SqlValue}
    (listed : (column, value) ∈ row.columns) :
    (row.toSql.lookup column = some value) ∧ column ≠ "attempts" ∧ column ≠ "version" := by
  have distinct := row.distinct
  have named : column ∈ row.columns.map Prod.fst := List.mem_map_of_mem listed
  rw [List.nodup_append] at distinct
  have apart (fixed : String) (mem : fixed ∈ ["task_id", "epoch", "attempts", "version"]) :
      column ≠ fixed := (distinct.2.2 fixed mem column named).symm
  have rest : row.columns.lookup column = some value := by
    clear apart
    have nodup := distinct.2.1
    clear distinct
    generalize row.columns = columns at *
    induction columns with
    | nil => exact nomatch listed
    | cons field fields ih =>
      obtain ⟨column', value'⟩ := field
      rw [List.map_cons, List.nodup_cons] at nodup
      rcases List.mem_cons.mp listed with same | later
      · cases same
        simp
      · have among : column ∈ fields.map Prod.fst := List.mem_map_of_mem later
        have ne : column ≠ column' := by
          rintro rfl
          exact nodup.1 among
        rw [List.lookup_cons, beq_eq_false_iff_ne.mpr ne]
        exact ih later among nodup.2
  refine ⟨?_, apart _ (by simp), apart _ (by simp)⟩
  simp [BudgetRow.toSql, List.lookup_cons, beq_eq_false_iff_ne.mpr (apart _ _), rest]

theorem columns_unchanged (row : BudgetRow) :
    row.columns.filter (fun (column, value) =>
      column ≠ "updated_at" && row.toSql.lookup column ≠ some value) = [] := by
  rw [List.filter_eq_nil_iff]
  rintro ⟨column, value⟩ listed
  simp [(BudgetRow.lookup_columns listed).1]

theorem changedColumns_reset (row : BudgetRow) :
    changedColumns (some row.toSql) row.reset.toSql = resetColumns row := by
  have reset : row.reset.toSql =
      [("task_id", row.taskId.elim .null .text), ("epoch", .integer row.epoch),
        ("attempts", .integer 0), ("version", .integer (row.version + 1))] ++ row.columns := rfl
  have attempts : row.toSql.lookup "attempts" = some (.integer row.attempts) := rfl
  have version : row.toSql.lookup "version" = some (.integer row.version) := rfl
  have taskId : row.toSql.lookup "task_id" = some (row.taskId.elim .null .text) := rfl
  have epoch : row.toSql.lookup "epoch" = some (.integer row.epoch) := rfl
  rw [changedColumns, Option.getD_some, reset, List.filter_append, columns_unchanged,
    List.append_nil, resetColumns]
  by_cases zero : row.attempts = 0 <;>
    simp [attempts, version, taskId, epoch, zero, eq_comm]

theorem identity_toSql (lib : SqlLibrary) (row : BudgetRow) :
    identity lib .task row.toSql =
      some ⟨lib.str (row.taskId.elim .null .text), some row.epoch, none⟩ := by
  have taskId : row.toSql.lookup "task_id" = some (row.taskId.elim .null .text) := rfl
  have epoch : row.toSql.lookup "epoch" = some (.integer row.epoch) := rfl
  simp [identity, Entity.key, taskId, epoch, SqlLibrary.epoch]

theorem resetEntry_eq (lib : SqlLibrary) (row : BudgetRow) (time : ℚ) :
    resetEntry lib (some row) row.reset time = some (resetLine lib row time) := by
  have encodes : encodable (resetColumns row) = true := by
    rw [resetColumns]
    split <;> rfl
  rw [resetEntry, Option.map_some, changedColumns_reset, entry, identity_toSql, Option.bind_some,
    if_pos encodes]
  rfl

theorem baselineEntry_eq (lib : SqlLibrary) (row : BudgetRow) (time : ℚ) :
    baselineEntry lib .task row.toSql time =
      if encodable row.columns then some (baselineLine lib row time) else none := by
  have encodes : encodable row.toSql = encodable row.columns := by
    cases id : row.taskId <;> simp [BudgetRow.toSql, encodable, id]
  simp only [baselineEntry, reduceCtorEq, if_false, entry, identity_toSql, Option.bind_some, encodes]
  rfl

/-! ### Statements that ran -/

variable {world : World} {lib : SqlLibrary} {s s' : TaskDatabase × ℕ}

theorem select_ok {α : Type} {query : TaskDatabase → α} {a : α}
    (ran : select world query s = .ok (a, s')) : a = query s.1 ∧ s'.1 = s.1 := by
  rw [select, statement] at ran
  split at ran
  · exact nomatch ran
  · cases ran
    exact ⟨rfl, rfl⟩

theorem execute_ok {change : TaskDatabase → Except ResetFault TaskDatabase} {u : Unit}
    (ran : execute world change s = .ok (u, s')) : change s.1 = .ok s'.1 := by
  rw [execute, statement] at ran
  split at ran
  · exact nomatch ran
  · cases made : change s.1 with
    | error fault => simp [made, Except.map] at ran
    | ok db =>
      simp only [made, Except.map] at ran
      cases ran
      rfl

theorem bracket_ok {u : Unit} (ran : bracket world s = .ok (u, s')) : s'.1 = s.1 := by
  exact (Except.ok.inj (execute_ok ran)).symm

def Appended (line : Option HistoryRow) (added : List HistoryRow) : Prop :=
  ∃ row, line = some row ∧ (row.changed ≠ [] → row ∈ added)

theorem Appended.mono {line : Option HistoryRow} {added more : List HistoryRow}
    (appended : Appended line added) (sub : added ⊆ more) : Appended line more := by
  obtain ⟨row, made, listed⟩ := appended
  exact ⟨row, made, fun filled => sub (listed filled)⟩

def TaskDatabase.appended (db : TaskDatabase) (added : List HistoryRow) : TaskDatabase :=
  { db with history := db.history ++ added }

theorem TaskDatabase.appended_nil (db : TaskDatabase) : db.appended [] = db := by
  simp [TaskDatabase.appended]

theorem TaskDatabase.appended_append (db : TaskDatabase) (added more : List HistoryRow) :
    (db.appended added).appended more = db.appended (added ++ more) := by
  simp [TaskDatabase.appended]

theorem recordChange_ok {line : Option HistoryRow} {u : Unit}
    (ran : recordChange world line s = .ok (u, s')) :
    ∃ added, Appended line added ∧ s'.1 = s.1.appended added := by
  cases line with
  | none => exact nomatch ran
  | some row =>
    rw [recordChange] at ran
    split at ran
    next empty =>
      cases ran
      refine ⟨[], ⟨row, rfl, fun filled => ?_⟩, s.1.appended_nil.symm⟩
      exact absurd (List.isEmpty_iff.mp empty) filled
    next =>
      have made := execute_ok ran
      rw [TaskDatabase.append] at made
      split at made
      · exact ⟨[row], ⟨row, rfl, fun _ => by simp⟩, (Except.ok.inj made).symm⟩
      · exact nomatch made

/-- A loop whose rounds only append. -/
theorem forM_appended {α : Type} {f : α → Sql Unit} {P : α → List HistoryRow → Prop} {xs : List α}
    {db : TaskDatabase} (mono : ∀ x added more, P x added → added ⊆ more → P x more)
    (round : ∀ x ∈ xs, ∀ added s s' u, s.1 = db.appended added → f x s = .ok (u, s') →
      ∃ more, P x more ∧ s'.1 = db.appended (added ++ more)) {added : List HistoryRow} {u : Unit}
    (start : s.1 = db.appended added) (ran : xs.forM f s = .ok (u, s')) :
    ∃ more, (∀ x ∈ xs, P x more) ∧ s'.1 = db.appended (added ++ more) := by
  induction xs generalizing s added with
  | nil =>
    cases ran
    exact ⟨[], by simp, by simpa using start⟩
  | cons x xs ih =>
    change (f x >>= fun _ => xs.forM f) s = _ at ran
    obtain ⟨⟨⟩, s₁, first, rest⟩ := bind_ok.mp ran
    obtain ⟨more, holds, now⟩ := round x (by simp) added s s₁ _ start first
    obtain ⟨later, all, finally_⟩ :=
      ih (fun y listed => round y (List.mem_cons_of_mem x listed)) now rest
    refine ⟨more ++ later, ?_, by rw [finally_, List.append_assoc]⟩
    rw [List.forall_mem_cons]
    constructor
    · exact mono x _ _ holds (List.subset_append_left _ _)
    · intro y listed
      exact mono y _ _ (all y listed) (List.subset_append_right _ _)

/-! ### The loop over the tasks -/

structure Frame (db db' : TaskDatabase) : Prop where
  userVersion : db'.userVersion = db.userVersion
  applicationId : db'.applicationId = db.applicationId
  tables : db'.tables = db.tables

theorem Frame.trans {a b c : TaskDatabase} (first : Frame a b) (second : Frame b c) : Frame a c :=
  ⟨second.1.trans first.1, second.2.trans first.2, second.3.trans first.3⟩

/-- The tasks of the keys are reset, and where there is a history it has an entry for each. -/
structure ResetAmong (lib : SqlLibrary) (hasHistory : Bool) (keys : List (Option String))
    (db db' : TaskDatabase) : Prop extends Frame db db' where
  master : db'.master = db.master
  contract : db'.contract = db.contract
  tasks : db'.tasks = db.tasks.map fun row => if row.isAmong keys then row.reset else row
  history : ∃ added, db'.history = db.history ++ added ∧
    (hasHistory = true → ∀ row ∈ db.tasks, row.isAmong keys = true →
      ∃ time, resetLine lib row time ∈ added)
  unrecorded : hasHistory = false → db'.history = db.history

theorem BudgetRow.isAmong_singleton (key : Option String) (row : BudgetRow) :
    row.isAmong [key] = row.is key := by
  rw [BudgetRow.isAmong_cons]
  simp [BudgetRow.isAmong]

theorem recordReset_ok {before after : Option BudgetRow} {u : Unit}
    (ran : recordReset world lib before after s = .ok (u, s')) :
    ∃ added, s'.1 = s.1.appended added ∧
      ∀ row, before = some row → after = some row.reset → ∃ time, resetLine lib row time ∈ added := by
  cases after with
  | none =>
    cases ran
    exact ⟨[], s.1.appended_nil.symm, fun _ _ no => nomatch no⟩
  | some row' =>
    obtain ⟨time, s₁, timed, ran⟩ := bind_ok.mp ran
    cases timed
    obtain ⟨added, ⟨line, made, listed⟩, now⟩ := recordChange_ok ran
    refine ⟨added, now, ?_⟩
    rintro row rfl same
    cases Option.some.inj same
    rw [resetEntry_eq] at made
    cases Option.some.inj made
    refine ⟨_, listed ?_⟩
    simp [resetLine, resetColumns]

theorem resetOne_ok {hasHistory : Bool} {key : Option String} {u : Unit}
    (ran : resetOne world lib hasHistory key s = .ok (u, s')) :
    ResetAmong lib hasHistory [key] s.1 s'.1 := by
  rw [resetOne] at ran
  split at ran
  next recorded =>
    obtain ⟨_, s₁, opened, ran⟩ := bind_ok.mp ran
    obtain ⟨before, s₂, found, ran⟩ := bind_ok.mp ran
    obtain ⟨_, s₃, updated, ran⟩ := bind_ok.mp ran
    obtain ⟨after, s₄, found', ran⟩ := bind_ok.mp ran
    obtain ⟨_, s₅, entered, closed⟩ := bind_ok.mp ran
    obtain ⟨rfl, same⟩ := select_ok found
    obtain ⟨rfl, same'⟩ := select_ok found'
    obtain ⟨added, now, entries⟩ := recordReset_ok entered
    have made := execute_ok updated
    rw [same, bracket_ok opened] at made
    have reset := (Except.ok.inj made).symm
    rw [same', reset] at now
    rw [reset] at entries
    rw [bracket_ok closed, now]
    refine ⟨⟨rfl, rfl, rfl⟩, rfl, rfl, ?_, ⟨added, rfl, ?_⟩, ?_⟩
    · simp [TaskDatabase.appended, TaskDatabase.resetTask, BudgetRow.isAmong_singleton]
    · intro _ row listed among
      rw [BudgetRow.isAmong_singleton] at among
      have found := TaskDatabase.task_of_mem listed among
      apply entries
      · rw [bracket_ok opened, found]
      · rw [TaskDatabase.task_resetTask, found, Option.map_some]
    · exact fun unrecorded => absurd (recorded.symm.trans unrecorded) nofun
  next unrecorded =>
    have made := execute_ok ran
    rw [(Except.ok.inj made).symm]
    refine ⟨⟨rfl, rfl, rfl⟩, rfl, rfl, ?_, ⟨[], (List.append_nil _).symm, ?_⟩, fun _ => rfl⟩
    · simp [TaskDatabase.resetTask, BudgetRow.isAmong_singleton]
    · exact fun recorded => absurd recorded unrecorded

theorem ResetAmong.cons {hasHistory : Bool} {key : Option String} {keys : List (Option String)}
    {a b c : TaskDatabase} (first : ResetAmong lib hasHistory [key] a b)
    (rest : ResetAmong lib hasHistory keys b c) (fresh : key.isSome → key ∉ keys) :
    ResetAmong lib hasHistory (key :: keys) a c := by
  have once {row : BudgetRow} (is : row.is key = true) : row.isAmong keys = false := by
    simp only [BudgetRow.is, Bool.and_eq_true, decide_eq_true_eq] at is
    simp [BudgetRow.isAmong, is.2, fresh is.1]
  obtain ⟨added, appended, entries⟩ := first.history
  obtain ⟨more, appended', entries'⟩ := rest.history
  refine ⟨first.toFrame.trans rest.toFrame, rest.master.trans first.master,
    rest.contract.trans first.contract, ?_, ⟨added ++ more, ?_, ?_⟩,
    fun unrecorded => (rest.unrecorded unrecorded).trans (first.unrecorded unrecorded)⟩
  · rw [rest.tasks, first.tasks, List.map_map]
    apply List.map_congr_left
    intro row _
    rw [Function.comp_apply, BudgetRow.isAmong_singleton, BudgetRow.isAmong_cons]
    by_cases is : row.is key = true
    · simp [is, once is]
    · simp [is]
  · rw [appended', appended, List.append_assoc]
  · intro recorded row listed among
    rw [BudgetRow.isAmong_cons, Bool.or_eq_true] at among
    by_cases is : row.is key = true
    · obtain ⟨time, entered⟩ := entries recorded row listed
        ((BudgetRow.isAmong_singleton key row).trans is)
      exact ⟨time, List.mem_append_left _ entered⟩
    · have still : row ∈ b.tasks := by
        rw [first.tasks]
        exact List.mem_map.mpr ⟨row, listed, by rw [BudgetRow.isAmong_singleton, if_neg is]⟩
      obtain ⟨time, entered⟩ := entries' recorded row still (among.resolve_left is)
      exact ⟨time, List.mem_append_right _ entered⟩

/-- The loop, by induction on the keys: a task is reset by the round of its own key only. -/
theorem resets_ok {hasHistory : Bool} {keys : List (Option String)}
    (nodup : (keys.filterMap id).Nodup) {u : Unit}
    (ran : keys.forM (resetOne world lib hasHistory) s = .ok (u, s')) :
    ResetAmong lib hasHistory keys s.1 s'.1 := by
  induction keys generalizing s with
  | nil =>
    cases ran
    refine ⟨⟨rfl, rfl, rfl⟩, rfl, rfl, ?_, ⟨[], (List.append_nil _).symm, ?_⟩, fun _ => rfl⟩
    · simp [BudgetRow.isAmong]
    · simp [BudgetRow.isAmong]
  | cons key keys ih =>
    change (resetOne world lib hasHistory key >>= fun _ => keys.forM _) s = _ at ran
    obtain ⟨_, s₁, first, rest⟩ := bind_ok.mp ran
    cases key with
    | none => exact (resetOne_ok first).cons (ih nodup rest) nofun
    | some key =>
      rw [List.filterMap_cons_some (f := id) rfl, List.nodup_cons] at nodup
      refine (resetOne_ok first).cons (ih nodup.2 rest) fun _ listed => nodup.1 ?_
      exact List.mem_filterMap.mpr ⟨some key, listed, rfl⟩

/-! ### The history of the store -/

theorem create_ok {object : SchemaObject} {db db' : TaskDatabase}
    (made : db.create object = .ok db') :
    db.hasName object.name = false ∧ db' = { db with master := db.master ++ [object] } := by
  rw [TaskDatabase.create] at made
  split at made
  · exact nomatch made
  next free =>
    cases made
    exact ⟨Bool.eq_false_iff.mpr free, rfl⟩

@[simp] theorem sameName_refl (name : String) : sameName name name = true := decide_eq_true rfl

theorem findsTable_of_name {db : TaskDatabase} {name : String} (free : db.hasName name = false) :
    db.findsTable name = false := by
  simp only [TaskDatabase.hasName, TaskDatabase.findsTable, List.any_eq_false, Bool.and_eq_true,
    not_and] at free ⊢
  exact fun object listed _ => free object listed

theorem findsTable_of_hasTable {db : TaskDatabase} {name : String} (there : db.hasTable name = true) :
    db.findsTable name = true := by
  simp only [TaskDatabase.hasTable, TaskDatabase.findsTable, List.any_eq_true, Bool.and_eq_true,
    decide_eq_true_eq] at there ⊢
  obtain ⟨object, listed, table, rfl⟩ := there
  exact ⟨object, listed, table, sameName_refl _⟩

section Append

variable (db : TaskDatabase) (object : SchemaObject) (name : String)

theorem hasTable_append :
    ({ db with master := db.master ++ [object] } : TaskDatabase).hasTable name =
      (db.hasTable name || (object.kind = "table" && object.name = name)) := by
  simp [TaskDatabase.hasTable]

theorem findsTable_append :
    ({ db with master := db.master ++ [object] } : TaskDatabase).findsTable name =
      (db.findsTable name || (object.kind = "table" && sameName object.name name)) := by
  simp [TaskDatabase.findsTable]

theorem hasName_append :
    ({ db with master := db.master ++ [object] } : TaskDatabase).hasName name =
      (db.hasName name || sameName object.name name) := by
  simp [TaskDatabase.hasName]

end Append

/-- The table of the contract is there, in letters the reader does not ask for. -/
def Miscased (db : TaskDatabase) : Prop :=
  db.findsTable "evidence_contract" = true ∧ db.hasTable "evidence_contract" = false

structure SameTables (db db' : TaskDatabase) (name : String) : Prop where
  has : db'.hasTable name = db.hasTable name
  finds : db'.findsTable name = db.findsTable name
  named : db'.hasName name = db.hasName name

theorem SameTables.append {db db' : TaskDatabase} {object : SchemaObject} {name : String}
    (other : sameName object.name name = false) (grown : db'.master = db.master ++ [object]) :
    SameTables db db' name := by
  have apart : object.name ≠ name := by
    rintro rfl
    exact absurd (other.symm.trans (sameName_refl _)) nofun
  constructor
  · simp [TaskDatabase.hasTable, grown, apart]
  · simp [TaskDatabase.findsTable, grown, other]
  · simp [TaskDatabase.hasName, grown, other]

theorem createContract_ok {db db' : TaskDatabase} (made : db.createContract = .ok db') :
    (db.findsTable "evidence_contract" = true ∨ db.hasName "evidence_contract" = false) ∧
      ∃ more, db' = { db with master := db.master ++ more, contract := db.contractRows } ∧
        db'.findsTable "evidence_contract" = true ∧
        (db'.hasTable "evidence_contract" = false ↔ Miscased db) ∧
        ∀ name, sameName "evidence_contract" name = false → SameTables db db' name := by
  rw [TaskDatabase.createContract] at made
  split at made
  next there =>
    cases made
    refine ⟨.inl there, [], ?_, there, ?_, fun _ _ => ⟨rfl, rfl, rfl⟩⟩
    · simp [TaskDatabase.contractRows, there]
    · simp [Miscased, there]
  next absent =>
    cases created : db.create contractTable with
    | error fault => simp [created, Except.map] at made
    | ok db₁ =>
      obtain ⟨free, rfl⟩ := create_ok created
      simp only [created, Except.map] at made
      cases made
      refine ⟨.inr free, [contractTable], ?_, ?_, ?_, fun name other => .append other rfl⟩
      · simp [TaskDatabase.contractRows, absent]
      · exact (findsTable_append db contractTable _).trans (by simp [contractTable])
      · have there : ({ db with
            master := db.master ++ [contractTable], contract := [] } : TaskDatabase).hasTable
              "evidence_contract" = true :=
          (hasTable_append db contractTable _).trans (by simp [contractTable])
        simp [Miscased, there, absent]

theorem insertContract_ok {db db' : TaskDatabase} {component : String}
    (made : db.insertContract component = .ok db') :
    db.contract.lookup component = none ∧
      db' = { db with contract := db.contract ++ [(component, 1)] } := by
  rw [TaskDatabase.insertContract] at made
  split at made
  next fresh =>
    cases made
    exact ⟨fresh.2, rfl⟩
  · exact nomatch made

theorem recordBaselinesOf_ok {time : ℚ} {entity : Entity} {u : Unit}
    (ran : recordBaselinesOf world lib time entity s = .ok (u, s')) :
    ∃ more, (s.1.hasTable entity.table = true → ∀ row ∈ s.1.rows entity,
      Appended (baselineEntry lib entity row time) more) ∧ s'.1 = s.1.appended more := by
  obtain ⟨there, s₁, found, ran⟩ := bind_ok.mp ran
  obtain ⟨rfl, same⟩ := select_ok found
  split at ran
  next present =>
    obtain ⟨rows, s₂, found', ran⟩ := bind_ok.mp ran
    obtain ⟨rfl, same'⟩ := select_ok found'
    have start : s₂.1 = s.1.appended [] := by rw [same', same, TaskDatabase.appended_nil]
    obtain ⟨more, all, now⟩ := forM_appended
      (P := fun row added => Appended (baselineEntry lib entity row time) added)
      (fun _ _ _ appended sub => appended.mono sub)
      (by
        intro row _ added s₃ s₄ _ at_ entered
        obtain ⟨more, appended, now⟩ := recordChange_ok entered
        rw [at_, TaskDatabase.appended_append] at now
        exact ⟨more, appended, now⟩) start ran
    rw [same] at all
    exact ⟨more, fun _ => all, now⟩
  next absent =>
    cases ran
    exact ⟨[], fun present => absurd present absent, same.trans s.1.appended_nil.symm⟩

theorem recordBaselines_ok {u : Unit} (ran : recordBaselines world lib s = .ok (u, s')) :
    ∃ time more, s'.1 = s.1.appended more ∧
      ∀ entity ∈ projections, s.1.hasTable entity.table = true → ∀ row ∈ s.1.rows entity,
        Appended (baselineEntry lib entity row time) more := by
  obtain ⟨time, s₁, timed, ran⟩ := bind_ok.mp ran
  cases timed
  obtain ⟨more, all, now⟩ := forM_appended
    (P := fun entity added => s.1.hasTable entity.table = true → ∀ row ∈ s.1.rows entity,
      Appended (baselineEntry lib entity row (world.clock s.2)) added)
    (by
      intro entity added more appended sub present row listed
      exact (appended present row listed).mono sub)
    (by
      intro entity _ added s₂ s₃ _ at_ entered
      obtain ⟨more, appended, now⟩ := recordBaselinesOf_ok entered
      rw [at_] at appended
      rw [at_, TaskDatabase.appended_append] at now
      exact ⟨more, appended, now⟩) s.1.appended_nil.symm ran
  exact ⟨_, more, now, all⟩

def BaselinesFail (lib : SqlLibrary) (db : TaskDatabase) : Prop :=
  ∃ entity ∈ projections, db.hasTable entity.table = true ∧
    ∃ row ∈ db.rows entity, ∀ time, baselineEntry lib entity row time = none

def HistoryRefused (lib : SqlLibrary) (db : TaskDatabase) : Prop :=
  db.findsTable "evidence_contract" = false ∧ db.hasName "evidence_contract" = true ∨
    match db.contractRows.lookup "task_history" with
    | some version => version ≠ 1
    | none =>
      db.hasName "task_history" = true ∨ db.hasName "idx_task_history_task" = true ∨
        BaselinesFail lib db

structure Ensured (lib : SqlLibrary) (db db' : TaskDatabase) : Prop extends Frame db db' where
  tasks : db'.tasks = db.tasks
  schema : ∃ more, db'.master = db.master ++ more
  hasContract : db'.findsTable "evidence_contract" = true
  miscased : db'.hasTable "evidence_contract" = false ↔ Miscased db
  contract : ∃ more, db'.contract = db.contractRows ++ more ∧
    more.lookup "failure_accounting" = none
  history :
    db.contractRows.lookup "task_history" = some 1 ∧
        db'.findsTable "task_history" = db.findsTable "task_history" ∧ db'.history = db.history ∨
      db.contractRows.lookup "task_history" = none ∧ db.findsTable "task_history" = false ∧
        db'.findsTable "task_history" = true ∧
        (db.hasTable "managed_tasks" = true → ∀ row ∈ db.tasks,
          ∃ time, baselineLine lib row time ∈ db'.history)

theorem baselineEntry_some {entity : Entity} {row : SqlRow} {time : ℚ} {line : HistoryRow}
    (made : baselineEntry lib entity row time = some line) (time' : ℚ) :
    ∃ line', baselineEntry lib entity row time' = some line' := by
  simp only [baselineEntry, entry, Option.bind_eq_some_iff, Option.ite_none_right_eq_some] at made ⊢
  obtain ⟨who, identified, encodes, _⟩ := made
  exact ⟨_, who, identified, encodes, rfl⟩

theorem beginHistory_ok {u : Unit} (ran : beginHistory world lib s = .ok (u, s')) :
    s.1.hasName "task_history" = false ∧ s.1.hasName "idx_task_history_task" = false ∧
      ¬ BaselinesFail lib s.1 ∧
      ∃ more, s'.1 =
          { s.1 with
            master := s.1.master ++ [historyTable] ++ [historyIndex]
            contract := s.1.contract ++ [("task_history", 1)]
            history := more } ∧
        ∀ entity ∈ projections, s.1.hasTable entity.table = true → ∀ row ∈ s.1.rows entity,
          ∃ time, Appended (baselineEntry lib entity row time) more := by
  obtain ⟨_, s₁, tabled, ran⟩ := bind_ok.mp ran
  obtain ⟨_, s₂, indexed, ran⟩ := bind_ok.mp ran
  obtain ⟨_, s₃, based, ran⟩ := bind_ok.mp ran
  have tabled := execute_ok tabled
  rw [TaskDatabase.createHistory] at tabled
  cases created : s.1.create historyTable with
  | error fault => simp [created, Except.map] at tabled
  | ok db₁ =>
    obtain ⟨free, rfl⟩ := create_ok created
    simp only [created, Except.map] at tabled
    obtain ⟨free', now⟩ := create_ok (execute_ok indexed)
    obtain ⟨time, more, now', entries⟩ := recordBaselines_ok based
    obtain ⟨_, now''⟩ := insertContract_ok (execute_ok ran)
    rw [← Except.ok.inj tabled] at free' now
    have named := (hasName_append s.1 historyTable historyIndex.name).symm.trans free'
    rw [Bool.or_eq_false_iff] at named
    have there {entity : Entity} (present : s.1.hasTable entity.table = true) :
        s₂.1.hasTable entity.table = true := by
      rw [now]
      simp only [TaskDatabase.hasTable, List.any_append, Bool.or_eq_true] at present ⊢
      exact .inl (.inl present)
    have rows (entity : Entity) : s₂.1.rows entity = s.1.rows entity := by
      rw [now]
      cases entity <;> rfl
    refine ⟨free, named.1, ?_, more, ?_, ?_⟩
    · rintro ⟨entity, projected, present, row, listed, unmade⟩
      obtain ⟨line, made, _⟩ :=
        entries entity projected (there present) row (by rw [rows]; exact listed)
      rw [unmade] at made
      exact nomatch made
    · rw [now'', now', now]
      rfl
    · intro entity projected present row listed
      exact ⟨time, entries entity projected (there present) row (by rw [rows]; exact listed)⟩

theorem ensureSchema_ok {u : Unit} (ran : ensureSchema world lib s = .ok (u, s')) :
    ¬ HistoryRefused lib s.1 ∧ Ensured lib s.1 s'.1 := by
  obtain ⟨_, s₁, made, ran⟩ := bind_ok.mp ran
  obtain ⟨row, s₂, found, ran⟩ := bind_ok.mp ran
  obtain ⟨free, more, now, present, miscased, others⟩ := createContract_ok (execute_ok made)
  obtain ⟨rfl, same⟩ := select_ok found
  have notTaken : ¬ (s.1.findsTable "evidence_contract" = false ∧
      s.1.hasName "evidence_contract" = true) := by
    rintro ⟨absent, taken⟩
    rcases free with there | free
    · exact absurd (there.symm.trans absent) nofun
    · exact absurd (taken.symm.trans free) nofun
  have contract : s₁.1.contract = s.1.contractRows := by rw [now]
  have history : s₁.1.history = s.1.history := by rw [now]
  have tasks : s₁.1.tasks = s.1.tasks := by rw [now]
  rw [HistoryRefused, not_or]
  rw [contract] at ran
  cases version : s.1.contractRows.lookup "task_history" with
  | some v =>
    simp only [version] at ran
    split at ran
    · exact nomatch ran
    next one =>
      cases ran
      have one := not_not.mp one
      refine ⟨⟨notTaken, fun other => other one⟩, ?_⟩
      rw [same]
      refine ⟨?_, tasks, ⟨more, by rw [now]⟩, present, miscased,
        ⟨[], by rw [contract, List.append_nil], rfl⟩,
        .inl ⟨by rw [version, one], (others _ (by decide)).finds, history⟩⟩
      rw [now]
      exact ⟨rfl, rfl, rfl⟩
  | none =>
    simp only [version] at ran
    obtain ⟨tableFree, indexFree, encodes, rows, begun, entries⟩ := beginHistory_ok ran
    rw [same] at tableFree indexFree encodes begun entries
    rw [(others _ (by decide)).named] at tableFree indexFree
    refine ⟨⟨notTaken, ?_⟩, ?_⟩
    · rintro (taken | taken | ⟨entity, projected, there, row, listed, unmade⟩)
      · exact absurd (taken.symm.trans tableFree) nofun
      · exact absurd (taken.symm.trans indexFree) nofun
      · apply encodes
        refine ⟨entity, projected, ?_, row, ?_, unmade⟩
        · rw [(others _ (by cases entity <;> decide)).has]
          exact there
        · rw [now]
          cases entity <;> exact listed
    · refine ⟨?_, ?_, ?_, ?_, ?_, ?_, .inr ⟨version, findsTable_of_name tableFree, ?_, ?_⟩⟩
      · rw [begun, now]
        exact ⟨rfl, rfl, rfl⟩
      · rw [begun]
        exact tasks
      · rw [begun, now]
        exact ⟨_, by rw [List.append_assoc, List.append_assoc]⟩
      · rw [begun]
        simp only [TaskDatabase.findsTable, List.any_append, Bool.or_eq_true] at present ⊢
        exact .inl (.inl present)
      · rw [← miscased, begun]
        simp [TaskDatabase.hasTable, historyTable, historyIndex]
      · rw [begun, contract]
        exact ⟨_, rfl, rfl⟩
      · rw [begun]
        simp [TaskDatabase.findsTable, historyTable]
      · intro there row listed
        have there' : s₁.1.hasTable Entity.task.table = true := by
          rw [(others _ (by decide)).has]
          exact there
        obtain ⟨time, line, made, appended⟩ := entries .task (by decide) there' row.toSql (by
          rw [TaskDatabase.rows, tasks]
          exact List.mem_map_of_mem listed)
        rw [baselineEntry_eq] at made
        split at made
        · cases Option.some.inj made
          refine ⟨time, ?_⟩
          rw [begun]
          exact appended (by simp [baselineLine, BudgetRow.toSql])
        · exact nomatch made

theorem ResetAmong.hasTable {hasHistory : Bool} {keys : List (Option String)} {db db' : TaskDatabase}
    (reset : ResetAmong lib hasHistory keys db db') (name : String) :
    db'.hasTable name = db.hasTable name := by
  rw [TaskDatabase.hasTable, reset.master]
  rfl

theorem ResetAmong.findsTable {hasHistory : Bool} {keys : List (Option String)}
    {db db' : TaskDatabase} (reset : ResetAmong lib hasHistory keys db db') (name : String) :
    db'.findsTable name = db.findsTable name := by
  rw [TaskDatabase.findsTable, reset.master]
  rfl

theorem ResetAmong.hasName {hasHistory : Bool} {keys : List (Option String)} {db db' : TaskDatabase}
    (reset : ResetAmong lib hasHistory keys db db') (name : String) :
    db'.hasName name = db.hasName name := by
  rw [TaskDatabase.hasName, reset.master]
  rfl

theorem ResetAmong.contractRows {hasHistory : Bool} {keys : List (Option String)}
    {db db' : TaskDatabase} (reset : ResetAmong lib hasHistory keys db db') :
    db'.contractRows = db.contractRows := by
  rw [TaskDatabase.contractRows, reset.findsTable, reset.contract]
  rfl

theorem ResetAmong.miscased_iff {hasHistory : Bool} {keys : List (Option String)}
    {db db' : TaskDatabase} (reset : ResetAmong lib hasHistory keys db db') :
    Miscased db' ↔ Miscased db := by
  rw [Miscased, Miscased, reset.findsTable, reset.hasTable]

/-- Whether a baseline of a task can be made does not depend on its counters. -/
theorem baselineEntry_reset_none (row : BudgetRow) :
    (∀ time, baselineEntry lib .task row.reset.toSql time = none) ↔
      ∀ time, baselineEntry lib .task row.toSql time = none := by
  simp only [baselineEntry_eq]
  have same : row.reset.columns = row.columns := rfl
  rw [same]
  split <;> simp

theorem ResetAmong.historyRefused_iff {hasHistory : Bool} {keys : List (Option String)}
    {db db' : TaskDatabase} (reset : ResetAmong lib hasHistory keys db db') :
    HistoryRefused lib db' ↔ HistoryRefused lib db := by
  have baselines : BaselinesFail lib db' ↔ BaselinesFail lib db := by
    simp only [BaselinesFail, reset.hasTable]
    apply exists_congr
    intro entity
    apply and_congr_right
    intro _
    apply and_congr_right
    intro _
    cases entity with
    | task =>
      simp only [TaskDatabase.rows, reset.tasks, List.mem_map, exists_exists_and_eq_and]
      apply exists_congr
      intro row
      split
      · rw [baselineEntry_reset_none]
      · rfl
    | _ => simp only [TaskDatabase.rows, reset.tables]
  simp only [HistoryRefused, reset.findsTable, reset.hasName, reset.contractRows, baselines]

/-! ### The transaction -/

def TaskDatabase.accountingVersion (db : TaskDatabase) : Option ℤ :=
  if db.hasTable "evidence_contract" then db.contract.lookup "failure_accounting" else none

def Accounts (lib : SqlLibrary) (row : BudgetRow) (line : HistoryRow) : Prop :=
  ∃ time, line = resetLine lib row time ∨ line = baselineLine lib row.reset time

/-- The history of the store is on record, but not in the store. -/
def HistoryLost (db : TaskDatabase) : Prop :=
  db.contractRows.lookup "task_history" = some 1 ∧ db.hasTable "task_history" = false

/-- Where the transaction ends that commits. -/
structure CutTo (lib : SqlLibrary) (db db' : TaskDatabase) : Prop extends Frame db db' where
  tasks : db'.tasks = db.tasks.map fun row => if row.taskId.isSome then row.reset else row
  schema : ∃ more, db'.master = db.master ++ more
  contract : ∃ more, db'.contractRows = db.contractRows ++ more
  recorded : db'.accountingVersion = some 1 ↔ ¬ Miscased db
  history : ∃ added, db'.historyRows = db.historyRows ++ added ∧ (HistoryLost db → added = []) ∧
    (¬ HistoryLost db → ∀ row ∈ db.tasks, row.taskId.isSome →
      ∃ line ∈ added, Accounts lib row line)

/-- What the snapshot and the schema of the store are checked for, and its history; and the contract
cannot be recorded twice. -/
def Refused (lib : SqlLibrary) (db : TaskDatabase) : Prop :=
  db.isCurrent = false ∨ HistoryRefused lib db ∨ db.contractRows.lookup "failure_accounting" ≠ none

variable {δ : Type} [DecidableEq δ] {digest : Contents → δ} {expected : δ}

theorem TaskDatabase.hasTable_of_isCurrent {db : TaskDatabase} (current : db.isCurrent = true) :
    db.hasTable "managed_tasks" = true := by
  simp only [TaskDatabase.isCurrent, Option.any_eq_true_iff_get, TaskDatabase.taskSchema] at current
  obtain ⟨some_, _⟩ := current
  split at some_
  · exact nomatch some_
  · rw [Option.isSome_map, List.find?_isSome] at some_
    rw [TaskDatabase.hasTable, List.any_eq_true]
    exact some_

theorem requireSnapshot_ok {u : Unit}
    (ran : requireSnapshot world digest expected s = .ok (u, s')) :
    expected = digest s.1.contents ∧ s'.1 = s.1 := by
  obtain ⟨print, s₀, printed, ran⟩ := bind_ok.mp ran
  obtain ⟨rfl, same⟩ := select_ok printed
  split at ran
  · exact nomatch ran
  next equal =>
    cases ran
    exact ⟨(not_not.mp equal).symm, same⟩

theorem requireSchema_ok {u : Unit} (ran : requireSchema world s = .ok (u, s')) :
    s.1.isCurrent = true ∧ s'.1 = s.1 := by
  obtain ⟨current, s₀, read, ran⟩ := bind_ok.mp ran
  obtain ⟨rfl, same⟩ := select_ok read
  split at ran
  · exact nomatch ran
  next current =>
    cases ran
    exact ⟨not_not.mp current, same⟩

theorem accounted {db db₁ db₂ : TaskDatabase}
    (reset : ResetAmong lib (db.hasTable "task_history") (db.tasks.map BudgetRow.taskId) db db₁)
    (ensured : Ensured lib db₁ db₂) (current : db.isCurrent = true) :
    ∃ added, db₂.historyRows = db.historyRows ++ added ∧ (HistoryLost db → added = []) ∧
      (¬ HistoryLost db → ∀ row ∈ db.tasks, row.taskId.isSome →
        ∃ line ∈ added, Accounts lib row line) := by
  have among {row : BudgetRow} (listed : row ∈ db.tasks) (named : row.taskId.isSome) :
      row.isAmong (db.tasks.map BudgetRow.taskId) = true := by
    simp only [BudgetRow.isAmong, named, Bool.true_and, List.contains_iff_mem]
    exact List.mem_map_of_mem listed
  have there := TaskDatabase.hasTable_of_isCurrent current
  have history := ensured.history
  rw [reset.contractRows, reset.findsTable, reset.hasTable] at history
  rcases history with ⟨one, kept, same⟩ | ⟨none_, absent, found, entries⟩
  · cases recorded : db.hasTable "task_history" with
    | true =>
      obtain ⟨added, appended, entries⟩ := reset.history
      have found := findsTable_of_hasTable recorded
      refine ⟨added, ?_, fun lost => absurd (recorded.symm.trans lost.2) nofun, ?_⟩
      · rw [TaskDatabase.historyRows, kept, found, if_pos rfl, same, appended,
          TaskDatabase.historyRows, found, if_pos rfl]
      · intro _ row listed named
        obtain ⟨time, entered⟩ := entries recorded row listed (among listed named)
        exact ⟨_, entered, time, .inl rfl⟩
    | false =>
      refine ⟨[], ?_, fun _ => rfl, fun kept => absurd ⟨one, recorded⟩ kept⟩
      rw [TaskDatabase.historyRows, kept, same, reset.unrecorded recorded, List.append_nil,
        TaskDatabase.historyRows]
  · refine ⟨db₂.history, ?_, fun lost => absurd (none_.symm.trans lost.1) nofun, ?_⟩
    · rw [TaskDatabase.historyRows, found, if_pos rfl, TaskDatabase.historyRows, absent]
      rfl
    · intro _ row listed named
      obtain ⟨time, entered⟩ := entries there row.reset (by
        rw [reset.tasks]
        exact List.mem_map.mpr ⟨row, listed, if_pos (among listed named)⟩)
      exact ⟨_, entered, time, .inr rfl⟩

theorem cutOver_ok {u : Unit} (ran : cutOver world lib digest expected s = .ok (u, s')) :
    expected = digest s.1.contents ∧ ¬ Refused lib s.1 ∧ CutTo lib s.1 s'.1 := by
  obtain ⟨_, s₁, compared, ran⟩ := bind_ok.mp ran
  obtain ⟨_, s₂, checked, ran⟩ := bind_ok.mp ran
  obtain ⟨keys, s₃, selected, ran⟩ := bind_ok.mp ran
  obtain ⟨hasHistory, s₄, found, ran⟩ := bind_ok.mp ran
  obtain ⟨_, s₅, looped, ran⟩ := bind_ok.mp ran
  obtain ⟨_, s₆, ensured, inserted⟩ := bind_ok.mp ran
  obtain ⟨approved, same₁⟩ := requireSnapshot_ok compared
  obtain ⟨current, same₂⟩ := requireSchema_ok checked
  obtain ⟨rfl, same₃⟩ := select_ok selected
  obtain ⟨rfl, same₄⟩ := select_ok found
  rw [same₁] at current same₂
  rw [same₂] at same₃ looped
  rw [same₃] at same₄ looped
  have reset := resets_ok (by rw [List.filterMap_map]; exact s.1.keyed) looped
  rw [same₄] at reset
  obtain ⟨unrefused, ensured⟩ := ensureSchema_ok ensured
  obtain ⟨fresh, now⟩ := insertContract_ok (execute_ok inserted)
  obtain ⟨added, appended, lost, kept⟩ := accounted reset ensured current
  obtain ⟨more, grown, _⟩ := ensured.contract
  have contractRows : s'.1.contractRows = s₆.1.contract ++ [("failure_accounting", 1)] := by
    have there : s'.1.findsTable "evidence_contract" = true := by
      rw [now]
      exact ensured.hasContract
    rw [TaskDatabase.contractRows, if_pos there, now]
  have unrecorded : s.1.contractRows.lookup "failure_accounting" = none := by
    rw [grown, reset.contractRows, List.lookup_append, Option.or_eq_none_iff] at fresh
    exact fresh.1
  refine ⟨approved, ?_, reset.toFrame.trans (ensured.toFrame.trans ?_), ?_, ?_, ?_, ?_, added, ?_,
    lost, kept⟩
  · rintro (stale | refused | taken)
    · exact absurd (stale.symm.trans current) nofun
    · exact unrefused (reset.historyRefused_iff.mpr refused)
    · exact taken unrecorded
  · rw [now]
    exact ⟨rfl, rfl, rfl⟩
  · rw [now]
    dsimp only
    rw [ensured.tasks, reset.tasks]
    apply List.map_congr_left
    intro row listed
    have among : row.isAmong (s.1.tasks.map BudgetRow.taskId) = row.taskId.isSome := by
      simp only [BudgetRow.isAmong, List.contains_iff_mem.mpr (List.mem_map_of_mem listed),
        Bool.and_true]
    rw [among]
  · obtain ⟨more, grown⟩ := ensured.schema
    rw [now]
    exact ⟨more, by rw [grown, reset.master]⟩
  · rw [contractRows, grown, reset.contractRows, List.append_assoc]
    exact ⟨_, rfl⟩
  · have found : s'.1.contract.lookup "failure_accounting" = some 1 := by
      rw [now, List.lookup_append, fresh]
      rfl
    have named : s'.1.hasTable "evidence_contract" = s₆.1.hasTable "evidence_contract" := by
      rw [now]
      rfl
    rw [TaskDatabase.accountingVersion, found, named, ← reset.miscased_iff, ← ensured.miscased]
    cases s₆.1.hasTable "evidence_contract" <;> simp
  · rw [now]
    exact appended

theorem version_ok {v : Option ℤ} (ran : version world s = .ok (v, s')) :
    v = s.1.accountingVersion ∧ s'.1 = s.1 := by
  obtain ⟨there, s₁, read, ran⟩ := bind_ok.mp ran
  obtain ⟨rfl, same⟩ := select_ok read
  split at ran
  next present =>
    obtain ⟨row, s₂, read', ran⟩ := bind_ok.mp ran
    obtain ⟨rfl, same'⟩ := select_ok read'
    rw [same] at same' ran
    rw [TaskDatabase.accountingVersion, if_pos present]
    cases row : s.1.contract.lookup "failure_accounting" with
    | none =>
      rw [row] at ran
      cases ran
      exact ⟨rfl, same'⟩
    | some v' =>
      rw [row, supported] at ran
      split at ran
      · exact nomatch ran
      · cases ran
        exact ⟨rfl, same'⟩
  next absent =>
    cases ran
    exact ⟨(if_neg absent).symm, same⟩

/-- A transaction that commits, on a versioned and on an unversioned store. -/
theorem resetBody_ok {changed : Bool}
    (ran : resetBody world lib digest expected s = .ok (changed, s')) :
    changed = s.1.accountingVersion.isNone ∧
      if changed then
        expected = digest s.1.contents ∧ ¬ Refused lib s.1 ∧ CutTo lib s.1 s'.1
      else s'.1 = s.1 := by
  obtain ⟨_, s₁, begun, ran⟩ := bind_ok.mp ran
  obtain ⟨v, s₂, read, ran⟩ := bind_ok.mp ran
  obtain ⟨rfl, same⟩ := version_ok read
  rw [bracket_ok begun] at same ran
  split at ran
  next unversioned =>
    obtain ⟨_, s₃, cut, ran⟩ := bind_ok.mp ran
    obtain ⟨_, s₄, committed, ran⟩ := bind_ok.mp ran
    cases ran
    refine ⟨rfl, ?_⟩
    rw [if_pos unversioned, bracket_ok committed, ← same]
    exact cutOver_ok cut
  next versioned =>
    obtain ⟨_, s₃, committed, ran⟩ := bind_ok.mp ran
    cases ran
    refine ⟨rfl, ?_⟩
    rw [if_neg versioned, bracket_ok committed, same]

/-! ### Statements that all run -/

def Runs {α : Type} (m : Sql α) (s : TaskDatabase × ℕ) : Prop := ∃ a s', m s = .ok (a, s')

theorem Runs.bind {α β : Type} {m : Sql α} {f : α → Sql β} (first : Runs m s)
    (rest : ∀ a s', m s = .ok (a, s') → Runs (f a) s') : Runs (m >>= f) s := by
  obtain ⟨a, s₁, ran⟩ := first
  obtain ⟨b, s₂, ran'⟩ := rest a s₁ ran
  exact ⟨b, s₂, bind_ok.mpr ⟨a, s₁, ran, ran'⟩⟩

theorem Runs.pure {α : Type} (a : α) : Runs (Pure.pure a) s := ⟨a, s, rfl⟩

theorem Runs.forM {α : Type} {f : α → Sql Unit} {xs : List α}
    (invariant : TaskDatabase → Prop)
    (round : ∀ x ∈ xs, ∀ s, invariant s.1 →
      Runs (f x) s ∧ ∀ u s', f x s = .ok (u, s') → invariant s'.1)
    (start : invariant s.1) : Runs (xs.forM f) s := by
  induction xs generalizing s with
  | nil => exact ⟨(), s, rfl⟩
  | cons x xs ih =>
    obtain ⟨runs, keeps⟩ := round x (by simp) s start
    change Runs (f x >>= fun _ => xs.forM f) s
    apply runs.bind
    intro u s₁ ran
    exact ih (fun y listed => round y (List.mem_cons_of_mem x listed)) (keeps u s₁ ran)

variable (calm : ∀ k, world.fails k = false)
include calm

theorem select_runs {α : Type} (query : TaskDatabase → α) : Runs (select world query) s :=
  ⟨query s.1, (s.1, s.2 + 1), by rw [select, statement, calm]; rfl⟩

theorem execute_runs {change : TaskDatabase → Except ResetFault TaskDatabase} {db : TaskDatabase}
    (made : change s.1 = .ok db) : Runs (execute world change) s :=
  ⟨(), (db, s.2 + 1), by rw [execute, statement, calm, made]; rfl⟩

theorem bracket_runs : Runs (bracket world) s := execute_runs calm rfl

theorem recordChange_runs {row : HistoryRow} (there : s.1.findsTable "task_history" = true) :
    Runs (recordChange world (some row)) s := by
  rw [recordChange]
  split
  · exact .pure ()
  · apply execute_runs calm
    rw [TaskDatabase.append, if_pos there]

theorem resetOne_runs {hasHistory : Bool} {key : Option String}
    (there : hasHistory = true → s.1.findsTable "task_history" = true) :
    Runs (resetOne world lib hasHistory key) s := by
  rw [resetOne]
  split
  next recorded =>
    apply (bracket_runs calm).bind
    intro _ s₁ opened
    apply (select_runs calm _).bind
    intro before s₂ found
    obtain ⟨rfl, same⟩ := select_ok found
    apply Runs.bind
    · exact execute_runs calm rfl
    intro _ s₃ updated
    have made := execute_ok updated
    have made := (Except.ok.inj made).symm
    apply (select_runs calm _).bind
    intro after s₄ found'
    obtain ⟨rfl, same'⟩ := select_ok found'
    apply Runs.bind
    · rw [made, same, TaskDatabase.task_resetTask]
      cases s₁.1.task key with
      | none => exact .pure ()
      | some row =>
        refine Runs.bind ⟨_, _, rfl⟩ fun time s₅ timed => ?_
        cases timed
        rw [resetEntry_eq]
        apply recordChange_runs calm
        rw [same', made, same, bracket_ok opened]
        exact there recorded
    · intro _ s₅ _
      exact bracket_runs calm
  next => exact execute_runs calm rfl

theorem recordBaselines_runs (there : s.1.findsTable "task_history" = true)
    (encodes : ¬ BaselinesFail lib s.1) : Runs (recordBaselines world lib) s := by
  refine Runs.bind ⟨_, _, rfl⟩ fun time s₁ timed => ?_
  cases timed
  have keeps {added : List HistoryRow} {s₁ s₂ : TaskDatabase × ℕ}
      (grown : s₁.1 = s.1.appended added) {more : List HistoryRow}
      (now : s₂.1 = s₁.1.appended more) : ∃ added, s₂.1 = s.1.appended added := by
    rw [grown, TaskDatabase.appended_append] at now
    exact ⟨_, now⟩
  apply Runs.forM (fun db => ∃ added, db = s.1.appended added) _ ⟨[], s.1.appended_nil.symm⟩
  rintro entity projected s₂ ⟨added, grown⟩
  refine ⟨?_, fun u s₃ ran => ?_⟩
  · apply (select_runs calm _).bind
    intro present s₃ found
    obtain ⟨rfl, same⟩ := select_ok found
    split
    next present =>
      apply (select_runs calm _).bind
      intro rows s₄ found'
      obtain ⟨rfl, same'⟩ := select_ok found'
      apply Runs.forM (fun db => ∃ added, db = s.1.appended added) _
        ⟨added, same'.trans (same.trans grown)⟩
      rintro row listed s₅ ⟨added', grown'⟩
      refine ⟨?_, fun u s₆ ran => ?_⟩
      · cases made : baselineEntry lib entity row (world.clock s.2) with
        | none =>
          refine absurd ⟨entity, projected, ?_, row, ?_, fun time => ?_⟩ encodes
          · rw [grown] at present
            exact present
          · rw [same, grown] at listed
            cases entity <;> exact listed
          · by_contra made'
            obtain ⟨line, made'⟩ := Option.ne_none_iff_exists'.mp made'
            obtain ⟨_, made''⟩ := baselineEntry_some made' (world.clock s.2)
            exact absurd (made.symm.trans made'') nofun
        | some line =>
          apply recordChange_runs calm
          rw [grown']
          exact there
      · obtain ⟨more, _, now⟩ := recordChange_ok ran
        exact keeps grown' now
    next => exact .pure ()
  · obtain ⟨more, _, now⟩ := recordBaselinesOf_ok ran
    exact keeps grown now

theorem beginHistory_runs (tableFree : s.1.hasName "task_history" = false)
    (indexFree : s.1.hasName "idx_task_history_task" = false) (encodes : ¬ BaselinesFail lib s.1)
    (there : s.1.findsTable "evidence_contract" = true)
    (fresh : s.1.contract.lookup "task_history" = none) : Runs (beginHistory world lib) s := by
  have tabled : s.1.createHistory =
      .ok { s.1 with master := s.1.master ++ [historyTable], history := [] } := by
    rw [TaskDatabase.createHistory, TaskDatabase.create, if_neg (by simp [historyTable, tableFree])]
    rfl
  apply Runs.bind
  · exact execute_runs calm tabled
  intro _ s₁ ran
  have now := execute_ok ran
  have now := (Except.ok.inj (tabled.symm.trans now)).symm
  have indexed : s₁.1.create historyIndex =
      .ok { s₁.1 with master := s₁.1.master ++ [historyIndex] } := by
    rw [TaskDatabase.create, if_neg]
    rw [now, Bool.not_eq_true]
    have apart : sameName historyTable.name "idx_task_history_task" = false := by decide
    exact (hasName_append s.1 historyTable _).trans (by simp [apart, historyIndex, indexFree])
  apply Runs.bind
  · exact execute_runs calm indexed
  intro _ s₂ ran
  have now' := execute_ok ran
  have now' := (Except.ok.inj (indexed.symm.trans now')).symm
  rw [now] at now'
  have hasTable (name : String) :
      s₂.1.hasTable name = (s.1.hasTable name || decide ("task_history" = name)) := by
    rw [now']
    simp [TaskDatabase.hasTable, historyTable, historyIndex]
  have findsTable (name : String) :
      s₂.1.findsTable name = (s.1.findsTable name || sameName "task_history" name) := by
    rw [now']
    simp [TaskDatabase.findsTable, historyTable, historyIndex]
  apply Runs.bind
  · apply recordBaselines_runs calm (by simp [findsTable])
    rintro ⟨entity, projected, present, row, listed, unmade⟩
    refine encodes ⟨entity, projected, ?_, row, ?_, unmade⟩
    · rw [hasTable, Bool.or_eq_true] at present
      exact present.resolve_right (by cases entity <;> decide)
    · rw [now'] at listed
      cases entity <;> exact listed
  intro _ s₃ ran
  obtain ⟨time, more, now'', _⟩ := recordBaselines_ok ran
  apply execute_runs calm
  rw [TaskDatabase.insertContract, if_pos]
  constructor
  · rw [now'']
    exact (findsTable _).trans (by rw [there]; rfl)
  · rw [now'', now']
    exact fresh

theorem ensureSchema_runs (unrefused : ¬ HistoryRefused lib s.1) :
    Runs (ensureSchema world lib) s := by
  rw [HistoryRefused, not_or] at unrefused
  obtain ⟨notTaken, unrefused⟩ := unrefused
  apply Runs.bind
  · cases there : s.1.findsTable "evidence_contract" with
    | true =>
      apply execute_runs calm
      rw [TaskDatabase.createContract, if_pos there]
    | false =>
      have free : s.1.hasName "evidence_contract" = false := by
        rw [← Bool.not_eq_true]
        exact fun taken => notTaken ⟨there, taken⟩
      apply execute_runs calm
      rw [TaskDatabase.createContract, if_neg (by simp [there]), TaskDatabase.create,
        if_neg (by simp [contractTable, free])]
      rfl
  intro _ s₁ made
  obtain ⟨_, more, now, present, _, others⟩ := createContract_ok (execute_ok made)
  have contract : s₁.1.contract = s.1.contractRows := by rw [now]
  apply (select_runs calm _).bind
  intro row s₂ found
  obtain ⟨rfl, same⟩ := select_ok found
  rw [contract]
  cases version : s.1.contractRows.lookup "task_history" with
  | some v =>
    simp only [version, not_not] at unrefused
    rw [unrefused]
    exact .pure ()
  | none =>
    simp only [version, not_or, Bool.not_eq_true] at unrefused
    obtain ⟨tableFree, indexFree, encodes⟩ := unrefused
    apply beginHistory_runs calm <;> rw [same]
    · rw [(others _ (by decide)).named, tableFree]
    · rw [(others _ (by decide)).named, indexFree]
    · rintro ⟨entity, projected, there, row, listed, unmade⟩
      refine encodes ⟨entity, projected, ?_, row, ?_, unmade⟩
      · rw [(others _ (by cases entity <;> decide)).has] at there
        exact there
      · rw [now] at listed
        cases entity <;> exact listed
    · exact present
    · rw [contract, version]

theorem cutOver_runs (approved : expected = digest s.1.contents) (unrefused : ¬ Refused lib s.1) :
    Runs (cutOver world lib digest expected) s := by
  rw [Refused, not_or, not_or, Bool.not_eq_false, not_not] at unrefused
  apply Runs.bind
  · apply (select_runs calm _).bind
    intro print s₁ printed
    obtain ⟨rfl, _⟩ := select_ok printed
    rw [if_neg (by simp [approved])]
    exact .pure ()
  intro _ s₁ compared
  have same₁ := (requireSnapshot_ok compared).2
  apply Runs.bind
  · apply (select_runs calm _).bind
    intro current s₂ read
    obtain ⟨rfl, _⟩ := select_ok read
    rw [if_neg (by rw [same₁]; simp [unrefused.1])]
    exact .pure ()
  intro _ s₂ checked
  have same₂ := (requireSchema_ok checked).2
  apply (select_runs calm _).bind
  intro keys s₃ selected
  obtain ⟨rfl, same₃⟩ := select_ok selected
  apply (select_runs calm _).bind
  intro hasHistory s₄ found
  obtain ⟨rfl, same₄⟩ := select_ok found
  rw [same₁] at same₂
  rw [same₂] at same₃
  rw [same₃] at same₄
  rw [same₂, same₃]
  apply Runs.bind
  · apply Runs.forM (fun db => db.hasTable "task_history" = s.1.hasTable "task_history")
    · intro key _ s₅ same
      refine ⟨resetOne_runs calm fun recorded => ?_, fun u s₆ ran => ?_⟩
      · exact findsTable_of_hasTable (same.trans recorded)
      rw [(resetOne_ok ran).hasTable]
      exact same
    · rw [same₄]
  intro _ s₅ looped
  have reset := resets_ok (by rw [List.filterMap_map]; exact s.1.keyed) looped
  rw [same₄] at reset
  apply Runs.bind
  · apply ensureSchema_runs calm
    rw [reset.historyRefused_iff]
    exact unrefused.2.1
  intro _ s₆ ensured
  obtain ⟨_, ensured⟩ := ensureSchema_ok ensured
  obtain ⟨more, grown, fresh⟩ := ensured.contract
  apply execute_runs calm
  rw [TaskDatabase.insertContract, if_pos]
  constructor
  · exact ensured.hasContract
  · rw [grown, reset.contractRows, List.lookup_append, unrefused.2.2, fresh]
    rfl

theorem version_runs (supports : s.1.accountingVersion ≠ none → s.1.accountingVersion = some 1) :
    Runs (version world) s := by
  apply (select_runs calm _).bind
  intro there s₁ read
  obtain ⟨rfl, same⟩ := select_ok read
  split
  next present =>
    apply (select_runs calm _).bind
    intro row s₂ read'
    obtain ⟨rfl, _⟩ := select_ok read'
    rw [TaskDatabase.accountingVersion, if_pos present] at supports
    rw [same]
    cases found : s.1.contract.lookup "failure_accounting" with
    | none => exact .pure none
    | some v =>
      rw [found] at supports
      cases supports nofun
      exact .pure (some 1)
  next => exact .pure none

theorem resetBody_runs (approved : expected = digest s.1.contents) (unrefused : ¬ Refused lib s.1)
    (unversioned : s.1.accountingVersion = none) :
    Runs (resetBody world lib digest expected) s := by
  apply (bracket_runs calm).bind
  intro _ s₁ begun
  have same := bracket_ok begun
  apply (version_runs calm (by rw [same]; exact fun present => absurd unversioned present)).bind
  intro v s₂ read
  obtain ⟨rfl, same'⟩ := version_ok read
  rw [same] at same'
  rw [same, unversioned]
  apply Runs.bind
  · apply cutOver_runs calm <;> rw [same'] <;> assumption
  intro _ s₃ _
  apply (bracket_runs calm).bind
  intro _ s₄ _
  exact .pure true

theorem resetBody_runs_versioned (recorded : s.1.accountingVersion = some 1) :
    Runs (resetBody world lib digest expected) s := by
  apply (bracket_runs calm).bind
  intro _ s₁ begun
  have same := bracket_ok begun
  apply (version_runs calm (by rw [same]; exact fun _ => recorded)).bind
  intro v s₂ read
  obtain ⟨rfl, _⟩ := version_ok read
  rw [same, recorded]
  apply (bracket_runs calm).bind
  intro _ s₃ _
  exact .pure false

omit calm

/-! ### Any number of calls -/

/-- The state that the reset of an unversioned store is to leave. -/
structure ResetTo (lib : SqlLibrary) (db db' : TaskDatabase) : Prop extends Frame db db' where
  tasks : db'.tasks = db.tasks.map BudgetRow.reset
  schema : ∃ more, db'.master = db.master ++ more
  contract : ∃ more, db'.contractRows = db.contractRows ++ more
  recorded : db'.accountingVersion = some 1
  history : ∃ added, db'.historyRows = db.historyRows ++ added ∧
    ∀ row ∈ db.tasks, ∃ line ∈ added, Accounts lib row line

structure Call (δ : Type) where
  expected : δ
  world : World := {}

/-- The calls on a store that has its contract: each leaves it as it is, and returns `False` unless
a statement fails. -/
def Settled (lib : SqlLibrary) (digest : Contents → δ) : TaskDatabase → List (Call δ) → Prop
  | _, [] => True
  | db, call :: rest =>
    let (result, db') := resetBudget call.world lib digest call.expected db
    db' = db ∧ result ≠ .ok true ∧ ((∀ k, call.world.fails k = false) → result = .ok false) ∧
      Settled lib digest db' rest

/-- The calls on an unversioned store: each raises and leaves it as it is, until one commits the
reset, to the snapshot it was given. -/
def Behaves (lib : SqlLibrary) (digest : Contents → δ) : TaskDatabase → List (Call δ) → Prop
  | _, [] => True
  | db, call :: rest =>
    match resetBudget call.world lib digest call.expected db with
    | (.error _, db') => db' = db ∧ Behaves lib digest db' rest
    | (.ok changed, db') =>
      changed = true ∧ ResetTo lib db db' ∧
        (∀ approved : TaskDatabase, call.expected = digest approved.contents →
          db.contents = approved.contents) ∧
        Settled lib digest db' rest

/-- A task has no id, or the entries of the reset have no table, or its contract is not found. -/
def Unaccountable (db : TaskDatabase) : Prop :=
  (∃ row ∈ db.tasks, row.taskId = none) ∨ (HistoryLost db ∧ db.tasks ≠ []) ∨ Miscased db

theorem CutTo.resetTo_iff {db db' : TaskDatabase} (cut : CutTo lib db db') :
    ResetTo lib db db' ↔ ¬ Unaccountable db := by
  constructor
  · rintro reset (⟨row, listed, unnamed⟩ | ⟨lost, tasks⟩ | miscased)
    · have same := cut.tasks.symm.trans reset.tasks
      have both := List.map_inj_left.mp same row listed
      rw [unnamed, if_neg (by simp)] at both
      have version := congrArg BudgetRow.version both
      have : row.version = row.version + 1 := version
      omega
    · obtain ⟨added, appended, none_, _⟩ := cut.history
      obtain ⟨added', appended', entries⟩ := reset.history
      rw [none_ lost] at appended
      have empty : added' = [] := by
        rw [appended] at appended'
        exact (List.append_cancel_left appended').symm
      obtain ⟨row, listed⟩ := List.exists_mem_of_ne_nil _ tasks
      obtain ⟨line, entered, _⟩ := entries row listed
      rw [empty] at entered
      exact nomatch entered
    · exact cut.recorded.mp reset.recorded miscased
  · intro accountable
    rw [Unaccountable, not_or, not_or] at accountable
    have named {row : BudgetRow} (listed : row ∈ db.tasks) : row.taskId.isSome = true := by
      rw [Option.isSome_iff_ne_none]
      exact fun unnamed => accountable.1 ⟨row, listed, unnamed⟩
    refine ⟨cut.toFrame, ?_, cut.schema, cut.contract, cut.recorded.mpr accountable.2.2, ?_⟩
    · rw [cut.tasks]
      apply List.map_congr_left
      intro row listed
      rw [if_pos (named listed)]
    · obtain ⟨added, appended, _, entries⟩ := cut.history
      refine ⟨added, appended, fun row listed => ?_⟩
      apply entries _ row listed (named listed)
      intro lost
      exact accountable.2.1 ⟨lost, List.ne_nil_of_mem listed⟩

theorem resetBudget_versioned (lib : SqlLibrary) (digest : Contents → δ) {db : TaskDatabase}
    (call : Call δ) (recorded : db.accountingVersion = some 1) :
    (resetBudget call.world lib digest call.expected db).2 = db ∧
      (resetBudget call.world lib digest call.expected db).1 ≠ .ok true ∧
      ((∀ k, call.world.fails k = false) →
        (resetBudget call.world lib digest call.expected db).1 = .ok false) := by
  rw [resetBudget]
  cases ran : resetBody call.world lib digest call.expected (db, 0) with
  | error fault =>
    refine ⟨rfl, nofun, fun calm => ?_⟩
    have runs : Runs (resetBody call.world lib digest call.expected) (db, 0) :=
      resetBody_runs_versioned calm recorded
    obtain ⟨_, _, ran'⟩ := runs
    exact absurd (ran.symm.trans ran') nofun
  | ok r =>
    obtain ⟨changed, s⟩ := r
    obtain ⟨which, moved⟩ := resetBody_ok ran
    have same : changed = false := by
      rw [which, recorded]
      rfl
    rw [same, if_neg nofun] at moved
    rw [same]
    exact ⟨moved, nofun, fun _ => rfl⟩

theorem settled {db : TaskDatabase} (recorded : db.accountingVersion = some 1)
    (calls : List (Call δ)) : Settled lib digest db calls := by
  induction calls with
  | nil => trivial
  | cons call rest ih =>
    obtain ⟨same, never, calm⟩ := resetBudget_versioned lib digest call recorded
    have later : Settled lib digest
        (resetBudget call.world lib digest call.expected db).2 rest := by
      rw [same]
      exact ih
    exact ⟨same, never, calm, later⟩

theorem behaves (apart : Function.Injective digest) {db : TaskDatabase}
    (unversioned : db.accountingVersion = none)
    (condition : Refused lib db ∨ ¬ Unaccountable db) (calls : List (Call δ)) :
    Behaves lib digest db calls := by
  induction calls with
  | nil => trivial
  | cons call rest ih =>
    rw [Behaves, resetBudget]
    cases ran : resetBody call.world lib digest call.expected (db, 0) with
    | error fault => exact ⟨rfl, ih⟩
    | ok r =>
      obtain ⟨changed, db', k⟩ := r
      obtain ⟨which, moved⟩ := resetBody_ok ran
      have changes : changed = true := by
        rw [which, unversioned]
        rfl
      rw [if_pos changes] at moved
      obtain ⟨expects, unrefused, cut⟩ := moved
      have reset := cut.resetTo_iff.mpr (condition.resolve_left unrefused)
      refine ⟨changes, reset, ?_, settled reset.recorded rest⟩
      intro approved same
      exact apart (expects.symm.trans same)

/-- The call with the fingerprint of the store itself, none of whose statements fails. -/
theorem not_behaves {db : TaskDatabase} (unversioned : db.accountingVersion = none)
    (unrefused : ¬ Refused lib db) (unaccountable : Unaccountable db) :
    ¬ Behaves lib digest db [{ expected := digest db.contents }] := by
  have runs : Runs (resetBody {} lib digest (digest db.contents)) (db, 0) :=
    resetBody_runs (fun _ => rfl) rfl unrefused unversioned
  obtain ⟨changed, s, ran⟩ := runs
  obtain ⟨which, moved⟩ := resetBody_ok ran
  have changes : changed = true := by
    rw [which, unversioned]
    rfl
  rw [if_pos changes] at moved
  rw [Behaves, resetBudget]
  dsimp only
  rw [ran]
  rintro ⟨_, reset, _⟩
  exact moved.2.2.resetTo_iff.mp reset unaccountable

theorem resetBudget_behaves_iff (apart : Function.Injective digest) {db : TaskDatabase}
    (unversioned : db.accountingVersion = none) :
    (∀ calls, Behaves lib digest db calls) ↔ Refused lib db ∨ ¬ Unaccountable db := by
  constructor
  · intro all
    by_contra neither
    rw [not_or, not_not] at neither
    exact not_behaves unversioned neither.1 neither.2 (all _)
  · exact behaves apart unversioned

/-! A worker's task, in a store without a history and in one that lost it. -/

def plainLibrary : SqlLibrary where
  reprFloat q := toString q
  reprBytes _ := "b''"
  intOfText := String.toInt?
  intOfBytes _ := none

def managedTasks : SchemaObject where
  kind := "table"
  name := "managed_tasks"
  tblName := "managed_tasks"
  sql := managedTasksDdl

def workerRow : BudgetRow where
  taskId := some "t"
  epoch := 4
  attempts := 3
  version := 7
  columns := [("checkpoint", .text "progress")]

def workerStore : TaskDatabase where
  master := [managedTasks]
  tasks := [workerRow]

def lostStore : TaskDatabase where
  master := [managedTasks, contractTable]
  tasks := [workerRow]
  contract := [("task_history", 1)]

set_option maxRecDepth 20000 in
theorem quote_not_mem_ddl : '"' ∉ managedTasksDdl.toList := by
  unfold managedTasksDdl
  rw [String.toList_ofList]
  decide +kernel

theorem TaskDatabase.isCurrent_of_ddl {db : TaskDatabase}
    (schema : db.taskSchema = some managedTasksDdl) : db.isCurrent = true := by
  have quoted : "\"managed_tasks\"".toList = '"' :: "managed_tasks\"".toList := by decide +kernel
  rw [TaskDatabase.isCurrent, schema, Option.any_some, unquoted, quoted,
    replaceAll_of_not_mem quote_not_mem_ddl]
  exact decide_eq_true rfl

theorem workerStore_unrefused : ¬ Refused plainLibrary workerStore := by
  rintro (stale | (⟨_, taken⟩ | taken | taken | ⟨entity, _, there, row, listed, unmade⟩) | taken)
  · exact absurd (stale.symm.trans (TaskDatabase.isCurrent_of_ddl rfl)) nofun
  · exact absurd taken (by decide)
  · exact absurd taken (by decide)
  · exact absurd taken (by decide)
  · cases entity with
    | task =>
      cases List.mem_singleton.mp listed
      have made := unmade 0
      rw [baselineEntry_eq, if_pos (by decide)] at made
      exact nomatch made
    | _ => exact absurd there (by decide)
  · exact taken rfl

/-- A store without a history that is not refused, and where the calls behave. -/
theorem workerStore_behaves : ¬ Refused plainLibrary workerStore ∧
    ∀ calls, Behaves plainLibrary id workerStore calls := by
  refine ⟨workerStore_unrefused, ?_⟩
  apply (resetBudget_behaves_iff Function.injective_id rfl).mpr
  right
  rintro (⟨row, listed, unnamed⟩ | ⟨⟨recorded, _⟩, _⟩ | ⟨found, _⟩)
  · cases List.mem_singleton.mp listed
    exact nomatch unnamed
  · exact absurd recorded (by decide)
  · exact absurd found (by decide)

/-- The contract names a history of which the table is gone: the reset commits without an entry. -/
theorem lostStore_not_behaves :
    ¬ Behaves plainLibrary id lostStore [{ expected := lostStore.contents }] := by
  have unrefused : ¬ Refused plainLibrary lostStore := by
    rintro (stale | (⟨absent, _⟩ | other) | taken)
    · exact absurd (stale.symm.trans (TaskDatabase.isCurrent_of_ddl rfl)) nofun
    · exact absurd absent (by decide)
    · exact absurd rfl other
    · exact taken rfl
  exact not_behaves rfl unrefused (.inr (.inl ⟨⟨rfl, rfl⟩, nofun⟩))

end SightMesh.Accounting
