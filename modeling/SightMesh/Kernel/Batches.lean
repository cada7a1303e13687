import SightMesh.Kernel.Changes

/-! What a start batch inserts. -/
namespace SightMesh

open Database Python

def Store.acceptsSpec (db : Store) (scope : String) (spec : TaskSpec) : Bool :=
  match db.findByKey scope spec.key with
  | some row => row.spec = spec
  | none => (db.task (taskIdOf scope spec.key)).isNone

def Store.insertNew (scope : String) (parentTaskId : Option TaskId) (maxAttempts : ℕ) (now : Time)
    (db : Store) (spec : TaskSpec) : Store :=
  if (db.findByKey scope spec.key).isSome then db
  else db.putTask (.reserved scope parentTaskId maxAttempts spec now)

variable {scope : String} {parentTaskId : Option TaskId} {maxAttempts : ℕ} {now : Time}
  {db : Store} {specs : List TaskSpec}

theorem reserveOne_run (spec : TaskSpec) (db : Store) :
    db.acceptsSpec scope spec = true ∧
        (∃ answer, reserveOne scope parentTaskId maxAttempts now spec db =
          .ok (answer, db.insertNew scope parentTaskId maxAttempts now spec)) ∨
      db.acceptsSpec scope spec = false ∧
        ∃ e, reserveOne scope parentTaskId maxAttempts now spec db = .error e := by
  simp only [reserveOne, get_bind_run, Store.acceptsSpec, Store.insertNew]
  cases found : db.findByKey scope spec.key with
  | some row =>
    by_cases same : row.spec = spec
    · left
      simp [same]
    · right
      simp [same]
  | none =>
    have named : (TaskRow.reserved scope parentTaskId maxAttempts spec now).taskId =
        taskIdOf scope spec.key := rfl
    cases taken : db.task (taskIdOf scope spec.key) with
    | none =>
      left
      simp only [get_bind_run, named, taken]
      exact ⟨rfl, _, rfl⟩
    | some row =>
      right
      simp [named, taken]

/-! ### Other keys -/

theorem taskIdOf_inj {key other : String} : taskIdOf scope key = taskIdOf scope other ↔ key = other := by
  simp [taskIdOf, String.ext_iff]

theorem Store.findByKey_putTask {row : TaskRow} (fresh : db.task row.taskId = none) {key : String}
    (apart : row.key ≠ key) : (db.putTask row).findByKey scope key = db.findByKey scope key := by
  have fresh := Table.get_eq_none_iff.mp fresh
  rw [Store.findByKey, Store.putTask, Table.rows_put_new fresh, List.find?_append]
  simp [Store.findByKey, apart]

theorem Store.insertNew_other {spec other : TaskSpec} (accepted : db.acceptsSpec scope spec = true)
    (apart : spec.key ≠ other.key) :
    (db.insertNew scope parentTaskId maxAttempts now spec).findByKey scope other.key =
        db.findByKey scope other.key ∧
      (db.insertNew scope parentTaskId maxAttempts now spec).task (taskIdOf scope other.key) =
        db.task (taskIdOf scope other.key) := by
  unfold Store.insertNew
  split
  · exact ⟨rfl, rfl⟩
  · rename_i missing
    rw [Option.not_isSome_iff_eq_none] at missing
    rw [Store.acceptsSpec, missing, Option.isNone_iff_eq_none] at accepted
    constructor
    · exact findByKey_putTask accepted apart
    · rw [Store.task_putTask, if_neg]
      intro same
      exact apart (taskIdOf_inj.mp same).symm

theorem Store.acceptsSpec_insertNew {spec other : TaskSpec}
    (accepted : db.acceptsSpec scope spec = true) (apart : spec.key ≠ other.key) :
    (db.insertNew scope parentTaskId maxAttempts now spec).acceptsSpec scope other =
      db.acceptsSpec scope other := by
  obtain ⟨found, taken⟩ := insertNew_other accepted apart
  rw [acceptsSpec, found, taken, acceptsSpec]

/-- The loop goes through if and only if every spec is accepted, and then inserts the new keys. -/
theorem reserveLoop_run (distinct : (specs.map fun spec => spec.key).Nodup) (db : Store) :
    specs.all (db.acceptsSpec scope) = true ∧
        (∃ answers, specs.mapM (reserveOne scope parentTaskId maxAttempts now) db =
          .ok (answers, specs.foldl (Store.insertNew scope parentTaskId maxAttempts now) db)) ∨
      specs.all (db.acceptsSpec scope) = false ∧
        ∃ e, specs.mapM (reserveOne scope parentTaskId maxAttempts now) db = .error e := by
  apply loop_run (reserveOne_run ·) _ db
  rw [List.Nodup, List.pairwise_map] at distinct
  apply distinct.imp
  intro spec other apart db accepted
  exact Store.acceptsSpec_insertNew accepted apart

theorem Store.insertNew_keeps {spec : TaskSpec} (accepted : db.acceptsSpec scope spec = true)
    {t : TaskId} {row : TaskRow} (known : db.task t = some row) :
    (db.insertNew scope parentTaskId maxAttempts now spec).task t = some row := by
  unfold Store.insertNew
  split
  · exact known
  · rename_i missing
    rw [Option.not_isSome_iff_eq_none] at missing
    rw [Store.acceptsSpec, missing, Option.isNone_iff_eq_none] at accepted
    rw [Store.task_putTask, if_neg]
    · exact known
    · rintro rfl
      exact nomatch accepted.symm.trans known

/-- The specs of a batch, each accepted, and no two with one key. -/
structure Store.AcceptsAll (db : Store) (scope : String) (specs : List TaskSpec) : Prop where
  distinct : (specs.map fun spec => spec.key).Nodup
  accepted : ∀ spec ∈ specs, db.acceptsSpec scope spec = true

theorem Store.AcceptsAll.tail {spec : TaskSpec} (h : db.AcceptsAll scope (spec :: specs))
    (parentTaskId : Option TaskId) (maxAttempts : ℕ) (now : Time) :
    (∀ other ∈ specs, spec.key ≠ other.key) ∧
      (db.insertNew scope parentTaskId maxAttempts now spec).AcceptsAll scope specs := by
  obtain ⟨distinct, accepted⟩ := h
  rw [List.map_cons, List.nodup_cons] at distinct
  rw [List.forall_mem_cons] at accepted
  have apart : ∀ other ∈ specs, spec.key ≠ other.key := by
    intro other listed same
    apply distinct.1
    rw [same]
    exact List.mem_map_of_mem listed
  refine ⟨apart, distinct.2, fun other listed => ?_⟩
  rw [acceptsSpec_insertNew accepted.1 (apart other listed)]
  exact accepted.2 other listed

theorem Store.AcceptsAll.keeps (h : db.AcceptsAll scope specs) {t : TaskId} {row : TaskRow}
    (known : db.task t = some row) :
    (specs.foldl (Store.insertNew scope parentTaskId maxAttempts now) db).task t = some row := by
  induction specs generalizing db with
  | nil => exact known
  | cons spec rest ih =>
    exact ih (h.tail ..).2 (insertNew_keeps (h.accepted spec List.mem_cons_self) known)

theorem Store.AcceptsAll.inserts (h : db.AcceptsAll scope specs) {spec : TaskSpec}
    (listed : spec ∈ specs) (missing : db.findByKey scope spec.key = none) :
    (specs.foldl (Store.insertNew scope parentTaskId maxAttempts now) db).task
      (taskIdOf scope spec.key) = some (.reserved scope parentTaskId maxAttempts spec now) := by
  induction specs generalizing db with
  | nil => exact nomatch listed
  | cons head rest ih =>
    have accepted := h.accepted head List.mem_cons_self
    obtain ⟨apart, tail⟩ := h.tail parentTaskId maxAttempts now
    rw [List.foldl_cons]
    obtain rfl | listed := List.mem_cons.mp listed
    · apply tail.keeps
      rw [Store.insertNew, missing]
      exact Store.task_putTask_self ..
    · apply ih tail listed
      rw [(insertNew_other accepted (apart spec listed)).1]
      exact missing

theorem Store.insertNew_known (found : ∀ spec ∈ specs, (db.findByKey scope spec.key).isSome) :
    specs.foldl (Store.insertNew scope parentTaskId maxAttempts now) db = db := by
  induction specs with
  | nil => rfl
  | cons spec rest ih =>
    rw [List.foldl_cons, Store.insertNew, if_pos (found spec List.mem_cons_self)]
    exact ih fun other listed => found other (List.mem_cons_of_mem _ listed)

/-! ### The whole batch -/

def Store.withinChildLimit (db : Store) (scope : String) (parentTaskId : Option TaskId)
    (specs : List TaskSpec) : Bool :=
  match present parentTaskId with
  | none => true
  | some parentId => (db.task parentId).any fun parent =>
      decide ((db.tasks.rows.filter fun r => r.parentTaskId = some parentId).length +
        (specs.filter fun spec => (db.findByKey scope spec.key).isNone).length ≤ parent.childLimit)

def Store.admits (db : Store) (scope : String) (parentTaskId : Option TaskId)
    (specs : List TaskSpec) : Bool :=
  decide (specs.map fun spec => spec.key).Nodup && db.withinChildLimit scope parentTaskId specs &&
    specs.all (db.acceptsSpec scope)

theorem checkChildLimit_run (scope : String) (parentTaskId : Option TaskId)
    (specs : List TaskSpec) (db : Store) :
    db.withinChildLimit scope parentTaskId specs = true ∧
        checkChildLimit scope parentTaskId specs db = .ok ((), db) ∨
      db.withinChildLimit scope parentTaskId specs = false ∧
        ∃ e, checkChildLimit scope parentTaskId specs db = .error e := by
  unfold checkChildLimit Store.withinChildLimit
  cases present parentTaskId with
  | none => exact .inl ⟨rfl, rfl⟩
  | some parentId =>
    simp only [get_bind_run]
    cases db.task parentId with
    | none => simp
    | some parent =>
      by_cases within : (db.tasks.rows.filter fun r => r.parentTaskId = some parentId).length +
          (specs.filter fun spec => (db.findByKey scope spec.key).isNone).length ≤ parent.childLimit
      · simp [within, not_lt.mpr within]
      · simp [within, not_le.mp within]

theorem reserveAll_run (some_ : specs ≠ []) (db : Store) :
    (∃ answers, reserveAll scope parentTaskId specs maxAttempts now db =
        .ok (answers, specs.foldl (Store.insertNew scope parentTaskId maxAttempts now) db)) ∧
        db.admits scope parentTaskId specs = true ∨
      (∀ r, reserveAll scope parentTaskId specs maxAttempts now db ≠ .ok r) ∧
        db.admits scope parentTaskId specs = false := by
  have some_ : specs.isEmpty = false := by simpa using some_
  simp only [reserveAll, some_, Bool.false_eq_true, if_false, ne_eq, wrapping_ok, Store.admits]
  by_cases distinct : (specs.map fun spec => spec.key).Nodup
  · rw [if_neg (not_not.mpr distinct), decide_eq_true distinct, Bool.true_and]
    obtain ⟨within, checked⟩ | ⟨beyond, e, refused⟩ :=
      checkChildLimit_run scope parentTaskId specs db
    · rw [bind_after checked, within, Bool.true_and]
      obtain ⟨all, answers, ran⟩ | ⟨some_, e, raised⟩ := reserveLoop_run distinct db
      · exact .inl ⟨⟨answers, ran⟩, all⟩
      · right
        simp [raised, some_]
    · right
      simp [bind_raised refused, beyond]
  · right
    simp [distinct]

/-- A batch inserts its new keys, or nothing. -/
theorem reserveAll_exec (scope : String) (parentTaskId : Option TaskId) (specs : List TaskSpec)
    (maxAttempts : ℕ) (now : Time) (db : Store) :
    ((Tx.reserveAll scope parentTaskId specs maxAttempts now).exec db).1 =
      if db.admits scope parentTaskId specs then
        specs.foldl (Store.insertNew scope parentTaskId maxAttempts now) db
      else db := by
  by_cases empty : specs = []
  · subst empty
    simp [Tx.exec, reserveAll, atomically]
  obtain ⟨⟨answers, ran⟩, admitted⟩ | ⟨refused, rejected⟩ := reserveAll_run empty db
  · rw [admitted, if_pos rfl]
    exact congrArg Prod.fst (atomically_ok ran)
  · rw [rejected, if_neg Bool.false_ne_true]
    obtain ⟨a, db', ran, _⟩ | ⟨e, _, left⟩ :=
      atomically_cases (reserveAll scope parentTaskId specs maxAttempts now) db
    · exact absurd ran (refused _)
    · exact congrArg Prod.fst left

end SightMesh
