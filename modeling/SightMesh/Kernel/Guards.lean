import SightMesh.Database.Transaction
import SightMesh.Kernel.Transactions

/-! What a guarded transition accepts and leaves, and what the writes beside it may touch. -/
namespace SightMesh

open Database Python

variable {α β : Type}

theorem atomically_ok {body : Txn α} {db db' : Store} {a : α} (ran : body db = .ok (a, db')) :
    atomically body db = (db', .ok a) := by
  simp [atomically, ran]

theorem atomically_error {body : Txn α} {db : Store} {e : KernelError}
    (ran : body db = .error e) : atomically body db = (db, .error e) := by
  simp [atomically, ran]

/-- A transaction commits what its body did, or nothing. -/
theorem atomically_cases (body : Txn α) (db : Store) :
    (∃ a db', body db = .ok (a, db') ∧ atomically body db = (db', .ok a)) ∨
      ∃ e, body db = .error e ∧ atomically body db = (db, .error e) := by
  cases ran : body db with
  | error e => exact .inr ⟨e, rfl, atomically_error ran⟩
  | ok r => exact .inl ⟨r.1, r.2, rfl, atomically_ok ran⟩

/-- A transaction that answered committed its body. -/
theorem atomically_answer {body : Txn α} {db : Store} {a : α}
    (answer : (atomically body db).2 = .ok a) : body db = .ok (a, (atomically body db).1) := by
  obtain ⟨b, db', ran, left⟩ | ⟨e, _, left⟩ := atomically_cases body db
  · rw [left] at answer ⊢
    cases answer
    exact ran
  · rw [left] at answer
    exact nomatch answer

theorem wrapping_ok {prefixed : String} {body : Txn α} {db : Store} {r : α × Store} :
    wrapping prefixed body db = .ok r ↔ body db = .ok r := by
  unfold wrapping
  split
  · rename_i failed
    simp [failed]
  · rename_i failed
    simp [failed]
  · rfl

theorem atomically_moves {R : Store → Store → Prop} {body : Txn α} (moves : Moves R body)
    (refl : ∀ db, R db db) (db : Store) : R db (atomically body db).1 := by
  obtain ⟨a, db', ran, committed⟩ | ⟨e, _, rolledBack⟩ := atomically_cases body db
  · rw [committed]
    exact moves _ _ _ ran
  · rw [rolledBack]
    exact refl db

/-! ### Rows -/

theorem Store.taskId_of_task {db : Store} {t : TaskId} {row : TaskRow}
    (known : db.task t = some row) : row.taskId = t := by
  have named : row.id = t := Table.key_of_get known
  exact named

theorem Store.task_putTask (db : Store) (row : TaskRow) (t : TaskId) :
    (db.putTask row).task t = if t = row.taskId then some row else db.task t :=
  Table.get_put db.tasks row t

theorem Store.task_putTask_self (db : Store) (row : TaskRow) :
    (db.putTask row).task row.taskId = some row := by
  simp [Store.task_putTask]

@[simp] theorem Store.putTask_effects (db : Store) (row : TaskRow) :
    (db.putTask row).effects = db.effects := rfl
@[simp] theorem Store.putTask_wakes (db : Store) (row : TaskRow) :
    (db.putTask row).wakes = db.wakes := rfl
@[simp] theorem Store.putTask_ownerships (db : Store) (row : TaskRow) :
    (db.putTask row).ownerships = db.ownerships := rfl

@[simp] theorem TaskRow.moved_identity (row : TaskRow) (assign : Lifecycle → Lifecycle)
    (observe : Health → Health) (now : Time) :
    (row.moved assign observe now).toIdentity = row.toIdentity := rfl

/-- The row a guarded transition accepts, and what it leaves. -/
theorem transition_ok {t : TaskId} {expectStates : List TaskState} {expectVersion : Option ℕ}
    {assign : Lifecycle → Lifecycle} {observe : Health → Health} {attempted : String} {now : Time}
    {db : Store} {r : TaskRecord × Store} :
    transition t expectStates expectVersion assign observe attempted now db = .ok r ↔
      ∃ row, db.task t = some row ∧ row.state ∈ expectStates ∧
        (expectVersion = none ∨ expectVersion = some row.version) ∧
        db.holderTaken (row.moved assign observe now) = false ∧
        r = ((row.moved assign observe now).toTaskRecord,
          db.putTask (row.moved assign observe now)) := by
  simp only [transition, get_bind_run]
  cases known : db.task t with
  | none => simp
  | some row =>
    simp only [Option.some.injEq, exists_eq_left']
    by_cases accepted : row.state ∈ expectStates ∧
        (expectVersion = none ∨ expectVersion = some row.version)
    · cases taken : db.holderTaken (row.moved assign observe now) with
      | true => simp [accepted, taken]
      | false =>
        rw [if_pos accepted, get_bind_run, taken, if_neg Bool.false_ne_true, modify_bind_run,
          pure_run, Except.ok.injEq]
        exact ⟨fun same => ⟨accepted.1, accepted.2, rfl, same.symm⟩, fun same => same.2.2.2.symm⟩
    · simp only [if_neg accepted, throw_run, reduceCtorEq, false_iff]
      exact fun legal => accepted ⟨legal.1, legal.2.1⟩

theorem transaction_ok {t : TaskId} {expectStates : List TaskState} {expectVersion : Option ℕ}
    {assign : Lifecycle → Lifecycle} {attempted : String} {now : Time} {db : Store}
    {r : TaskRecord × Store} :
    transaction t expectStates expectVersion assign attempted now db = .ok r ↔
      ∃ row, db.task t = some row ∧ row.state ∈ expectStates ∧
        (expectVersion = none ∨ expectVersion = some row.version) ∧
        db.holderTaken (row.moved assign id now) = false ∧
        r = ((row.moved assign id now).toTaskRecord, db.putTask (row.moved assign id now)) := by
  rw [transaction, wrapping_ok, transition_ok]

/-- A transition as a transaction of its own writes the row it accepts, or nothing. -/
theorem transaction_exec {t : TaskId} {expectStates : List TaskState} {expectVersion : Option ℕ}
    {assign : Lifecycle → Lifecycle} {attempted : String} {now : Time} {db : Store} {row : TaskRow}
    (known : db.task t = some row) :
    (atomically (transaction t expectStates expectVersion assign attempted now) db).1 =
      if row.state ∈ expectStates ∧ (expectVersion = none ∨ expectVersion = some row.version) ∧
          db.holderTaken (row.moved assign id now) = false then
        db.putTask (row.moved assign id now)
      else db := by
  split
  · rename_i accepted
    have ran : transaction t expectStates expectVersion assign attempted now db =
        .ok ((row.moved assign id now).toTaskRecord, db.putTask (row.moved assign id now)) :=
      transaction_ok.mpr ⟨row, known, accepted.1, accepted.2.1, accepted.2.2, rfl⟩
    rw [atomically_ok ran]
  · rename_i refused
    obtain ⟨answer, db', ran, _⟩ | ⟨e, _, left⟩ :=
      atomically_cases (transaction t expectStates expectVersion assign attempted now) db
    · obtain ⟨row', found, before, version, free, _⟩ := transaction_ok.mp ran
      cases Option.some.inj (known.symm.trans found)
      exact absurd ⟨before, version, free⟩ refused
    · rw [left]

theorem transaction_exec_none {t : TaskId} {expectStates : List TaskState}
    {expectVersion : Option ℕ} {assign : Lifecycle → Lifecycle} {attempted : String} {now : Time}
    {db : Store} (absent : db.task t = none) :
    (atomically (transaction t expectStates expectVersion assign attempted now) db).1 = db := by
  obtain ⟨answer, db', ran, _⟩ | ⟨e, _, left⟩ :=
    atomically_cases (transaction t expectStates expectVersion assign attempted now) db
  · obtain ⟨row, found, _⟩ := transaction_ok.mp ran
    exact nomatch absent.symm.trans found
  · rw [left]

def Lifecycle.finished (l : Lifecycle) (maxAttempts : ℕ) (state : TaskState)
    (result : Option String) (chargeFailure : Bool) : Lifecycle :=
  if state = .lost ∨ chargeFailure then
    if l.attempts + 1 ≥ maxAttempts then
      { l with
        state := .exhausted
        attempts := l.attempts + 1
        result := some ("exhausted: " ++ orText result state.name) }
    else { l with state := state, attempts := l.attempts + 1, result := result }
  else if state = .exhausted then
    { l with
      state := .exhausted
      attempts := l.attempts + 1
      result := some ("exhausted: " ++ orText result "failed") }
  else { l with state := state, result := result }

/-- The guards of `finish`: a legal predecessor, and a budget that is left where it charges. -/
def Lifecycle.Finishable (l : Lifecycle) (maxAttempts : ℕ) (state : TaskState)
    (chargeFailure : Bool) : Prop :=
  (∃ predecessors, finishPredecessors state = some predecessors ∧ l.state ∈ predecessors) ∧
    (state = .lost ∨ chargeFailure → l.attempts < maxAttempts)

def TaskRow.finish (row : TaskRow) (state : TaskState) (result : Option String)
    (chargeFailure : Bool) (now : Time) : TaskRow :=
  row.moved (fun l => l.finished row.maxAttempts state result chargeFailure)
    (fun health => health) now

theorem moved_finished (row : TaskRow) (state : TaskState) (result : Option String)
    (chargeFailure : Bool) {assign : Lifecycle → Lifecycle}
    (same : assign row.toLifecycle =
      row.toLifecycle.finished row.maxAttempts state result chargeFailure) (now : Time) :
    row.moved assign id now = row.finish state result chargeFailure now := by
  simp only [TaskRow.finish, TaskRow.moved, same, id_def]

theorem finish_ok {t : TaskId} {state : TaskState} {result : Option String}
    {expectVersion : Option ℕ} {chargeFailure : Bool} {now : Time} {db : Store}
    {r : TaskRecord × Store} :
    SightMesh.finish t state result expectVersion chargeFailure now db = .ok r ↔
      ∃ row, db.task t = some row ∧
        row.toLifecycle.Finishable row.maxAttempts state chargeFailure ∧
        (expectVersion = none ∨ expectVersion = some row.version) ∧
        db.holderTaken (row.finish state result chargeFailure now) = false ∧
        r = ((row.finish state result chargeFailure now).toTaskRecord,
          db.putTask (row.finish state result chargeFailure now)) := by
  unfold SightMesh.finish
  cases legal : finishPredecessors state with
  | none => simp [Lifecycle.Finishable, legal]
  | some predecessors =>
    have guarded (row : TaskRow) :
        row.toLifecycle.Finishable row.maxAttempts state chargeFailure ↔
        row.state ∈ predecessors ∧
          (state = .lost ∨ chargeFailure → row.attempts < row.maxAttempts) := by
      simp [Lifecycle.Finishable, legal]
    dsimp only
    by_cases charged : state = .lost ∨ chargeFailure
    · simp only [if_pos charged, recordFailure, get_bind_run]
      cases known : db.task t with
      | none => simp
      | some row =>
        simp only [Option.some.injEq, exists_eq_left', guarded]
        by_cases spent : row.attempts ≥ row.maxAttempts
        · simp only [if_pos spent, throw_bind_run, reduceCtorEq, false_iff]
          exact fun accepted => absurd (accepted.1.2 charged) (by omega)
        · have left : row.attempts < row.maxAttempts := by omega
          by_cases last : row.attempts + 1 ≥ row.maxAttempts
          · simp only [if_neg spent, if_pos last, transition_ok, known,
              Option.some.injEq, exists_eq_left', left, implies_true, and_true]
            rw [moved_finished row state result chargeFailure (by
              simp [Lifecycle.finished, charged, last])]
          · simp only [if_neg spent, if_neg last, transition_ok, known,
              Option.some.injEq, exists_eq_left', left, implies_true, and_true]
            rw [moved_finished row state result chargeFailure (by
              simp [Lifecycle.finished, charged, last])]
    · rw [if_neg charged]
      simp only [guarded, charged, false_implies, and_true]
      by_cases exhausting : state = .exhausted
      · rw [if_pos exhausting]
        simp only [recordExhaustion, transition_ok]
        refine exists_congr fun row => ?_
        rw [moved_finished row state result chargeFailure (by
              rw [Lifecycle.finished, if_neg charged, if_pos exhausting])]
      · rw [if_neg exhausting, transition_ok]
        refine exists_congr fun row => ?_
        rw [moved_finished row state result chargeFailure (by
              simp [Lifecycle.finished, charged, exhausting])]

/-! ### Observations

What the wake outbox and the detector write on a row: never its identity or its lifecycle, and
its cohort counter only upwards. -/

structure TaskRow.Observed (row next : TaskRow) : Prop where
  identity : next.toIdentity = row.toIdentity
  lifecycle : next.toLifecycle = row.toLifecycle
  events : row.childEventSeq ≤ next.childEventSeq
  woken : next.lastWokenSeq = row.lastWokenSeq

theorem TaskRow.Observed.refl (row : TaskRow) : row.Observed row :=
  ⟨rfl, rfl, le_rfl, rfl⟩

theorem TaskRow.Observed.trans {a b c : TaskRow} (first : a.Observed b) (second : b.Observed c) :
    a.Observed c where
  identity := second.identity.trans first.identity
  lifecycle := second.lifecycle.trans first.lifecycle
  events := first.events.trans second.events
  woken := second.woken.trans first.woken

/-- No row is inserted, and every row is at most observed. -/
structure Store.Observed (db db' : Store) : Prop where
  kept : ∀ t row, db.task t = some row → ∃ next, db'.task t = some next ∧ row.Observed next
  fresh : ∀ t, db.task t = none → db'.task t = none

theorem Store.Observed.refl (db : Store) : db.Observed db :=
  ⟨fun _ row known => ⟨row, known, .refl row⟩, fun _ absent => absent⟩

theorem Store.Observed.of_tasks {db db' : Store} (same : db'.tasks = db.tasks) :
    db.Observed db' := by
  have kept (t : TaskId) : db'.task t = db.task t := by rw [Store.task, same]; rfl
  exact ⟨fun t row known => ⟨row, (kept t).trans known, .refl row⟩,
    fun t absent => (kept t).trans absent⟩

theorem Store.Observed.trans (a b c : Store) (first : a.Observed b) (second : b.Observed c) :
    a.Observed c := by
  refine ⟨fun t row known => ?_, fun t absent => second.fresh t (first.fresh t absent)⟩
  obtain ⟨mid, known, before⟩ := first.kept t row known
  obtain ⟨next, known, after⟩ := second.kept t mid known
  exact ⟨next, known, before.trans after⟩

theorem Store.Observed.putTask {db : Store} (row : TaskRow) {next : TaskRow}
    (known : db.task next.taskId = some row) (observed : row.Observed next) :
    db.Observed (db.putTask next) := by
  refine ⟨fun t other found => ?_, fun t absent => ?_⟩
  · rw [Store.task_putTask]
    split
    · rename_i same
      subst same
      cases Option.some.inj (known.symm.trans found)
      exact ⟨next, rfl, observed⟩
    · exact ⟨other, found, .refl other⟩
  · rw [Store.task_putTask, if_neg]
    · exact absent
    · rintro rfl
      exact nomatch absent.symm.trans known

theorem armWake_tasks (db : Store) (parentTaskId : TaskId) (predicate : Predicate)
    (key : DedupeKey) (eventSeq : Option ℕ) (now : Time) :
    (db.armWake parentTaskId predicate key eventSeq now).1.tasks = db.tasks := by
  unfold Store.armWake
  split
  · rfl
  · rfl

theorem armLiveness_tasks (parentTaskId : TaskId) (reason : WakeReason) (key : DedupeKey)
    (now : Time) (oneShot : Bool) (db : Store) :
    (armLiveness parentTaskId reason key now oneShot db).1.tasks = db.tasks := by
  unfold armLiveness
  split
  · rfl
  · exact armWake_tasks ..

theorem recordWakes_tasks (parentTaskId : TaskId) (now : Time) (db : Store) :
    (recordWakes parentTaskId now db).1.tasks = db.tasks := by
  unfold recordWakes
  split
  · rfl
  · split
    · rfl
    · apply List.foldlRecOn (motive := fun acc : Store × List ℕ => acc.1.tasks = db.tasks)
      · rfl
      · intro acc same predicate _
        exact (armWake_tasks ..).trans same

theorem armStall_observed {row : TaskRow} {db : Store} (known : db.task row.taskId = some row)
    (parentTaskId : TaskId) (now progressTimeout : Time) :
    db.Observed (armStall row parentTaskId now progressTimeout db).1 := by
  unfold armStall
  split
  · exact .refl db
  · extract_lets escalating armed
    split
    · have quiet : armed.1.tasks = db.tasks := armLiveness_tasks ..
      split
      · exact .of_tasks quiet
      · apply Store.Observed.trans _ armed.1 _ (.of_tasks quiet)
        have still : armed.1.task row.taskId = some row := by rw [Store.task, quiet]; exact known
        exact .putTask row still ⟨rfl, rfl, le_rfl, rfl⟩
    · exact .refl db

theorem recordLivenessWakes_observed (childTaskId : TaskId) (now progressTimeout : Time)
    (db : Store) : db.Observed (recordLivenessWakes childTaskId now progressTimeout db).1 := by
  unfold recordLivenessWakes
  split
  · exact .refl db
  · rename_i row known
    split
    · exact .refl db
    · rename_i parentTaskId _
      split
      · exact .of_tasks (armLiveness_tasks ..)
      · split
        · exact .refl db
        · have named := Store.taskId_of_task known
          have stalled := armStall_observed (named ▸ known) parentTaskId now progressTimeout
          dsimp only
          split
          · exact Store.Observed.trans _ _ _ stalled (.of_tasks (armLiveness_tasks ..))
          · exact stalled

theorem bumpChildEvents_observed (parentTaskId : TaskId) (db : Store) :
    db.Observed (db.bumpChildEvents parentTaskId) := by
  unfold Store.bumpChildEvents
  split
  · exact .refl db
  · rename_i parent known
    have named := Store.taskId_of_task known
    exact .putTask parent (named ▸ known) ⟨rfl, rfl, Nat.le_succ _, rfl⟩

theorem wakeParent_observed (record : TaskRecord) (now : Time) (db : Store) :
    db.Observed (wakeParent record now db).1 := by
  unfold wakeParent
  split
  · exact .refl db
  · rename_i parentTaskId _
    have bumped := bumpChildEvents_observed parentTaskId db
    have told := Store.Observed.trans _ _ _ bumped (.of_tasks (recordWakes_tasks parentTaskId now _))
    exact Store.Observed.trans _ _ _ told (recordLivenessWakes_observed ..)

end SightMesh
