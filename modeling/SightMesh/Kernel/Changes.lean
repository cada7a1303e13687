import SightMesh.Kernel.Frames

/-! What one transaction can do to the row of a task. Every fact about the rows over a run is
derived from `Tx.exec_task` and `Tx.exec_insert`, and no later proof opens a transaction again
for it. -/
namespace SightMesh

open Database Python

variable {α β : Type}

/-- The task whose lifecycle a transaction is about. -/
def Tx.mover : Tx β → Option TaskId
  | .activate _ seen .. | .prepareReplacement seen .. | .resumeReplacement seen ..
  | .reissue seen .. | .checkpointRow seen .. | .finish _ seen .. | .finishExpired seen _
  | .recordLoss seen .. => some seen.taskId
  | .checkpointOccurrence operation .. => some operation.taskId
  | _ => none

/-- The lifecycle `l'` a transaction that went through assigns to a row of lifecycle `l`, under
the guards of the function it runs. The version it bumps is left out. -/
def Tx.Assigns (i : Identity) (l l' : Lifecycle) : Tx β → β → Prop
  | .activate _ seen workspaceId sessionId _, .ok _ =>
    i.taskId = seen.taskId ∧ l.state ∈ activatePredecessors ∧
      l' = l.activated workspaceId sessionId
  | .prepareReplacement seen target chargeFailure _, .ok _ =>
    i.taskId = seen.taskId ∧ l.state ∈ replacePredecessors ∧ l.version = seen.version ∧
      l.attempts < i.maxAttempts ∧ l' = l.replaced target chargeFailure
  | .resumeReplacement seen target automaticRecovery _, .ok _ =>
    i.taskId = seen.taskId ∧ l.state = .replacing ∧ l.version = seen.version ∧
      l' = l.resumed { seen.spec with target := target } automaticRecovery
  | .reissue seen resolvedSpec _, .ok _ =>
    i.taskId = seen.taskId ∧ l.state = .lost ∧ l.version = seen.version ∧
      l' = l.reissued resolvedSpec
  | .checkpointRow seen reference now, .ok _ =>
    i.taskId = seen.taskId ∧ l.state ∈ liveStates ∧ l.version = seen.version ∧
      l' = l.checkpointed reference now
  | .checkpointOccurrence operation _ now, .ok _ =>
    i.taskId = operation.taskId ∧ l.state ∈ liveStates ∧
      l.version = operation.expectedVersion ∧ l' = l.checkpointed operation.checkpoint now
  | .finish _ seen state result chargeFailure _, .ok _ =>
    i.taskId = seen.taskId ∧ l.Finishable i.maxAttempts state chargeFailure ∧
      l' = l.finished i.maxAttempts state result chargeFailure
  | .finishExpired seen _, .ok _ =>
    i.taskId = seen.taskId ∧ l.Finishable i.maxAttempts .lost false ∧
      l' = l.finished i.maxAttempts .lost (some "reservation expired") false
  | .recordLoss seen reason _ _, .ok _ =>
    i.taskId = seen.taskId ∧ l.Finishable i.maxAttempts .lost false ∧
      l' = l.finished i.maxAttempts .lost (some reason) false
  | _, _ => False

def Tx.Acknowledges (t : TaskId) (n : ℕ) : Tx β → Prop
  | .settleWake wake state _ _ _ =>
    state = .delivered ∧ wake.parentTaskId = t ∧ wake.eventSeq = some n
  | _ => False

structure Tx.Steps (tx : Tx β) (answer : β) (row next : TaskRow) : Prop where
  identity : next.toIdentity = row.toIdentity
  lifecycle : next.toLifecycle = row.toLifecycle ∨ ∃ l,
    tx.Assigns row.toIdentity row.toLifecycle l answer ∧
      next.toLifecycle = { l with version := row.version + 1 }
  events : row.childEventSeq ≤ next.childEventSeq
  woken : next.lastWokenSeq = row.lastWokenSeq ∨ ∃ n,
    tx.Acknowledges row.taskId n ∧ next.lastWokenSeq = max row.lastWokenSeq n

theorem TaskRow.Observed.steps {row next : TaskRow} (h : row.Observed next) (tx : Tx β)
    (answer : β) : tx.Steps answer row next :=
  ⟨h.identity, .inl h.lifecycle, h.events, .inl h.woken⟩

theorem Tx.Steps.then_observed {tx : Tx β} {answer : β} {row mid next : TaskRow}
    (first : tx.Steps answer row mid) (after : mid.Observed next) :
    tx.Steps answer row next where
  identity := after.identity.trans first.identity
  lifecycle := after.lifecycle ▸ first.lifecycle
  events := first.events.trans after.events
  woken := after.woken ▸ first.woken

theorem Tx.Steps.after_observed {tx : Tx β} {answer : β} {row mid next : TaskRow}
    (before : row.Observed mid) (last : tx.Steps answer mid next) :
    tx.Steps answer row next := by
  obtain ⟨identity, lifecycle, events, woken⟩ := last
  have named : mid.taskId = row.taskId := congrArg Identity.taskId before.identity
  rw [before.identity, before.lifecycle] at lifecycle
  rw [before.woken, named] at woken
  exact ⟨identity.trans before.identity, lifecycle, before.events.trans events, woken⟩

structure Tx.Rows (tx : Tx β) (answer : β) (db db' : Store) : Prop where
  kept : ∀ t row, db.task t = some row →
    ∃ next, db'.task t = some next ∧ tx.Steps answer row next
  fresh : ∀ t, db.task t = none → db'.task t = none

theorem Store.Observed.rows {db db' : Store} (h : db.Observed db') (tx : Tx β) (answer : β) :
    tx.Rows answer db db' := by
  refine ⟨fun t row known => ?_, h.fresh⟩
  obtain ⟨next, known, observed⟩ := h.kept t row known
  exact ⟨next, known, observed.steps tx answer⟩

theorem Tx.Rows.then_observed {tx : Tx β} {answer : β} {a b c : Store}
    (first : tx.Rows answer a b) (after : b.Observed c) : tx.Rows answer a c := by
  refine ⟨fun t row known => ?_, fun t absent => after.fresh t (first.fresh t absent)⟩
  obtain ⟨mid, known, step⟩ := first.kept t row known
  obtain ⟨next, known, observed⟩ := after.kept t mid known
  exact ⟨next, known, step.then_observed observed⟩

theorem Tx.Rows.after_observed {tx : Tx β} {answer : β} {a b c : Store}
    (before : a.Observed b) (last : tx.Rows answer b c) : tx.Rows answer a c := by
  refine ⟨fun t row known => ?_, fun t absent => last.fresh t (before.fresh t absent)⟩
  obtain ⟨mid, known, observed⟩ := before.kept t row known
  obtain ⟨next, known, step⟩ := last.kept t mid known
  exact ⟨next, known, .after_observed observed step⟩

theorem Tx.Rows.of_tasks (tx : Tx β) (answer : β) {db db' : Store}
    (same : db'.tasks = db.tasks) : tx.Rows answer db db' :=
  (Store.Observed.of_tasks same).rows tx answer

theorem Tx.Rows.putTask {tx : Tx β} {answer : β} {db : Store} (row : TaskRow) {next : TaskRow}
    (known : db.task next.taskId = some row) (step : tx.Steps answer row next) :
    tx.Rows answer db (db.putTask next) := by
  refine ⟨fun t other found => ?_, fun t absent => ?_⟩
  · rw [Store.task_putTask]
    split
    · rename_i same
      subst same
      cases Option.some.inj (known.symm.trans found)
      exact ⟨next, rfl, step⟩
    · exact ⟨other, found, (TaskRow.Observed.refl other).steps tx answer⟩
  · rw [Store.task_putTask, if_neg]
    · exact absent
    · rintro rfl
      exact nomatch absent.symm.trans known

/-- A guarded transition steps along a transaction that assigns what it assigns. -/
theorem Tx.Rows.transition {tx : Tx β} {answer : β} {t : TaskId} {expectStates : List TaskState}
    {expectVersion : Option ℕ} {assign : Lifecycle → Lifecycle} {observe : Health → Health}
    {attempted : String} {now : Time} {db db' : Store} {record : TaskRecord}
    (ran : SightMesh.transition t expectStates expectVersion assign observe attempted now db =
      .ok (record, db'))
    (assigns : ∀ row, db.task t = some row → row.taskId = t → row.state ∈ expectStates →
      (expectVersion = none ∨ expectVersion = some row.version) →
      tx.Assigns row.toIdentity row.toLifecycle (assign row.toLifecycle) answer) :
    tx.Rows answer db db' := by
  obtain ⟨row, known, legal, version, _, left⟩ := transition_ok.mp ran
  obtain ⟨rfl, rfl⟩ := Prod.mk.inj left
  have named := Store.taskId_of_task known
  exact .putTask row (named ▸ known)
    ⟨rfl, .inr ⟨_, assigns row known named legal version, rfl⟩, le_rfl, .inl rfl⟩

theorem Tx.Rows.finish {tx : Tx β} {answer : β} {t : TaskId} {state : TaskState}
    {result : Option String} {chargeFailure : Bool} {now : Time} {db db' : Store} {record : TaskRecord}
    (ran : SightMesh.finish t state result none chargeFailure now db = .ok (record, db'))
    (assigns : ∀ i l, i.taskId = t → l.Finishable i.maxAttempts state chargeFailure →
      tx.Assigns i l (l.finished i.maxAttempts state result chargeFailure) answer) :
    tx.Rows answer db db' := by
  obtain ⟨row, known, legal, _, _, left⟩ := finish_ok.mp ran
  obtain ⟨rfl, rfl⟩ := Prod.mk.inj left
  have named := Store.taskId_of_task known
  exact .putTask row (named ▸ known)
    ⟨rfl, .inr ⟨_, assigns _ _ named legal, rfl⟩, le_rfl, .inl rfl⟩

theorem Tx.Rows.finishWithWakeWithin {tx : Tx β} {answer : β} {t : TaskId} {state : TaskState}
    {result : Option String} {chargeFailure : Bool} {now : Time} {db db' : Store}
    {finished : TaskRecord × List ℕ}
    (ran : SightMesh.finishWithWakeWithin t state result none chargeFailure now db =
      .ok (finished, db'))
    (assigns : ∀ i l, i.taskId = t → l.Finishable i.maxAttempts state chargeFailure →
      tx.Assigns i l (l.finished i.maxAttempts state result chargeFailure) answer) :
    tx.Rows answer db db' := by
  obtain ⟨record, mid, finished, armed⟩ := bind_ok.mp ran
  have left : (wakeParent record now mid).1 = db' := congrArg Prod.snd (Except.ok.inj armed)
  exact (Tx.Rows.finish finished assigns).then_observed (left ▸ wakeParent_observed record now mid)

theorem Tx.Rows.refl (tx : Tx β) (answer : β) (db : Store) : tx.Rows answer db db :=
  .of_tasks tx answer rfl

/-- A body that runs one guarded transition steps the rows, committed or rolled back. -/
theorem Tx.Rows.atomically {tx : Tx (Answer α)} {body : Txn α} {db : Store}
    (committed : ∀ a db', body db = .ok (a, db') → tx.Rows (.ok a) db db') :
    tx.Rows (SightMesh.atomically body db).2 db (SightMesh.atomically body db).1 := by
  obtain ⟨a, db', ran, left⟩ | ⟨e, _, left⟩ := atomically_cases body db
  · rw [left]
    exact committed a db' ran
  · rw [left]
    exact .refl tx _ db

theorem recordLiveness_observed {taskId : TaskId} {liveness : Liveness}
    {evidence : Option String} {now : Time} :
    Moves Store.Observed (recordLiveness taskId liveness evidence now) := by
  intro db answer db' ran
  simp only [recordLiveness, get_bind_run] at ran
  cases known : db.task taskId with
  | none => simp [known] at ran
  | some row =>
    simp only [known] at ran
    have named := Store.taskId_of_task known
    by_cases live : row.state ∈ liveStates
    · rw [if_pos live] at ran
      cases ran
      exact .putTask row (named ▸ known) ⟨rfl, rfl, le_rfl, rfl⟩
    · rw [if_neg live] at ran
      cases ran
      exact .refl db

theorem recordOverBudget_observed {taskId : TaskId} :
    Moves Store.Observed (recordOverBudget taskId) := by
  intro db answer db' ran
  simp only [recordOverBudget, get_bind_run] at ran
  cases known : db.task taskId with
  | none =>
    simp only [known] at ran
    cases ran
    exact .refl db
  | some row =>
    simp only [known] at ran
    have named := Store.taskId_of_task known
    split at ran
    · cases ran
      exact .putTask row (named ▸ known) ⟨rfl, rfl, le_rfl, rfl⟩
    · cases ran
      exact .refl db

theorem recordFinding_observed {taskId : TaskId} {liveness : Option Liveness}
    {evidence : Option String} {overBudget : Bool} {now progressTimeout : Time} :
    Moves Store.Observed
      (recordFinding taskId liveness evidence overBudget now progressTimeout) := by
  have latched : Moves Store.Observed (do
      if overBudget then
        recordOverBudget taskId
      let armed := recordLivenessWakes taskId now progressTimeout (← get)
      set armed.1
      return armed.2 : Txn (List ℕ)) := by
    intro db answer db' ran
    cases overBudget with
    | true =>
      obtain ⟨_, mid, latched, left⟩ := bind_ok.mp ran
      have first := recordOverBudget_observed _ _ _ latched
      cases left
      exact first.trans _ _ _ (recordLivenessWakes_observed ..)
    | false =>
      cases ran
      exact recordLivenessWakes_observed ..
  intro db answer db' ran
  cases liveness with
  | none => exact latched _ _ _ ran
  | some liveness =>
    obtain ⟨_, mid, observed, left⟩ := bind_ok.mp ran
    exact (recordLiveness_observed _ _ _ observed).trans _ _ _ (latched _ _ _ left)

/-- A delivered wake moves the watermark of its parent, and nothing else moves a row. -/
theorem settleWake_rows (wake : Wake) (state : WakeState) (resolution payload : Option String)
    (now : Time) (db : Store) : (Tx.settleWake wake state resolution payload now).Rows
      (settleWake wake state resolution payload now db).2 db
      (settleWake wake state resolution payload now db).1 := by
  unfold settleWake
  split
  · exact .refl _ _ db
  · rename_i claimed _
    extract_lets settled
    have same : settled.tasks = db.tasks := rfl
    split
    · rename_i eventSeq acknowledged
      split
      · exact .of_tasks _ _ same
      · rename_i parent known
        have named := Store.taskId_of_task known
        have still : settled.task parent.taskId = some parent := by
          rw [named]
          exact known
        have told : (Tx.settleWake wake .delivered resolution payload now).Acknowledges
            parent.taskId eventSeq := ⟨rfl, named.symm, acknowledged⟩
        exact .after_observed (.of_tasks same)
          (.putTask parent still ⟨rfl, .inl rfl, le_rfl, .inr ⟨eventSeq, told, rfl⟩⟩)
    · exact .of_tasks _ _ same

theorem recordLoss_rows (task : TaskRecord) (reason payload : String) (now : Time) (db : Store) :
    (Tx.recordLoss task reason payload now).Rows
      (SightMesh.recordLoss task reason payload now db).2 db
      (SightMesh.recordLoss task reason payload now db).1 := by
  obtain ⟨e, same⟩ | ⟨e, same⟩ | ⟨marked, record, wakes, db', evidence, settled, same⟩ :=
    recordLoss_cases task reason payload now db
  · rw [same]
    exact .refl _ _ db
  · rw [same]
    have only : (db.insertOwnership (lossOwnership task)).1 = _ := insertOwnership_only db _
    have tasks : (db.insertOwnership (lossOwnership task)).1.tasks = db.tasks := by rw [only]
    exact .of_tasks _ _ tasks
  · rw [same]
    have noted := noteEvidence_observed db task.taskId payload
    have tasks : marked.tasks = (db.noteEvidence task.taskId payload).tasks := by
      obtain ⟨effect, _, ⟨_, marks⟩ | ⟨_, marks⟩⟩ := lossEvidence_ok evidence
      · rw [show marked = _ from marks]
      · rw [show marked = _ from marks]
        rfl
    have before : db.Observed
        { marked with ownerships := (db.insertOwnership (lossOwnership task)).1.ownerships } :=
      noted.trans _ _ _ (.of_tasks tasks)
    exact .after_observed before
      (.finishWithWakeWithin settled fun i l named legal => ⟨named, legal, rfl⟩)

def Tx.inserts : Tx β → Bool
  | .reserveAll .. => true
  | _ => false

theorem Tx.exec_rows (tx : Tx β) (db : Store) (quiet : tx.inserts = false) :
    tx.Rows (tx.exec db).2 db (tx.exec db).1 := by
  have only := tx.exec_only db
  cases tx with
  | reserveAll => exact nomatch quiet
  | activate site seen workspaceId sessionId now =>
    refine .atomically fun a db' ran => .transition (wrapping_ok.mp ran) ?_
    intro row _ named legal _
    exact ⟨named, legal, rfl⟩
  | prepareReplacement seen target chargeFailure now =>
    refine .atomically fun a db' ran => ?_
    obtain ⟨row, known, left, moved⟩ := prepareReplacement_ok ran
    refine .transition moved ?_
    intro other same named legal version
    cases Option.some.inj (known.symm.trans same)
    exact ⟨named, legal, by grind, left, rfl⟩
  | resumeReplacement seen target automatic now =>
    refine .atomically fun a db' ran => .transition (wrapping_ok.mp ran) ?_
    intro row _ named legal version
    exact ⟨named, by simpa using legal, by grind, rfl⟩
  | reissue seen spec now =>
    refine .atomically fun a db' ran => .transition (wrapping_ok.mp ran) ?_
    intro row _ named legal version
    exact ⟨named, by simpa using legal, by grind, rfl⟩
  | checkpointRow seen reference now =>
    refine .atomically fun a db' ran => .transition (wrapping_ok.mp ran) ?_
    intro row _ named legal version
    exact ⟨named, legal, by grind, rfl⟩
  | checkpointOccurrence operation receipt now =>
    refine .atomically fun a db' ran => ?_
    obtain rfl | ⟨stored, row, mid, _, moved, rfl⟩ := checkpointWithOccurrence_ok ran
    · exact .refl _ _ _
    · refine (Tx.Rows.transition moved ?_).then_observed (.of_tasks rfl)
      intro row _ named legal version
      exact ⟨named, legal, by grind, rfl⟩
  | finish site seen state result chargeFailure now =>
    refine .atomically fun a db' ran => .finishWithWakeWithin (wrapping_ok.mp ran) ?_
    intro i l named legal
    exact ⟨named, legal, rfl⟩
  | finishExpired seen now =>
    refine .atomically fun a db' ran => .finish ran ?_
    intro i l named legal
    exact ⟨named, legal, rfl⟩
  | recordLoss seen reason payload now => exact recordLoss_rows ..
  | recordFinding seen liveness evidence overBudget now progressTimeout =>
    exact .atomically fun a db' ran => (recordFinding_observed _ _ _ ran).rows _ _
  | settleWake wake state resolution payload now => exact settleWake_rows ..
  | _ =>
    have same := congrArg Store.tasks only
    exact .of_tasks _ _ same

/-- A reserved batch keeps the rows there are, and adds fresh ones under an existing parent. -/
theorem reserveAll_inserts (scope : String) (parentTaskId : Option TaskId) (specs : List TaskSpec)
    (maxAttempts : ℕ) (now : Time) (db : Store) :
    (∀ t row, db.task t = some row →
      ((Tx.reserveAll scope parentTaskId specs maxAttempts now).exec db).1.task t = some row) ∧
    ∀ t row, db.task t = none →
      ((Tx.reserveAll scope parentTaskId specs maxAttempts now).exec db).1.task t = some row →
      (∃ spec ∈ specs, row = TaskRow.reserved scope parentTaskId maxAttempts spec now) ∧
        ∀ p, present parentTaskId = some p → (db.task p).isSome := by
  let Added (a b : Store) : Prop := (∀ t row, a.task t = some row → b.task t = some row) ∧
    ∀ t row, a.task t = none → b.task t = some row →
      ∃ spec ∈ specs, row = TaskRow.reserved scope parentTaskId maxAttempts spec now
  have refl (db : Store) : Added db db :=
    ⟨fun _ _ known => known, fun _ _ absent known => nomatch absent.symm.trans known⟩
  have trans (a b c : Store) (first : Added a b) (second : Added b c) : Added a c := by
    refine ⟨fun t row known => second.1 t row (first.1 t row known), fun t row absent known => ?_⟩
    cases mid : b.task t with
    | none => exact second.2 t row mid known
    | some other =>
      obtain rfl : other = row := Option.some.inj ((second.1 t other mid).symm.trans known)
      exact first.2 t other absent mid
  have round : ∀ spec ∈ specs, Moves Added (reserveOne scope parentTaskId maxAttempts now spec) := by
    intro spec listed a answer b ran
    obtain same | ⟨vacant, inserted⟩ := reserveOne_ok ran
    · rw [show b = a from same]
      exact refl a
    · rw [show b = _ from inserted]
      refine ⟨fun t row known => ?_, fun t row absent known => ?_⟩
      · rw [Store.task_putTask, if_neg]
        · exact known
        · rintro rfl
          exact nomatch vacant.symm.trans known
      · rw [Store.task_putTask] at known
        split at known
        · exact ⟨spec, listed, (Option.some.inj known).symm⟩
        · exact nomatch absent.symm.trans known
  obtain ⟨answer, db', ran, left⟩ | ⟨e, _, left⟩ :=
    atomically_cases (reserveAll scope parentTaskId specs maxAttempts now) db
  · have exec : ((Tx.reserveAll scope parentTaskId specs maxAttempts now).exec db).1 = db' :=
      congrArg Prod.fst left
    obtain ⟨parented, inserted⟩ := reserveAll_ok ran
    have added := Moves.mapM refl trans round _ _ _ inserted
    rw [exec]
    refine ⟨added.1, fun t row absent known => ?_⟩
    obtain ⟨spec, listed, fresh⟩ := added.2 t row absent known
    exact ⟨⟨spec, listed, fresh⟩, parented (List.ne_nil_of_mem listed)⟩
  · have exec : ((Tx.reserveAll scope parentTaskId specs maxAttempts now).exec db).1 = db :=
      congrArg Prod.fst left
    rw [exec]
    exact ⟨(refl db).1, fun t row absent known => nomatch absent.symm.trans known⟩

/-- One transaction, one row: the step the row takes. -/
theorem Tx.exec_task (tx : Tx β) {db : Store} {t : TaskId} {row : TaskRow}
    (known : db.task t = some row) :
    ∃ next, (tx.exec db).1.task t = some next ∧ tx.Steps (tx.exec db).2 row next := by
  cases quiet : tx.inserts with
  | false => exact (tx.exec_rows db quiet).kept t row known
  | true =>
    cases tx with
    | reserveAll scope parent specs maxAttempts now =>
      exact ⟨row, (reserveAll_inserts ..).1 t row known, (TaskRow.Observed.refl row).steps _ _⟩
    | _ => exact nomatch quiet

def Tx.Inserts (row : TaskRow) : Tx β → Prop
  | .reserveAll scope parentTaskId specs maxAttempts now =>
    ∃ spec ∈ specs, row = TaskRow.reserved scope parentTaskId maxAttempts spec now
  | _ => False

theorem Tx.exec_insert (tx : Tx β) {db : Store} {t : TaskId} {row : TaskRow}
    (absent : db.task t = none) (known : (tx.exec db).1.task t = some row) :
    tx.Inserts row ∧ ∀ p, present row.parentTaskId = some p → (db.task p).isSome := by
  cases quiet : tx.inserts with
  | false => exact nomatch ((tx.exec_rows db quiet).fresh t absent).symm.trans known
  | true =>
    cases tx with
    | reserveAll scope parent specs maxAttempts now =>
      obtain ⟨inserted, parented⟩ := (reserveAll_inserts ..).2 t row absent known
      refine ⟨inserted, ?_⟩
      obtain ⟨spec, _, rfl⟩ := inserted
      exact parented
    | _ => exact nomatch quiet

theorem Tx.Inserts.named {tx : Tx β} {row : TaskRow} (h : tx.Inserts row) : row.taskId ≠ "" := by
  cases tx with
  | reserveAll =>
    obtain ⟨spec, _, rfl⟩ := h
    exact taskIdOf_ne_empty _ _
  | _ => exact h.elim

/-! ### What every step keeps -/

theorem Tx.Assigns.mover {tx : Tx β} {answer : β} {i : Identity} {l l' : Lifecycle}
    (h : tx.Assigns i l l' answer) : tx.mover = some i.taskId := by
  cases tx with
  | activate | prepareReplacement | resumeReplacement | reissue | checkpointRow
  | checkpointOccurrence | finish | finishExpired | recordLoss =>
    cases answer with
    | ok => exact congrArg some h.1.symm
    | error => exact h.elim
  | _ => exact h.elim

theorem Lifecycle.finished_epoch (l : Lifecycle) (maxAttempts : ℕ) (state : TaskState)
    (result : Option String) (chargeFailure : Bool) :
    (l.finished maxAttempts state result chargeFailure).epoch = l.epoch := by
  unfold Lifecycle.finished
  split
  · split
    · rfl
    · rfl
  · split
    · rfl
    · rfl

theorem Tx.Assigns.epoch {tx : Tx β} {answer : β} {i : Identity} {l l' : Lifecycle}
    (h : tx.Assigns i l l' answer) : l.epoch ≤ l'.epoch := by
  cases tx with
  | activate =>
    rcases answer with _ | _
    · exact h.elim
    obtain ⟨_, _, rfl⟩ := h
    exact le_rfl
  | checkpointRow | checkpointOccurrence =>
    rcases answer with _ | _
    · exact h.elim
    obtain ⟨_, _, _, rfl⟩ := h
    exact le_rfl
  | prepareReplacement =>
    rcases answer with _ | _
    · exact h.elim
    obtain ⟨_, _, _, _, rfl⟩ := h
    exact Nat.le_succ _
  | resumeReplacement seen target automatic now =>
    rcases answer with _ | _
    · exact h.elim
    obtain ⟨_, _, _, rfl⟩ := h
    cases automatic with
    | true => exact Nat.le_succ _
    | false => exact le_rfl
  | reissue =>
    rcases answer with _ | _
    · exact h.elim
    obtain ⟨_, _, _, rfl⟩ := h
    exact Nat.le_succ _
  | finish | finishExpired | recordLoss =>
    rcases answer with _ | _
    · exact h.elim
    obtain ⟨_, _, rfl⟩ := h
    exact (Lifecycle.finished_epoch ..).ge
  | _ => exact h.elim

theorem Tx.Steps.version {tx : Tx β} {answer : β} {row next : TaskRow}
    (h : tx.Steps answer row next) :
    row.version ≤ next.version := by
  rcases h.lifecycle with same | ⟨l, _, moved⟩
  · rw [same]
  · rw [moved]
    exact Nat.le_succ _

theorem Tx.Steps.epoch {tx : Tx β} {answer : β} {row next : TaskRow}
    (h : tx.Steps answer row next) :
    row.epoch ≤ next.epoch := by
  rcases h.lifecycle with same | ⟨l, assigned, moved⟩
  · rw [same]
  · rw [moved]
    exact assigned.epoch

/-- A row whose version stands still keeps its lifecycle. -/
theorem Tx.Steps.unmoved {tx : Tx β} {answer : β} {row next : TaskRow}
    (h : tx.Steps answer row next)
    (same : next.version = row.version) : next.toLifecycle = row.toLifecycle := by
  rcases h.lifecycle with same | ⟨l, _, moved⟩
  · exact same
  · rw [moved] at same
    exact absurd same (Nat.succ_ne_self _)

theorem Tx.Steps.woken_le {tx : Tx β} {answer : β} {row next : TaskRow}
    (h : tx.Steps answer row next) :
    row.lastWokenSeq ≤ next.lastWokenSeq := by
  rcases h.woken with same | ⟨n, _, told⟩
  · exact same.ge
  · rw [told]
    exact le_max_left _ _

/-- Only the transaction about a task moves it. -/
theorem Tx.Steps.still {tx : Tx β} {answer : β} {row next : TaskRow}
    (h : tx.Steps answer row next)
    (other : tx.mover ≠ some row.taskId) : next.toLifecycle = row.toLifecycle := by
  rcases h.lifecycle with same | ⟨l, assigned, _⟩
  · exact same
  · exact absurd assigned.mover other

end SightMesh
