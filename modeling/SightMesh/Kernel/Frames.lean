import SightMesh.Kernel.Guards

/-! Which tables a transaction may write. -/
namespace SightMesh

open Database Python

variable {α β : Type}

def Tx.Only : Tx β → Store → Store → Prop
  | .read _ => fun a b => b = a
  | .activate .. | .prepareReplacement .. | .resumeReplacement .. | .reissue .. | .checkpointRow ..
  | .finishExpired .. | .reserveAll .. => fun a b => b = { a with tasks := b.tasks }
  | .finish .. | .recordFinding .. | .settleWake .. =>
    fun a b => b = { a with tasks := b.tasks, wakes := b.wakes }
  | .recordLoss .. => fun a b => b =
    { a with tasks := b.tasks, effects := b.effects, wakes := b.wakes, ownerships := b.ownerships }
  | .checkpointOccurrence .. =>
    fun a b => b = { a with tasks := b.tasks, checkpoints := b.checkpoints }
  | .prepareCheckpoint .. => fun a b => b = { a with checkpoints := b.checkpoints }
  | .reserve .. | .markLaunched .. | .markTerminal .. | .markRefused .. | .markSuperseded ..
  | .markCleanupWorkspace .. | .retireReservation .. | .acknowledgeStop .. =>
    fun a b => b = { a with effects := b.effects }
  | .retire .. | .linkSuccessor .. => fun a b => b = { a with ownerships := b.ownerships }
  | .recordCohortWakes .. | .persistPayload .. => fun a b => b = { a with wakes := b.wakes }
  | .claimWakes .. => fun a b => b = { a with wakes := b.wakes, fresh := b.fresh }
  | .recordCleanupIntents .. => fun a b => b = { a with cleanups := b.cleanups }
  | .beginOutgoing .. => fun a b => b = { a with outgoing := b.outgoing }
  | .settleOutgoing .. | .acknowledgeCleanup .. =>
    fun a b => b = { a with cleanups := b.cleanups, outgoing := b.outgoing }

/-! ### Rows -/

def Store.OnlyTasks (a b : Store) : Prop := b = { a with tasks := b.tasks }

theorem Store.OnlyTasks.refl (db : Store) : db.OnlyTasks db := rfl

theorem Store.OnlyTasks.trans (a b c : Store) (first : a.OnlyTasks b) (second : b.OnlyTasks c) :
    a.OnlyTasks c := by
  rw [Store.OnlyTasks] at *
  rw [second, first]

theorem transition_only {t : TaskId} {expectStates : List TaskState} {expectVersion : Option ℕ}
    {assign : Lifecycle → Lifecycle} {observe : Health → Health} {attempted : String}
    {now : Time} :
    Moves Store.OnlyTasks (transition t expectStates expectVersion assign observe attempted now) := by
  intro db record db' ran
  obtain ⟨row, _, _, _, _, left⟩ := transition_ok.mp ran
  obtain ⟨rfl, rfl⟩ := Prod.mk.inj left
  rfl

theorem transaction_only {t : TaskId} {expectStates : List TaskState} {expectVersion : Option ℕ}
    {assign : Lifecycle → Lifecycle} {attempted : String} {now : Time} :
    Moves Store.OnlyTasks (transaction t expectStates expectVersion assign attempted now) :=
  fun _ _ _ ran => transition_only _ _ _ (wrapping_ok.mp ran)

theorem finish_only {t : TaskId} {state : TaskState} {result : Option String}
    {expectVersion : Option ℕ} {chargeFailure : Bool} {now : Time} :
    Moves Store.OnlyTasks (finish t state result expectVersion chargeFailure now) := by
  intro db record db' ran
  obtain ⟨row, _, _, _, _, left⟩ := finish_ok.mp ran
  obtain ⟨rfl, rfl⟩ := Prod.mk.inj left
  rfl

/-- What a prepared replacement accepted, and what it left. -/
theorem prepareReplacement_ok {t : TaskId} {target : Option Target} {chargeFailure : Bool}
    {expectVersion : Option ℕ} {now : Time} {db : Store} {r : TaskRecord × Store}
    (ran : prepareReplacement t target chargeFailure expectVersion now db = .ok r) :
    ∃ row, db.task t = some row ∧ row.attempts < row.maxAttempts ∧
      transition t replacePredecessors expectVersion (Lifecycle.replaced target chargeFailure)
        (fun _ => Health.fresh) "replacing" now db = .ok r := by
  unfold prepareReplacement at ran
  have ran := wrapping_ok.mp ran
  simp only [get_bind_run] at ran
  cases known : db.task t with
  | none => simp [known] at ran
  | some row =>
    simp only [known] at ran
    by_cases spent : row.attempts ≥ row.maxAttempts
    · simp [spent] at ran
    · rw [if_neg spent] at ran
      exact ⟨row, rfl, by omega, ran⟩

theorem reserveOne_ok {scope : String} {parentTaskId : Option TaskId} {maxAttempts : ℕ}
    {now : Time} {spec : TaskSpec} {db : Store} {r : (TaskRecord × Bool) × Store}
    (ran : reserveOne scope parentTaskId maxAttempts now spec db = .ok r) :
    r.2 = db ∨ db.task (taskIdOf scope spec.key) = none ∧
      r.2 = db.putTask (TaskRow.reserved scope parentTaskId maxAttempts spec now) := by
  simp only [reserveOne, get_bind_run] at ran
  cases found : db.findByKey scope spec.key with
  | some row =>
    simp only [found] at ran
    by_cases differs : row.spec ≠ spec
    · simp [differs] at ran
    · rw [if_neg differs] at ran
      cases ran
      exact .inl rfl
  | none =>
    simp only [found, get_bind_run] at ran
    by_cases taken : (db.task (taskIdOf scope spec.key)).isSome
    · simp [TaskRow.reserved, taken] at ran
    · rw [TaskRow.reserved, if_neg taken] at ran
      cases ran
      exact .inr ⟨Option.not_isSome_iff_eq_none.mp taken, rfl⟩

theorem reserveOne_only {scope : String} {parentTaskId : Option TaskId} {maxAttempts : ℕ}
    {now : Time} {spec : TaskSpec} :
    Moves Store.OnlyTasks (reserveOne scope parentTaskId maxAttempts now spec) := by
  intro db answer db' ran
  rcases reserveOne_ok ran with same | ⟨_, inserted⟩
  · dsimp only at same
    rw [same]
    exact .refl db
  · dsimp only at inserted
    rw [inserted]
    rfl

theorem checkChildLimit_ok {scope : String} {parentTaskId : Option TaskId} {specs : List TaskSpec}
    {db : Store} {r : Unit × Store} (ran : checkChildLimit scope parentTaskId specs db = .ok r) :
    r.2 = db ∧ ∀ p, present parentTaskId = some p → (db.task p).isSome := by
  unfold checkChildLimit at ran
  cases named : present parentTaskId with
  | none =>
    rw [named] at ran
    cases ran
    exact ⟨rfl, fun p named => nomatch named⟩
  | some parentId =>
    simp only [named, get_bind_run] at ran
    cases known : db.task parentId with
    | none => simp [known] at ran
    | some parent =>
      simp only [known] at ran
      split at ran
      · simp at ran
      · cases ran
        refine ⟨rfl, ?_⟩
        rintro p ⟨⟩
        simp [known]

theorem reserveAll_ok {scope : String} {parentTaskId : Option TaskId} {specs : List TaskSpec}
    {maxAttempts : ℕ} {now : Time} {db : Store} {r : List (TaskRecord × Bool) × Store}
    (ran : reserveAll scope parentTaskId specs maxAttempts now db = .ok r) :
    (specs ≠ [] → ∀ p, present parentTaskId = some p → (db.task p).isSome) ∧
      specs.mapM (reserveOne scope parentTaskId maxAttempts now) db = .ok r := by
  unfold reserveAll at ran
  split at ran
  · rename_i empty
    rw [List.isEmpty_iff] at empty
    subst empty
    exact ⟨fun some_ => absurd rfl some_, ran⟩
  rw [wrapping_ok] at ran
  split at ran
  · simp at ran
  · obtain ⟨_, db', checked, ran⟩ := bind_ok.mp ran
    obtain ⟨same, parented⟩ := checkChildLimit_ok checked
    dsimp only at same
    exact ⟨fun _ => parented, same ▸ ran⟩

theorem reserveAll_only {scope : String} {parentTaskId : Option TaskId} {specs : List TaskSpec}
    {maxAttempts : ℕ} {now : Time} :
    Moves Store.OnlyTasks (reserveAll scope parentTaskId specs maxAttempts now) := by
  intro db answer db' ran
  exact Moves.mapM .refl .trans (fun spec _ => reserveOne_only) _ _ _ (reserveAll_ok ran).2

theorem recordLiveness_only {taskId : TaskId} {liveness : Liveness} {evidence : Option String}
    {now : Time} : Moves Store.OnlyTasks (recordLiveness taskId liveness evidence now) := by
  intro db answer db' ran
  simp only [recordLiveness, get_bind_run] at ran
  cases known : db.task taskId with
  | none => simp [known] at ran
  | some row =>
    simp only [known] at ran
    by_cases live : row.state ∈ liveStates
    · rw [if_pos live] at ran
      cases ran
      rfl
    · rw [if_neg live] at ran
      cases ran
      rfl

theorem recordOverBudget_only {taskId : TaskId} :
    Moves Store.OnlyTasks (recordOverBudget taskId) := by
  intro db answer db' ran
  simp only [recordOverBudget, get_bind_run] at ran
  cases known : db.task taskId with
  | none =>
    simp only [known] at ran
    cases ran
    rfl
  | some row =>
    simp only [known] at ran
    split at ran
    · cases ran
      rfl
    · cases ran
      rfl

/-! ### The wake outbox -/

def Store.OnlyWakes (a b : Store) : Prop := b = { a with wakes := b.wakes }

/-- Only the rows and their outbox. -/
def Store.OnlyCohort (a b : Store) : Prop := b = { a with tasks := b.tasks, wakes := b.wakes }

theorem Store.OnlyWakes.refl (db : Store) : db.OnlyWakes db := rfl

theorem Store.OnlyWakes.trans (a b c : Store) (first : a.OnlyWakes b) (second : b.OnlyWakes c) :
    a.OnlyWakes c := by
  rw [Store.OnlyWakes] at *
  rw [second, first]

theorem Store.OnlyCohort.refl (db : Store) : db.OnlyCohort db := rfl

theorem Store.OnlyCohort.trans (a b c : Store) (first : a.OnlyCohort b)
    (second : b.OnlyCohort c) : a.OnlyCohort c := by
  rw [Store.OnlyCohort] at *
  rw [second, first]

theorem Store.OnlyWakes.cohort {a b : Store} (only : a.OnlyWakes b) : a.OnlyCohort b := by
  rw [Store.OnlyWakes] at only
  rw [Store.OnlyCohort, only]

theorem Store.OnlyTasks.cohort {a b : Store} (only : a.OnlyTasks b) : a.OnlyCohort b := by
  rw [Store.OnlyTasks] at only
  rw [Store.OnlyCohort, only]

theorem armWake_only (db : Store) (parentTaskId : TaskId) (predicate : Predicate)
    (key : DedupeKey) (eventSeq : Option ℕ) (now : Time) :
    db.OnlyWakes (db.armWake parentTaskId predicate key eventSeq now).1 := by
  unfold Store.armWake
  split
  · rfl
  · rfl

theorem recordWakes_only (parentTaskId : TaskId) (now : Time) (db : Store) :
    db.OnlyWakes (recordWakes parentTaskId now db).1 := by
  unfold recordWakes
  split
  · rfl
  · split
    · rfl
    · apply List.foldlRecOn (motive := fun acc : Store × List ℕ => db.OnlyWakes acc.1)
      · exact .refl db
      · intro acc only predicate _
        exact only.trans _ _ _ (armWake_only ..)

theorem armLiveness_only (parentTaskId : TaskId) (reason : WakeReason) (key : DedupeKey)
    (now : Time) (oneShot : Bool) (db : Store) :
    db.OnlyWakes (armLiveness parentTaskId reason key now oneShot db).1 := by
  unfold armLiveness
  split
  · rfl
  · exact armWake_only ..

theorem armStall_only (row : TaskRow) (parentTaskId : TaskId) (now progressTimeout : Time)
    (db : Store) : db.OnlyCohort (armStall row parentTaskId now progressTimeout db).1 := by
  unfold armStall
  split
  · rfl
  · extract_lets escalating armed
    have only : db.OnlyCohort armed.1 := (armLiveness_only ..).cohort
    split
    · split
      · exact only
      · exact only.trans _ _ _ rfl
    · rfl

theorem recordLivenessWakes_only (childTaskId : TaskId) (now progressTimeout : Time)
    (db : Store) : db.OnlyCohort (recordLivenessWakes childTaskId now progressTimeout db).1 := by
  unfold recordLivenessWakes
  split
  · rfl
  · split
    · rfl
    · split
      · exact (armLiveness_only ..).cohort
      · split
        · rfl
        · have stalled := armStall_only
          dsimp only
          split
          · exact (stalled ..).trans _ _ _ (armLiveness_only ..).cohort
          · exact stalled ..

theorem bumpChildEvents_only (parentTaskId : TaskId) (db : Store) :
    db.OnlyTasks (db.bumpChildEvents parentTaskId) := by
  unfold Store.bumpChildEvents
  split
  · rfl
  · rfl

theorem wakeParent_only (record : TaskRecord) (now : Time) (db : Store) :
    db.OnlyCohort (wakeParent record now db).1 := by
  unfold wakeParent
  split
  · rfl
  · rename_i parentTaskId _
    have bumped := (bumpChildEvents_only parentTaskId db).cohort
    have told := bumped.trans _ _ _ (recordWakes_only parentTaskId now _).cohort
    exact told.trans _ _ _ (recordLivenessWakes_only ..)

theorem finishWithWakeWithin_only {t : TaskId} {state : TaskState} {result : Option String}
    {expectVersion : Option ℕ} {chargeFailure : Bool} {now : Time} :
    Moves Store.OnlyCohort
      (finishWithWakeWithin t state result expectVersion chargeFailure now) := by
  intro db answer db' ran
  obtain ⟨record, mid, finished, armed⟩ := bind_ok.mp ran
  have left : (wakeParent record now mid).1 = db' := congrArg Prod.snd (Except.ok.inj armed)
  exact (finish_only _ _ _ finished).cohort.trans _ _ _ (left ▸ wakeParent_only record now mid)

theorem recordFinding_only {taskId : TaskId} {liveness : Option Liveness}
    {evidence : Option String} {overBudget : Bool} {now progressTimeout : Time} :
    Moves Store.OnlyCohort
      (recordFinding taskId liveness evidence overBudget now progressTimeout) := by
  have latched : Moves Store.OnlyCohort (do
      if overBudget then
        recordOverBudget taskId
      let armed := recordLivenessWakes taskId now progressTimeout (← get)
      set armed.1
      return armed.2 : Txn (List ℕ)) := by
    intro db answer db' ran
    cases overBudget with
    | true =>
      obtain ⟨_, mid, latched, ran⟩ := bind_ok.mp ran
      have first := (recordOverBudget_only _ _ _ latched).cohort
      cases ran
      exact first.trans _ _ _ (recordLivenessWakes_only ..)
    | false =>
      cases ran
      exact recordLivenessWakes_only ..
  intro db answer db' ran
  cases liveness with
  | none => exact latched _ _ _ ran
  | some liveness =>
    obtain ⟨_, mid, observed, ran⟩ := bind_ok.mp ran
    exact (recordLiveness_only _ _ _ observed).cohort.trans _ _ _ (latched _ _ _ ran)

theorem settleWake_only (wake : Wake) (state : WakeState) (resolution payload : Option String)
    (now : Time) (db : Store) :
    db.OnlyCohort (settleWake wake state resolution payload now db).1 := by
  unfold settleWake
  split
  · rfl
  · dsimp only
    split
    · split
      · rfl
      · rfl
    · rfl

theorem recordCohortWakes_only (now : Time) (db : Store) :
    db.OnlyWakes (recordCohortWakes now db) := by
  unfold recordCohortWakes
  apply List.foldlRecOn (motive := fun mid : Store => db.OnlyWakes mid)
  · exact .refl db
  · intro mid only parentTaskId _
    exact only.trans _ _ _ (recordWakes_only ..)

theorem persistPayload_only (wake : Wake) (selected : String) (db : Store) :
    db.OnlyWakes (persistPayload wake selected db).1 := by
  unfold persistPayload
  split
  · rfl
  · rfl

theorem claimWakes_only (claimFor now : Time) (db : Store) :
    (claimWakes claimFor now db).1 = { db with
      wakes := (claimWakes claimFor now db).1.wakes
      fresh := (claimWakes claimFor now db).1.fresh } := by
  unfold claimWakes
  apply List.foldlRecOn (motive := fun acc : Store × List Wake =>
    acc.1 = { db with wakes := acc.1.wakes, fresh := acc.1.fresh })
  · rfl
  · intro acc only wake _
    dsimp only
    rw [only]

/-! ### The effect journal and the ownership table -/

def Store.OnlyEffects (a b : Store) : Prop := b = { a with effects := b.effects }

theorem reserveEffect_only {taskId : TaskId} {epoch : ℕ} {launch : Launch} {owner : String}
    {ttl now : Time} :
    Moves Store.OnlyEffects (reserveEffect taskId epoch launch owner ttl now) := by
  intro db answer db' ran
  simp only [reserveEffect, get_bind_run] at ran
  cases known : db.effect taskId epoch with
  | none =>
    simp only [known] at ran
    cases ran
    rfl
  | some existing =>
    simp only [known] at ran
    cases state : existing.state with
    | terminal => simp [state] at ran
    | launched =>
      simp only [state] at ran
      cases ran
      rfl
    | reserved =>
      simp only [state] at ran
      split at ran
      · split at ran
        · simp at ran
        · split at ran
          · simp at ran
          · cases ran
            rfl
      · cases ran
        rfl

theorem advanceEffect_only {taskId : TaskId} {epoch : ℕ} {assign : Effect → Effect}
    {expectStates : List EffectState} {now : Time} :
    Moves Store.OnlyEffects (advanceEffect taskId epoch assign expectStates now) := by
  intro db answer db' ran
  simp only [advanceEffect, get_bind_run] at ran
  cases known : db.effect taskId epoch with
  | none => simp [known] at ran
  | some row =>
    simp only [known] at ran
    split at ran
    · cases ran
      rfl
    · simp at ran

theorem markCleanupWorkspace_only {taskId : TaskId} {epoch : ℕ} {workspaceId : WorkspaceId}
    {now : Time} :
    Moves Store.OnlyEffects (markCleanupWorkspace taskId epoch workspaceId now) := by
  intro db answer db' ran
  simp only [markCleanupWorkspace, get_bind_run] at ran
  cases known : db.effect taskId epoch with
  | none => simp [known] at ran
  | some row =>
    simp only [known] at ran
    split at ran
    · cases ran
      rfl
    · cases ran
      rfl

theorem acknowledgeStop_only (effect : Effect) (now : Time) (db : Store) :
    db.OnlyEffects (acknowledgeStop effect now db) := by
  unfold acknowledgeStop
  split
  · rfl
  · split
    · rfl
    · rfl

theorem retireReservation_only (taskId : TaskId) (epoch : ℕ) (moment : Time) (db : Store) :
    db.OnlyEffects (retireReservation taskId epoch moment db).1 := by
  unfold retireReservation
  split
  · rfl
  · dsimp only
    split
    · rfl
    · rfl

def Store.OnlyOwnerships (a b : Store) : Prop := b = { a with ownerships := b.ownerships }

theorem insertOwnership_only (db : Store) (record : TerminalOwnership) :
    db.OnlyOwnerships (db.insertOwnership record).1 := by
  unfold Store.insertOwnership
  split
  · rfl
  · rfl

theorem linkSuccessor_only {source successor : SessionId} :
    Moves Store.OnlyOwnerships (linkSuccessor source successor) := by
  intro db answer db' ran
  unfold linkSuccessor at ran
  split at ran
  · simp at ran
  · simp only [get_bind_run] at ran
    cases known : db.ownership source with
    | none => simp [known] at ran
    | some row =>
      simp only [known] at ran
      cases linked : row.successorSessionId with
      | some other =>
        simp only [linked] at ran
        split at ran
        · cases ran
          rfl
        · simp at ran
      | none =>
        simp only [linked] at ran
        split at ran
        · simp at ran
        · cases ran
          rfl

/-! ### A loss -/

def Store.noteEvidence (db : Store) (taskId : TaskId) (payload : String) : Store :=
  match db.task taskId with
  | some row =>
    if row.state ∈ liveStates then db.putTask { row with livenessEvidence := some payload } else db
  | none => db

theorem noteEvidence_only (db : Store) (taskId : TaskId) (payload : String) :
    db.OnlyTasks (db.noteEvidence taskId payload) := by
  unfold Store.noteEvidence
  split
  · split
    · rfl
    · rfl
  · rfl

theorem noteEvidence_observed (db : Store) (taskId : TaskId) (payload : String) :
    db.Observed (db.noteEvidence taskId payload) := by
  unfold Store.noteEvidence
  split
  · rename_i row known
    split
    · have named := Store.taskId_of_task known
      exact .putTask row (named ▸ known) ⟨rfl, rfl, le_rfl, rfl⟩
    · exact .refl db
  · exact .refl db

theorem noteEvidence_effect (db : Store) (taskId : TaskId) (payload : String) (t : TaskId) (n : ℕ) :
    (db.noteEvidence taskId payload).effect t n = db.effect t n := by
  have only : db.noteEvidence taskId payload = _ := noteEvidence_only ..
  rw [only]
  rfl

theorem lossEvidence_noted (task : TaskRecord) (reason payload : String) (now : Time) (db : Store) :
    lossEvidence task reason payload now db = (do
      match (← get).effect task.taskId task.epoch with
      | none =>
        throw (.taskStore ("Cannot lose task " ++ task.taskId ++ ": effect is missing"))
      | some effect =>
        if effect.state ≠ .terminal then
          modify fun db => db.putEffect { effect with
            state := .terminal, outcome := some reason, updatedAt := now } : Txn Unit)
      (db.noteEvidence task.taskId payload) := by
  unfold lossEvidence Store.noteEvidence
  simp only [get_bind_run]
  cases known : db.task task.taskId with
  | none => rfl
  | some row =>
    dsimp only
    split
    · rfl
    · rfl

theorem lossEvidence_ok {task : TaskRecord} {reason payload : String} {now : Time} {db : Store}
    {r : Unit × Store} (ran : lossEvidence task reason payload now db = .ok r) :
    ∃ effect, db.effect task.taskId task.epoch = some effect ∧
      (effect.state = .terminal ∧ r.2 = db.noteEvidence task.taskId payload ∨
        effect.state ≠ .terminal ∧ r.2 = (db.noteEvidence task.taskId payload).putEffect
          { effect with state := .terminal, outcome := some reason, updatedAt := now }) := by
  rw [lossEvidence_noted] at ran
  simp only [get_bind_run, noteEvidence_effect] at ran
  cases known : db.effect task.taskId task.epoch with
  | none => simp [known] at ran
  | some effect =>
    simp only [known] at ran
    refine ⟨effect, rfl, ?_⟩
    split at ran
    · rename_i opened
      cases ran
      exact .inr ⟨opened, rfl⟩
    · rename_i closed
      cases ran
      exact .inl ⟨not_not.mp closed, rfl⟩

/-- The evidence goes in where the epoch has an effect. -/
theorem lossEvidence_runs {task : TaskRecord} {db : Store} {effect : Effect}
    (known : db.effect task.taskId task.epoch = some effect) (reason payload : String)
    (now : Time) : ∃ r, lossEvidence task reason payload now db = .ok r := by
  rw [lossEvidence_noted]
  simp only [get_bind_run, noteEvidence_effect, known]
  split
  · exact ⟨_, rfl⟩
  · exact ⟨_, rfl⟩

/-- The three ends of the transaction of `_record_loss`: nothing, a retirement that committed by
itself, and the settled loss. -/
theorem recordLoss_cases (task : TaskRecord) (reason payload : String) (now : Time) (db : Store) :
    (∃ e, recordLoss task reason payload now db = (db, .error e)) ∨
      (∃ e, recordLoss task reason payload now db =
        ((db.insertOwnership (lossOwnership task)).1, .error e)) ∨
      ∃ marked record wakes db', lossEvidence task reason payload now db = .ok ((), marked) ∧
        finishWithWakeWithin task.taskId .lost (some reason) none false now
          { marked with ownerships := (db.insertOwnership (lossOwnership task)).1.ownerships } =
            .ok ((record, wakes), db') ∧
        recordLoss task reason payload now db = (db', .ok wakes) := by
  unfold recordLoss
  cases evidence : lossEvidence task reason payload now db with
  | error e => exact .inl ⟨e, rfl⟩
  | ok r =>
    obtain ⟨⟨⟩, marked⟩ := r
    dsimp only
    split
    · exact .inl ⟨_, rfl⟩
    · cases settled : finishWithWakeWithin task.taskId .lost (some reason) none false now
          { marked with ownerships := (db.insertOwnership (lossOwnership task)).1.ownerships } with
      | error e => exact .inr (.inl ⟨e, rfl⟩)
      | ok answer =>
        obtain ⟨⟨record, wakes⟩, db'⟩ := answer
        exact .inr (.inr ⟨marked, record, wakes, db', rfl, settled, rfl⟩)

theorem recordLoss_only (task : TaskRecord) (reason payload : String) (now : Time) (db : Store) :
    (recordLoss task reason payload now db).1 = { db with
      tasks := (recordLoss task reason payload now db).1.tasks
      effects := (recordLoss task reason payload now db).1.effects
      wakes := (recordLoss task reason payload now db).1.wakes
      ownerships := (recordLoss task reason payload now db).1.ownerships } := by
  obtain ⟨e, same⟩ | ⟨e, same⟩ | ⟨marked, record, wakes, db', evidence, settled, same⟩ :=
    recordLoss_cases task reason payload now db
  · rw [same]
  · have only : (db.insertOwnership (lossOwnership task)).1 = _ := insertOwnership_only db _
    rw [same, only]
  · have cohort : db' = _ := finishWithWakeWithin_only _ _ _ settled
    have noted : db.noteEvidence task.taskId payload = _ := noteEvidence_only ..
    obtain ⟨effect, _, ⟨_, marks⟩ | ⟨_, marks⟩⟩ := lossEvidence_ok evidence
    · dsimp only at marks
      rw [same, cohort, marks, noted]
    · dsimp only at marks
      rw [same, cohort, marks, noted]
      rfl

/-! ### The remaining tables -/

structure TaskRow.Owned (row : TaskRow) (epoch : ℕ) (holder : SessionId) (version : ℕ) : Prop where
  live : row.state ∈ liveStates
  epoch : row.epoch = epoch
  holder : row.holderSessionId = some holder
  version : row.version = version

theorem checkCheckpointOwner_ok {current : TaskRow} {epoch : ℕ} {holder : Option SessionId}
    {version : ℕ} {db : Store} {r : Unit × Store}
    (ran : checkCheckpointOwner current epoch holder version db = .ok r) :
    r.2 = db ∧ ∃ session, holder = some session ∧ current.Owned epoch session version := by
  unfold checkCheckpointOwner at ran
  split at ran
  · simp at ran
  · rename_i owned
    cases ran
    push Not at owned
    obtain ⟨live, same, held, _, holds, moved⟩ := owned
    obtain ⟨session, rfl⟩ := Option.ne_none_iff_exists'.mp held
    exact ⟨rfl, session, rfl, live, same, holds, moved⟩

theorem prepareCheckpoint_only {task : TaskRecord} {operationId checkpoint : String}
    {facts : CheckpointFacts} :
    Moves (fun a b : Store => b = { a with checkpoints := b.checkpoints })
      (prepareCheckpointOperation task operationId checkpoint facts) := by
  intro db operation db' ran
  unfold prepareCheckpointOperation at ran
  split at ran
  · simp at ran
  simp only [get_bind_run] at ran
  cases known : db.task task.taskId with
  | none => simp [known] at ran
  | some current =>
    simp only [known] at ran
    cases stored : db.checkpoints.get operationId with
    | some other =>
      simp only [stored] at ran
      split at ran
      · simp at ran
      · split at ran
        · obtain ⟨_, mid, owned, ran⟩ := bind_ok.mp ran
          have same : mid = db := (checkCheckpointOwner_ok owned).1
          have left : mid = db' := congrArg Prod.snd (Except.ok.inj ran)
          rw [← left, same]
        · cases ran
          rfl
    | none =>
      simp only [stored] at ran
      obtain ⟨_, mid, owned, ran⟩ := bind_ok.mp ran
      have same : mid = db := (checkCheckpointOwner_ok owned).1
      subst same
      split at ran
      · simp at ran
      · cases ran
        rfl

/-- An operation as the caller of a commit holds it. -/
def CheckpointOperation.Agrees (stored operation : CheckpointOperation) : Prop :=
  (stored.taskId, stored.epoch, stored.holderSessionId, stored.expectedVersion, stored.checkpoint,
    stored.facts) = (operation.taskId, operation.epoch, operation.holderSessionId,
      operation.expectedVersion, operation.checkpoint, operation.facts)

/-- What a confirmed occurrence accepted: a replay, or the checkpoint of the row. -/
theorem checkpointWithOccurrence_ok {operation : CheckpointOperation} {receipt : Receipt}
    {now : Time} {db db' : Store} {record : TaskRecord}
    (ran : checkpointWithOccurrence operation receipt now db = .ok (record, db')) :
    db' = db ∨ ∃ stored row mid,
      (db.checkpoints.get operation.operationId = some stored ∧ stored.receipt = none ∧
        stored.Agrees operation ∧ db.task stored.taskId = some row ∧
        row.Owned stored.epoch stored.holderSessionId stored.expectedVersion) ∧
      transition operation.taskId liveStates (some operation.expectedVersion)
        (Lifecycle.checkpointed operation.checkpoint now) id "checkpoint" now db =
          .ok (record, mid) ∧
      db' = { mid with
        checkpoints := mid.checkpoints.put { stored with receipt := some receipt } } := by
  simp only [checkpointWithOccurrence, get_bind_run] at ran
  cases found : db.checkpoints.get operation.operationId with
  | none => simp [found] at ran
  | some stored =>
    simp only [found] at ran
    split at ran
    · simp at ran
    · rename_i agreed
      have named : stored.taskId = operation.taskId := by grind
      have expected : stored.expectedVersion = operation.expectedVersion := by grind
      have text : stored.checkpoint = operation.checkpoint := by grind
      simp only [get_bind_run] at ran
      cases known : db.task stored.taskId with
      | none => simp [known] at ran
      | some current =>
        simp only [known] at ran
        cases receipted : stored.receipt with
        | some other =>
          simp only [receipted] at ran
          split at ran
          · simp at ran
          · cases ran
            exact .inl rfl
        | none =>
          simp only [receipted] at ran
          obtain ⟨_, checked, owned, rest⟩ := bind_ok.mp ran
          obtain ⟨same, session, held, owned⟩ := checkCheckpointOwner_ok owned
          cases held
          obtain ⟨record', mid, moved, left⟩ := bind_ok.mp rest
          have same : checked = db := same
          rw [named, expected, text, same] at moved
          obtain ⟨rfl, rfl⟩ := Prod.mk.inj (Except.ok.inj left)
          exact .inr ⟨stored, current, mid, ⟨rfl, receipted, not_not.mp agreed, known, owned⟩,
            moved, rfl⟩

theorem addIntent_only (db : Store) (intent : CleanupIntent) :
    db.addIntent intent = { db with cleanups := (db.addIntent intent).cleanups } := by
  unfold Store.addIntent
  split
  · rfl
  · rfl

theorem recordCleanupIntents_only (taskId : TaskId) (epoch : ℕ) (sessionId : SessionId)
    (commands : List Command) (db : Store) :
    recordCleanupIntents taskId epoch sessionId commands db = { db with
      cleanups := (recordCleanupIntents taskId epoch sessionId commands db).cleanups } := by
  unfold recordCleanupIntents
  apply List.foldlRecOn (motive := fun mid : Store => mid = { db with cleanups := mid.cleanups })
  · rfl
  · intro mid only intent _
    rw [addIntent_only mid intent, only]

theorem beginOutgoing_only (taskId : TaskId) (epoch : ℕ) (sessionId : SessionId)
    (dedupeKey : String) (db : Store) :
    beginOutgoingCommand taskId epoch sessionId dedupeKey db = { db with
      outgoing := (beginOutgoingCommand taskId epoch sessionId dedupeKey db).outgoing } := by
  unfold beginOutgoingCommand
  dsimp only
  split
  · rfl
  · rfl

theorem settleOutgoing_only {taskId : TaskId} {epoch : ℕ} {dedupeKey : String}
    {nativeId : Option String} {terminal : Bool} :
    Moves (fun a b : Store => b = { a with cleanups := b.cleanups, outgoing := b.outgoing })
      (settleOutgoingCommand taskId epoch dedupeKey nativeId terminal) := by
  intro db answer db' ran
  simp only [settleOutgoingCommand, get_bind_run] at ran
  cases found : db.outgoing.get (taskId, epoch, dedupeKey) with
  | none => simp [found] at ran
  | some command =>
    simp only [found, modify_bind_run] at ran
    cases nativeId with
    | none =>
      cases ran
      rfl
    | some native =>
      dsimp only at ran
      split at ran
      · cases ran
        dsimp only
        rw [addIntent_only]
      · cases ran
        rfl

theorem acknowledgeCleanup_only (taskId : TaskId) (epoch : ℕ) (kind : CleanupKind)
    (nativeId : String) (db : Store) :
    acknowledgeCleanupIntent taskId epoch kind nativeId db = { db with
      cleanups := (acknowledgeCleanupIntent taskId epoch kind nativeId db).cleanups
      outgoing := (acknowledgeCleanupIntent taskId epoch kind nativeId db).outgoing } := by
  unfold acknowledgeCleanupIntent
  extract_lets acked
  have only : acked = { db with cleanups := acked.cleanups } := by
    unfold acked
    split
    · rfl
    · rfl
  split
  · apply List.foldlRecOn (motive := fun mid : Store =>
      mid = { db with cleanups := mid.cleanups, outgoing := mid.outgoing })
    · rw [only]
    · intro mid kept command _
      rw [kept]
  · rw [only]

/-! ### The frame of a transaction -/

/-- A transaction writes only its own tables. -/
theorem Tx.exec_only (tx : Tx β) (db : Store) : tx.Only db (tx.exec db).1 := by
  cases tx with
  | read view => rfl
  | reserveAll => exact atomically_moves reserveAll_only (fun _ => rfl) db
  | activate => exact atomically_moves transaction_only (fun _ => rfl) db
  | prepareReplacement =>
    refine atomically_moves (R := Store.OnlyTasks) (fun db r db' ran => ?_) .refl db
    obtain ⟨_, _, _, moved⟩ := prepareReplacement_ok ran
    exact transition_only _ _ _ moved
  | resumeReplacement => exact atomically_moves transaction_only (fun _ => rfl) db
  | reissue => exact atomically_moves transaction_only (fun _ => rfl) db
  | checkpointRow => exact atomically_moves transaction_only (fun _ => rfl) db
  | prepareCheckpoint => exact atomically_moves prepareCheckpoint_only (fun _ => rfl) db
  | checkpointOccurrence operation receipt now =>
    refine atomically_moves (R := fun a b : Store =>
      b = { a with tasks := b.tasks, checkpoints := b.checkpoints })
      (fun db r db' ran => ?_) (fun _ => rfl) db
    obtain rfl | ⟨stored, row, mid, _, moved, rfl⟩ := checkpointWithOccurrence_ok ran
    · rfl
    · have only : mid = _ := transition_only _ _ _ moved
      rw [only]
  | finish =>
    exact atomically_moves (R := Store.OnlyCohort)
      (fun _ _ _ ran => finishWithWakeWithin_only _ _ _ (wrapping_ok.mp ran)) .refl db
  | finishExpired => exact atomically_moves finish_only (fun _ => rfl) db
  | recordLoss => exact recordLoss_only ..
  | recordFinding => exact atomically_moves recordFinding_only (fun _ => rfl) db
  | reserve => exact atomically_moves reserveEffect_only (fun _ => rfl) db
  | markLaunched => exact atomically_moves advanceEffect_only (fun _ => rfl) db
  | markTerminal => exact atomically_moves advanceEffect_only (fun _ => rfl) db
  | markRefused => exact atomically_moves advanceEffect_only (fun _ => rfl) db
  | markSuperseded => exact atomically_moves advanceEffect_only (fun _ => rfl) db
  | markCleanupWorkspace => exact atomically_moves markCleanupWorkspace_only (fun _ => rfl) db
  | retireReservation => exact retireReservation_only ..
  | acknowledgeStop => exact acknowledgeStop_only ..
  | retire => exact insertOwnership_only ..
  | linkSuccessor => exact atomically_moves linkSuccessor_only (fun _ => rfl) db
  | recordCohortWakes => exact recordCohortWakes_only ..
  | claimWakes => exact claimWakes_only ..
  | persistPayload => exact persistPayload_only ..
  | settleWake => exact settleWake_only ..
  | recordCleanupIntents => exact recordCleanupIntents_only ..
  | beginOutgoing => exact beginOutgoing_only ..
  | settleOutgoing => exact atomically_moves settleOutgoing_only (fun _ => rfl) db
  | acknowledgeCleanup => exact acknowledgeCleanup_only ..

end SightMesh
