import SightMesh.Properties.Lifecycle

/-! The unique index of the task table: no two open tasks hold one session. -/
namespace SightMesh

open Concurrency Database Python

variable {α β γ : Type} {py : Library} {x : Executor γ}

def TaskRow.Holds (row : TaskRow) (sessionId : SessionId) : Prop :=
  row.state ∈ holderStates ∧ row.holderSessionId = some sessionId

instance (row : TaskRow) (sessionId : SessionId) : Decidable (row.Holds sessionId) :=
  inferInstanceAs (Decidable (_ ∧ _))

def Store.HoldersApart (db : Store) : Prop :=
  ∀ t t' row row' sessionId, db.task t = some row → db.task t' = some row' →
    row.Holds sessionId → row'.Holds sessionId → t = t'

def Store.KeepsHolders (db db' : Store) : Prop := db.HoldersApart → db'.HoldersApart

theorem Store.KeepsHolders.trans (a b c : Store) (first : a.KeepsHolders b)
    (second : b.KeepsHolders c) : a.KeepsHolders c :=
  fun apart => second (first apart)

theorem Store.KeepsHolders.of_rows {db db' : Store}
    (rows : ∀ t next sessionId, db'.task t = some next → next.Holds sessionId →
      ∃ row, db.task t = some row ∧ row.Holds sessionId) : db.KeepsHolders db' := by
  intro apart t t' next next' sessionId known known' holds holds'
  obtain ⟨row, before, held⟩ := rows t next sessionId known holds
  obtain ⟨row', before', held'⟩ := rows t' next' sessionId known' holds'
  exact apart t t' row row' sessionId before before' held held'

theorem Store.Observed.holders {db db' : Store} (observed : db.Observed db') :
    db.KeepsHolders db' := by
  refine .of_rows fun t next sessionId known holds => ?_
  cases before : db.task t with
  | none => exact nomatch (observed.fresh t before).symm.trans known
  | some row =>
    obtain ⟨next', known', same⟩ := observed.kept t row before
    cases Option.some.inj (known.symm.trans known')
    have state : next.state = row.state := congrArg Lifecycle.state same.lifecycle
    have holder : next.holderSessionId = row.holderSessionId :=
      congrArg Lifecycle.holderSessionId same.lifecycle
    exact ⟨row, rfl, state ▸ holds.1, holder ▸ holds.2⟩

theorem Store.KeepsHolders.of_tasks {db db' : Store} (same : db'.tasks = db.tasks) :
    db.KeepsHolders db' :=
  (Store.Observed.of_tasks same).holders

theorem Store.holderTaken_eq_false {db : Store} {row : TaskRow}
    (free : db.holderTaken row = false) {t : TaskId} {other : TaskRow} {sessionId : SessionId}
    (known : db.task t = some other) (holds : row.Holds sessionId)
    (holds' : other.Holds sessionId) : t = row.taskId := by
  by_contra apart
  have named : other.taskId = t := Store.taskId_of_task known
  have taken : db.holderTaken row = true := by
    simp only [Store.holderTaken, Bool.and_eq_true, decide_eq_true_eq, List.any_eq_true]
    exact ⟨⟨holds.1, by rw [holds.2]; rfl⟩, other, Table.mem_of_get known,
      ⟨named ▸ apart, holds'.1⟩, holds'.2.trans holds.2.symm⟩
  rw [taken] at free
  exact Bool.noConfusion free

theorem Store.KeepsHolders.putTask {db : Store} {row : TaskRow}
    (free : db.holderTaken row = false) : db.KeepsHolders (db.putTask row) := by
  intro apart t t' next next' sessionId known known' holds holds'
  rw [Store.task_putTask] at known known'
  split at known
  · rename_i here
    cases Option.some.inj known
    split at known'
    · rename_i there
      exact here.trans there.symm
    · exact here.trans (Store.holderTaken_eq_false free known' holds holds').symm
  · split at known'
    · rename_i there
      cases Option.some.inj known'
      exact (Store.holderTaken_eq_false free known holds' holds).trans there.symm
    · exact apart t t' next next' sessionId known known' holds holds'

theorem transition_holders {t : TaskId} {expectStates : List TaskState} {expectVersion : Option ℕ}
    {assign : Lifecycle → Lifecycle} {observe : Health → Health} {attempted : String} {now : Time} :
    Moves Store.KeepsHolders
      (transition t expectStates expectVersion assign observe attempted now) := by
  intro db record db' ran
  obtain ⟨row, _, _, _, free, left⟩ := transition_ok.mp ran
  obtain ⟨rfl, rfl⟩ := Prod.mk.inj left
  exact .putTask free

theorem transaction_holders {t : TaskId} {expectStates : List TaskState} {expectVersion : Option ℕ}
    {assign : Lifecycle → Lifecycle} {attempted : String} {now : Time} :
    Moves Store.KeepsHolders (transaction t expectStates expectVersion assign attempted now) :=
  fun _ _ _ ran => transition_holders _ _ _ (wrapping_ok.mp ran)

theorem finish_holders {t : TaskId} {state : TaskState} {result : Option String}
    {chargeFailure : Bool} {now : Time} :
    Moves Store.KeepsHolders (finish t state result none chargeFailure now) := by
  intro db record db' ran
  obtain ⟨row, _, _, _, free, left⟩ := finish_ok.mp ran
  obtain ⟨rfl, rfl⟩ := Prod.mk.inj left
  exact .putTask free

theorem finishWithWakeWithin_holders {t : TaskId} {state : TaskState} {result : Option String}
    {chargeFailure : Bool} {now : Time} :
    Moves Store.KeepsHolders (finishWithWakeWithin t state result none chargeFailure now) := by
  intro db finished db' ran
  obtain ⟨record, mid, finished, armed⟩ := bind_ok.mp ran
  have left : (wakeParent record now mid).1 = db' := congrArg Prod.snd (Except.ok.inj armed)
  exact (finish_holders _ _ _ finished).trans _ _ _
    (left ▸ (wakeParent_observed record now mid).holders)

theorem recordLoss_holders (task : TaskRecord) (reason payload : String) (now : Time) (db : Store) :
    db.KeepsHolders (recordLoss task reason payload now db).1 := by
  obtain ⟨e, same⟩ | ⟨e, same⟩ | ⟨marked, record, wakes, db', evidence, settled, same⟩ :=
    recordLoss_cases task reason payload now db
  · rw [same]
    exact .of_tasks rfl
  · rw [same]
    have only : (db.insertOwnership (lossOwnership task)).1 = _ := insertOwnership_only db _
    have tasks : (db.insertOwnership (lossOwnership task)).1.tasks = db.tasks := by rw [only]
    exact .of_tasks tasks
  · rw [same]
    have noted := (noteEvidence_observed db task.taskId payload).holders
    have tasks : marked.tasks = (db.noteEvidence task.taskId payload).tasks := by
      obtain ⟨effect, _, ⟨_, marks⟩ | ⟨_, marks⟩⟩ := lossEvidence_ok evidence
      · rw [show marked = _ from marks]
      · rw [show marked = _ from marks]
        rfl
    have marked : db.KeepsHolders
        { marked with ownerships := (db.insertOwnership (lossOwnership task)).1.ownerships } :=
      noted.trans _ _ _ (.of_tasks tasks)
    exact marked.trans _ _ _ (finishWithWakeWithin_holders _ _ _ settled)

theorem reserveAll_holders (scope : String) (parentTaskId : Option TaskId) (specs : List TaskSpec)
    (maxAttempts : ℕ) (now : Time) (db : Store) :
    db.KeepsHolders ((Tx.reserveAll scope parentTaskId specs maxAttempts now).exec db).1 := by
  obtain ⟨kept, added⟩ := reserveAll_inserts scope parentTaskId specs maxAttempts now db
  refine .of_rows fun t next sessionId known holds => ?_
  cases before : db.task t with
  | none =>
    obtain ⟨⟨spec, _, rfl⟩, _⟩ := added t next before known
    exact absurd holds.1 (show TaskState.reserved ∉ holderStates by decide)
  | some row =>
    cases Option.some.inj (known.symm.trans (kept t row before))
    exact ⟨next, rfl, holds⟩

theorem Tx.exec_holders (tx : Tx β) (db : Store) : db.KeepsHolders (tx.exec db).1 := by
  have only := tx.exec_only db
  have refl (db : Store) : db.KeepsHolders db := .of_tasks rfl
  cases tx with
  | reserveAll scope parentTaskId specs maxAttempts now =>
    exact reserveAll_holders scope parentTaskId specs maxAttempts now db
  | activate | resumeReplacement | reissue | checkpointRow =>
    exact atomically_moves transaction_holders refl db
  | prepareReplacement seen target chargeFailure now =>
    refine atomically_moves (fun db record db' ran => ?_) refl db
    obtain ⟨_, _, _, moved⟩ := prepareReplacement_ok ran
    exact transition_holders _ _ _ moved
  | checkpointOccurrence operation receipt now =>
    refine atomically_moves (fun db record db' ran => ?_) refl db
    obtain rfl | ⟨stored, row, mid, _, moved, rfl⟩ := checkpointWithOccurrence_ok ran
    · exact refl _
    · exact (transition_holders _ _ _ moved).trans _ _ _ (.of_tasks rfl)
  | finish =>
    refine atomically_moves (fun db finished db' ran => ?_) refl db
    exact finishWithWakeWithin_holders _ _ _ (wrapping_ok.mp ran)
  | finishExpired => exact atomically_moves finish_holders refl db
  | recordLoss seen reason payload now => exact recordLoss_holders seen reason payload now db
  | recordFinding =>
    exact atomically_moves (fun _ _ _ ran => (recordFinding_observed _ _ _ ran).holders) refl db
  | settleWake wake state resolution payload now =>
    have rows := settleWake_rows wake state resolution payload now db
    refine .of_rows fun t next sessionId known holds => ?_
    cases before : db.task t with
    | none => exact nomatch (rows.fresh t before).symm.trans known
    | some row =>
      obtain ⟨next', known', step⟩ := rows.kept t row before
      cases Option.some.inj (known.symm.trans known')
      have same := step.still (by simp [Tx.mover])
      have state : next.state = row.state := congrArg Lifecycle.state same
      have holder : next.holderSessionId = row.holderSessionId :=
        congrArg Lifecycle.holderSessionId same
      exact ⟨row, rfl, state ▸ holds.1, holder ▸ holds.2⟩
  | _ =>
    have same := congrArg Store.tasks only
    exact .of_tasks same

theorem reachable_holders_apart {w : KernelWorld γ} (reached : Reachable (kernel py x) anyEvent w) :
    w.shared.store.HoldersApart :=
  run_invariant (fun s => s.store.HoldersApart)
    (fun _ _ _ _ _ _ _ known => absurd (Table.mem_of_get known) List.not_mem_nil)
    (fun {_ s _ tx} _ _ _ apart => tx.exec_holders s.store apart) (fun _ _ apart => apart) reached

end SightMesh
