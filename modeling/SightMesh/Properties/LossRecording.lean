import SightMesh.Properties.ExpirySweep
import SightMesh.Properties.Settlement

/-! What `_record_loss` leaves when nothing else runs, and when it leaves nothing. -/
namespace SightMesh

open Concurrency Database Python Prog

variable {γ α β : Type} {py : Library} {x : Executor γ}
  {ok : Shared Tx Query Store γ → Event Tx Query → Prop} {s s' : Shared Tx Query Store γ}

/-! ### The transaction -/

def lostStates : List TaskState := [.lost, .exhausted]

/-- The holder would have to be retired through a second connection, on the file that the
transaction of the loss holds. -/
def Store.lockedOut (db : Store) (task : TaskRecord) : Bool :=
  (db.ownership (lossOwnership task).sessionId).isNone && db.ownershipShared

def Store.recordable (db : Store) (task : TaskRecord) : Bool :=
  (db.effect task.taskId task.epoch).isSome && !db.lockedOut task &&
    (db.task task.taskId).any TaskRow.losable

structure LossSettled (db db' : Store) (task : TaskRecord) : Prop where
  row : ∃ next, db'.task task.taskId = some next ∧ next.epoch = task.epoch ∧
    next.state ∈ lostStates
  effect : ∃ effect, db'.effect task.taskId task.epoch = some effect ∧ effect.state = .terminal
  holder : (db'.ownership (lossOwnership task).sessionId).isSome
  parent : ∀ p, task.parentTaskId = some p → ∃ parent parent', db.task p = some parent ∧
    db'.task p = some parent' ∧ parent.childEventSeq < parent'.childEventSeq

theorem insertOwnership_isSome (db : Store) (record : TerminalOwnership) :
    ((db.insertOwnership record).1.ownership record.sessionId).isSome := by
  unfold Store.insertOwnership
  split
  · rename_i existing known
    exact Option.isSome_of_mem known
  · simp [Store.ownership]

/-- The store a loss is settled in: its evidence is on the row, its effect has ended, and its
holder is retired. -/
theorem lossEvidence_marks {task : TaskRecord} {db : Store} {effect : Effect}
    (known : db.effect task.taskId task.epoch = some effect) (reason payload : String)
    (now : Time) :
    ∃ marked, lossEvidence task reason payload now db = .ok ((), marked) ∧ db.Observed marked ∧
      ∃ ended, marked.effect task.taskId task.epoch = some ended ∧ ended.state = .terminal := by
  obtain ⟨⟨⟨⟩, marked⟩, ran⟩ := lossEvidence_runs known reason payload now
  have noted := noteEvidence_observed db task.taskId payload
  refine ⟨marked, ran, ?_⟩
  obtain ⟨other, found, ⟨ended, left⟩ | ⟨_, left⟩⟩ := lossEvidence_ok ran
  · obtain rfl : marked = db.noteEvidence task.taskId payload := left
    cases Option.some.inj (known.symm.trans found)
    exact ⟨noted, effect, (noteEvidence_effect ..).trans known, ended⟩
  · obtain rfl : marked = (db.noteEvidence task.taskId payload).putEffect
        { other with state := .terminal, outcome := some reason, updatedAt := now } := left
    have key : (task.taskId, task.epoch) = other.key := (Store.key_of_effect found).symm
    refine ⟨noted.trans _ _ _ (.of_tasks rfl),
      { other with state := .terminal, outcome := some reason, updatedAt := now }, ?_, rfl⟩
    rw [Store.effect_putEffect, if_pos]
    exact key

theorem finishWithWakeWithin_lost {db : Store} {t : TaskId} {row : TaskRow}
    (known : db.task t = some row) (losable : row.losable) (result : Option String) (now : Time) :
    ∃ r, finishWithWakeWithin t .lost result none false now db = .ok r := by
  have finished := finish_ok.mpr ⟨row, known, row.losable_iff.mp losable, .inl rfl,
    holderTaken_lost db row result now, rfl⟩
  exact ⟨_, bind_ok.mpr ⟨_, _, finished, rfl⟩⟩

theorem TaskRow.Observed.losable {row next : TaskRow} (h : row.Observed next) :
    next.losable = row.losable := by
  have state : next.state = row.state := congrArg Lifecycle.state h.lifecycle
  have attempts : next.attempts = row.attempts := congrArg Lifecycle.attempts h.lifecycle
  have limit : next.maxAttempts = row.maxAttempts := congrArg Identity.maxAttempts h.identity
  rw [TaskRow.losable, TaskRow.losable, state, attempts, limit]

theorem recordLoss_settles {db : Store} {row : TaskRow} (known : db.task row.taskId = some row)
    (recordable : db.recordable row.toTaskRecord)
    (parents : ∀ p, row.parentTaskId = some p → p ≠ row.taskId ∧ (db.task p).isSome)
    (reason payload : String) (now : Time) :
    (∃ wakes, (recordLoss row.toTaskRecord reason payload now db).2 = .ok wakes) ∧
      LossSettled db (recordLoss row.toTaskRecord reason payload now db).1 row.toTaskRecord := by
  simp only [Store.recordable, known, Option.any_some, Bool.and_eq_true, Bool.not_eq_true']
    at recordable
  obtain ⟨⟨journaled, free⟩, losable⟩ := recordable
  obtain ⟨effect, found⟩ := Option.isSome_iff_exists.mp journaled
  obtain ⟨marked, evidence, observed, ended, there, closed⟩ :=
    lossEvidence_marks found reason payload now
  let settling : Store := { marked with
    ownerships := (db.insertOwnership (lossOwnership row.toTaskRecord)).1.ownerships }
  have observed : db.Observed settling := observed.trans _ _ _ (.of_tasks rfl)
  obtain ⟨noted, known', same⟩ := observed.kept _ _ known
  obtain ⟨⟨answer, db'⟩, settled⟩ :=
    finishWithWakeWithin_lost known' (same.losable.trans losable) (some reason) now
  have left : recordLoss row.toTaskRecord reason payload now db = (db', .ok answer.2) := by
    have unlocked : ¬ ((db.ownership (lossOwnership row.toTaskRecord).sessionId).isNone ∧
        db.ownershipShared) := by simpa [Store.lockedOut] using free
    rw [recordLoss, evidence]
    simp only [if_neg unlocked]
    rw [settled]
  have only : db' = _ := finishWithWakeWithin_only _ _ _ settled
  obtain ⟨before, next, found', after, _, moved, counts⟩ := finishWithWakeWithin_rows settled
  cases Option.some.inj (known'.symm.trans found')
  rw [left]
  refine ⟨⟨answer.2, rfl⟩, ?_, ?_, ?_, ?_⟩
  · have state : next.state = (noted.finish .lost (some reason) false now).state :=
      congrArg Lifecycle.state moved.lifecycle
    have epoch : next.epoch = (noted.finish .lost (some reason) false now).epoch :=
      congrArg Lifecycle.epoch moved.lifecycle
    refine ⟨next, after, epoch.trans ?_, ?_⟩
    · exact (Lifecycle.finished_epoch ..).trans (congrArg Lifecycle.epoch same.lifecycle)
    · rw [state]
      exact finished_lost_state ..
  · refine ⟨ended, ?_, closed⟩
    rw [only]
    exact there
  · rw [only]
    exact insertOwnership_isSome db _
  · intro p parented
    obtain ⟨apart, exists_⟩ := parents p parented
    obtain ⟨parent, found⟩ := Option.isSome_iff_exists.mp exists_
    obtain ⟨parent', there', same'⟩ := observed.kept _ _ found
    have parented' : noted.parentTaskId = some p :=
      (congrArg Identity.parentTaskId same.identity).trans parented
    obtain ⟨last, after', counted⟩ := counts p parent' parented' apart there'
    exact ⟨parent, last, found, after', lt_of_le_of_lt same'.events counted⟩

theorem recordLoss_locked {db : Store} {task : TaskRecord} {effect : Effect}
    (known : db.effect task.taskId task.epoch = some effect) (locked : db.lockedOut task)
    (reason payload : String) (now : Time) :
    recordLoss task reason payload now db =
      (db, .error (.succession ("Cannot retire session " ++ (lossOwnership task).sessionId ++
        ": database is locked"))) := by
  obtain ⟨marked, evidence, _⟩ := lossEvidence_marks known reason payload now
  have locked : (db.ownership (lossOwnership task).sessionId).isNone ∧ db.ownershipShared := by
    simpa [Store.lockedOut] using locked
  rw [recordLoss, evidence]
  simp only [if_pos locked]

/-- A loss that cannot be recorded leaves every row of a task as it was. -/
theorem recordLoss_refused {db : Store} {row : TaskRow} (known : db.task row.taskId = some row)
    (refused : ¬ db.recordable row.toTaskRecord) (reason payload : String) (now : Time) :
    (∃ e, (recordLoss row.toTaskRecord reason payload now db).2 = .error e) ∧
      (recordLoss row.toTaskRecord reason payload now db).1.tasks = db.tasks := by
  obtain ⟨e, same⟩ | ⟨e, same⟩ | ⟨marked, record, wakes, db', evidence, settled, same⟩ :=
    recordLoss_cases row.toTaskRecord reason payload now db
  · rw [same]
    exact ⟨⟨e, rfl⟩, rfl⟩
  · have only : (db.insertOwnership (lossOwnership row.toTaskRecord)).1 = _ :=
      insertOwnership_only db _
    rw [same]
    refine ⟨⟨e, rfl⟩, ?_⟩
    rw [only]
  · apply absurd ?_ refused
    obtain ⟨effect, found, _⟩ := lossEvidence_ok evidence
    obtain ⟨marked', evidence', observed, _⟩ := lossEvidence_marks found reason payload now
    cases evidence.symm.trans evidence'
    have free : db.lockedOut row.toTaskRecord = false := by
      by_contra locked
      have locked := recordLoss_locked found (by simpa using locked) reason payload now
      exact nomatch (congrArg Prod.snd same).symm.trans (congrArg Prod.snd locked)
    have losable : row.losable := by
      obtain ⟨before, _, found', _, legal, _⟩ := finishWithWakeWithin_rows settled
      have observed : db.Observed { marked with
          ownerships := (db.insertOwnership (lossOwnership row.toTaskRecord)).1.ownerships } :=
        observed.trans _ _ _ (.of_tasks rfl)
      obtain ⟨noted, known', same⟩ := observed.kept _ _ known
      cases Option.some.inj (known'.symm.trans found')
      exact same.losable.symm.trans (before.losable_iff.mpr legal)
    simp [Store.recordable, known, found, free, losable]

/-! ### What the programs around it commit -/

section Issues

variable {P : {β : Type} → Tx β → Prop}

theorem issues_read {view : Store → β} (allowed : P (.read view)) : (read view).Issues P :=
  .commit allowed

theorem issues_clock : clock.Issues P := .ask _

theorem issues_stamped {tx : Time → Tx (Answer β)} (allowed : ∀ now, P (tx now)) :
    (stamped tx).Issues P :=
  issues_clock.bind fun now => .run (allowed now)

theorem issues_queueCommands (sessionId : SessionId) : (queueCommands sessionId).Issues P :=
  Issues.bind (.query _) fun _ => trivial

theorem issues_isolated {body : Kernel Unit} (h : body.Issues P) : (isolated body).Issues P :=
  h.handle fun _ => trivial

theorem issues_excepting {body : Kernel β} {caught : KernelError → Bool}
    {handler : KernelError → Kernel β} (h : body.Issues P)
    (rescue : ∀ e, (handler e).Issues P) : (excepting body caught handler).Issues P := by
  refine h.handle fun e => ?_
  split
  · exact rescue e
  · trivial

theorem issues_forEach {xs : List α} {body : α → Kernel Unit} (h : ∀ a, (body a).Issues P) :
    (forEach xs body).Issues P := by
  induction xs with
  | nil => trivial
  | cons a xs ih => exact (h a).bind fun _ => ih

end Issues

theorem isolated_ends {body : Kernel Unit} {r : Answer Unit}
    (run : (isolated body).Ends (kernel py x) ok s r s') : r = .ok () := by
  rcases ends_handle.mp run with ⟨_, _, rfl⟩ | ⟨_, _, _, rfl, _⟩
  · rfl
  · rfl

theorem forEach_isolated_ends {xs : List α} {body : α → Kernel Unit} {r : Answer Unit}
    (run : (forEach xs fun a => isolated (body a)).Ends (kernel py x) ok s r s') : r = .ok () := by
  induction xs generalizing s with
  | nil => exact run.1
  | cons a xs ih =>
    rcases ends_bind.mp run with ⟨_, mid, _, rest⟩ | ⟨e, first, _⟩
    · exact ih rest
    · exact nomatch isolated_ends first

/-- The transactions of a cleanup. -/
def Tx.Cleans : Tx β → Prop
  | .read _ | .acknowledgeStop .. | .recordCleanupIntents .. | .settleOutgoing ..
  | .acknowledgeCleanup .. => True
  | _ => False

structure Store.Cleaned (a b : Store) : Prop where
  tasks : b.tasks = a.tasks
  ownerships : b.ownerships = a.ownerships
  effects : ∀ t n e, a.effect t n = some e →
    ∃ e', b.effect t n = some e' ∧ e'.state = e.state

theorem Store.Cleaned.refl (db : Store) : db.Cleaned db :=
  ⟨rfl, rfl, fun _ _ e known => ⟨e, known, rfl⟩⟩

theorem Store.Cleaned.trans (a b c : Store) (first : a.Cleaned b) (second : b.Cleaned c) :
    a.Cleaned c where
  tasks := second.tasks.trans first.tasks
  ownerships := second.ownerships.trans first.ownerships
  effects t n e known := by
    obtain ⟨mid, known, same⟩ := first.effects t n e known
    obtain ⟨last, known, same'⟩ := second.effects t n mid known
    exact ⟨last, known, same'.trans same⟩

theorem Tx.Cleans.cleaned {tx : Tx β} (cleans : tx.Cleans) (db : Store) :
    db.Cleaned (tx.exec db).1 := by
  have only := tx.exec_only db
  have journal := tx.exec_journal db
  generalize (tx.exec db).1 = db' at only journal
  generalize (tx.exec db).2 = answer at journal
  cases tx with
  | read =>
    obtain rfl : db' = db := only
    exact .refl _
  | acknowledgeStop effect now =>
    have only : db' = { db with effects := db'.effects } := only
    constructor
    · rw [only]
    · rw [only]
    · intro t n e known
      obtain ⟨next, found, rfl | ⟨_, _, _, rfl⟩⟩ := journal.kept t n e known
      · exact ⟨next, found, rfl⟩
      · exact ⟨_, found, rfl⟩
  | recordCleanupIntents =>
    have only : db' = { db with cleanups := db'.cleanups } := only
    rw [only]
    exact ⟨rfl, rfl, fun _ _ e known => ⟨e, known, rfl⟩⟩
  | settleOutgoing | acknowledgeCleanup =>
    have only : db' = { db with cleanups := db'.cleanups, outgoing := db'.outgoing } := only
    rw [only]
    exact ⟨rfl, rfl, fun _ _ e known => ⟨e, known, rfl⟩⟩
  | _ => exact cleans.elim

theorem issues_stopTerminal (effect : Effect) : (stopTerminal effect).Issues (@Tx.Cleans) := by
  unfold stopTerminal
  split
  · trivial
  · split
    · trivial
    · exact Issues.bind (.query _) fun _ => issues_clock.bind fun _ => .commit trivial

theorem issues_requestCleanup (intent : CleanupIntent) :
    (requestCleanup intent).Issues (@Tx.Cleans) := by
  unfold requestCleanup
  split
  · refine Issues.bind (.ask _) fun answer => ?_
    split
    · trivial
    · exact (issues_queueCommands _).bind fun _ => Issues.bind (.commit trivial) fun _ => trivial
    · trivial
  · refine Issues.bind (.query _) fun stopped => ?_
    split
    · trivial
    · exact Issues.bind (.query _) fun _ => trivial

theorem issues_reconcileCleanupIntents : reconcileCleanupIntents.Issues (@Tx.Cleans) := by
  have resolve (command : OutgoingCommand) : (resolveOutgoing command).Issues (@Tx.Cleans) := by
    refine Issues.withLock ((issues_queueCommands _).released.bind fun commands => ?_)
    split
    · trivial
    · exact .run trivial
  have settle (intent : CleanupIntent) : (reconcileIntent intent).Issues (@Tx.Cleans) := by
    refine Issues.withLock ((issues_requestCleanup intent).released.bind fun settled => ?_)
    split
    · exact .commit trivial
    · trivial
  refine (issues_read trivial).bind fun outgoing => ?_
  refine (issues_forEach fun command => issues_isolated (resolve command)).bind fun _ => ?_
  exact (issues_read trivial).bind fun intents =>
    issues_forEach fun intent => issues_isolated (settle intent)

theorem cleans_ends {p : Kernel α} {r : Answer α} (issues : p.Issues (@Tx.Cleans))
    (run : p.Ends (kernel py x) ok s r s') : s.store.Cleaned s'.store :=
  Ends.moves (S := kernel py x) .refl Store.Cleaned.trans (fun _ db cleans => cleans.cleaned db)
    issues run

theorem reconcileCleanupIntents_ends {r : Answer Unit}
    (run : reconcileCleanupIntents.Ends (kernel py x) ok s r s') :
    r = .ok () ∧ s.store.Cleaned s'.store := by
  refine ⟨?_, cleans_ends issues_reconcileCleanupIntents run⟩
  obtain ⟨_, run⟩ := ends_read_bind.mp run
  rcases ends_bind.mp run with ⟨_, mid, _, rest⟩ | ⟨e, first, _⟩
  · exact forEach_isolated_ends (ends_read_bind.mp rest).2
  · exact nomatch forEach_isolated_ends first

theorem LossSettled.cleaned {a b c : Store} {task : TaskRecord} (h : LossSettled a b task)
    (cleaned : b.Cleaned c) : LossSettled a c task where
  row := by
    obtain ⟨next, known, lost⟩ := h.row
    refine ⟨next, ?_, lost⟩
    rw [Store.task, cleaned.tasks]
    exact known
  effect := by
    obtain ⟨effect, known, ended⟩ := h.effect
    obtain ⟨last, known, same⟩ := cleaned.effects _ _ effect known
    exact ⟨last, known, same.trans ended⟩
  holder := by
    rw [Store.ownership, cleaned.ownerships]
    exact h.holder
  parent p parented := by
    obtain ⟨parent, parent', known, found, counted⟩ := h.parent p parented
    refine ⟨parent, parent', known, ?_, counted⟩
    rw [Store.task, cleaned.tasks]
    exact found

/-! ### The program -/

/-- The run begins with the question for the commands of a session, and this answer. -/
def Listed (holder : SessionId) (s s' : Shared Tx Query Store γ)
    (answer : Answer (List NativeCommand)) : Prop :=
  .call (.sessionCommands holder) answer :: s.trace <:+ s'.trace

theorem Listed.extends {holder : SessionId} {answer : Answer (List NativeCommand)}
    {mid : Shared Tx Query Store γ} (h : Listed holder s mid answer) {p : Kernel α} {r : Answer α}
    (run : p.Ends (kernel py x) ok mid r s') : Listed holder s s' answer := by
  obtain ⟨events, left⟩ := run.extends
  apply List.IsSuffix.trans h
  rw [left]
  exact List.suffix_append _ _

theorem holderCommands_ends {task : TaskRecord} {r : Answer (List Command)}
    (run : (holderCommands task).Ends (kernel py x) ok s r s') :
    s'.store = s.store ∧ ((∃ commands, r = .ok commands ∧ ∀ holder ∈ present task.holderSessionId,
        ∃ rows, Listed holder s s' (.ok rows)) ∨
      ∃ e, r = .error e ∧ ∃ holder ∈ present task.holderSessionId,
        Listed holder s s' (.error e)) := by
  unfold holderCommands at run
  split at run
  · rename_i unheld
    obtain ⟨rfl, rfl⟩ := run
    refine ⟨rfl, .inl ⟨[], rfl, fun holder held => ?_⟩⟩
    rw [unheld] at held
    cases held
  · rename_i holder held
    obtain ⟨answer, asked, rfl⟩ := ends_bind_ret.mp (ends_released.mp (ends_withLock.mp run))
    obtain ⟨env, _, _, left⟩ := ends_query.mp asked
    rw [left]
    refine ⟨rfl, ?_⟩
    cases answer with
    | ok rows =>
      refine .inl ⟨_, rfl, fun other same => ?_⟩
      rw [held] at same
      cases same
      exact ⟨rows, List.suffix_refl _⟩
    | error e => exact .inr ⟨e, rfl, holder, held, List.suffix_refl _⟩

/-- What `_record_loss` comes to under the fence, on a row that nobody else moves: one transaction,
on a store that differs from the first in cleanup intents only. -/
theorem recordLossLocked_ends {row : TaskRow} {reason payload : String} {commands : List Command}
    {r : Answer Bool} (known : s.store.task row.taskId = some row) (active : row.state = .active)
    (run : (recordLossLocked row.toTaskRecord reason payload commands).Ends (kernel py x) ok s
      r s') :
    ∃ now mid, mid = { s.store with cleanups := mid.cleanups } ∧
      s'.store = (recordLoss row.toTaskRecord reason payload now mid).1 ∧
      r = (recordLoss row.toTaskRecord reason payload now mid).2.map fun _ => true := by
  obtain ⟨_, run⟩ := ends_read_bind.mp run
  have read : s.store.getById row.taskId = some row.toTaskRecord := by
    rw [Store.getById, known, Option.map_some]
  simp only [read, active, ne_eq, not_true_eq_false, or_self, if_false, if_true] at run
  obtain ⟨_, run⟩ := ends_commit_bind.mp run
  obtain ⟨result, stamped, rfl⟩ := ends_bind_ret.mp run
  obtain ⟨now, answer, left, _⟩ := stamped_ends stamped
  rw [answer, left]
  exact ⟨now, _, Tx.exec_only (.recordCleanupIntents row.taskId row.epoch
    (row.holderSessionId.getD "None") commands) s.store, rfl, rfl⟩

/-- The attempt to record, with the errors it keeps to itself. -/
def lossAttempt (task : TaskRecord) (reason payload : String) (commands : List Command) :
    Kernel Bool :=
  excepting (taskLock task.taskId (recordLossLocked task reason payload commands))
    KernelError.isTaskStore fun _ => .ret false

def lockedOutError (task : TaskRecord) : KernelError :=
  .succession ("Cannot retire session " ++ (lossOwnership task).sessionId ++
    ": database is locked")

theorem lossAttempt_ends {row : TaskRow} {reason payload : String} {commands : List Command}
    {r : Answer Bool} (known : s.store.task row.taskId = some row) (active : row.state = .active)
    (parents : ∀ p, row.parentTaskId = some p → p ≠ row.taskId ∧ (s.store.task p).isSome)
    (run : (lossAttempt row.toTaskRecord reason payload commands).Ends (kernel py x) ok s r s') :
    (r = .ok true ∧ s.store.recordable row.toTaskRecord ∧
        LossSettled s.store s'.store row.toTaskRecord) ∨
      r ≠ .ok true ∧ s.store.recordable row.toTaskRecord = false ∧
        s'.store.tasks = s.store.tasks ∧
        ((s.store.effect row.taskId row.epoch).isSome → s.store.lockedOut row.toTaskRecord →
          r = .error (lockedOutError row.toTaskRecord)) := by
  -- what the transaction came to, before an error of it is looked at
  have attempt {result : Answer Bool} {mid : Shared Tx Query Store γ}
      (locked : (recordLossLocked row.toTaskRecord reason payload commands).Ends (kernel py x) ok s
        result mid) :
      (result = .ok true ∧ s.store.recordable row.toTaskRecord ∧
          LossSettled s.store mid.store row.toTaskRecord) ∨
        (∃ e, result = .error e) ∧ s.store.recordable row.toTaskRecord = false ∧
          mid.store.tasks = s.store.tasks ∧
          ((s.store.effect row.taskId row.epoch).isSome → s.store.lockedOut row.toTaskRecord →
            result = .error (lockedOutError row.toTaskRecord)) := by
    obtain ⟨now, db, only, left, answer⟩ := recordLossLocked_ends known active locked
    have there : db.task row.taskId = some row := by
      rw [only]
      exact known
    have same : db.recordable row.toTaskRecord = s.store.recordable row.toTaskRecord := by
      rw [only]
      rfl
    by_cases recordable : s.store.recordable row.toTaskRecord
    · have parents : ∀ p, row.parentTaskId = some p → p ≠ row.taskId ∧ (db.task p).isSome := by
        rw [only]
        exact parents
      obtain ⟨⟨wakes, went⟩, settled⟩ :=
        recordLoss_settles there (same.trans recordable) parents reason payload now
      rw [left, answer, went]
      rw [only] at settled
      rw [only]
      exact .inl ⟨rfl, recordable, settled.row, settled.effect, settled.holder, settled.parent⟩
    · obtain ⟨⟨e, failed⟩, tasks⟩ :=
        recordLoss_refused there (by rw [same]; exact recordable) reason payload now
      rw [left, answer]
      refine .inr ⟨⟨e, by rw [failed]; rfl⟩, by simpa using recordable, ?_, ?_⟩
      · rw [tasks, only]
      · intro journaled lockedOut
        obtain ⟨effect, found⟩ := Option.isSome_iff_exists.mp journaled
        have found : db.effect row.taskId row.epoch = some effect := by
          rw [only]
          exact found
        have lockedOut : db.lockedOut row.toTaskRecord := by
          rw [only]
          exact lockedOut
        rw [recordLoss_locked found lockedOut]
        rfl
  rcases ends_handle.mp run with ⟨done, locked, rfl⟩ | ⟨e, mid, locked, rescued⟩
  · rcases attempt (ends_withLock.mp locked) with settled | ⟨⟨e, failed⟩, _⟩
    · exact .inl settled
    · exact nomatch failed
  · rcases attempt (ends_withLock.mp locked) with ⟨went, _⟩ | ⟨_, refused, tasks, lockout⟩
    · exact nomatch went
    · split at rescued
      · rename_i caught
        obtain ⟨rfl, rfl⟩ := rescued
        refine .inr ⟨nofun, refused, tasks, fun journaled lockedOut => ?_⟩
        cases lockout journaled lockedOut
        exact nomatch caught
      · obtain ⟨rfl, rfl⟩ := rescued
        exact .inr ⟨nofun, refused, tasks, lockout⟩

/-- The executor answers for the commands of the holder, if the row has one. -/
def HolderListed (task : TaskRecord) (s s' : Shared Tx Query Store γ) : Prop :=
  ∀ holder ∈ present task.holderSessionId, ∃ rows, Listed holder s s' (.ok rows)

/-- How `_record_loss` ends, alone, on a row of its own epoch. -/
inductive LossOutcome (row : TaskRow) (s s' : Shared Tx Query Store γ) (r : Answer Unit) : Prop
  /-- The commands of the holder are not answered. -/
  | unlisted (holder : SessionId) (e : KernelError) : present row.holderSessionId = some holder →
      Listed holder s s' (.error e) → s'.store = s.store → LossOutcome row s s' r
  | settled : HolderListed row.toTaskRecord s s' → s.store.recordable row.toTaskRecord →
      LossSettled s.store s'.store row.toTaskRecord → r = .ok () → LossOutcome row s s' r
  | refused : HolderListed row.toTaskRecord s s' →
      s.store.recordable row.toTaskRecord = false → s'.store.tasks = s.store.tasks →
      ((s.store.effect row.taskId row.epoch).isSome → s.store.lockedOut row.toTaskRecord →
        r = .error (lockedOutError row.toTaskRecord)) →
      LossOutcome row s s' r

theorem recordLossOf_ends {row : TaskRow} {finding : Finding}
    {r : Answer Unit} (known : s.store.task row.taskId = some row) (active : row.state = .active)
    (parents : ∀ p, row.parentTaskId = some p → p ≠ row.taskId ∧ (s.store.task p).isSome)
    (run : (recordLossOf py row.toTaskRecord finding).Ends (kernel py x) ok s r s') :
    LossOutcome row s s' r := by
  rcases ends_bind.mp run with ⟨commands, listing, listed, run⟩ | ⟨e, listed, rfl⟩
  swap
  · obtain ⟨left, ⟨_, failed, _⟩ | ⟨e', _, holder, held, asked⟩⟩ := holderCommands_ends listed
    · exact nomatch failed
    · exact .unlisted holder e' held asked left
  obtain ⟨left, ⟨_, _, answered⟩ | ⟨_, failed, _⟩⟩ := holderCommands_ends listed
  swap
  · exact nomatch failed
  have asked : HolderListed row.toTaskRecord s s' := by
    intro holder held
    obtain ⟨rows, asked⟩ := answered holder held
    exact ⟨rows, asked.extends run⟩
  rw [← left] at known parents
  rcases ends_bind.mp run with ⟨settled, mid, first, run⟩ | ⟨e, first, rfl⟩
  · rcases lossAttempt_ends known active parents first with ⟨same, recordable, loss⟩ |
      ⟨failed, refused, tasks, lockout⟩
    · cases same
      rw [left] at recordable loss
      simp only [if_true] at run
      obtain ⟨_, run⟩ := ends_read_bind.mp run
      have finish {m : Shared Tx Query Store γ}
          (last : reconcileCleanupIntents.Ends (kernel py x) ok m r s')
          (cleaned : mid.store.Cleaned m.store) : LossOutcome row s s' r := by
        obtain ⟨done, cleaned'⟩ := reconcileCleanupIntents_ends last
        exact .settled asked recordable (loss.cleaned (cleaned.trans _ _ _ cleaned')) done
      split at run
      · exact finish run (.refl _)
      · rename_i effect _
        split at run
        · rcases ends_bind.mp run with ⟨_, last, stopped, run⟩ | ⟨e, stopped, rfl⟩
          · have cleaned :=
              cleans_ends (issues_isolated (issues_stopTerminal effect).released.withLock) stopped
            exact finish run cleaned
          · exact nomatch isolated_ends stopped
        · exact finish run (.refl _)
    · have stays : settled = false := by
        cases settled with
        | true => exact absurd rfl failed
        | false => rfl
      subst stays
      obtain ⟨rfl, rfl⟩ := run
      rw [left] at refused tasks lockout
      refine .refused asked refused tasks fun journaled lockedOut => ?_
      exact nomatch lockout journaled lockedOut
  · rcases lossAttempt_ends known active parents first with ⟨same, _⟩ |
      ⟨_, refused, tasks, lockout⟩
    · exact nomatch same
    · rw [left] at refused tasks lockout
      refine .refused asked refused tasks fun journaled lockedOut => ?_
      cases lockout journaled lockedOut
      rfl

end SightMesh
