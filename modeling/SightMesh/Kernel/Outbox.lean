import SightMesh.Kernel.Changes

/-! What one transaction can do to the wake outbox, and what a settled child leaves in it. -/
namespace SightMesh

open Database Python

variable {α β : Type}

/-! ### Arming -/

theorem Store.freshWakeId_fresh (db : Store) :
    db.freshWakeId ∉ db.wakes.rows.map Wake.wakeId := by
  have bounded (ids : List ℕ) : ∀ n ∈ ids, n ≤ ids.foldr max 0 := by
    induction ids with
    | nil => simp
    | cons m ids ih =>
      intro n mem
      rcases List.mem_cons.mp mem with rfl | mem
      · exact le_max_left _ _
      · exact (ih n mem).trans (le_max_right _ _)
  intro mem
  have := bounded _ _ mem
  unfold Store.freshWakeId at this
  omega

/-- No wake leaves the outbox, and each wake that enters is pending and meets `new`. -/
structure Store.Arms (new : Wake → Prop) (a b : Store) : Prop where
  kept : ∀ w ∈ a.wakes.rows, w ∈ b.wakes.rows
  armed : ∀ w ∈ b.wakes.rows, w ∈ a.wakes.rows ∨ w.state = .pending ∧ new w

theorem Store.Arms.of_wakes {new : Wake → Prop} {a b : Store} (same : b.wakes = a.wakes) :
    Store.Arms new a b := by
  refine ⟨fun w mem => ?_, fun w mem => .inl ?_⟩
  · rw [same]
    exact mem
  · rw [← same]
    exact mem

theorem Store.Arms.refl (new : Wake → Prop) (db : Store) : Store.Arms new db db := .of_wakes rfl

theorem Store.Arms.trans {new : Wake → Prop} {a b c : Store} (first : Store.Arms new a b)
    (second : Store.Arms new b c) : Store.Arms new a c := by
  refine ⟨fun w mem => second.kept w (first.kept w mem), fun w mem => ?_⟩
  rcases second.armed w mem with known | armed
  · exact first.armed w known
  · exact .inr armed

theorem Store.Arms.mono {new new' : Wake → Prop} {a b : Store} (h : Store.Arms new a b)
    (weaker : ∀ w, new w → new' w) : Store.Arms new' a b := by
  refine ⟨h.kept, fun w mem => ?_⟩
  rcases h.armed w mem with known | ⟨pending, fresh⟩
  · exact .inl known
  · exact .inr ⟨pending, weaker w fresh⟩

theorem armWake_arms (db : Store) (parentTaskId : TaskId) (predicate : Predicate)
    (key : DedupeKey) (eventSeq : Option ℕ) (now : Time) :
    Store.Arms (fun w => w.parentTaskId = parentTaskId ∧ w.predicate = predicate ∧
      w.dedupeKey = key ∧ w.eventSeq = eventSeq) db
      (db.armWake parentTaskId predicate key eventSeq now).1 := by
  unfold Store.armWake
  split
  · exact .refl _ db
  · dsimp only
    constructor
    · intro w mem
      refine Table.mem_put.mpr (.inr ⟨mem, ?_⟩)
      rintro same
      exact db.freshWakeId_fresh (List.mem_map.mpr ⟨w, mem, same⟩)
    · intro w mem
      rcases Table.mem_put.mp mem with rfl | ⟨known, _⟩
      · exact .inr ⟨rfl, rfl, rfl, rfl, rfl⟩
      · exact .inl known

/-- An armed key is live, be it by this wake or by an earlier one. -/
theorem armWake_live (db : Store) (parentTaskId : TaskId) (predicate : Predicate)
    (key : DedupeKey) (eventSeq : Option ℕ) (now : Time) :
    ∃ w ∈ (db.armWake parentTaskId predicate key eventSeq now).1.wakes.rows,
      w.dedupeKey = key ∧ w.state ∈ liveWakeStates := by
  unfold Store.armWake
  split
  · rename_i known
    obtain ⟨w, mem, live⟩ := List.any_eq_true.mp known
    simp only [Bool.and_eq_true, decide_eq_true_eq] at live
    exact ⟨w, mem, live⟩
  · exact ⟨_, Table.mem_put.mpr (.inl rfl), rfl, by simp [liveWakeStates]⟩

/-! ### Why a wake is there -/

/-- The wake stands for a cohort event its parent's row has counted. -/
def Wake.OfCohort (db : Store) (w : Wake) : Prop :=
  w.dedupeKey = .cohort w.parentTaskId w.predicate ∧
    ∃ row n, db.task w.parentTaskId = some row ∧ w.eventSeq = some n ∧ n ≤ row.childEventSeq

/-- The wake stands for an incident of a child at its current epoch. -/
def Wake.OfChild (db : Store) (w : Wake) : Prop :=
  w.eventSeq = none ∧ ∃ row reason episode escalation, db.task row.taskId = some row ∧
    row.parentTaskId = some w.parentTaskId ∧ w.predicate = livenessPredicates reason ∧
    w.dedupeKey = .episode row.taskId row.epoch reason episode escalation ∧
    (reason = .lost → row.reportsLoss)

def Wake.Justified (db : Store) (w : Wake) : Prop := w.OfCohort db ∨ w.OfChild db

theorem TaskRow.Observed.reportsLoss {row next : TaskRow} (h : row.Observed next) :
    next.reportsLoss = row.reportsLoss := by
  unfold TaskRow.reportsLoss
  rw [h.lifecycle]

theorem Wake.Justified.observed {a b : Store} {w : Wake} (h : w.Justified a)
    (later : a.Observed b) : w.Justified b := by
  obtain ⟨key, row, n, known, seq, counted⟩ | ⟨silent, row, reason, episode, escalation, known,
    parented, predicate, key, reports⟩ := h
  · obtain ⟨next, known, observed⟩ := later.kept _ _ known
    exact .inl ⟨key, next, n, known, seq, counted.trans observed.events⟩
  · obtain ⟨next, known, observed⟩ := later.kept _ _ known
    have named : next.taskId = row.taskId := congrArg Identity.taskId observed.identity
    have epoch : next.epoch = row.epoch := congrArg Lifecycle.epoch observed.lifecycle
    have parent : next.parentTaskId = row.parentTaskId :=
      congrArg Identity.parentTaskId observed.identity
    refine .inr ⟨silent, next, reason, episode, escalation, ?_, parent.trans parented, predicate,
      ?_, fun lost => ?_⟩
    · rw [named]
      exact known
    · rw [named, epoch]
      exact key
    · rw [observed.reportsLoss]
      exact reports lost

theorem recordWakes_arms (parentTaskId : TaskId) (now : Time) (db : Store) :
    Store.Arms (·.OfCohort db) db (recordWakes parentTaskId now db).1 := by
  unfold recordWakes
  split
  · exact .refl _ db
  · rename_i row known
    split
    · exact .refl _ db
    · apply List.foldlRecOn (motive := fun acc : Store × List ℕ =>
        Store.Arms (·.OfCohort db) db acc.1)
      · exact .refl _ db
      · intro acc arms predicate _
        refine arms.trans ((armWake_arms ..).mono ?_)
        rintro w ⟨rfl, rfl, key, seq⟩
        exact ⟨key, row, _, known, seq, le_rfl⟩

theorem armLiveness_arms (parentTaskId : TaskId) (reason : WakeReason) (key : DedupeKey)
    (now : Time) (oneShot : Bool) (db : Store) :
    Store.Arms (fun w => w.parentTaskId = parentTaskId ∧
      w.predicate = livenessPredicates reason ∧ w.dedupeKey = key ∧ w.eventSeq = none) db
      (armLiveness parentTaskId reason key now oneShot db).1 := by
  unfold armLiveness
  split
  · exact .refl _ db
  · exact armWake_arms ..

theorem Wake.ofChild {db : Store} {row : TaskRow} {parentTaskId : TaskId} {w : Wake}
    (known : db.task row.taskId = some row) (parented : row.parentTaskId = some parentTaskId)
    {reason : WakeReason} {episode : ℕ} {escalation : Bool}
    (reports : reason = .lost → row.reportsLoss)
    (armed : w.parentTaskId = parentTaskId ∧ w.predicate = livenessPredicates reason ∧
      w.dedupeKey = .episode row.taskId row.epoch reason episode escalation ∧ w.eventSeq = none) :
    w.OfChild db := by
  obtain ⟨rfl, predicate, key, silent⟩ := armed
  exact ⟨silent, row, reason, episode, escalation, known, parented, predicate, key, reports⟩

theorem armStall_arms {row : TaskRow} {db : Store} (known : db.task row.taskId = some row)
    {parentTaskId : TaskId} (parented : row.parentTaskId = some parentTaskId)
    (now progressTimeout : Time) :
    Store.Arms (·.OfChild db) db (armStall row parentTaskId now progressTimeout db).1 := by
  unfold armStall
  split
  · exact .refl _ db
  · rename_i reason stalled
    extract_lets escalating armed
    have arms : Store.Arms (·.OfChild db) db armed.1 := by
      refine (armLiveness_arms ..).mono fun w told => Wake.ofChild known parented ?_ told
      rintro rfl
      cases liveness : row.liveness <;> simp [liveness, Liveness.wakeReason] at stalled
    split
    · split
      · exact arms
      · exact arms.trans (.of_wakes rfl)
    · exact .refl _ db

theorem recordLivenessWakes_arms (childTaskId : TaskId) (now progressTimeout : Time)
    (db : Store) :
    Store.Arms (·.OfChild db) db (recordLivenessWakes childTaskId now progressTimeout db).1 := by
  unfold recordLivenessWakes
  split
  · exact .refl _ db
  · rename_i row found
    obtain rfl := Store.taskId_of_task found
    split
    · exact .refl _ db
    · rename_i parentTaskId parented
      split
      · rename_i lost
        exact (armLiveness_arms ..).mono fun w told => Wake.ofChild found parented (fun _ => lost) told
      · split
        · exact .refl _ db
        · have stalled := armStall_arms found parented now progressTimeout
          dsimp only
          split
          · refine stalled.trans ((armLiveness_arms ..).mono fun w told => ?_)
            exact Wake.ofChild found parented (by simp) told
          · exact stalled

theorem wakeParent_arms (record : TaskRecord) (now : Time) (db : Store) :
    Store.Arms (·.Justified (wakeParent record now db).1) db (wakeParent record now db).1 := by
  unfold wakeParent
  split
  · exact .refl _ db
  · rename_i parentTaskId _
    extract_lets cohort incident
    have told : cohort.1.Observed incident.1 := recordLivenessWakes_observed ..
    have counted : (db.bumpChildEvents parentTaskId).Observed cohort.1 :=
      .of_tasks (recordWakes_tasks ..)
    have bumped : db.bumpChildEvents parentTaskId = _ := bumpChildEvents_only parentTaskId db
    have quiet : (db.bumpChildEvents parentTaskId).wakes = db.wakes := by rw [bumped]
    refine (Store.Arms.of_wakes quiet).trans (.trans
      ((recordWakes_arms parentTaskId now _).mono fun w armed => ?_)
      ((recordLivenessWakes_arms record.taskId now defaultProgressTimeout cohort.1).mono
        fun w armed => ?_))
    · exact (Wake.Justified.observed (.inl armed) counted).observed told
    · exact Wake.Justified.observed (.inr armed) told

theorem finishWithWakeWithin_arms {t : TaskId} {state : TaskState} {result : Option String}
    {expectVersion : Option ℕ} {chargeFailure : Bool} {now : Time} {db db' : Store}
    {answer : TaskRecord × List ℕ}
    (ran : finishWithWakeWithin t state result expectVersion chargeFailure now db =
      .ok (answer, db')) : Store.Arms (·.Justified db') db db' := by
  obtain ⟨record, mid, finished, armed⟩ := bind_ok.mp ran
  have left : (wakeParent record now mid).1 = db' := congrArg Prod.snd (Except.ok.inj armed)
  have only : mid = _ := finish_only _ _ _ finished
  have quiet : mid.wakes = db.wakes := by rw [only]
  rw [← left]
  exact (Store.Arms.of_wakes quiet).trans (wakeParent_arms record now mid)

theorem recordFinding_arms {taskId : TaskId} {liveness : Option Liveness}
    {evidence : Option String} {overBudget : Bool} {now progressTimeout : Time} :
    Moves (fun a b : Store => Store.Arms (·.Justified b) a b)
      (recordFinding taskId liveness evidence overBudget now progressTimeout) := by
  have told (a b : Store) (same : b.wakes = a.wakes) :
      Store.Arms (·.Justified (recordLivenessWakes taskId now progressTimeout b).1) a
        (recordLivenessWakes taskId now progressTimeout b).1 := by
    refine (Store.Arms.of_wakes same).trans ((recordLivenessWakes_arms ..).mono fun w armed => ?_)
    exact Wake.Justified.observed (.inr armed) (recordLivenessWakes_observed ..)
  have latched (a b c : Store) (answer : List ℕ) (same : b.wakes = a.wakes)
      (ran : (do
        if overBudget then
          recordOverBudget taskId
        let armed := recordLivenessWakes taskId now progressTimeout (← get)
        set armed.1
        return armed.2 : Txn (List ℕ)) b = .ok (answer, c)) :
      Store.Arms (·.Justified c) a c := by
    cases overBudget with
    | true =>
      obtain ⟨_, mid, latched, left⟩ := bind_ok.mp ran
      have only : mid = _ := recordOverBudget_only _ _ _ latched
      have quiet : mid.wakes = a.wakes := by rw [only, ← same]
      cases left
      exact told a mid quiet
    | false =>
      cases ran
      exact told a b same
  intro db answer db' ran
  cases liveness with
  | none => exact latched db db db' answer rfl ran
  | some liveness =>
    obtain ⟨_, mid, observed, left⟩ := bind_ok.mp ran
    have only : mid = _ := recordLiveness_only _ _ _ observed
    have quiet : mid.wakes = db.wakes := by rw [only]
    exact latched db mid db' answer quiet left

theorem recordCohortWakes_arms (now : Time) (db : Store) :
    Store.Arms (·.Justified (recordCohortWakes now db)) db (recordCohortWakes now db) := by
  have tasks : (recordCohortWakes now db).tasks = db.tasks := by
    have only : recordCohortWakes now db = _ := recordCohortWakes_only now db
    rw [only]
  have arms : db.OnlyWakes (recordCohortWakes now db) ∧
      Store.Arms (·.OfCohort db) db (recordCohortWakes now db) := by
    unfold recordCohortWakes
    apply List.foldlRecOn (motive := fun mid : Store =>
      db.OnlyWakes mid ∧ Store.Arms (·.OfCohort db) db mid)
    · exact ⟨.refl db, .refl _ db⟩
    · rintro mid ⟨only, arms⟩ parentTaskId _
      refine ⟨only.trans _ _ _ (recordWakes_only ..), arms.trans ?_⟩
      refine (recordWakes_arms parentTaskId now mid).mono fun w told => ?_
      have same : mid = _ := only
      have rows : mid.task = db.task := by
        funext t
        rw [Store.task, same]
        rfl
      unfold Wake.OfCohort at told ⊢
      rw [rows] at told
      exact told
  exact arms.2.mono fun w told => Wake.Justified.observed (.inl told) (.of_tasks tasks)

/-! ### Delivery keeps what a wake is -/

structure Wake.SameOrigin (v w : Wake) : Prop where
  wakeId : v.wakeId = w.wakeId
  parentTaskId : v.parentTaskId = w.parentTaskId
  predicate : v.predicate = w.predicate
  dedupeKey : v.dedupeKey = w.dedupeKey
  eventSeq : v.eventSeq = w.eventSeq

theorem Wake.SameOrigin.refl (w : Wake) : w.SameOrigin w := ⟨rfl, rfl, rfl, rfl, rfl⟩

theorem Wake.SameOrigin.trans {u v w : Wake} (first : u.SameOrigin v) (second : v.SameOrigin w) :
    u.SameOrigin w :=
  ⟨first.wakeId.trans second.wakeId, first.parentTaskId.trans second.parentTaskId,
    first.predicate.trans second.predicate, first.dedupeKey.trans second.dedupeKey,
    first.eventSeq.trans second.eventSeq⟩

/-- Every wake of the later outbox was there, or is justified by the rows beside it. -/
def Store.Outbox (a b : Store) : Prop :=
  ∀ w ∈ b.wakes.rows, (∃ v ∈ a.wakes.rows, v.SameOrigin w) ∨ w.Justified b

theorem Store.Outbox.of_arms {a b : Store} (arms : Store.Arms (·.Justified b) a b) :
    a.Outbox b := by
  intro w mem
  rcases arms.armed w mem with known | ⟨_, justified⟩
  · exact .inl ⟨w, known, .refl w⟩
  · exact .inr justified

theorem Store.Outbox.of_wakes {a b : Store} (same : b.wakes = a.wakes) : a.Outbox b :=
  .of_arms (.of_wakes same)

theorem claimWakes_origin (claimFor now : Time) (db : Store) :
    (∀ w ∈ (claimWakes claimFor now db).1.wakes.rows, ∃ v ∈ db.wakes.rows, v.SameOrigin w) ∧
      ∀ w ∈ (claimWakes claimFor now db).2, ∃ v ∈ db.wakes.rows, v.SameOrigin w := by
  unfold claimWakes
  extract_lets rows
  have listed : ∀ w ∈ rows, w ∈ db.wakes.rows := by
    intro w mem
    have mem := (List.mem_insertionSort _).mp mem
    exact List.mem_of_mem_filter mem
  apply List.foldlRecOn (motive := fun acc : Store × List Wake =>
    (∀ w ∈ acc.1.wakes.rows, ∃ v ∈ db.wakes.rows, v.SameOrigin w) ∧
      ∀ w ∈ acc.2, ∃ v ∈ db.wakes.rows, v.SameOrigin w)
  · exact ⟨fun w mem => ⟨w, mem, .refl w⟩, fun w mem => nomatch mem⟩
  · rintro acc ⟨stored, answered⟩ wake mem
    dsimp only
    constructor
    · intro w found
      rcases Table.mem_put.mp found with rfl | ⟨known, _⟩
      · exact ⟨wake, listed wake mem, rfl, rfl, rfl, rfl, rfl⟩
      · exact stored w known
    · intro w found
      rcases List.mem_append.mp found with known | found
      · exact answered w known
      · obtain rfl := List.mem_singleton.mp found
        exact ⟨wake, listed wake mem, rfl, rfl, rfl, rfl, rfl⟩

theorem Store.claimedWake_mem {db : Store} {wake row : Wake}
    (found : db.claimedWake wake = some row) : row ∈ db.wakes.rows := by
  obtain ⟨known, _⟩ := Option.filter_eq_some_iff.mp found
  exact Table.mem_of_get known

theorem Tx.exec_outbox (tx : Tx β) (db : Store) : db.Outbox (tx.exec db).1 := by
  have only := tx.exec_only db
  cases tx with
  | finish site seen state result chargeFailure now =>
    obtain ⟨a, db', ran, left⟩ | ⟨e, _, left⟩ :=
      atomically_cases (finishWithWake seen.taskId state result none chargeFailure now) db
    · have exec : ((Tx.finish site seen state result chargeFailure now).exec db).1 = db' :=
        congrArg Prod.fst left
      rw [exec]
      exact .of_arms (finishWithWakeWithin_arms (wrapping_ok.mp ran))
    · have exec : ((Tx.finish site seen state result chargeFailure now).exec db).1 = db :=
        congrArg Prod.fst left
      rw [exec]
      exact .of_wakes rfl
  | recordLoss seen reason payload now =>
    show db.Outbox (SightMesh.recordLoss seen reason payload now db).1
    obtain ⟨e, same⟩ | ⟨e, same⟩ | ⟨marked, record, wakes, db', evidence, settled, same⟩ :=
      recordLoss_cases seen reason payload now db
    · rw [same]
      exact .of_wakes rfl
    · rw [same]
      have only : (db.insertOwnership (lossOwnership seen)).1 = _ := insertOwnership_only db _
      have quiet : (db.insertOwnership (lossOwnership seen)).1.wakes = db.wakes := by rw [only]
      exact .of_wakes quiet
    · rw [same]
      have noted : db.noteEvidence seen.taskId payload = _ := noteEvidence_only ..
      have quiet : marked.wakes = db.wakes := by
        obtain ⟨effect, _, ⟨_, marks⟩ | ⟨_, marks⟩⟩ := lossEvidence_ok evidence
        · rw [show marked = _ from marks, noted]
        · rw [show marked = _ from marks, noted]
          rfl
      have before : Store.Arms (·.Justified db') db
          { marked with ownerships := (db.insertOwnership (lossOwnership seen)).1.ownerships } :=
        .of_wakes quiet
      exact .of_arms (before.trans (finishWithWakeWithin_arms settled))
  | recordFinding seen liveness evidence overBudget now progressTimeout =>
    exact .of_arms (atomically_moves recordFinding_arms (fun _ => .refl _ _) db)
  | recordCohortWakes now => exact .of_arms (recordCohortWakes_arms now db)
  | claimWakes now => exact fun w mem => .inl ((claimWakes_origin claimSeconds now db).1 w mem)
  | persistPayload wake selected =>
    show db.Outbox (SightMesh.persistPayload wake selected db).1
    unfold SightMesh.persistPayload
    split
    · exact .of_wakes rfl
    · rename_i row found
      intro w mem
      rcases Table.mem_put.mp mem with rfl | ⟨known, _⟩
      · exact .inl ⟨row, Store.claimedWake_mem found, rfl, rfl, rfl, rfl, rfl⟩
      · exact .inl ⟨w, known, .refl w⟩
  | settleWake wake state resolution payload now =>
    show db.Outbox (SightMesh.settleWake wake state resolution payload now db).1
    unfold SightMesh.settleWake
    split
    · exact .of_wakes rfl
    · rename_i row found
      extract_lets settled
      have origin : ∀ w ∈ settled.wakes.rows, ∃ v ∈ db.wakes.rows, v.SameOrigin w := by
        intro w mem
        rcases Table.mem_put.mp mem with rfl | ⟨known, _⟩
        · exact ⟨row, Store.claimedWake_mem found, rfl, rfl, rfl, rfl, rfl⟩
        · exact ⟨w, known, .refl w⟩
      split
      · split
        · exact fun w mem => .inl (origin w mem)
        · exact fun w mem => .inl (origin w mem)
      · exact fun w mem => .inl (origin w mem)
  | _ =>
    have same := congrArg Store.wakes only
    exact .of_wakes same

/-! ### What a settled child leaves -/

theorem finishWithWakeWithin_rows {t : TaskId} {state : TaskState} {result : Option String}
    {chargeFailure : Bool} {now : Time} {db db' : Store} {answer : TaskRecord × List ℕ}
    (ran : finishWithWakeWithin t state result none chargeFailure now db = .ok (answer, db')) :
    ∃ row next, db.task t = some row ∧ db'.task t = some next ∧
      row.toLifecycle.Finishable row.maxAttempts state chargeFailure ∧
      (row.finish state result chargeFailure now).Observed next ∧
      ∀ p parent, row.parentTaskId = some p → p ≠ t → db.task p = some parent →
        ∃ parent', db'.task p = some parent' ∧ parent.childEventSeq < parent'.childEventSeq := by
  obtain ⟨record, mid, finished, armed⟩ := bind_ok.mp ran
  have left : (wakeParent record now mid).1 = db' := congrArg Prod.snd (Except.ok.inj armed)
  obtain ⟨row, known, legal, _, _, finished⟩ := finish_ok.mp finished
  obtain ⟨rfl, rfl⟩ := Prod.mk.inj finished
  have named := Store.taskId_of_task known
  have written := Store.task_putTask_self db (row.finish state result chargeFailure now)
  rw [show (row.finish state result chargeFailure now).taskId = t from named] at written
  rw [← left]
  obtain ⟨next, after, observed⟩ := (wakeParent_observed _ now _).kept _ _ written
  refine ⟨row, next, known, after, legal, observed, fun p parent parented apart found => ?_⟩
  have still : (db.putTask (row.finish state result chargeFailure now)).task p = some parent := by
    rw [Store.task_putTask, if_neg]
    · exact found
    · exact fun same => apart (same.trans named)
  generalize db.putTask (row.finish state result chargeFailure now) = mid at still
  have counts : ∃ parent', (mid.bumpChildEvents p).task p = some parent' ∧
      parent'.childEventSeq = parent.childEventSeq + 1 := by
    refine ⟨{ parent with childEventSeq := parent.childEventSeq + 1 }, ?_, rfl⟩
    obtain rfl := Store.taskId_of_task still
    unfold Store.bumpChildEvents
    rw [still]
    exact Store.task_putTask_self mid _
  obtain ⟨parent', bumped, counted⟩ := counts
  unfold wakeParent
  rw [show (row.finish state result chargeFailure now).toTaskRecord.parentTaskId = some p
    from parented]
  have told : (mid.bumpChildEvents p).Observed (recordWakes p now (mid.bumpChildEvents p)).1 :=
    .of_tasks (recordWakes_tasks ..)
  obtain ⟨parent'', final, observed⟩ :=
    (told.trans _ _ _ (recordLivenessWakes_observed ..)).kept _ _ bumped
  exact ⟨parent'', final, by have := observed.events; omega⟩

/-- The key of the one wake that tells the parent of a lost epoch of the child. -/
def lostKey (childTaskId : TaskId) (epoch : ℕ) : DedupeKey :=
  .episode childTaskId epoch .lost 1 false

/-- A wake under this key was told to someone, or is about to be. -/
def Store.Told (db : Store) (key : DedupeKey) : Prop :=
  ∃ w ∈ db.wakes.rows, w.dedupeKey = key ∧ w.state ∈ toldWakeStates

theorem told_of_live {state : WakeState} (live : state ∈ liveWakeStates) :
    state ∈ toldWakeStates := by
  cases state with
  | pending | claimed => simp [toldWakeStates]
  | delivered | resolved => simp [liveWakeStates] at live

theorem armLiveness_told (parentTaskId : TaskId) (reason : WakeReason) (key : DedupeKey)
    (now : Time) (oneShot : Bool) (db : Store) :
    (armLiveness parentTaskId reason key now oneShot db).1.Told key := by
  unfold armLiveness
  split
  · rename_i told
    obtain ⟨w, mem, told⟩ := List.any_eq_true.mp (Bool.and_eq_true_iff.mp told).2
    simp only [Bool.and_eq_true, decide_eq_true_eq] at told
    exact ⟨w, mem, told⟩
  · obtain ⟨w, mem, named, live⟩ := armWake_live db parentTaskId (livenessPredicates reason) key none now
    exact ⟨w, mem, named, told_of_live live⟩

/-- A finish that leaves a loss report on a child with a parent tells the parent. -/
theorem finishWithWakeWithin_told {t : TaskId} {state : TaskState} {result : Option String}
    {chargeFailure : Bool} {now : Time} {db db' : Store} {answer : TaskRecord × List ℕ}
    {row : TaskRow} {p : TaskId}
    (ran : finishWithWakeWithin t state result none chargeFailure now db = .ok (answer, db'))
    (known : db.task t = some row) (parented : row.parentTaskId = some p)
    (reports : (row.finish state result chargeFailure now).reportsLoss) :
    db'.Told (lostKey t row.epoch) := by
  obtain ⟨record, mid, finished, armed⟩ := bind_ok.mp ran
  have left : (wakeParent record now mid).1 = db' := congrArg Prod.snd (Except.ok.inj armed)
  obtain ⟨other, same, legal, _, _, finished⟩ := finish_ok.mp finished
  cases Option.some.inj (known.symm.trans same)
  obtain ⟨rfl, rfl⟩ := Prod.mk.inj finished
  have named := Store.taskId_of_task known
  have written := Store.task_putTask_self db (row.finish state result chargeFailure now)
  rw [show (row.finish state result chargeFailure now).taskId = t from named] at written
  rw [← left]
  unfold wakeParent
  rw [show (row.finish state result chargeFailure now).toTaskRecord.parentTaskId = some p
    from parented]
  dsimp only
  generalize db.putTask (row.finish state result chargeFailure now) = mid at written
  have told : mid.Observed (recordWakes p now (mid.bumpChildEvents p)).1 :=
    (bumpChildEvents_observed p mid).trans _ _ _ (.of_tasks (recordWakes_tasks ..))
  obtain ⟨next, found, observed⟩ := told.kept _ _ written
  generalize (recordWakes p now (mid.bumpChildEvents p)).1 = mid at found
  have parent : next.parentTaskId = some p :=
    (congrArg Identity.parentTaskId observed.identity).trans parented
  have epoch : next.epoch = row.epoch := by
    rw [congrArg Lifecycle.epoch observed.lifecycle]
    exact Lifecycle.finished_epoch ..
  unfold recordLivenessWakes
  rw [show (row.finish state result chargeFailure now).toTaskRecord.taskId = t from named, found]
  dsimp only
  rw [parent]
  dsimp only
  rw [if_pos (observed.reportsLoss.trans reports), epoch]
  exact armLiveness_told ..

/-- A finish that leaves no loss report tells nothing new under the key of a loss. -/
theorem finishWithWakeWithin_silent {t : TaskId} {state : TaskState} {result : Option String}
    {chargeFailure : Bool} {now : Time} {db db' : Store} {answer : TaskRecord × List ℕ}
    {row : TaskRow}
    (ran : finishWithWakeWithin t state result none chargeFailure now db = .ok (answer, db'))
    (known : db.task t = some row)
    (silent : (row.finish state result chargeFailure now).reportsLoss = false) (epoch : ℕ)
    (told : db'.Told (lostKey t epoch)) : db.Told (lostKey t epoch) := by
  obtain ⟨w, mem, key, state⟩ := told
  rcases (finishWithWakeWithin_arms ran).armed w mem with before | ⟨_, cohort | child⟩
  · exact ⟨w, before, key, state⟩
  · exact nomatch key.symm.trans cohort.1
  · obtain ⟨_, next, reason, episode, escalation, found, _, _, named, reports⟩ := child
    obtain ⟨rfl, _, rfl, _⟩ := DedupeKey.episode.inj (key.symm.trans named)
    obtain ⟨other, after, same, final, _, observed, _⟩ := finishWithWakeWithin_rows ran
    cases Option.some.inj (known.symm.trans same)
    cases Option.some.inj (found.symm.trans final)
    have := observed.reportsLoss.symm.trans (reports rfl)
    exact nomatch silent.symm.trans this

end SightMesh
