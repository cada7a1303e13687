import SightMesh.Kernel.Outbox

/-! What a finding of the detector leaves of the row it names, and when it arms a wake. -/
namespace SightMesh

open Database Python

variable {α β : Type}

/-- The observations after one classification. -/
def Health.relabelled (h : Health) (liveness : Liveness) (evidence : Option String) (now : Time) :
    Health :=
  if livenessStretch h.liveness = livenessStretch liveness then
    { h with liveness := liveness, livenessEvidence := evidence }
  else
    { h with
      liveness := liveness
      livenessEpisode := h.livenessEpisode + if liveness = .live then 0 else 1
      livenessSince := if liveness = .live then none else some now
      livenessWakes := 0
      livenessEvidence := if liveness = .live then none else evidence }

/-- The observations a finding leaves before its wakes are armed. -/
def Health.noted (h : Health) (liveness : Option Liveness) (evidence : Option String)
    (overBudget : Bool) (now : Time) : Health :=
  let relabelled := match liveness with
    | some liveness => h.relabelled liveness evidence now
    | none => h
  { relabelled with overBudget := relabelled.overBudget || overBudget }

def TaskRow.noted (row : TaskRow) (liveness : Option Liveness) (evidence : Option String)
    (overBudget : Bool) (now : Time) : TaskRow :=
  if row.state ∈ liveStates then
    { row with toHealth := row.toHealth.noted liveness evidence overBudget now }
  else row

theorem recordLiveness_exec (liveness : Liveness) (evidence : Option String) (now : Time)
    {t : TaskId} {db : Store} {row : TaskRow} (known : db.task t = some row) :
    recordLiveness t liveness evidence now db =
      .ok ((), if row.state ∈ liveStates then
        db.putTask { row with toHealth := row.toHealth.relabelled liveness evidence now } else db) := by
  simp only [recordLiveness, get_bind_run, known]
  split
  · rw [modify_run]
    simp only [Health.relabelled, decide_eq_true_eq]
  · rfl

theorem recordOverBudget_exec {t : TaskId} {db : Store} {row : TaskRow}
    (known : db.task t = some row) :
    recordOverBudget t db =
      .ok ((), if row.overBudget = false ∧ row.state ∈ liveStates then
        db.putTask { row with overBudget := true } else db) := by
  simp only [recordOverBudget, get_bind_run, known]
  split
  · rfl
  · rfl

structure Store.Rewrites (a b : Store) (t : TaskId) (row : TaskRow) : Prop where
  wakes : b.wakes = a.wakes
  rows : ∀ t', b.task t' = if t' = t then some row else a.task t'

theorem Store.Rewrites.refl {db : Store} {t : TaskId} {row : TaskRow}
    (known : db.task t = some row) : db.Rewrites db t row := by
  refine ⟨rfl, fun t' => ?_⟩
  split
  · rename_i same
    rw [same]
    exact known
  · rfl

theorem Store.Rewrites.putTask (db : Store) {t : TaskId} {row : TaskRow} (named : row.taskId = t) :
    db.Rewrites (db.putTask row) t row := by
  subst named
  exact ⟨rfl, fun t' => Store.task_putTask db row t'⟩

theorem Store.Rewrites.known {a b : Store} {t : TaskId} {row : TaskRow} (h : a.Rewrites b t row) :
    b.task t = some row := by
  rw [h.rows, if_pos rfl]

theorem Store.Rewrites.trans {a b c : Store} {t : TaskId} {row next : TaskRow}
    (first : a.Rewrites b t row) (second : b.Rewrites c t next) : a.Rewrites c t next := by
  refine ⟨second.wakes.trans first.wakes, fun t' => ?_⟩
  rw [second.rows]
  split
  · rfl
  · rename_i other
    rw [first.rows, if_neg other]

/-- A finding notes the row, and then arms what the noted row satisfies. -/
theorem recordFinding_exec (seen : TaskRecord) (liveness : Option Liveness)
    (evidence : Option String) (overBudget : Bool) (now progressTimeout : Time) {db : Store}
    {row : TaskRow} (known : db.task seen.taskId = some row) :
    ∃ mid, db.Rewrites mid seen.taskId (row.noted liveness evidence overBudget now) ∧
      ((Tx.recordFinding seen liveness evidence overBudget now progressTimeout).exec db).1 =
        (recordLivenessWakes seen.taskId now progressTimeout mid).1 := by
  have named : row.taskId = seen.taskId := Store.taskId_of_task known
  have latched (a : Store) (r : TaskRow) (found : a.task seen.taskId = some r) :
      ∃ b, a.Rewrites b seen.taskId
          (if r.state ∈ liveStates then { r with overBudget := r.overBudget || overBudget } else r) ∧
        (do
          if overBudget then
            recordOverBudget seen.taskId
          let armed := recordLivenessWakes seen.taskId now progressTimeout (← get)
          set armed.1
          return armed.2 : Txn (List ℕ)) a =
          .ok ((recordLivenessWakes seen.taskId now progressTimeout b).2,
            (recordLivenessWakes seen.taskId now progressTimeout b).1) := by
    have same : r.taskId = seen.taskId := Store.taskId_of_task found
    cases overBudget with
    | false =>
      refine ⟨a, ?_, rfl⟩
      simp only [Bool.or_false, ite_self]
      exact .refl found
    | true =>
      by_cases latches : r.overBudget = false ∧ r.state ∈ liveStates
      · refine ⟨a.putTask { r with overBudget := true }, ?_, ?_⟩
        · simp only [if_pos latches.2, Bool.or_true]
          exact .putTask a same
        · refine bind_ok.mpr ⟨(), _, recordOverBudget_exec found, ?_⟩
          rw [if_pos latches]
          rfl
      · refine ⟨a, ?_, ?_⟩
        · have unchanged : (if r.state ∈ liveStates then
              { r with overBudget := r.overBudget || true } else r) = r := by
            split
            · rename_i live
              have exceeded : r.overBudget = true := by
                by_contra other
                exact latches ⟨by simpa using other, live⟩
              simp only [exceeded, Bool.or_true]
              rw [← exceeded]
            · rfl
          rw [unchanged]
          exact .refl found
        · refine bind_ok.mpr ⟨(), _, recordOverBudget_exec found, ?_⟩
          rw [if_neg latches]
          rfl
  cases liveness with
  | none =>
    obtain ⟨mid, rewrites, ran⟩ := latched db row known
    refine ⟨mid, ?_, congrArg Prod.fst (atomically_ok ran)⟩
    exact rewrites
  | some liveness =>
    have observed := recordLiveness_exec liveness evidence now known
    by_cases live : row.state ∈ liveStates
    · rw [if_pos live] at observed
      generalize relabels : { row with
        toHealth := row.toHealth.relabelled liveness evidence now } = relabelled at observed
      have still : relabelled.taskId = seen.taskId := by
        rw [← relabels]
        exact named
      have first := Store.Rewrites.putTask db still
      obtain ⟨mid, second, ran⟩ := latched _ _ first.known
      refine ⟨mid, ?_, congrArg Prod.fst (atomically_ok (bind_ok.mpr ⟨(), _, observed, ran⟩))⟩
      have noted : row.noted (some liveness) evidence overBudget now = if relabelled.state ∈ liveStates
          then { relabelled with overBudget := relabelled.overBudget || overBudget }
          else relabelled := by
        have live' : relabelled.state ∈ liveStates := by
          rw [← relabels]
          exact live
        rw [TaskRow.noted, if_pos live, if_pos live', ← relabels]
        rfl
      rw [noted]
      exact first.trans second
    · rw [if_neg live] at observed
      obtain ⟨mid, second, ran⟩ := latched db row known
      refine ⟨mid, ?_, congrArg Prod.fst (atomically_ok (bind_ok.mpr ⟨(), _, observed, ran⟩))⟩
      rw [if_neg live] at second
      rw [TaskRow.noted, if_neg live]
      exact second

/-! ### When a wake is due -/

def Store.Armed (db : Store) (key : DedupeKey) : Prop :=
  ∃ w ∈ db.wakes.rows, w.dedupeKey = key ∧ w.state ∈ liveWakeStates

instance (db : Store) (key : DedupeKey) : Decidable (db.Armed key) := by
  unfold Store.Armed
  infer_instance

instance (db : Store) (key : DedupeKey) : Decidable (db.Told key) := by
  unfold Store.Told
  infer_instance

theorem Store.Armed.told {db : Store} {key : DedupeKey} (armed : db.Armed key) : db.Told key := by
  obtain ⟨w, mem, named, live⟩ := armed
  exact ⟨w, mem, named, told_of_live live⟩

/-- The second wake of a stall is an escalation, and waits for the progress timeout. -/
def TaskRow.escalates (row : TaskRow) (now progressTimeout : Time) : Bool :=
  row.livenessWakes = 1 && match row.livenessSince with
    | none => false
    | some since => decide (now - since ≥ progressTimeout)

def TaskRow.stallKey (row : TaskRow) (reason : WakeReason) (now progressTimeout : Time) :
    DedupeKey :=
  .episode row.taskId row.epoch reason row.livenessEpisode (row.escalates now progressTimeout)

def Store.StallDue (db : Store) (row : TaskRow) (now progressTimeout : Time) : Prop :=
  (row.livenessWakes = 0 ∨ row.escalates now progressTimeout) ∧
    ∃ reason ∈ row.liveness.wakeReason, ¬ db.Armed (row.stallKey reason now progressTimeout)

def TaskRow.overBudgetKey (row : TaskRow) : DedupeKey :=
  .episode row.taskId row.epoch .overBudget 1 false

def Store.WakeDue (db : Store) (row : TaskRow) (now progressTimeout : Time) : Prop :=
  row.parentTaskId.isSome ∧
    if row.reportsLoss then ¬ db.Told (lostKey row.taskId row.epoch)
    else row.state = .active ∧
      (db.StallDue row now progressTimeout ∨ row.overBudget ∧ ¬ db.Told row.overBudgetKey)

instance (db : Store) (row : TaskRow) (now progressTimeout : Time) :
    Decidable (db.StallDue row now progressTimeout) := by
  unfold Store.StallDue
  infer_instance

instance (db : Store) (row : TaskRow) (now progressTimeout : Time) :
    Decidable (db.WakeDue row now progressTimeout) := by
  unfold Store.WakeDue
  infer_instance

theorem armWake_quiet {db : Store} {parentTaskId : TaskId} {predicate : Predicate}
    {key : DedupeKey} {eventSeq : Option ℕ} {now : Time} (armed : db.Armed key) :
    db.armWake parentTaskId predicate key eventSeq now = (db, []) := by
  obtain ⟨w, mem, named, live⟩ := armed
  unfold Store.armWake
  rw [if_pos (List.any_eq_true.mpr ⟨w, mem, by simp [named, live]⟩)]

/-- The wake that enters the outbox under a key that is not armed. -/
theorem armWake_new (parentTaskId : TaskId) (predicate : Predicate) (eventSeq : Option ℕ)
    (now : Time) {db : Store} {key : DedupeKey} (free : ¬ db.Armed key) :
    db.armWake parentTaskId predicate key eventSeq now =
      ({ db with wakes := db.wakes.put ⟨db.freshWakeId, parentTaskId, predicate, key, eventSeq,
        .pending, none, none, none, none, now⟩ }, [db.freshWakeId]) := by
  unfold Store.armWake
  rw [if_neg]
  intro armed
  obtain ⟨w, mem, known⟩ := List.any_eq_true.mp armed
  simp only [Bool.and_eq_true, decide_eq_true_eq] at known
  exact free ⟨w, mem, known⟩

theorem armLiveness_quiet {parentTaskId : TaskId} {reason : WakeReason} {key : DedupeKey}
    {now : Time} {oneShot : Bool} {db : Store}
    (known : db.Armed key ∨ oneShot = true ∧ db.Told key) :
    armLiveness parentTaskId reason key now oneShot db = (db, []) := by
  unfold armLiveness
  split
  · rfl
  · rename_i untold
    rcases known with armed | ⟨rfl, w, mem, named, told⟩
    · exact armWake_quiet armed
    · exact absurd (by simpa using ⟨w, mem, named, told⟩) untold

theorem armLiveness_new {parentTaskId : TaskId} {reason : WakeReason} {key : DedupeKey}
    {now : Time} {oneShot : Bool} {db : Store} (untold : oneShot = true → ¬ db.Told key) :
    armLiveness parentTaskId reason key now oneShot db =
      db.armWake parentTaskId (livenessPredicates reason) key none now := by
  unfold armLiveness
  rw [if_neg]
  intro told
  obtain ⟨shot, told⟩ := Bool.and_eq_true_iff.mp told
  obtain ⟨w, mem, known⟩ := List.any_eq_true.mp told
  simp only [Bool.and_eq_true, decide_eq_true_eq] at known
  exact untold shot ⟨w, mem, known⟩

def TaskRow.woke (row : TaskRow) (now : Time) : TaskRow :=
  { row with livenessWakes := row.livenessWakes + 1, livenessSince := some now }

theorem armStall_eq {row : TaskRow} {reason : WakeReason} (parentTaskId : TaskId)
    (now progressTimeout : Time) (db : Store) (named : row.liveness.wakeReason = some reason) :
    armStall row parentTaskId now progressTimeout db =
      if row.livenessWakes = 0 ∨ row.escalates now progressTimeout then
        let armed := armLiveness parentTaskId reason (row.stallKey reason now progressTimeout) now
          false db
        if armed.2.isEmpty then armed else (armed.1.putTask (row.woke now), armed.2)
      else (db, []) := by
  unfold armStall
  rw [named]
  rfl

theorem armStall_quiet {row : TaskRow} {parentTaskId : TaskId} {now progressTimeout : Time}
    {db : Store} (quiet : ¬ db.StallDue row now progressTimeout) :
    armStall row parentTaskId now progressTimeout db = (db, []) := by
  cases named : row.liveness.wakeReason with
  | none =>
    unfold armStall
    rw [named]
  | some reason =>
    rw [armStall_eq _ _ _ _ named]
    split
    · rename_i ready
      have armed : db.Armed (row.stallKey reason now progressTimeout) := by
        by_contra free
        exact quiet ⟨ready, reason, named, free⟩
      rw [armLiveness_quiet (.inl armed)]
      rfl
    · rfl

theorem armStall_due {row : TaskRow} (parentTaskId : TaskId) {now progressTimeout : Time}
    {db : Store} (due : db.StallDue row now progressTimeout) :
    ∃ reason, row.liveness.wakeReason = some reason ∧
      ¬ db.Armed (row.stallKey reason now progressTimeout) ∧
      (armStall row parentTaskId now progressTimeout db).1 =
        (db.armWake parentTaskId (livenessPredicates reason)
          (row.stallKey reason now progressTimeout) none now).1.putTask (row.woke now) := by
  obtain ⟨ready, reason, named, free⟩ := due
  refine ⟨reason, named, free, ?_⟩
  rw [armStall_eq _ _ _ _ named, if_pos ready, armLiveness_new (by simp), armWake_new _ _ _ _ free]
  rfl

theorem recordLivenessWakes_quiet {t : TaskId} {now progressTimeout : Time} {db : Store}
    {row : TaskRow} (known : db.task t = some row) (quiet : ¬ db.WakeDue row now progressTimeout) :
    (recordLivenessWakes t now progressTimeout db).1 = db := by
  have named : row.taskId = t := Store.taskId_of_task known
  unfold recordLivenessWakes
  rw [known]
  dsimp only
  cases parented : row.parentTaskId with
  | none => rfl
  | some parentId =>
    dsimp only
    split
    · rename_i reports
      have told : db.Told (.episode t row.epoch .lost 1 false) := by
        by_contra untold
        refine quiet ⟨by simp [parented], ?_⟩
        rw [if_pos reports, named]
        exact untold
      rw [armLiveness_quiet (.inr ⟨rfl, told⟩)]
    · rename_i reports
      split
      · rfl
      · rename_i active
        have active : row.state = .active := not_not.mp active
        have no_stall : ¬ db.StallDue row now progressTimeout := by
          intro due
          refine quiet ⟨by simp [parented], ?_⟩
          rw [if_neg reports]
          exact ⟨active, .inl due⟩
        rw [armStall_quiet no_stall]
        split
        · rename_i exceeded
          have told : db.Told row.overBudgetKey := by
            by_contra untold
            refine quiet ⟨by simp [parented], ?_⟩
            rw [if_neg reports]
            exact ⟨active, .inr ⟨exceeded, untold⟩⟩
          have told : db.Told (.episode t row.epoch .overBudget 1 false) := named ▸ told
          rw [armLiveness_quiet (.inr ⟨rfl, told⟩)]
        · rfl

theorem armWake_fresh (parentTaskId : TaskId) (predicate : Predicate) (eventSeq : Option ℕ)
    (now : Time) {db : Store} {key : DedupeKey} (free : ¬ db.Armed key) :
    ∃ w ∈ (db.armWake parentTaskId predicate key eventSeq now).1.wakes.rows,
      w ∉ db.wakes.rows := by
  rw [armWake_new _ _ _ _ free]
  refine ⟨_, Table.mem_put.mpr (.inl rfl), fun known => ?_⟩
  exact db.freshWakeId_fresh (List.mem_map_of_mem known)

theorem recordLivenessWakes_due {t : TaskId} {now progressTimeout : Time} {db : Store}
    {row : TaskRow} (known : db.task t = some row) (due : db.WakeDue row now progressTimeout) :
    ∃ w ∈ (recordLivenessWakes t now progressTimeout db).1.wakes.rows, w ∉ db.wakes.rows := by
  have named : row.taskId = t := Store.taskId_of_task known
  obtain ⟨parented, due⟩ := due
  obtain ⟨parentId, parented⟩ := Option.isSome_iff_exists.mp parented
  unfold recordLivenessWakes
  rw [known]
  dsimp only
  rw [parented]
  dsimp only
  by_cases reports : row.reportsLoss
  · rw [if_pos reports, named] at due
    have due : ¬ db.Told (.episode t row.epoch .lost 1 false) := due
    rw [if_pos reports, armLiveness_new fun _ => due]
    exact armWake_fresh _ _ _ _ fun armed => due armed.told
  · rw [if_neg reports] at due
    obtain ⟨active, due⟩ := due
    rw [if_neg reports, if_neg (not_not.mpr active)]
    by_cases stalls : db.StallDue row now progressTimeout
    · obtain ⟨reason, _, free, stalled⟩ := armStall_due parentId stalls
      obtain ⟨w, mem, fresh⟩ := armWake_fresh parentId (livenessPredicates reason) none now free
      have mem : w ∈ (armStall row parentId now progressTimeout db).1.wakes.rows := by
        rw [stalled]
        exact mem
      split
      · exact ⟨w, (armLiveness_arms ..).kept w mem, fresh⟩
      · exact ⟨w, mem, fresh⟩
    · obtain ⟨exceeded, untold⟩ := due.resolve_left stalls
      rw [armStall_quiet stalls, if_pos exceeded]
      rw [TaskRow.overBudgetKey, named] at untold
      rw [armLiveness_new fun _ => untold]
      exact armWake_fresh _ _ _ _ fun armed => untold armed.told

/-- Arming the wakes of a row counts them, and leaves what was observed of it. -/
theorem recordLivenessWakes_row {t : TaskId} {now progressTimeout : Time} {db : Store}
    {row : TaskRow} (known : db.task t = some row) :
    (recordLivenessWakes t now progressTimeout db).1.task t = some row ∨
      db.StallDue row now progressTimeout ∧
        (recordLivenessWakes t now progressTimeout db).1.task t = some (row.woke now) := by
  have named : row.taskId = t := Store.taskId_of_task known
  have kept (a b : Store) (same : b.tasks = a.tasks) : b.task t = a.task t := by
    rw [Store.task, same]
    rfl
  unfold recordLivenessWakes
  rw [known]
  dsimp only
  cases row.parentTaskId with
  | none => exact .inl known
  | some parentId =>
    dsimp only
    split
    · rw [kept _ _ (armLiveness_tasks ..)]
      exact .inl known
    · split
      · exact .inl known
      · have stalled : (armStall row parentId now progressTimeout db).1.task t = some row ∨
            db.StallDue row now progressTimeout ∧
              (armStall row parentId now progressTimeout db).1.task t = some (row.woke now) := by
          by_cases due : db.StallDue row now progressTimeout
          · obtain ⟨reason, _, _, left⟩ := armStall_due parentId due
            rw [left]
            have woke : t = (row.woke now).taskId := named.symm
            rw [Store.task_putTask, if_pos woke]
            exact .inr ⟨due, rfl⟩
          · rw [armStall_quiet due]
            exact .inl known
        split
        · dsimp only
          rw [kept _ _ (armLiveness_tasks ..)]
          exact stalled
        · exact stalled

end SightMesh
