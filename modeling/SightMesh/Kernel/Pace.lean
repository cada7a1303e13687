import SightMesh.Kernel.Delivery

/-! The pace of a child: the episode it is in, and the stall wakes counted for it. What a commit does
to the rows and to the outbox is reduced here to a step of that counter. -/
namespace SightMesh

open Database Python

variable {α β : Type}

/-! ### The counter -/

structure Pace where
  epoch : ℕ
  stretch : Stretch
  episode : ℕ
  wakes : ℕ

/-- What is observed of a child, or done to it, between two wakes. -/
inductive Pace.Turns : Pace → Pace → Prop where
  | kept (p : Pace) : Turns p p
  | turned (p : Pace) (stretch : Stretch) (other : stretch ≠ p.stretch) :
      Turns p { p with
        stretch := stretch
        episode := p.episode + if stretch = .live then 0 else 1
        wakes := 0 }
  | carried (p : Pace) (epoch : ℕ) (rises : p.epoch < epoch) : Turns p { p with epoch := epoch }
  | replaced (p : Pace) (epoch : ℕ) (rises : p.epoch < epoch) : Turns p ⟨epoch, .live, 0, 0⟩

def Pace.Due (p : Pace) : Prop := p.stretch = .silent ∧ p.wakes ≤ 1

def Pace.woken (p : Pace) : Pace := { p with wakes := p.wakes + 1 }

/-- One commit, and the episodes it posts a stall wake for. -/
inductive Pace.Steps : Pace → Pace → List (ℕ × ℕ) → Prop where
  | quiet {p q : Pace} (turns : p.Turns q) : Steps p q []
  | woke {p q : Pace} (turns : p.Turns q) (due : q.Due) : Steps p q.woken [(q.epoch, q.episode)]

/-- The stall wakes posted so far, for each epoch and episode, are within the cap. -/
structure Pace.Capped (p : Pace) (posted : ℕ × ℕ → ℕ) : Prop where
  two : ∀ key, posted key ≤ 2
  later : ∀ n e, p.epoch < n → posted (n, e) = 0
  ahead : ∀ e, p.episode < e → posted (p.epoch, e) = 0
  counted : p.stretch = .silent → posted (p.epoch, p.episode) ≤ p.wakes

theorem Pace.Capped.turns {p q : Pace} {posted : ℕ × ℕ → ℕ} (capped : p.Capped posted)
    (turns : p.Turns q) : q.Capped posted := by
  cases turns with
  | kept => exact capped
  | turned stretch other =>
    constructor
    · exact capped.two
    · exact capped.later
    · intro e beyond
      apply capped.ahead
      simp only at beyond
      omega
    · intro silent
      simp only at silent
      subst silent
      have fresh : posted (p.epoch, p.episode + 1) = 0 := capped.ahead _ (by omega)
      simp [fresh]
  | carried epoch rises =>
    constructor
    · exact capped.two
    · exact fun n e beyond => capped.later n e (rises.trans beyond)
    · exact fun e _ => capped.later epoch e rises
    · exact fun _ => (capped.later epoch p.episode rises).le.trans (Nat.zero_le _)
  | replaced epoch rises =>
    constructor
    · exact capped.two
    · exact fun n e beyond => capped.later n e (rises.trans beyond)
    · exact fun e _ => capped.later epoch e rises
    · exact fun silent => nomatch silent

theorem Pace.Capped.steps {p q : Pace} {posted : ℕ × ℕ → ℕ} {posts : List (ℕ × ℕ)}
    (capped : p.Capped posted) (steps : p.Steps q posts) :
    q.Capped fun key => posted key + posts.count key := by
  cases steps with
  | quiet turns =>
    simp only [List.count_nil, Nat.add_zero]
    exact capped.turns turns
  | @woke q turns due =>
    have before := capped.turns turns
    have counted := before.counted due.1
    have room := due.2
    have here (key : ℕ × ℕ) : [(q.epoch, q.episode)].count key =
        if (q.epoch, q.episode) = key then 1 else 0 := by
      rw [List.count_singleton]
      simp only [beq_iff_eq]
    constructor
    · intro key
      rw [here]
      split
      · rename_i same
        rw [← same]
        omega
      · exact before.two key
    · intro n e beyond
      have apart : (q.epoch, q.episode) ≠ (n, e) := fun same => by
        have same := congrArg Prod.fst same
        simp only [Pace.woken] at same beyond
        omega
      rw [here, if_neg apart]
      exact before.later n e beyond
    · intro e beyond
      have apart : (q.epoch, q.episode) ≠ (q.epoch, e) := fun same => by
        have same := congrArg Prod.snd same
        simp only [Pace.woken] at same beyond
        omega
      simp only [Pace.woken, here, if_neg apart]
      exact before.ahead e beyond
    · intro _
      simp only [Pace.woken, here, if_true]
      omega

/-- Between two silent labels the episode goes on, with the wakes it has counted. -/
theorem Pace.Steps.silent {p q : Pace} {posts : List (ℕ × ℕ)} (steps : p.Steps q posts)
    (before : p.stretch = .silent) (after : q.stretch = .silent) :
    q.episode = p.episode ∧ p.wakes ≤ q.wakes := by
  have turned {q : Pace} (turns : p.Turns q) (after : q.stretch = .silent) :
      q.episode = p.episode ∧ p.wakes ≤ q.wakes := by
    cases turns with
    | kept => exact ⟨rfl, le_rfl⟩
    | turned stretch other => exact absurd (after.trans before.symm) other
    | carried => exact ⟨rfl, le_rfl⟩
    | replaced => exact nomatch after
  cases steps with
  | quiet turns => exact turned turns after
  | woke turns due =>
    obtain ⟨episode, wakes⟩ := turned turns due.1
    exact ⟨episode, wakes.trans (Nat.le_succ _)⟩

/-! ### The rows -/

def TaskRow.pace (row : TaskRow) : Pace where
  epoch := row.epoch
  stretch := livenessStretch row.liveness
  episode := row.livenessEpisode
  wakes := row.livenessWakes

/-- Every row is there again at its pace. -/
def Store.Paced (a b : Store) : Prop :=
  ∀ t row, a.task t = some row → ∃ next, b.task t = some next ∧ next.pace = row.pace

theorem Store.Paced.of_tasks {a b : Store} (same : b.tasks = a.tasks) : a.Paced b := by
  intro t row known
  refine ⟨row, ?_, rfl⟩
  rw [Store.task, same]
  exact known

theorem Store.Paced.refl (db : Store) : db.Paced db := .of_tasks rfl

theorem Store.Paced.trans (a b c : Store) (first : a.Paced b) (second : b.Paced c) :
    a.Paced c := by
  intro t row known
  obtain ⟨mid, known, same⟩ := first t row known
  obtain ⟨next, known, same'⟩ := second t mid known
  exact ⟨next, known, same'.trans same⟩

theorem Store.Paced.putTask {db : Store} (row : TaskRow) {next : TaskRow}
    (known : db.task next.taskId = some row) (same : next.pace = row.pace) :
    db.Paced (db.putTask next) := by
  intro t other found
  by_cases named : t = next.taskId
  · subst named
    cases Option.some.inj (known.symm.trans found)
    exact ⟨next, Store.task_putTask_self db next, same⟩
  · refine ⟨other, ?_, rfl⟩
    rw [Store.task_putTask, if_neg named]
    exact found

/-- Every row is there again, at most a turn later. -/
def Store.Turns (a b : Store) : Prop :=
  ∀ t row, a.task t = some row → ∃ next, b.task t = some next ∧ row.pace.Turns next.pace

theorem Store.Paced.turns {a b : Store} (paced : a.Paced b) : a.Turns b := by
  intro t row known
  obtain ⟨next, known, same⟩ := paced t row known
  refine ⟨next, known, ?_⟩
  rw [same]
  exact .kept _

theorem transition_turns {t : TaskId} {expectStates : List TaskState} {expectVersion : Option ℕ}
    {assign : Lifecycle → Lifecycle} {observe : Health → Health} {attempted : String} {now : Time}
    (turns : ∀ row : TaskRow, row.pace.Turns (row.moved assign observe now).pace) :
    Moves Store.Turns (transition t expectStates expectVersion assign observe attempted now) := by
  intro db record db' ran
  obtain ⟨row, known, _, _, _, moved⟩ := transition_ok.mp ran
  obtain ⟨_, rfl⟩ := Prod.mk.inj moved
  intro t' other found
  rw [Store.task_putTask]
  split
  · rename_i named
    have same : row.taskId = t := Store.taskId_of_task known
    rw [named, show (row.moved assign observe now).taskId = t from same, known] at found
    cases found
    exact ⟨_, rfl, turns row⟩
  · exact ⟨other, found, .kept _⟩

theorem transaction_turns {t : TaskId} {expectStates : List TaskState} {expectVersion : Option ℕ}
    {assign : Lifecycle → Lifecycle} {attempted : String} {now : Time}
    (turns : ∀ row : TaskRow, row.pace.Turns (row.moved assign id now).pace) :
    Moves Store.Turns (transaction t expectStates expectVersion assign attempted now) :=
  fun _ _ _ ran => transition_turns turns _ _ _ (wrapping_ok.mp ran)

theorem Store.Turns.refl (db : Store) : db.Turns db := (Store.Paced.refl db).turns

theorem finish_paced {t : TaskId} {state : TaskState} {result : Option String}
    {chargeFailure : Bool} {now : Time} :
    Moves Store.Paced (finish t state result none chargeFailure now) := by
  intro db record db' ran
  obtain ⟨row, known, _, _, _, finished⟩ := finish_ok.mp ran
  obtain ⟨_, rfl⟩ := Prod.mk.inj finished
  have named := Store.taskId_of_task known
  apply Store.Paced.putTask row
  · rw [show (row.finish state result chargeFailure now).taskId = t from named]
    exact known
  · have epoch : (row.finish state result chargeFailure now).epoch = row.epoch :=
      Lifecycle.finished_epoch ..
    simp only [TaskRow.pace, epoch]
    rfl

theorem recordLivenessWakes_calm {t : TaskId} (now progressTimeout : Time) {db : Store}
    (idle : ∀ row, db.task t = some row → row.state ≠ .active) :
    (recordLivenessWakes t now progressTimeout db).1.tasks = db.tasks := by
  unfold recordLivenessWakes
  split
  · rfl
  · rename_i row known
    split
    · rfl
    · split
      · exact armLiveness_tasks ..
      · rw [if_pos (idle row known)]

theorem bumpChildEvents_paced (parentTaskId : TaskId) (db : Store) :
    db.Paced (db.bumpChildEvents parentTaskId) := by
  unfold Store.bumpChildEvents
  split
  · exact .refl db
  · rename_i parent known
    have named := Store.taskId_of_task known
    apply Store.Paced.putTask parent
    · rw [show ({ parent with childEventSeq := parent.childEventSeq + 1 } : TaskRow).taskId =
        parentTaskId from named]
      exact known
    · rfl

/-- A child that is not worked on wakes its parent for no stall. -/
theorem wakeParent_calm {record : TaskRecord} (now : Time) {db : Store}
    (idle : ∀ row, db.task record.taskId = some row → row.state ≠ .active) :
    db.Paced (wakeParent record now db).1 ∧ db.Reports (wakeParent record now db).1 := by
  unfold wakeParent
  split
  · exact ⟨.refl db, .refl db⟩
  · rename_i parentTaskId _
    dsimp only
    have bumped := bumpChildEvents_observed parentTaskId db
    have told : (db.bumpChildEvents parentTaskId).Observed
        (recordWakes parentTaskId now (db.bumpChildEvents parentTaskId)).1 :=
      .of_tasks (recordWakes_tasks ..)
    have still : ∀ row, (recordWakes parentTaskId now (db.bumpChildEvents parentTaskId)).1.task
        record.taskId = some row → row.state ≠ .active := by
      intro row known
      have observed := bumped.trans _ _ _ told
      cases before : db.task record.taskId with
      | none => exact nomatch (observed.fresh _ before).symm.trans known
      | some first =>
        obtain ⟨next, known', same⟩ := observed.kept _ _ before
        cases Option.some.inj (known.symm.trans known')
        rw [show row.state = first.state from congrArg Lifecycle.state same.lifecycle]
        exact idle first before
    have wakes : (db.bumpChildEvents parentTaskId).wakes = db.wakes := by
      rw [bumpChildEvents_only parentTaskId db]
    constructor
    · apply (bumpChildEvents_paced parentTaskId db).trans
      apply Store.Paced.of_tasks
      rw [recordLivenessWakes_calm now _ still, recordWakes_tasks]
    · apply (Store.Reports.of_wakes wakes).trans
      exact (recordWakes_reports ..).trans (recordLivenessWakes_reports now _ still)

theorem Lifecycle.Finishable.finished_idle {l : Lifecycle} {maxAttempts : ℕ} {state : TaskState}
    {chargeFailure : Bool} (legal : l.Finishable maxAttempts state chargeFailure)
    (result : Option String) : (l.finished maxAttempts state result chargeFailure).state ≠ .active := by
  obtain ⟨⟨predecessors, target, _⟩, _⟩ := legal
  have idle : state ≠ .active := by
    rintro rfl
    exact nomatch target
  unfold Lifecycle.finished
  split
  · split
    · exact fun exhausted => nomatch exhausted
    · exact idle
  · split
    · exact fun exhausted => nomatch exhausted
    · exact idle

theorem finishWithWakeWithin_calm {t : TaskId} {state : TaskState} {result : Option String}
    {chargeFailure : Bool} {now : Time} :
    Moves (fun a b : Store => a.Paced b ∧ a.Reports b)
      (finishWithWakeWithin t state result none chargeFailure now) := by
  intro db answer db' ran
  obtain ⟨record, mid, finished, armed⟩ := bind_ok.mp ran
  have left : (wakeParent record now mid).1 = db' := congrArg Prod.snd (Except.ok.inj armed)
  have paced := finish_paced _ _ _ finished
  have wakes : mid.wakes = db.wakes := by rw [finish_only _ _ _ finished]
  obtain ⟨row, known, legal, _, _, same⟩ := finish_ok.mp finished
  obtain ⟨rfl, rfl⟩ := Prod.mk.inj same
  have idle : ∀ next, (db.putTask (row.finish state result chargeFailure now)).task
      (row.finish state result chargeFailure now).toTaskRecord.taskId = some next →
        next.state ≠ .active := by
    intro next found
    cases Option.some.inj ((Store.task_putTask_self db _).symm.trans found)
    exact legal.finished_idle result
  obtain ⟨paced', reports⟩ := wakeParent_calm now idle
  rw [left] at paced' reports
  exact ⟨paced.trans _ _ _ paced', (Store.Reports.of_wakes wakes).trans reports⟩

/-! ### The transactions -/

def Store.Quiet (a b : Store) : Prop := a.Turns b ∧ a.Reports b

theorem Store.Quiet.of_only {a b : Store} (turns : a.Turns b) (same : b.wakes = a.wakes) :
    a.Quiet b :=
  ⟨turns, .of_wakes same⟩

theorem Store.Quiet.refl (db : Store) : db.Quiet db := .of_only (.refl db) rfl

/-- A stall wake is posted for one child, which is a turn later, and counts it. -/
def Store.Stalls (a b : Store) : Prop :=
  ∃ row next q keys, a.task row.taskId = some row ∧ row.pace.Turns q ∧ q.Due ∧
    b.task row.taskId = some next ∧ next.pace = q.woken ∧
    (∀ t, t ≠ row.taskId → b.task t = a.task t) ∧ Store.Tells keys a b ∧
    keys.filterMap DedupeKey.stall = [(row.taskId, q.epoch, q.episode)]

theorem settleWake_paced (wake : Wake) (state : WakeState) (resolution payload : Option String)
    (now : Time) (db : Store) : db.Paced (settleWake wake state resolution payload now db).1 := by
  unfold settleWake
  split
  · exact .refl db
  · extract_lets settled
    have same : settled.tasks = db.tasks := rfl
    split
    · split
      · exact .of_tasks same
      · rename_i parent known
        have named := Store.taskId_of_task known
        apply (Store.Paced.of_tasks same).trans
        apply Store.Paced.putTask parent
        · rw [show ({ parent with lastWokenSeq := max parent.lastWokenSeq _, updatedAt := now } :
            TaskRow).taskId = wake.parentTaskId from named]
          exact known
        · rfl
    · exact .of_tasks same

theorem noteEvidence_paced (db : Store) (t : TaskId) (payload : String) :
    db.Paced (db.noteEvidence t payload) := by
  unfold Store.noteEvidence
  split
  · rename_i row known
    split
    · have named := Store.taskId_of_task known
      apply Store.Paced.putTask row
      · rw [show ({ row with livenessEvidence := some payload } : TaskRow).taskId = t from named]
        exact known
      · rfl
    · exact .refl db
  · exact .refl db

theorem recordLoss_calm (task : TaskRecord) (reason payload : String) (now : Time) (db : Store) :
    db.Quiet (recordLoss task reason payload now db).1 := by
  obtain ⟨e, same⟩ | ⟨e, same⟩ | ⟨marked, record, wakes, db', evidence, settled, same⟩ :=
    recordLoss_cases task reason payload now db
  · rw [same]
    exact .refl db
  · rw [same]
    have only : (db.insertOwnership (lossOwnership task)).1 = _ := insertOwnership_only db _
    have tasks : (db.insertOwnership (lossOwnership task)).1.tasks = db.tasks := by rw [only]
    have wakes : (db.insertOwnership (lossOwnership task)).1.wakes = db.wakes := by rw [only]
    exact .of_only (Store.Paced.of_tasks tasks).turns wakes
  · rw [same]
    have noted : marked.tasks = (db.noteEvidence task.taskId payload).tasks ∧
        marked.wakes = db.wakes := by
      have outbox : (db.noteEvidence task.taskId payload).wakes = db.wakes := by
        rw [noteEvidence_only db task.taskId payload]
      obtain ⟨effect, _, ⟨_, marks⟩ | ⟨_, marks⟩⟩ := lossEvidence_ok evidence
      · rw [show marked = _ from marks]
        exact ⟨rfl, outbox⟩
      · rw [show marked = _ from marks]
        exact ⟨rfl, outbox⟩
    obtain ⟨paced, reports⟩ := finishWithWakeWithin_calm _ _ _ settled
    have before : db.Paced
        { marked with ownerships := (db.insertOwnership (lossOwnership task)).1.ownerships } :=
      (noteEvidence_paced db task.taskId payload).trans _ _ _ (.of_tasks noted.1)
    have outbox : db.Reports
        { marked with ownerships := (db.insertOwnership (lossOwnership task)).1.ownerships } :=
      .of_wakes noted.2
    exact ⟨(before.trans _ _ _ paced).turns, outbox.trans reports⟩

theorem relabelled_turns (row : TaskRow) (liveness : Liveness) (evidence : Option String)
    (now : Time) : row.pace.Turns
      ({ row with toHealth := row.toHealth.relabelled liveness evidence now } : TaskRow).pace := by
  by_cases same : livenessStretch row.liveness = livenessStretch liveness
  · rw [Health.relabelled, if_pos same]
    simp only [TaskRow.pace, ← same]
    exact .kept _
  · have turned := Pace.Turns.turned row.pace (livenessStretch liveness) (Ne.symm same)
    rw [Health.relabelled, if_neg same]
    cases liveness with
    | live => exact turned
    | parked => exact turned
    | idleUnreported => exact turned
    | limbo => exact turned
    | stalled => exact turned

/-- A classification turns the row. -/
theorem noted_turns (row : TaskRow) (liveness : Option Liveness) (evidence : Option String)
    (overBudget : Bool) (now : Time) :
    row.pace.Turns (row.noted liveness evidence overBudget now).pace := by
  rw [TaskRow.noted]
  split
  · cases liveness with
    | none => exact .kept _
    | some liveness => exact relabelled_turns row liveness evidence now
  · exact .kept _

theorem Liveness.silent_of_wakeReason {liveness : Liveness} {reason : WakeReason}
    (named : liveness.wakeReason = some reason) :
    livenessStretch liveness = .silent ∧ reason.oneShot = false := by
  cases liveness with
  | live => exact nomatch named
  | parked => exact nomatch named
  | idleUnreported | limbo | stalled =>
    cases named
    exact ⟨rfl, rfl⟩

/-- A due stall wake is posted, and counted on the row. -/
theorem armStall_stalls {row : TaskRow} {parentTaskId : TaskId} {now progressTimeout : Time}
    {db : Store} (due : db.StallDue row now progressTimeout) :
    row.pace.Due ∧ ∃ key,
      Store.Tells [key] db (armStall row parentTaskId now progressTimeout db).1 ∧
      key.stall = some (row.taskId, row.epoch, row.livenessEpisode) ∧
      ∀ t, (armStall row parentTaskId now progressTimeout db).1.task t =
        if t = row.taskId then some (row.woke now) else db.task t := by
  obtain ⟨reason, named, free, armed⟩ := armStall_due parentTaskId due
  obtain ⟨silent, behavioural⟩ := Liveness.silent_of_wakeReason named
  rw [armed]
  refine ⟨⟨silent, ?_⟩, row.stallKey reason now progressTimeout, ?_, ?_, fun t => ?_⟩
  · rcases due.1 with none | escalates
    · simp [TaskRow.pace, none]
    · simp only [TaskRow.escalates, Bool.and_eq_true, decide_eq_true_eq] at escalates
      simp [TaskRow.pace, escalates.1]
  · have posts := armWake_posts parentTaskId (livenessPredicates reason) none now free
    have other : (row.stallKey reason now progressTimeout).incident = none := by
      simp [TaskRow.stallKey, DedupeKey.incident, behavioural]
    apply Store.Tells.single posts
    · intro incident found
      cases other.symm.trans found
    · intro incident
      rw [other] at incident
      cases incident
  · simp [TaskRow.stallKey, DedupeKey.stall, behavioural]
  · rw [Store.task_putTask, Store.task, armWake_tasks]
    rfl

/-- A finding tells of losses and spent budgets once, and of a stall as the counter allows. -/
theorem recordFinding_paced (seen : TaskRecord) (liveness : Option Liveness)
    (evidence : Option String) (overBudget : Bool) (now progressTimeout : Time) {db : Store}
    {row : TaskRow} (known : db.task seen.taskId = some row) :
    db.Quiet ((Tx.recordFinding seen liveness evidence overBudget now progressTimeout).exec db).1 ∨
      db.Stalls
        ((Tx.recordFinding seen liveness evidence overBudget now progressTimeout).exec db).1 := by
  obtain ⟨mid, rewrites, exec⟩ :=
    recordFinding_exec seen liveness evidence overBudget now progressTimeout known
  rw [exec]
  have turns := noted_turns row liveness evidence overBudget now
  generalize row.noted liveness evidence overBudget now = noted at rewrites turns
  have named : row.taskId = seen.taskId := Store.taskId_of_task known
  have named' : noted.taskId = seen.taskId := Store.taskId_of_task rewrites.known
  have before : db.Reports mid := .of_wakes rewrites.wakes
  have quiet {b : Store} (tasks : b.tasks = mid.tasks) (reports : mid.Reports b) : db.Quiet b := by
    refine ⟨fun t other found => ?_, before.trans reports⟩
    rw [Store.task, tasks]
    change ∃ next, mid.task t = some next ∧ _
    rw [rewrites.rows]
    split
    · rename_i same
      rw [same, known] at found
      cases found
      exact ⟨noted, rfl, turns⟩
    · exact ⟨other, found, .kept _⟩
  have stalls (parentTaskId : TaskId) (due : mid.StallDue noted now progressTimeout) {b : Store}
      (tasks : b.tasks = (armStall noted parentTaskId now progressTimeout mid).1.tasks)
      (reports : (armStall noted parentTaskId now progressTimeout mid).1.Reports b) :
      db.Stalls b := by
    obtain ⟨silent, key, tells, stall, rows⟩ := armStall_stalls due
    obtain ⟨keys, tells', quiet⟩ := reports
    have same (t : TaskId) : b.task t =
        if t = noted.taskId then some (noted.woke now) else mid.task t := by
      rw [Store.task, tasks]
      exact rows t
    refine ⟨row, noted.woke now, noted.pace, [] ++ ([key] ++ keys), ?_, turns, silent, ?_, rfl,
      fun t other => ?_, ?_, ?_⟩
    · rw [named]
      exact known
    · rw [same, if_pos (named.trans named'.symm)]
    · rw [named] at other
      rw [same, if_neg (by rwa [named']), rewrites.rows, if_neg other]
    · exact (Store.Tells.of_wakes rewrites.wakes).trans (tells.trans tells')
    · have none : keys.filterMap DedupeKey.stall = [] := by
        rw [List.filterMap_eq_nil_iff]
        exact quiet
      simp only [List.nil_append, List.singleton_append, List.filterMap_cons, stall, none]
      rw [named, named']
      rfl
  unfold recordLivenessWakes
  rw [rewrites.known]
  dsimp only
  split
  · exact .inl (quiet rfl (.refl mid))
  · rename_i parentTaskId parented
    split
    · exact .inl (quiet (armLiveness_tasks ..) (armLiveness_reports _ rfl _ _ now mid))
    · split
      · exact .inl (quiet rfl (.refl mid))
      · by_cases due : mid.StallDue noted now progressTimeout
        · right
          split
          · exact stalls parentTaskId due (armLiveness_tasks ..)
              (armLiveness_reports _ rfl _ _ now _)
          · exact stalls parentTaskId due rfl (.refl _)
        · left
          rw [armStall_quiet due]
          split
          · exact quiet (armLiveness_tasks ..) (armLiveness_reports _ rfl _ _ now mid)
          · exact quiet rfl (.refl mid)

theorem recordFinding_absent (seen : TaskRecord) (liveness : Option Liveness)
    (evidence : Option String) (overBudget : Bool) (now progressTimeout : Time) {db : Store}
    (absent : db.task seen.taskId = none) :
    ((Tx.recordFinding seen liveness evidence overBudget now progressTimeout).exec db).1 = db := by
  have unlatched : recordOverBudget seen.taskId db = .ok ((), db) := by
    simp [recordOverBudget, absent]
  have unarmed : recordLivenessWakes seen.taskId now progressTimeout db = (db, []) := by
    rw [recordLivenessWakes, absent]
  cases liveness with
  | some liveness =>
    obtain ⟨a, b, ran, left⟩ | ⟨e, _, left⟩ := atomically_cases
      (recordFinding seen.taskId (some liveness) evidence overBudget now progressTimeout) db
    · obtain ⟨_, mid, first, _⟩ := bind_ok.mp ran
      simp [recordLiveness, absent] at first
    · exact congrArg Prod.fst left
  | none =>
    have body : recordFinding seen.taskId none evidence overBudget now progressTimeout db =
        .ok ((recordLivenessWakes seen.taskId now progressTimeout db).2,
          (recordLivenessWakes seen.taskId now progressTimeout db).1) := by
      cases overBudget with
      | false => rfl
      | true => exact bind_ok.mpr ⟨(), db, unlatched, rfl⟩
    have left := congrArg Prod.fst (atomically_ok body)
    rw [unarmed] at left
    exact left

def Tx.delivers : Tx β → Bool
  | .claimWakes _ | .persistPayload .. | .settleWake .. => true
  | _ => false

/-- What a commit does to the pace of the children, and to what was told of them. -/
theorem Tx.exec_paced (tx : Tx β) (db : Store) :
    db.Quiet (tx.exec db).1 ∨ db.Stalls (tx.exec db).1 ∨
      tx.delivers ∧ db.Paced (tx.exec db).1 ∧ db.Delivers (tx.exec db).1 := by
  have only := tx.exec_only db
  cases tx with
  | activate site seen workspaceId sessionId now =>
    have outbox := congrArg Store.wakes only
    refine .inl (.of_only ?_ outbox)
    exact atomically_moves (transaction_turns fun row => .kept _) .refl db
  | prepareReplacement seen target charge now =>
    have outbox := congrArg Store.wakes only
    refine .inl (.of_only ?_ outbox)
    apply atomically_moves (R := Store.Turns) _ .refl db
    intro a answer b ran
    obtain ⟨row, _, _, moved⟩ := prepareReplacement_ok ran
    exact transition_turns (fun row => .replaced _ _ (Nat.lt_succ_self _)) _ _ _ moved
  | resumeReplacement seen target automatic now =>
    have outbox := congrArg Store.wakes only
    refine .inl (.of_only ?_ outbox)
    apply atomically_moves (transaction_turns fun row => _) .refl db
    intro row
    cases automatic with
    | true => exact .carried row.pace (row.epoch + 1) (Nat.lt_succ_self _)
    | false => exact .kept _
  | reissue seen spec now =>
    have outbox := congrArg Store.wakes only
    refine .inl (.of_only ?_ outbox)
    apply atomically_moves (transaction_turns fun row => _) .refl db
    intro row
    exact .carried row.pace (row.epoch + 1) (Nat.lt_succ_self _)
  | checkpointRow seen reference now =>
    have outbox := congrArg Store.wakes only
    refine .inl (.of_only ?_ outbox)
    exact atomically_moves (transaction_turns fun row => .kept _) .refl db
  | checkpointOccurrence operation receipt now =>
    have outbox := congrArg Store.wakes only
    refine .inl (.of_only ?_ outbox)
    apply atomically_moves (R := Store.Turns) _ .refl db
    intro a answer b ran
    obtain rfl | ⟨stored, row, mid, _, moved, rfl⟩ := checkpointWithOccurrence_ok ran
    · exact .refl _
    · have turns : a.Turns mid := transition_turns (fun row => .kept _) _ _ _ moved
      exact turns
  | finishExpired seen now =>
    have outbox := congrArg Store.wakes only
    refine .inl (.of_only ?_ outbox)
    apply atomically_moves (R := Store.Turns) _ .refl db
    exact fun a answer b ran => (finish_paced a answer b ran).turns
  | reserveAll scope parent specs maxAttempts now =>
    have outbox := congrArg Store.wakes only
    refine .inl (.of_only ?_ outbox)
    intro t row known
    exact ⟨row, (reserveAll_inserts scope parent specs maxAttempts now db).1 t row known, .kept _⟩
  | finish site seen state result charge now =>
    left
    apply atomically_moves (R := Store.Quiet) _ .refl db
    intro a answer b ran
    obtain ⟨paced, reports⟩ := finishWithWakeWithin_calm _ _ _ (wrapping_ok.mp ran)
    exact ⟨paced.turns, reports⟩
  | recordLoss seen reason payload now => exact .inl (recordLoss_calm ..)
  | recordFinding seen liveness evidence overBudget now progressTimeout =>
    cases known : db.task seen.taskId with
    | none =>
      rw [recordFinding_absent seen liveness evidence overBudget now progressTimeout known]
      exact .inl (.refl db)
    | some row =>
      exact (recordFinding_paced seen liveness evidence overBudget now progressTimeout known).imp
        id .inl
  | settleWake wake state resolution payload now =>
    exact .inr (.inr ⟨rfl, settleWake_paced wake state resolution payload now db,
      settleWake_delivers ..⟩)
  | claimWakes now =>
    have rows := congrArg Store.tasks only
    exact .inr (.inr ⟨rfl, .of_tasks rows, claimWakes_delivers ..⟩)
  | persistPayload wake selected =>
    have rows := congrArg Store.tasks only
    exact .inr (.inr ⟨rfl, .of_tasks rows, persistPayload_delivers ..⟩)
  | recordCohortWakes now =>
    have rows := congrArg Store.tasks only
    exact .inl ⟨(Store.Paced.of_tasks rows).turns, recordCohortWakes_reports ..⟩
  | _ =>
    have rows := congrArg Store.tasks only
    have outbox := congrArg Store.wakes only
    exact .inl (.of_only (Store.Paced.of_tasks rows).turns outbox)

/-- A wake stays in the outbox, and moves only forward. -/
theorem Tx.exec_wake (tx : Tx β) {db : Store} {v : Wake} (mem : v ∈ db.wakes.rows) :
    ∃ w ∈ (tx.exec db).1.wakes.rows, v.Later w := by
  rcases tx.exec_paced db with ⟨_, keys, tells, _⟩ | stalls | ⟨_, _, delivers⟩
  · exact tells.1.kept mem
  · obtain ⟨_, _, _, keys, _, _, _, _, _, _, tells, _⟩ := stalls
    exact tells.1.kept mem
  · exact delivers.kept mem

/-- Outside delivery, a wake was there or has no text yet. -/
theorem Tx.exec_posts (tx : Tx β) (db : Store) (arming : tx.delivers = false) :
    ∃ keys, Store.Posts keys db (tx.exec db).1 := by
  rcases tx.exec_paced db with ⟨_, keys, tells, _⟩ | stalls | ⟨delivers, _⟩
  · exact ⟨keys, tells.1⟩
  · obtain ⟨_, _, _, keys, _, _, _, _, _, _, tells, _⟩ := stalls
    exact ⟨keys, tells.1⟩
  · exact nomatch arming.symm.trans delivers

end SightMesh
