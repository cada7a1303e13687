import SightMesh.Discipline.Sweeps

/-! Every operation of `sdk.py` keeps the protocol, and with it every interleaving of them. -/
namespace SightMesh

open Concurrency Database Python Protocol

variable {γ β : Type} {py : Library} {x : Executor γ} {H : Set LockKey}
  {s s' : Shared Tx Query Store γ}

/-! ### Records and rows -/

theorem current_of_row {db : Store} {row : TaskRow} (mem : row ∈ db.tasks.rows) :
    Current db row.toTaskRecord :=
  current_of_task (Database.Table.get_of_mem mem)

theorem current_of_getByKey {db : Store} {scope key : String} {task : TaskRecord}
    (known : db.getByKey scope key = some task) : Current db task := by
  obtain ⟨row, found, rfl⟩ := Option.map_eq_some_iff.mp known
  exact current_of_row (List.mem_of_find?_eq_some found)

theorem current_of_getBySession {db : Store} {sessionId : SessionId} {task : TaskRecord}
    (known : db.getBySession sessionId = some task) : Current db task := by
  obtain ⟨row, found, rfl⟩ := Option.map_eq_some_iff.mp known
  exact current_of_row (List.mem_of_find?_eq_some found)

theorem current_of_transition {t : TaskId} {expectStates : List TaskState}
    {expectVersion : Option ℕ} {assign : Lifecycle → Lifecycle} {observe : Health → Health}
    {attempted : String} {now : Time} {db db' : Store} {record : TaskRecord}
    (ran : transition t expectStates expectVersion assign observe attempted now db =
      .ok (record, db')) : Current db' record ∧ record.taskId = t := by
  obtain ⟨row, known, _, _, _, left⟩ := transition_ok.mp ran
  cases left
  have named : row.taskId = t := Store.taskId_of_task known
  refine ⟨current_of_task (t := t) ?_, named⟩
  rw [Store.task_putTask, if_pos]
  exact named.symm

theorem prepareReplacement_current {seen : TaskRecord} {target : Option Target} {charge : Bool}
    {now : Time} {prepared : TaskRecord}
    (answer : ((Tx.prepareReplacement seen target charge now).exec s.store).2 = .ok prepared) :
    Current (Shared.after s (.prepareReplacement seen target charge now)).store prepared ∧
      prepared.taskId = seen.taskId := by
  obtain ⟨_, _, _, moved⟩ := prepareReplacement_ok (atomically_answer answer)
  exact current_of_transition moved

theorem resumeReplacement_current {seen : TaskRecord} {target : Target} {automatic : Bool}
    {now : Time} {prepared : TaskRecord}
    (answer : ((Tx.resumeReplacement seen target automatic now).exec s.store).2 = .ok prepared) :
    Current (Shared.after s (.resumeReplacement seen target automatic now)).store prepared ∧
      prepared.taskId = seen.taskId :=
  current_of_transition (wrapping_ok.mp (atomically_answer answer))

theorem prepareCheckpointOperation_taskId {seen : TaskRecord} {operationId reference : String}
    {facts : CheckpointFacts} {db db' : Store} {operation : CheckpointOperation}
    (ran : prepareCheckpointOperation seen operationId reference facts db = .ok (operation, db')) :
    operation.taskId = seen.taskId := by
  unfold prepareCheckpointOperation at ran
  split at ran
  · simp at ran
  simp only [get_bind_run] at ran
  cases found : db.task seen.taskId with
  | none => simp [found] at ran
  | some current =>
    simp only [found] at ran
    cases stored : db.checkpoints.get operationId with
    | some known =>
      simp only [stored] at ran
      split at ran
      · simp at ran
      rename_i same
      have named : known.taskId = seen.taskId := congrArg Prod.fst (not_not.mp same)
      split at ran
      · obtain ⟨⟨⟩, _, _, ran⟩ := bind_ok.mp ran
        cases ran
        exact named
      · cases ran
        exact named
    | none =>
      simp only [stored] at ran
      obtain ⟨⟨⟩, _, _, ran⟩ := bind_ok.mp ran
      split at ran
      · simp at ran
      · cases ran
        rfl

/-! ### Finishing -/

theorem FinishSite.Known.rely {site : FinishSite} {seen : TaskRecord} {state : TaskState}
    {charge : Bool} (known : site.Known s seen state charge) (others : Rely H s s')
    (held : .task seen.taskId ∈ H) : site.Known s' seen state charge := by
  have failed (h : Failed s.trace (seen.taskId, seen.epoch)) :
      Failed s'.trace (seen.taskId, seen.epoch) := h.mono others.1.trace
  cases site with
  | lifecycle | approval _ | replacementEnded => exact ⟨known.1.rely others held, known.2⟩
  | processFailure => exact known
  | nativeLost => exact ⟨known.1, known.2.1, failed known.2.2⟩
  | exhausted =>
    obtain ⟨current, uncharged, target, below, active, recorded⟩ := known
    exact ⟨current.rely others held, uncharged, target, below, active, failed recorded⟩
  | unroutable =>
    obtain ⟨current, charged, target, active, recorded⟩ := known
    exact ⟨current.rely others held, charged, target, active, failed recorded⟩
  | launchRejected =>
    obtain ⟨current, charged, target, recorded⟩ := known
    exact ⟨current.rely others held, charged, target, failed recorded⟩

theorem finishTask_keeps {site : FinishSite} {task : TaskRecord} {state : TaskState}
    {result : Option String} {charge : Bool} (held : .task task.taskId ∈ H)
    (snapshot : Snapshot s.store task) (known : site.Known s task state charge) :
    (discipline py x).Keeps H s (finishTask site task state result charge) fun _ _ => True := by
  refine .handle (.bind (m := fun _ _ => True) (stamped_keeps fun now s₁ others _ => ?_)
    fun _ _ _ _ => .ret trivial) fun e s₁ _ => ?_
  · exact ⟨⟨held, snapshot.evolves others.1, known.rely others held⟩, fun _ _ => trivial⟩
  · split
    · split
      · exact .ret trivial
      · exact .fail
    · exact .fail

theorem retireSession_keeps {record : TerminalOwnership} (fresh : record.successorSessionId = none) :
    (discipline py x).Keeps H s (retireSession record) fun stored s' =>
      ∀ successor, stored.successorSessionId = some successor → Journaled s'.trace successor := by
  refine .bind (m := fun found s' => ∀ stored, found = some stored → ∀ successor,
    stored.successorSessionId = some successor → Journaled s'.trace successor) ?_ ?_
  · refine .commit fun s₁ _ sane => ⟨trivial, fun stored found successor linked => ?_⟩
    exact (sane.successors _ stored successor found linked).mono (List.subset_cons_self _ _)
  · intro found s₁ _ known
    split
    · rename_i stored
      exact .ret (known stored rfl)
    · refine .commit fun s₂ _ sane => ⟨fresh, fun successor linked => ?_⟩
      have later := List.subset_cons_self
        (Event.commit (Tx.retire record) ((Tx.retire record).exec s₂.store).2) s₂.trace
      have answer : ((Tx.retire record).exec s₂.store).2 = (s₂.store.insertOwnership record).2 := rfl
      simp only [kernel, answer, Store.insertOwnership] at linked
      split at linked
      · rename_i stored found
        exact (sane.successors _ stored successor found linked).mono later
      · cases fresh.symm.trans linked

theorem plain_recordOutgoingIntents (current : TaskRecord) (holder : SessionId) :
    (discipline py x).Plain (recordOutgoingIntents current holder) :=
  (plain_read _).bind fun _ => plain_forEach fun command _ => by
    split
    · trivial
    · exact plain_commit (by intros; trivial)

theorem plain_retireSession {record : TerminalOwnership}
    (fresh : record.successorSessionId = none) :
    (discipline py x).Plain (retireSession record) := by
  refine (plain_read _).bind fun found => ?_
  split
  · trivial
  · exact plain_commit fun _ _ => fresh

theorem plain_retireHolder (current : TaskRecord) (reason : String) :
    (discipline py x).Plain (retireHolder current reason) := by
  unfold retireHolder
  split
  · trivial
  · exact (plain_retireSession rfl).bind fun _ => trivial

theorem plain_settleEffect (current : TaskRecord) (state : TaskState)
    (wanted : Option WorkspaceId) :
    (discipline py x).Plain (settleEffect current state wanted) := by
  refine (plain_read _).bind fun found => ?_
  split
  · trivial
  split
  · trivial
  dsimp only
  split
  · trivial
  · exact (plain_stamped (by intros; trivial)).bind fun _ => trivial

theorem plain_recordHolderIntents (task current : TaskRecord) (state : TaskState)
    (commands : List Command) :
    (discipline py x).Plain (recordHolderIntents task current state commands) := by
  unfold recordHolderIntents
  split
  · exact (plain_commit (by intros; trivial)).bind fun _ => plain_recordOutgoingIntents _ _
  · trivial

/-- The targets of a worker's report. -/
def reportStates : List TaskState := [.completed, .blocked, .cancelled]

theorem finishDecision_keeps {task : TaskRecord} {state : TaskState} (result : Option String)
    (stopWorkspace : Bool) (commands : List Command) (held : .task task.taskId ∈ H)
    (reported : state ∈ reportStates) :
    (discipline py x).Keeps H s (finishDecision task state result stopWorkspace commands)
      fun _ _ => True := by
  refine .bind (read_keeps _) fun found s₁ _ known => ?_
  obtain ⟨found, -⟩ := known
  split
  · exact .fail
  rename_i seen
  obtain ⟨current, named⟩ := current_of_getById found.symm
  rw [← named] at held
  refine .bind (plain_keeps (plain_recordHolderIntents _ _ _ _) H s₁) fun _ s₂ _ others => ?_
  have current := current.rely others held
  refine .bind (finishTask_keeps held current.snapshot ⟨current, rfl, ?_⟩) fun _ s₃ _ _ => ?_
  · simpa [reportStates] using reported
  refine .bind (plain_safe (plain_settleEffect _ _ _) H s₃) fun _ s₄ _ _ => ?_
  dsimp only
  split
  · exact .bind (plain_safe (plain_retireHolder _ _) H s₄) fun _ _ _ _ => .ret trivial
  · exact .ret trivial

theorem stopFinished_keeps (task : TaskRecord) (epoch : ℕ) (effect : Option Effect)
    (workspaceId : Option WorkspaceId) :
    (discipline py x).Keeps H s (stopFinished task epoch effect workspaceId) fun _ _ => True := by
  unfold stopFinished
  split
  · exact .ret trivial
  refine taskLock_keeps fun _ _ => externalIo_keeps ?_
  split
  · exact plain_stopTerminal _
  · exact plain_query _ (by intro; trivial)

theorem announceFinish_keeps (task updated : TaskRecord) :
    (discipline py x).Keeps H s (announceFinish task updated) fun _ _ => True := by
  refine .bind (taskLock_keeps fun s₁ _ => plain_safe (plain_read _) _ s₁) fun _ s₁ _ _ => ?_
  split
  · exact .ret trivial
  split
  · exact .bind pump_keeps fun _ _ _ _ => reconcileCleanupIntents_keeps
  · exact .ret trivial

theorem finishCommands_keeps (task : TaskRecord) (state : TaskState) :
    (discipline py x).Keeps H s (finishCommands task state) fun _ _ => True := by
  unfold finishCommands
  split
  · exact holderCommands_keeps task
  · exact .ret trivial

theorem finishLocked_keeps (task : TaskRecord) {state : TaskState} (result : Option String)
    (stopWorkspace : Bool) (reported : state ∈ reportStates) :
    (discipline py x).Keeps H s (finishLocked task state result stopWorkspace)
      fun _ _ => True := by
  refine .bind (finishCommands_keeps task state) fun commands s₁ _ _ => ?_
  refine .bind (taskLock_keeps fun _ _ =>
    finishDecision_keeps result stopWorkspace commands (Set.mem_insert _ _) reported)
    fun settled s₂ _ _ => ?_
  exact .bind (stopFinished_keeps task _ _ _) fun _ _ _ _ => announceFinish_keeps task _

/-! ### Launching -/

theorem plain_coolBinding (task : TaskRecord) (outcome : String) (retryAt : Option Time) :
    (discipline py x).Plain (coolBinding task outcome retryAt) := by
  unfold coolBinding
  split
  · trivial
  split
  · exact plain_query _ (by intro; trivial)
  · trivial

/-- An effect ended with a loud outcome has failed. -/
theorem markTerminal_keeps (task : TaskRecord) {outcome : String} (retryAt : Option Time)
    (loud : outcome ∉ quietOutcomes) :
    (discipline py x).Keeps H s (stamped (.markTerminal task.taskId task.epoch outcome retryAt))
      fun _ s' => Rely H s s' ∧ Failed s'.trace (task.taskId, task.epoch) := by
  refine Keeps.mono (Keeps.and (plain_keeps (plain_stamped (by intros; trivial)) H s)
    (stamped_keeps (d := fun _ s' => Failed s'.trace (task.taskId, task.epoch)) ?_))
    fun _ _ _ known => known
  refine fun now s₁ _ _ => ⟨trivial, fun effect answer => ⟨_, List.mem_cons_self, ?_⟩⟩
  simp only [failedEpoch]
  rw [answer]
  exact if_neg loud

theorem recordProviderOutcome_keeps (task : TaskRecord) {outcome : String} (retryAt : Option Time)
    (loud : outcome ∉ quietOutcomes) :
    (discipline py x).Keeps H s (recordProviderOutcome task outcome retryAt)
      fun _ s' => Rely H s s' ∧ Failed s'.trace (task.taskId, task.epoch) :=
  .bind (plain_keeps (plain_coolBinding _ _ _) H s) fun _ _ _ first =>
    .bind (markTerminal_keeps task retryAt loud) fun _ _ _ known =>
      .ret ⟨Rely.trans first known.1, known.2⟩

theorem rejectionOutcome_loud (status : Option ℕ) : rejectionOutcome status ∉ quietOutcomes := by
  unfold rejectionOutcome
  split
  · decide
  · decide
  · decide
  · rename_i code _ _ _
    have start := startsWith_append "rejected:" (toString code)
    intro quiet
    simp only [quietOutcomes, List.mem_cons, List.not_mem_nil, or_false] at quiet
    rcases quiet with same | same | same <;> rw [same] at start <;> exact absurd start (by decide)
  · decide

theorem launchRejected_keeps {task : TaskRecord} (e : KernelError) (held : .task task.taskId ∈ H)
    (snapshot : Snapshot s.store task) (done : Native → Shared Tx Query Store γ → Prop) :
    (discipline py x).Keeps H s (launchRejected task e) done := by
  unfold launchRejected
  split
  swap
  · exact .fail
  split
  swap
  · exact .fail
  refine .bind (read_keeps _) fun now s₁ later known => ?_
  obtain ⟨now_eq, -⟩ := known
  dsimp only
  split
  · exact .bind (plain_safe (plain_stamped (by intros; trivial)) H s₁) fun _ _ _ _ => .fail
  rename_i moved
  have current := (snapshot.evolves later).of_unmoved (by simpa [now_eq] using moved)
  split
  · refine .bind (recordProviderOutcome_keeps task _ (rejectionOutcome_loud _))
      fun _ s₂ _ known => ?_
    obtain ⟨others, failed⟩ := known
    have current := current.rely others held
    exact .bind (finishTask_keeps held current.snapshot ⟨current, rfl, rfl, failed⟩)
      fun _ _ _ _ => .fail
  · exact .fail

theorem lostOutcome_loud (reason : String) : "lost:" ++ reason ∉ quietOutcomes := by
  have start := startsWith_append "lost:" reason
  intro quiet
  simp only [quietOutcomes, List.mem_cons, List.not_mem_nil, or_false] at quiet
  rcases quiet with same | same | same <;> rw [same] at start <;> exact absurd start (by decide)

theorem effectIds_keeps {task : TaskRecord} {native : Native} (held : .task task.taskId ∈ H)
    (snapshot : Snapshot s.store task)
    (answered : native.state = "active" →
      Answered s.trace (task.taskId, task.epoch) native.workspaceId native.sessionId) :
    (discipline py x).Keeps H s (effectIds task py native) fun ids s' =>
      Answered s'.trace (task.taskId, task.epoch) ids.1 ids.2 ∧ ids.1 ≠ "" ∧ ids.2 ≠ "" := by
  unfold effectIds
  dsimp only
  split
  · exact .bind (plain_safe (plain_stamped (by intros; trivial)) H s) fun _ _ _ _ => .fail
  split
  · refine .bind (markTerminal_keeps task _ (lostOutcome_loud _)) fun _ s₁ later known => ?_
    exact .bind (finishTask_keeps held (snapshot.evolves later) ⟨rfl, rfl, known.2⟩)
      fun _ _ _ _ => .fail
  split
  · exact .fail
  rename_i usable
  simp only [not_or, not_not] at usable
  obtain ⟨active, placed, named⟩ := usable
  exact .ret ⟨answered active, placed, named⟩

/-- The effect a reservation answers carries a session only if one was launched. -/
theorem reserve_journaled (sane : Sane s) (taskId : TaskId) (epoch : ℕ) (launch : Launch)
    (owner : String) (now : Time) {answer : Effect × Bool}
    (ran : ((Tx.reserve taskId epoch launch owner now).exec s.store).2 = .ok answer)
    (sessionId : SessionId) (named : answer.1.sessionId = some sessionId) :
    Journaled (Shared.after s (.reserve taskId epoch launch owner now)).trace sessionId := by
  have known : ∃ row, s.store.effect taskId epoch = some row ∧ row.sessionId = some sessionId := by
    obtain ⟨_, _, fresh⟩ | ⟨row, found, ⟨_, same, _⟩ | ⟨_, _, same⟩⟩ :=
      reserveEffect_ok (atomically_answer ran)
    · rw [fresh] at named
      exact nomatch named
    · exact ⟨row, found, same ▸ named⟩
    · rw [same] at named
      exact ⟨row, found, named⟩
  obtain ⟨row, found, named⟩ := known
  exact (sane.sessions _ _ row sessionId found named).mono (List.subset_cons_self _ _)

theorem reserveLaunch_keeps (task : TaskRecord) (launch : Launch) (owner : String)
    (patience : ℕ) :
    (discipline py x).Keeps H s (reserveLaunch task launch owner patience) fun effect s' =>
      ∀ sessionId, effect.sessionId = some sessionId → Journaled s'.trace sessionId := by
  have reserve (s₁ : Shared Tx Query Store γ) : (discipline py x).Keeps H s₁
      ((stamped (.reserve task.taskId task.epoch launch owner)).bind fun r => .ret r.1)
      fun effect s' =>
        ∀ sessionId, effect.sessionId = some sessionId → Journaled s'.trace sessionId := by
    refine .bind (stamped_keeps fun now s₂ _ sane => ⟨trivial, fun answer ran => ?_⟩)
      fun answer _ _ known => .ret known
    exact reserve_journaled sane _ _ launch owner now ran
  induction patience generalizing s with
  | zero => exact reserve s
  | succ patience ih =>
    refine .handle (reserve s) fun e s₁ _ => ?_
    split
    · exact .bind (externalIo_keeps trivial) fun _ _ _ _ => ih
    · exact .fail

theorem supersedeLaunch_keeps {task : TaskRecord} {workspaceId : WorkspaceId}
    (placed : Placed s.trace (task.taskId, task.epoch) workspaceId) :
    (discipline py x).Keeps H s (supersedeLaunch task workspaceId) fun _ _ => True := by
  refine .bind (read_keeps _) fun existing s₁ later _ => ?_
  have placed := placed.mono later.trace
  split
  · exact stamped_keeps fun _ _ others _ => ⟨placed.mono others.1.trace, fun _ _ => trivial⟩
  · exact stamped_keeps fun _ _ others _ => ⟨placed.mono others.1.trace, fun _ _ => trivial⟩

theorem launchSuperseded_keeps {task : TaskRecord} {workspaceId : WorkspaceId}
    (placed : Placed s.trace (task.taskId, task.epoch) workspaceId)
    (done : WorkspaceId × SessionId → Shared Tx Query Store γ → Prop) :
    (discipline py x).Keeps H s (launchSuperseded task workspaceId) done :=
  .bind (supersedeLaunch_keeps placed) fun _ _ _ _ =>
    .bind (externalIo_keeps (plain_stopTerminal _)) fun _ _ _ _ => .fail

theorem markLaunched_keeps {task : TaskRecord} {workspaceId : WorkspaceId} {sessionId : SessionId}
    (answered : Answered s.trace (task.taskId, task.epoch) workspaceId sessionId)
    (placed : workspaceId ≠ "") (named : sessionId ≠ "") :
    (discipline py x).Keeps H s
      (stamped (.markLaunched task.taskId task.epoch workspaceId sessionId))
      fun _ s' => Journaled s'.trace sessionId := by
  refine stamped_keeps fun now s₁ others _ =>
    ⟨⟨answered.mono others.1.trace, placed, named⟩, fun effect answer => ⟨_, List.mem_cons_self, ?_⟩⟩
  refine ⟨(task.taskId, task.epoch), workspaceId, ?_⟩
  simp only [journaledIds]
  rw [answer]
  rfl

theorem journaledLaunch_keeps {task : TaskRecord} (owner : String) (launch : Launch)
    (held : .task task.taskId ∈ H) (snapshot : Snapshot s.store task) :
    (discipline py x).Keeps H s (journaledLaunch py owner task launch)
      fun ids s' => Journaled s'.trace ids.2 := by
  refine .bind (plain_safe (plain_ask _ (by intro; trivial)) H s) fun patience s₁ later _ => ?_
  have snapshot := snapshot.evolves later
  refine .bind (reserveLaunch_keeps task launch owner patience) fun effect s₂ later known => ?_
  have snapshot := snapshot.evolves later
  split
  · rename_i named
    exact .ret (known _ (Option.filter_eq_some_iff.mp named).1)
  refine .bind (m := fun native s' => native.state = "active" →
    Answered s'.trace (task.taskId, task.epoch) native.workspaceId native.sessionId) ?_ ?_
  · refine .handle (.released (fun s₃ _ => ?_) fun native a b later answered active =>
      (answered active).mono later.1.trace) fun e s₃ later =>
        launchRejected_keeps e held (snapshot.evolves later) _
    refine .query (fun _ _ _ => trivial) fun s₄ native env _ _ _ active => ?_
    exact ⟨_, List.mem_cons_self, if_pos active⟩
  intro native s₃ later answered
  have snapshot := snapshot.evolves later
  refine .bind (effectIds_keeps held snapshot answered) fun ids s₄ later known => ?_
  obtain ⟨workspaceId, sessionId⟩ := ids
  obtain ⟨answered, placed, named⟩ := known
  refine .bind (read_keeps _) fun current s₅ later _ => ?_
  have answered := answered.mono later.trace
  split
  · exact launchSuperseded_keeps (answered.placed placed) _
  · exact .bind (markLaunched_keeps answered placed named) fun _ _ _ journaled => .ret journaled

theorem plain_requireUnchanged (task : TaskRecord) :
    (discipline py x).Plain (requireUnchanged task) := by
  refine (plain_read _).bind fun current => ?_
  split <;> trivial

theorem forwardCommands_keeps (taskId : TaskId) (key : String) (successor : SessionId)
    (commands : List NativeCommand) :
    (discipline py x).Keeps H s (forwardCommands taskId key successor commands)
      fun _ _ => True := by
  refine forEach_keeps fun row _ _ _ => ?_
  split
  · exact .ret trivial
  · exact .bind (externalIo_keeps (plain_query _ (by intro; trivial))) fun _ _ _ _ => .ret trivial

theorem cancelCommands_keeps (taskId : TaskId) (commands : List NativeCommand) :
    (discipline py x).Keeps H s (cancelCommands taskId commands) fun _ _ => True := by
  refine forEach_keeps fun row _ _ _ => ?_
  split
  · exact .ret trivial
  · exact .bind (externalIo_keeps (plain_query _ (by intro; trivial))) fun _ _ _ _ => .ret trivial

theorem linkedSuccessor_keeps {record : TerminalOwnership} (prepared : TaskRecord)
    (source : SessionId) {spawn : Kernel SessionId}
    (known : ∀ successor, record.successorSessionId = some successor →
      Journaled s.trace successor)
    (spawns : ∀ s', Evolves s s' →
      (discipline py x).Keeps H s' spawn fun sessionId s'' => Journaled s''.trace sessionId) :
    (discipline py x).Keeps H s (linkedSuccessor prepared source record spawn)
      fun successor s' => Journaled s'.trace successor := by
  unfold linkedSuccessor
  split
  · rename_i named
    exact .ret (known _ (Option.filter_eq_some_iff.mp named).1)
  refine .bind (plain_safe (plain_requireUnchanged prepared) H s) fun _ s₁ later _ => ?_
  refine .bind (spawns s₁ later) fun spawned s₂ _ journaled => ?_
  split
  · exact .fail
  refine .bind (m := fun _ s' => Journaled s'.trace spawned)
    (.run fun s₃ others _ => ⟨journaled.mono others.1.trace, fun _ _ => ?_⟩)
    fun _ _ _ journaled => .ret journaled
  exact (journaled.mono others.1.trace).mono (List.subset_cons_self _ _)

theorem plain_assertDeliverable (sessionId : SessionId) :
    (discipline py x).Plain (assertDeliverable sessionId) := by
  refine (plain_read _).bind fun found => ?_
  split <;> trivial

theorem transferOwnership_keeps (prepared : TaskRecord) (source : SessionId)
    {spawn : Kernel SessionId}
    (spawns : ∀ s', Evolves s s' →
      (discipline py x).Keeps H s' spawn fun sessionId s'' => Journaled s''.trace sessionId) :
    (discipline py x).Keeps H s (transferOwnership prepared source spawn)
      fun successor s' => Journaled s'.trace successor := by
  refine .bind (retireSession_keeps rfl) fun record s₁ later known => ?_
  refine .bind (externalIo_keeps (plain_query _ (by intro; trivial))) fun rows s₂ later' _ => ?_
  have known successor linked := (known successor linked).mono later'.trace
  have before := later.trans later'
  refine .bind (linkedSuccessor_keeps prepared source known fun s₃ later =>
    spawns s₃ (before.trans later)) fun successor s₃ _ journaled => ?_
  refine .bind (plain_safe (plain_assertDeliverable successor) H s₃) fun _ s₄ later _ => ?_
  have journaled := journaled.mono later.trace
  refine .bind (forwardCommands_keeps _ _ _ _) fun _ s₅ later _ => ?_
  have journaled := journaled.mono later.trace
  exact .bind (cancelCommands_keeps _ _) fun _ s₆ later _ => .ret (journaled.mono later.trace)

theorem plain_workspaceRequest (task : TaskRecord) (prompt : String) :
    (discipline py x).Plain (workspaceRequest task prompt) :=
  (plain_query _ (by intro; trivial)).bind fun _ => trivial

theorem activate_keeps {site : ActivateSite} {task : TaskRecord} (workspaceId : WorkspaceId)
    {sessionId : SessionId} (other : site ≠ .adoptExpired) (held : .task task.taskId ∈ H)
    (snapshot : Snapshot s.store task) (journaled : Journaled s.trace sessionId) :
    (discipline py x).Keeps H s (stamped (.activate site task workspaceId sessionId))
      fun _ _ => True :=
  stamped_keeps fun _ _ others _ => ⟨⟨held, snapshot.evolves others.1,
    fun same => absurd same other, journaled.mono others.1.trace⟩, fun _ _ => trivial⟩

theorem replacePrepared_keeps (owner : String) {prepared : TaskRecord} (prompt : String)
    (held : .task prepared.taskId ∈ H) (snapshot : Snapshot s.store prepared) :
    (discipline py x).Keeps H s (replacePrepared py owner prepared prompt) fun _ _ => True := by
  refine .bind (transferOwnership_keeps prepared _ fun s₁ later => ?_)
    fun successor s₁ later journaled =>
      activate_keeps _ (by decide) held (snapshot.evolves later) journaled
  exact .bind (journaledLaunch_keeps owner _ held (snapshot.evolves later))
    fun _ _ _ journaled => .ret journaled

theorem launchPrepared_keeps (owner : String) {prepared : TaskRecord} (prompt : String)
    (held : .task prepared.taskId ∈ H) (snapshot : Snapshot s.store prepared) :
    (discipline py x).Keeps H s (launchPrepared py owner prepared prompt) fun _ _ => True := by
  unfold launchPrepared
  split
  · exact replacePrepared_keeps owner prompt held snapshot
  refine .bind (externalIo_keeps (plain_workspaceRequest _ _)) fun launch s₁ later _ => ?_
  have snapshot := snapshot.evolves later
  refine .bind (plain_safe (plain_requireUnchanged prepared) H s₁) fun _ s₂ later _ => ?_
  have snapshot := snapshot.evolves later
  refine .bind (journaledLaunch_keeps owner launch held snapshot) fun ids s₃ later journaled => ?_
  exact activate_keeps _ (by decide) held (snapshot.evolves later) journaled

/-! ### Starting -/

theorem waitForLaunchCapacity_keeps (task : TaskRecord) (cap patience : ℕ) :
    (discipline py x).Keeps H s (waitForLaunchCapacity task cap patience) fun _ _ => True := by
  induction patience generalizing s with
  | zero =>
    unfold waitForLaunchCapacity
    refine .bind (externalIo_keeps (plain_query _ (by intro; trivial))) fun processes s₁ _ _ => ?_
    refine .bind (plain_safe (plain_lift _) H s₁) fun running s₂ _ _ => ?_
    split
    · exact .ret trivial
    · exact .fail
  | succ patience ih =>
    unfold waitForLaunchCapacity
    refine .bind (externalIo_keeps (plain_query _ (by intro; trivial))) fun processes s₁ _ _ => ?_
    refine .bind (plain_safe (plain_lift _) H s₁) fun running s₂ _ _ => ?_
    split
    · exact .ret trivial
    · exact ih

theorem startReservedLocked_keeps (owner : String) (cap : ℕ) {task : TaskRecord}
    (held : .task task.taskId ∈ H) (snapshot : Snapshot s.store task) :
    (discipline py x).Keeps H s (startReservedLocked py owner cap task) fun _ _ => True := by
  unfold startReservedLocked
  split
  · exact .ret trivial
  refine .bind (externalIo_keeps (plain_workspaceRequest _ _)) fun launch s₁ first _ => ?_
  refine .bind (plain_safe (plain_read _) H s₁) fun prepared s₂ second _ => ?_
  split
  · exact .ret trivial
  refine .bind (plain_safe (plain_ask _ (by intro; trivial)) H s₂) fun patience s₃ third _ => ?_
  refine .bind (waitForLaunchCapacity_keeps task cap patience) fun _ s₄ fourth _ => ?_
  refine .bind (plain_safe (plain_read _) H s₄) fun _ s₅ fifth _ => ?_
  split
  · exact .ret trivial
  have snapshot := ((((snapshot.evolves first).evolves second).evolves third).evolves
    fourth).evolves fifth
  refine .bind (journaledLaunch_keeps owner launch held snapshot) fun ids s₆ later journaled => ?_
  exact .bind (activate_keeps _ (by decide) held (snapshot.evolves later) journaled)
    fun _ _ _ _ => .ret trivial

theorem locked_keeps {t : TaskId} {body : Option TaskRecord → Kernel β}
    (absent : ∀ s', (discipline py x).Keeps (insert (.task t) H) s' (body none) fun _ _ => True)
    (found : ∀ current s', Current s'.store current →
      (discipline py x).Keeps (insert (.task current.taskId) H) s' (body (some current))
        fun _ _ => True) :
    (discipline py x).Keeps H s (taskLock t ((read (·.getById t)).bind body)) fun _ _ => True := by
  refine taskLock_keeps fun s₁ _ => .bind (read_keeps _) fun row s₂ _ known => ?_
  obtain ⟨row_eq, -⟩ := known
  cases row with
  | none => exact absent s₂
  | some current =>
    obtain ⟨known, rfl⟩ := current_of_getById row_eq.symm
    exact found current s₂ known

theorem startReserved_keeps (owner : String) (cap : ℕ) (task : TaskRecord) :
    (discipline py x).Keeps H s (startReserved py owner cap task) fun _ _ => True :=
  .withLock (fun _ _ _ => locked_keeps (fun _ => .fail) fun _ _ known =>
    startReservedLocked_keeps owner cap (Set.mem_insert _ _) known.snapshot)
    fun _ _ _ _ _ => trivial

theorem reissueExpired_keeps (scope : String) (spec : TaskSpec) :
    (discipline py x).Keeps H s (reissueExpired scope spec) fun _ _ => True := by
  refine .bind (read_keeps _) fun found s₁ _ _ => ?_
  split
  · exact .ret trivial
  split
  · exact .ret trivial
  refine locked_keeps (fun _ => .ret trivial) fun current s₂ known => ?_
  dsimp only
  split
  · exact .ret trivial
  split
  · exact .fail
  refine .bind (m := fun _ _ => True) (stamped_keeps fun now s₃ others _ => ?_)
    fun _ _ _ _ => .ret trivial
  exact ⟨⟨Set.mem_insert _ _, known.snapshot.evolves others.1⟩, fun _ _ => trivial⟩

theorem plain_callerContext (caller : Option SessionId) :
    (discipline py x).Plain (callerContext caller) := by
  unfold callerContext
  split
  · trivial
  · refine (plain_read _).bind fun parent => ?_
    split <;> trivial

theorem plain_prepareSpec (scope : String) (topLevel : Bool) (requested : WorkerSpec) :
    (discipline py x).Plain (prepareSpec py scope topLevel requested) := by
  refine (plain_lift _).bind fun _ => (plain_query _ (by intro; trivial)).bind fun repo => ?_
  dsimp only
  split
  · trivial
  refine (plain_read _).bind fun existing => ?_
  split
  · split <;> trivial
  · exact (plain_query _ (by intro; trivial)).bind fun _ => (plain_query _ (by intro; trivial)).bind fun _ => (plain_query _ (by intro; trivial)).bind
      fun _ => trivial

theorem sweepAdmission_keeps :
    (discipline py x).Keeps H s (sweepAdmission py) fun _ _ => True :=
  .bind sweepLosses_keeps fun _ _ _ _ => .bind expireReservations_keeps fun _ _ _ _ =>
    reconcileTerminal_keeps

theorem ensureSwept_keeps (swept : Bool) :
    (discipline py x).Keeps H s (ensureSwept py swept) fun _ _ => True := by
  unfold ensureSwept
  split
  · exact .ret trivial
  · exact sweepAdmission_keeps

theorem callerContext_keeps (caller : Option SessionId) :
    (discipline py x).Keeps H s (callerContext caller) fun context s' =>
      ∀ parent, context.2 = some parent → parent.state = .active →
        WasActive s'.store.ownershipShared s'.trace parent.taskId := by
  unfold callerContext
  split
  · refine .ret fun parent none_ => ?_
    cases none_
  refine .bind (replay_keeps _) fun found s₁ _ known => ?_
  obtain ⟨later, earlier, past, found⟩ := known
  split
  · refine .ret ?_
    rintro parent ⟨⟩ active
    obtain ⟨row, known, _, lifecycle⟩ := current_of_getBySession found.symm
    exact ⟨later, earlier, row, past, known, (congrArg Lifecycle.state lifecycle).trans active⟩
  · refine .ret fun parent none_ => ?_
    cases none_

theorem requireActiveParent_keeps (parent : Option TaskRecord) :
    (discipline py x).Keeps H s (requireActiveParent parent) fun _ _ =>
      ∀ task, parent = some task → task.state = .active := by
  unfold requireActiveParent
  split
  · refine .ret fun task none_ => ?_
    cases none_
  · split
    · rename_i active
      refine .ret ?_
      rintro task ⟨⟩
      exact active
    · exact .fail

theorem startAll_keeps (owner : String) (cap : ℕ) (caller : Option SessionId) (swept : Bool)
    (requested : List WorkerSpec) :
    (discipline py x).Keeps H s (startAll py owner cap caller swept requested)
      fun _ _ => True := by
  refine .bind (ensureSwept_keeps swept) fun _ s₁ _ _ => ?_
  refine .bind (callerContext_keeps caller) fun context s₂ _ checked => ?_
  obtain ⟨scope, parent⟩ := context
  refine .bind (requireActiveParent_keeps parent) fun _ s₃ later active => ?_
  have checked : ∀ t, (parent.map fun p => p.taskId) = some t →
      WasActive s₃.store.ownershipShared s₃.trace t := by
    intro t named
    obtain ⟨task, known, rfl⟩ := Option.map_eq_some_iff.mp named
    exact (checked task known (active task known)).evolves later
  refine .bind (plain_safe (plain_collect fun spec _ => plain_prepareSpec scope _ spec) H s₃)
    fun prepared s₄ later₄ _ => ?_
  refine .bind (forEach_keeps fun spec _ _ _ => reissueExpired_keeps scope spec)
    fun _ s₅ later₅ _ => ?_
  refine .bind (plain_safe (plain_query _ (by intro; trivial)) H s₅) fun _ s₆ later₆ _ => ?_
  refine .bind (plain_safe plain_clock H s₆) fun now s₇ later₇ _ => ?_
  have later := ((later₄.trans later₅).trans later₆).trans later₇
  refine .bind (m := fun _ _ => True) (.run fun s' others _ => ⟨⟨Nat.zero_lt_succ 2, ?_⟩, ?_⟩)
    fun reservations s₈ _ _ => ?_
  · intro t named
    exact (checked t named).evolves (later.trans others.1)
  · intros
    trivial
  exact forEach_keeps fun reservation _ _ _ =>
    excepting_keeps (startReserved_keeps owner cap reservation.1) fun _ _ _ => .ret trivial

/-! ### Lifecycle calls -/

theorem findTask_keeps (caller : Option SessionId) (key : String) :
    (discipline py x).Keeps H s (findTask caller key)
      fun task s' => Current s'.store task := by
  refine .bind (plain_safe (plain_callerContext caller) H s) fun context s₁ _ _ => ?_
  refine .bind (read_keeps _) fun found s₂ _ known => ?_
  obtain ⟨found, -⟩ := known
  split
  · exact .ret (current_of_getByKey found.symm)
  · exact .fail

theorem namedTask_keeps (caller : Option SessionId) (worker : Option String) :
    (discipline py x).Keeps H s (namedTask caller worker)
      fun task s' => Current s'.store task := by
  unfold namedTask currentTask
  split
  · split
    · exact .fail
    refine .bind (read_keeps _) fun found s₁ _ known => ?_
    obtain ⟨found, -⟩ := known
    split
    · exact .ret (current_of_getBySession found.symm)
    · exact .fail
  · exact findTask_keeps caller _

theorem complete_keeps (caller : Option SessionId) (summary worker : Option String) :
    (discipline py x).Keeps H s (complete caller summary worker) fun _ _ => True :=
  .bind (namedTask_keeps caller worker) fun task _ _ _ =>
    finishLocked_keeps task summary true (by decide)

theorem blocked_keeps (caller : Option SessionId) (reason : String) (worker : Option String) :
    (discipline py x).Keeps H s (blocked py caller reason worker) fun _ _ => True := by
  unfold blocked
  split
  · exact .fail
  · exact .bind (namedTask_keeps caller worker) fun task _ _ _ =>
      finishLocked_keeps task _ false (by decide)

theorem cancel_keeps (caller : Option SessionId) (worker : String) :
    (discipline py x).Keeps H s (cancel caller worker) fun _ _ => True :=
  .bind (findTask_keeps caller worker) fun task _ _ _ =>
    finishLocked_keeps task none true (by decide)

theorem replacementPrompt_keeps (fence : TaskId) (task : TaskRecord) (prompt : Option String) :
    (discipline py x).Keeps H s (replacementPrompt py fence task prompt) fun _ _ => True := by
  unfold replacementPrompt
  dsimp only
  split
  · refine .bind (.ret (d := fun _ _ => True) trivial) fun text _ _ _ => ?_
    split
    · exact .ret trivial
    · exact .fail
  · refine .bind (externalIo_keeps (plain_query _ (by intro; trivial))) fun text _ _ _ => ?_
    split
    · exact .ret trivial
    · exact .fail

theorem prepareReplace_keeps {task : TaskRecord} (held : .task task.taskId ∈ H)
    (snapshot : Snapshot s.store task) :
    (discipline py x).Keeps H s (prepareReplace task)
      fun prepared s' => Snapshot s'.store prepared ∧ prepared.taskId = task.taskId := by
  unfold prepareReplace
  dsimp only
  split
  · refine stamped_keeps fun now s₁ others _ =>
      ⟨⟨held, snapshot.evolves others.1⟩, fun prepared answer => ?_⟩
    exact (resumeReplacement_current answer).imp_left Current.snapshot
  · refine stamped_keeps fun now s₁ others _ =>
      ⟨⟨held, snapshot.evolves others.1, fun charged => nomatch charged⟩, fun prepared answer => ?_⟩
    exact (prepareReplacement_current answer).imp_left Current.snapshot

theorem replaceLocked_keeps (owner : String) (caller : Option SessionId) (worker : String)
    (prompt : Option String) {fence : TaskId} (held : .task fence ∈ H) :
    (discipline py x).Keeps H s (replaceLocked py owner caller worker prompt fence)
      fun _ _ => True := by
  refine .bind (findTask_keeps caller worker) fun task s₁ _ current => ?_
  dsimp only
  split
  · exact .fail
  refine .bind (replacementPrompt_keeps fence task prompt) fun text s₂ later _ => ?_
  have snapshot := current.snapshot.evolves later
  unfold requireFence
  split
  swap
  · exact .fail
  rename_i same
  subst same
  refine .bind (.ret (d := fun _ _ => True) trivial) fun _ s₃ later _ => ?_
  refine .bind (prepareReplace_keeps held (snapshot.evolves later))
    fun prepared s₄ _ known => ?_
  obtain ⟨snapshot, named⟩ := known
  rw [← named] at held
  exact .bind (replacePrepared_keeps owner text held snapshot) fun _ _ _ _ => .ret trivial

theorem replace_keeps (owner : String) (caller : Option SessionId) (worker : String)
    (prompt : Option String) :
    (discipline py x).Keeps H s (replace py owner caller worker prompt) fun _ _ => True :=
  .bind (findTask_keeps caller worker) fun _ s₁ _ _ =>
    .bind (plain_safe (plain_query _ (by intro; trivial)) H s₁) fun _ _ _ _ =>
      taskLock_keeps fun _ _ => replaceLocked_keeps owner caller worker prompt (Set.mem_insert _ _)

/-! ### Recovery -/

theorem blockUnroutable_keeps {site : FinishSite} {task : TaskRecord} (reason : String)
    (held : .task task.taskId ∈ H) (snapshot : Snapshot s.store task)
    (known : task.state ≠ .blocked → site.Known s task .blocked true) :
    (discipline py x).Keeps H s (blockUnroutable site task reason) fun _ _ => True := by
  unfold blockUnroutable
  split
  · exact .ret trivial
  · rename_i open_
    exact .bind (finishTask_keeps held snapshot (known open_)) fun _ _ _ _ => .ret trivial

theorem processProviderOutcome_loud {now : Time} {process : Dict} {outcome : String}
    {retryAt : Option Time}
    (typed : processProviderOutcome py now process = some (outcome, retryAt)) :
    outcome ∉ quietOutcomes := by
  obtain ⟨fields, _, found⟩ := Option.bind_eq_some_iff.mp typed
  obtain ⟨routed, known, same⟩ := Option.map_eq_some_iff.mp found
  cases same
  simp only [processOutcomeClasses, List.lookup_cons, List.lookup_nil] at known
  split at known
  · cases known; decide
  split at known
  · cases known; decide
  split at known
  · cases known; decide
  split at known
  · cases known; decide
  · cases known

theorem plain_queueStillOwns (sessionId : SessionId) :
    (discipline py x).Plain (queueStillOwns sessionId) :=
  (plain_query _ (by intro; trivial)).bind fun _ => trivial

theorem observeSessionFailureLocked_keeps {task : TaskRecord} (sessionId : SessionId)
    (held : .task task.taskId ∈ H) (snapshot : Snapshot s.store task) :
    (discipline py x).Keeps H s (observeSessionFailureLocked py task sessionId)
      fun _ _ => True := by
  unfold observeSessionFailureLocked
  split
  · exact .ret trivial
  refine .bind (plain_safe (plain_read _) H s) fun effect s₁ first _ => ?_
  split
  · exact .ret trivial
  split
  · exact .ret trivial
  refine .bind (externalIo_keeps (plain_query _ (by intro; trivial))) fun processes s₂ second _ => ?_
  split
  · exact .ret trivial
  split
  · exact .ret trivial
  refine .bind (plain_safe plain_clock H s₂) fun now s₃ third _ => ?_
  split
  · rename_i typed
    exact .bind (recordProviderOutcome_keeps task _ (processProviderOutcome_loud typed))
      fun _ _ _ _ => .ret trivial
  refine .bind (externalIo_keeps (plain_queueStillOwns sessionId)) fun owned s₄ fourth _ => ?_
  split
  · exact .ret trivial
  have snapshot := (((snapshot.evolves first).evolves second).evolves third).evolves fourth
  exact .bind (blockUnroutable_keeps _ held snapshot fun _ => ⟨rfl, rfl⟩)
    fun _ _ _ _ => .ret trivial

theorem observeSessionFailure_keeps (task : TaskRecord) (sessionId : SessionId) :
    (discipline py x).Keeps H s (observeSessionFailure py task sessionId) fun _ _ => True :=
  locked_keeps (fun _ => .ret trivial) fun _ _ known =>
    observeSessionFailureLocked_keeps sessionId (Set.mem_insert _ _) known.snapshot

theorem resumePrepared_keeps (owner : String) {task : TaskRecord} (effect : Option Effect)
    (held : .task task.taskId ∈ H) (current : Current s.store task)
    (replacing : task.state = .replacing) :
    (discipline py x).Keeps H s (resumePrepared py owner task effect) fun _ _ => True := by
  have launch : (discipline py x).Keeps H s (do
      let _ ← launchPrepared py owner task task.spec.prompt) fun _ _ => True :=
    .bind (launchPrepared_keeps owner _ held current.snapshot) fun _ _ _ _ => .ret trivial
  unfold resumePrepared
  split
  · split
    · exact blockUnroutable_keeps _ held current.snapshot fun _ => ⟨current, rfl, rfl, replacing⟩
    · exact launch
  · exact launch

theorem exhaustTask_keeps {task : TaskRecord} (outcome : String) (held : .task task.taskId ∈ H)
    (current : Current s.store task) (active : task.state = .active)
    (below : task.attempts < task.maxAttempts)
    (failed : Failed s.trace (task.taskId, task.epoch)) :
    (discipline py x).Keeps H s (exhaustTask task outcome) fun _ _ => True :=
  .bind (finishTask_keeps held current.snapshot ⟨current, rfl, rfl, below, active, failed⟩)
    fun _ s₁ _ _ => plain_safe (plain_retireHolder _ _) H s₁

theorem rerouteTask_keeps (owner : String) {task : TaskRecord} (outcome : String)
    (held : .task task.taskId ∈ H) (current : Current s.store task)
    (open_ : task.state ≠ .blocked → task.state = .active)
    (below : task.state = .active → task.attempts + 1 < task.maxAttempts)
    (failed : Failed s.trace (task.taskId, task.epoch)) :
    (discipline py x).Keeps H s (rerouteTask py owner task outcome) fun _ _ => True := by
  have block (s₁ : Shared Tx Query Store γ) (others : Rely H s s₁) (reason : String) :
      (discipline py x).Keeps H s₁ (blockUnroutable .unroutable task reason) fun _ _ => True := by
    have current := current.rely others held
    exact blockUnroutable_keeps reason held current.snapshot fun other =>
      ⟨current, rfl, rfl, open_ other, failed.mono others.1.trace⟩
  unfold rerouteTask
  dsimp only
  split
  · exact block s (.refl s) _
  refine .bind (plain_keeps (plain_query _ (by intro; trivial)) H s) fun selection s₁ first others => ?_
  split
  · exact block s₁ others _
  refine .bind (externalIo_keeps (plain_query _ (by intro; trivial))) fun providerId s₂ second _ => ?_
  have before := first.trans second
  refine .bind (m := fun prepared s' => Snapshot s'.store prepared ∧
      prepared.taskId = task.taskId) (stamped_keeps fun now s₃ others _ => ?_)
    fun prepared s₃ _ known => ?_
  · refine ⟨⟨held, current.snapshot.evolves (before.trans others.1), fun charged => ?_⟩,
      fun prepared answer => (prepareReplacement_current answer).imp_left Current.snapshot⟩
    have active : task.state = .active := by simpa using charged
    exact ⟨active, below active, failed.mono (before.trans others.1).trace⟩
  · obtain ⟨snapshot, named⟩ := known
    rw [← named] at held
    exact .bind (launchPrepared_keeps owner _ held snapshot) fun _ _ _ _ => .ret trivial

theorem advancePastOutcomeLocked_keeps (owner : String) {task : TaskRecord}
    (held : .task task.taskId ∈ H) (current : Current s.store task) :
    (discipline py x).Keeps H s (advancePastOutcomeLocked py owner task) fun _ _ => True := by
  refine .bind (m := fun effect s' => Rely H s s' ∧ ∀ e, effect = some e →
      e.state = .terminal → (routingOutcome e.outcome).isSome →
        Failed s'.trace (task.taskId, task.epoch)) ?_ fun effect s₁ _ known => ?_
  · refine Keeps.mono (Keeps.and ((plain_read _).keeps H s) (.commit fun s₁ _ sane => ?_))
      fun _ _ _ known => known
    refine ⟨trivial, fun e found ended routed => ?_⟩
    exact (sane.outcomes _ _ e found ended routed).mono (List.subset_cons_self _ _)
  obtain ⟨others, failed⟩ := known
  have current := current.rely others held
  split
  · rename_i replacing
    split
    · exact .ret trivial
    · exact resumePrepared_keeps owner effect held current replacing
  split
  · exact .ret trivial
  rename_i live
  dsimp only
  split
  · exact .ret trivial
  rename_i outcome typed
  obtain ⟨e, kept, routed⟩ := Option.bind_eq_some_iff.mp typed
  obtain ⟨rfl, ended⟩ := Option.filter_eq_some_iff.mp kept
  have failed := failed e rfl (by simpa using ended) (Option.isSome_of_mem routed)
  split
  · exact .ret trivial
  rename_i unspent
  split
  · rename_i last
    exact exhaustTask_keeps outcome held current last.1 (by omega) failed
  · rename_i more
    refine rerouteTask_keeps owner outcome held current (fun other => ?_) (fun active => ?_) failed
    · by_contra inactive
      exact live ⟨inactive, other⟩
    · by_contra spent
      exact more ⟨active, by omega⟩

theorem advancePastOutcome_keeps (owner : String) (task : TaskRecord) :
    (discipline py x).Keeps H s (advancePastOutcome py owner task) fun _ _ => True :=
  .bind (plain_safe (plain_query _ (by intro; trivial)) H s) fun _ _ _ _ =>
    locked_keeps (fun _ => .ret trivial) fun _ _ known =>
      advancePastOutcomeLocked_keeps owner (Set.mem_insert _ _) known

theorem reconcileProviderOutcome_keeps (owner : String) (sessionId : SessionId) :
    (discipline py x).Keeps H s (reconcileProviderOutcome py owner sessionId) fun _ _ => True := by
  refine .bind (read_keeps _) fun found s₁ _ _ => ?_
  split
  · exact .ret trivial
  refine .bind (observeSessionFailure_keeps _ sessionId) fun settled s₂ _ _ => ?_
  split
  · exact .ret trivial
  · exact .bind (read_keeps _) fun _ _ _ _ => advancePastOutcome_keeps owner _

theorem reconcileProviderOutcomes_keeps (owner : String) :
    (discipline py x).Keeps H s (reconcileProviderOutcomes py owner) fun _ _ => True := by
  refine .bind (read_keeps _) fun effects s₁ _ _ => ?_
  refine .bind (plain_safe (plain_readTasks _) H s₁) fun stuck s₂ _ _ => ?_
  refine .bind (read_keeps _) fun replacing s₃ _ _ => ?_
  exact forEach_keeps fun task _ _ _ =>
    excepting_keeps (advancePastOutcome_keeps owner task) fun _ _ _ => .ret trivial

/-! ### Mail and checkpoints -/

theorem sendLocked_keeps (entry : TaskRecord) (prompt operationId : String) :
    (discipline py x).Keeps H s (sendLocked entry prompt operationId) fun _ _ => True := by
  refine .bind (read_keeps _) fun found s₁ _ _ => ?_
  split
  · exact .fail
  dsimp only
  split
  · exact .fail
  refine .bind (plain_safe (plain_assertDeliverable _) H s₁) fun _ s₂ _ _ => ?_
  refine .bind (plain_safe (plain_commit (by intros; trivial)) H s₂) fun _ s₃ _ _ => ?_
  refine .bind (externalIo_keeps ((plain_query _ (by intro; trivial)).bind fun sent => ?_)) fun nativeId s₄ _ _ => ?_
  · split
    · trivial
    · exact (plain_queueCommands _).bind fun _ => trivial
  · exact .bind (read_keeps _) fun latest s₅ _ _ => plain_safe (plain_run (by intros; trivial)) H s₅

theorem plain_findTask (caller : Option SessionId) (key : String) :
    (discipline py x).Plain (findTask caller key) := by
  refine (plain_callerContext caller).bind fun context => (plain_read _).bind fun found => ?_
  split <;> trivial

theorem plain_sendTarget (caller : Option SessionId) (entry : String × String × String) :
    (discipline py x).Plain (sendTarget py caller entry) := by
  unfold sendTarget
  dsimp only
  split
  · trivial
  refine (plain_findTask caller _).bind fun task => ?_
  split
  · trivial
  · exact (plain_assertDeliverable _).bind fun _ => trivial

theorem sendAll_keeps (caller : Option SessionId) (entries : List (String × String × String)) :
    (discipline py x).Keeps H s (sendAll py caller entries) fun _ _ => True := by
  unfold sendAll
  dsimp only
  split
  · exact .fail
  refine .bind (plain_safe (plain_collect fun entry _ => plain_sendTarget caller entry) H s)
    fun targets s₁ _ _ => ?_
  refine .bind (forEach_keeps fun target _ _ _ => ?_) fun _ _ _ _ => reconcileCleanupIntents_keeps
  exact excepting_keeps (taskLock_keeps fun _ _ => sendLocked_keeps _ _ _)
    fun _ _ _ => .ret trivial

theorem checkpointNatively_keeps (task : TaskRecord) (operationId reference : String)
    (facts : CheckpointFacts) (held : LockKey.task task.taskId ∈ H) :
    (discipline py x).Keeps H s (checkpointNatively py task operationId reference facts)
      fun _ _ => True := by
  refine excepting_keeps ?_ fun _ _ _ => .fail
  refine .bind (m := fun operation _ => operation.taskId = task.taskId)
    (.run fun s₁ _ _ => ⟨held, fun operation answer => ?_⟩) fun operation s₁ _ named => ?_
  · exact prepareCheckpointOperation_taskId (atomically_answer answer)
  refine .bind (externalIo_keeps ((plain_query _ (by intro; trivial)).bind fun _ => plain_lift _))
    fun receipt s₂ _ _ => ?_
  have held : LockKey.task operation.taskId ∈ H := named ▸ held
  cases verified : verifiedReceipt py operation receipt with
  | error e => exact .bind (m := fun _ _ => False) .fail fun _ _ _ => False.elim
  | ok r =>
    obtain rfl := verifiedReceipt_ok verified
    refine .bind (m := fun a _ => verifiedReceipt py operation a = .ok a) (.ret verified)
      fun a s₃ _ verified => ?_
    exact .bind (m := fun _ _ => True)
      (stamped_keeps fun _ _ _ _ => ⟨⟨held, verified⟩, fun _ _ => trivial⟩)
      fun _ _ _ _ => .ret trivial

theorem plain_savedCheckpoint (operationId : Option String) :
    (discipline py x).Plain (savedCheckpoint operationId) := by
  unfold savedCheckpoint
  split
  · trivial
  · exact plain_read _

theorem checkpointTask_keeps {task : TaskRecord} (current : Current s.store task) (text : String)
    (operationId : Option String) :
    (discipline py x).Keeps H s (checkpointTask py task text operationId) fun _ _ => True := by
  unfold checkpointTask
  dsimp only
  refine .bind (plain_safe (plain_query _ (by intro; trivial)) H s) fun native s₂ first _ => ?_
  refine .bind (plain_safe (plain_savedCheckpoint operationId) H s₂) fun saved s₃ second _ => ?_
  refine .bind (plain_safe (plain_lift _) H s₃) fun _ s₄ third _ => ?_
  split
  · exact .fail
  split
  · exact .fail
  refine .bind (plain_safe (plain_query _ (by intro; trivial)) H s₄) fun file s₅ fourth _ => ?_
  refine taskLock_keeps fun s₆ fifth => ?_
  have held := Set.mem_insert (LockKey.task task.taskId) H
  have later := (((first.trans second).trans third).trans fourth).trans fifth
  split
  · split
    · exact checkpointNatively_keeps task _ _ _ held
    · exact checkpointNatively_keeps task _ _ _ held
  have snapshot := current.snapshot.evolves later
  refine .bind (m := fun _ _ => True) (stamped_keeps fun now s₅ others _ => ?_)
    fun _ _ _ _ => .ret trivial
  exact ⟨⟨held, snapshot.evolves others.1⟩, fun _ _ => trivial⟩

theorem checkpoint_keeps (caller : Option SessionId) (text : String)
    (worker operationId : Option String) :
    (discipline py x).Keeps H s (checkpoint py caller text worker operationId)
      fun _ _ => True := by
  unfold checkpoint
  dsimp only
  split
  · exact .fail
  · exact .bind (namedTask_keeps caller worker) fun _ _ _ current =>
      checkpointTask_keeps current text operationId

/-! ### Every interleaving -/

theorem KernelOp.keeps {op : Kernel Unit} (known : KernelOp py op)
    (s : Shared Tx Query Store γ) : (discipline py x).Keeps ∅ s op fun _ _ => True := by
  cases known with
  | startAll owner cap caller swept requested => exact startAll_keeps owner cap caller swept requested
  | replace owner caller worker prompt => exact replace_keeps owner caller worker prompt
  | complete caller summary worker => exact complete_keeps caller summary worker
  | blocked caller reason worker => exact blocked_keeps caller reason worker
  | cancel caller worker => exact cancel_keeps caller worker
  | sendAll caller entries => exact sendAll_keeps caller entries
  | checkpoint caller text worker operationId =>
    exact checkpoint_keeps caller text worker operationId
  | reconcileProviderOutcome owner sessionId => exact reconcileProviderOutcome_keeps owner sessionId
  | reconcileProviderOutcomes owner => exact reconcileProviderOutcomes_keeps owner
  | reconcileKernel baseline => exact reconcileKernel_keeps baseline
  | sweepAdmission => exact sweepAdmission_keeps
  | reconcileSuperseded => exact reconcileSuperseded_keeps

/-- Every interleaving keeps the protocol, whatever crashes. -/
theorem reachable_sound {w : World KernelError Tx Query LockKey Store γ}
    (reached : Reachable (kernel py x) anyEvent w) : (discipline py x).Sound w :=
  Protocol.sound (fun _ known s => (known.keeps s).safe) reached

theorem reachable_sane {w : World KernelError Tx Query LockKey Store γ}
    (reached : Reachable (kernel py x) anyEvent w) : Sane w.shared :=
  (reachable_sound reached).1

/-- What is known of every transaction about to commit. -/
theorem reachable_issued {w : World KernelError Tx Query LockKey Store γ}
    (reached : Reachable (kernel py x) anyEvent w) {p : ℕ} {tx : Tx β} {k : β → Kernel Unit}
    (pending : w.procs p = some (.commit tx k)) : Issued py (w.held p) w.shared tx :=
  (reachable_sound reached).pending_commit pending

/-- The induction rule for what every run keeps whose events meet a condition: each of its
transactions is issued as the protocol says. -/
theorem run_invariant {ok : Shared Tx Query Store γ → Event Tx Query → Prop}
    (I : Shared Tx Query Store γ → Prop)
    (init : ∀ ownershipShared e, I ⟨Store.initial ownershipShared, e, []⟩)
    (commit : ∀ {H : Set LockKey} {s : Shared Tx Query Store γ} {β : Type} {tx : Tx β}, Sane s →
      Issued py H s tx → ok s (.commit tx (tx.exec s.store).2) → I s → I (Shared.after s tx))
    (call : ∀ {s : Shared Tx Query Store γ} {β : Type} {q : Query β} {b : β} {env : γ},
      x.answer s.env q b env → ok s (.call q b) → I s → I (s.call q b env))
    {w : World KernelError Tx Query LockKey Store γ} (reached : Reachable (kernel py x) ok w) :
    I w.shared := by
  refine reached.invariant I ?_ ?_ ?_
  · rintro db e ⟨ownershipShared, rfl⟩
    exact init ownershipShared e
  · intro w p β tx k before pending allowed known
    have before := before.mono fun _ _ _ => trivial
    exact commit (reachable_sane before) (reachable_issued before pending) allowed known
  · intro w p β q k b env _ _ answered allowed known
    exact call answered allowed known

end SightMesh
