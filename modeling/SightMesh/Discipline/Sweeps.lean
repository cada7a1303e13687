import SightMesh.Discipline.Rules

/-! Every program of the reconciler keeps the protocol. -/
namespace SightMesh

open Concurrency Database Python Protocol

variable {γ : Type} {py : Library} {x : Executor γ} {H : Set LockKey}
  {s : Shared Tx Query Store γ}

/-! ### Workspace stops -/

theorem plain_stopTerminal (effect : Effect) : (discipline py x).Plain (stopTerminal effect) := by
  unfold stopTerminal
  split
  · trivial
  · split
    · trivial
    · exact (plain_query _ (by intro; trivial)).bind fun _ => plain_clock.bind fun _ => plain_commit fun _ _ => trivial

theorem plain_stopSuperseded (effect : Effect) :
    (discipline py x).Plain (stopSuperseded effect) := by
  unfold stopSuperseded
  split
  · trivial
  · exact plain_stopTerminal effect

theorem reconcileTerminal_keeps :
    (discipline py x).Keeps H s reconcileTerminal fun _ _ => True :=
  .bind (read_keeps _) fun _ _ _ _ => forEach_keeps fun effect _ _ _ =>
    isolated_keeps (taskLock_keeps fun _ _ => externalIo_keeps (plain_stopTerminal effect))

theorem reconcileSuperseded_keeps :
    (discipline py x).Keeps H s reconcileSuperseded fun _ _ => True :=
  plain_safe ((plain_read _).bind fun _ => plain_forEach fun effect _ =>
    plain_isolated (plain_stopSuperseded effect)) H s

/-! ### Expired reservations -/

/-- What the executor named for a launch it answered about. -/
structure Told (trace : History) (key : TaskId × ℕ) (native : Native) : Prop where
  answered : native.state = "active" →
    Answered trace key native.workspaceId native.sessionId
  placed : native.workspaceId ≠ "" → Placed trace key native.workspaceId

theorem Told.mono {trace trace' : History} {key : TaskId × ℕ} {native : Native}
    (h : Told trace key native) (later : trace ⊆ trace') : Told trace' key native :=
  ⟨fun active => (h.answered active).mono later, fun placed => (h.placed placed).mono later⟩

theorem nativeEffect_keeps (taskId : TaskId) (epoch : ℕ) :
    (discipline py x).Keeps H s (nativeEffect py taskId epoch) fun r s' =>
      ∀ native, r = some native → Told s'.trace (taskId, epoch) native := by
  refine .bind (m := fun r s' => ∀ native, r = .ok native →
      Told s'.trace (taskId, epoch) native) ?_ ?_
  · refine .ask (fun _ _ _ => trivial) fun s' r env _ _ _ native answered => ?_
    subst answered
    constructor
    · exact fun active => ⟨_, List.mem_cons_self, if_pos active⟩
    · exact fun placed => ⟨placed, _, List.mem_cons_self, native, rfl, rfl⟩
  · intro r s' later known
    split
    · rename_i native
      split
      · exact .ret fun _ absent => nomatch absent
      · refine .ret fun other same => ?_
        cases same
        exact known native rfl
    · split
      · exact .ret fun _ absent => nomatch absent
      · exact .fail
    · exact .fail

theorem retireExpired_keeps {seen : TaskRecord} (moment : Time) (held : .task seen.taskId ∈ H)
    (snapshot : Snapshot s.store seen) :
    (discipline py x).Keeps H s (retireExpired seen seen.epoch moment) fun _ _ => True := by
  refine .bind (m := fun r s' => r.isSome → Failed s'.trace (seen.taskId, seen.epoch)) ?_ ?_
  · refine .commit fun s' _ _ => ⟨trivial, fun retired => ?_⟩
    obtain ⟨effect, found⟩ := Option.isSome_iff_exists.mp retired
    refine ⟨_, List.mem_cons_self, ?_⟩
    simp only [failedEpoch]
    rw [found]
    rfl
  · intro r s₁ later failed
    split
    · rename_i retired
      refine .bind (m := fun _ _ => True) (stamped_keeps fun now s₂ others _ => ?_)
        fun _ _ _ _ => .ret trivial
      have failed := (failed retired).mono others.1.trace
      exact ⟨⟨held, (snapshot.evolves later).evolves others.1, failed⟩, fun _ _ => trivial⟩
    · exact .ret trivial

theorem expireLocked_keeps {taskId : TaskId} (epoch : ℕ) (moment : Time)
    (held : .task taskId ∈ H) :
    (discipline py x).Keeps H s (expireLocked py taskId epoch moment) fun _ _ => True := by
  refine .bind (read_keeps _) fun found s₁ _ known => ?_
  obtain ⟨found, -⟩ := known
  split
  · exact .bind (plain_safe (plain_commit (by intros; trivial)) H s₁) fun _ _ _ _ => .ret trivial
  rename_i seen
  obtain ⟨current, rfl⟩ := current_of_getById found.symm
  have snapshot := current.snapshot
  by_cases same : seen.epoch = epoch
  case neg => simpa [same] using .ret trivial
  subst same
  rw [if_neg (not_not_intro rfl)]
  refine .bind (.released (fun s₂ _ => nativeEffect_keeps seen.taskId seen.epoch) ?_) ?_
  · exact fun r a b later named native eq => (named native eq).mono later.1.trace
  intro native s₂ later named
  have snapshot := snapshot.evolves later
  refine .bind (read_keeps _) fun again s₃ later known => ?_
  obtain ⟨again_eq, -⟩ := known
  have snapshot := snapshot.evolves later
  split
  · rename_i unmoved
    have current := snapshot.of_unmoved (again_eq ▸ unmoved)
    split
    · rename_i native
      split
      · rename_i adopted
        obtain ⟨active, placed, live⟩ := adopted
        have answered := ((named native rfl).answered active).mono later.trace
        refine .bind (m := fun _ s' => Current s'.store seen ∧
          Journaled s'.trace native.sessionId) ?_ ?_
        · refine stamped_keeps fun now s₄ others _ =>
            ⟨⟨answered.mono others.1.trace, placed, live⟩, ?_⟩
          intro effect advanced
          have allowed : Issued py ∅ s₄ (Tx.markLaunched seen.taskId seen.epoch native.workspaceId
            native.sessionId now) := ⟨answered.mono others.1.trace, placed, live⟩
          have fixed := frozen_after allowed (Set.notMem_empty (LockKey.task seen.taskId))
          refine ⟨(current.rely others held).frozen (evolves_after s₄ _) fixed, ?_⟩
          refine ⟨_, List.mem_cons_self, (seen.taskId, seen.epoch), native.workspaceId, ?_⟩
          simp only [journaledIds]
          rw [advanced]
          rfl
        · rintro effect s₄ _ ⟨current, journaled⟩
          refine .bind (m := fun _ _ => True) (stamped_keeps fun now s₅ others _ => ?_)
            fun _ _ _ _ => .ret trivial
          have current := current.rely others held
          exact ⟨⟨held, current.snapshot, fun _ => current, journaled.mono others.1.trace⟩,
            fun _ _ => trivial⟩
      · exact .bind (retireExpired_keeps moment held snapshot) fun _ _ _ _ => .ret trivial
    · exact .bind (retireExpired_keeps moment held snapshot) fun _ _ _ _ => .ret trivial
  · split
    · rename_i native
      split
      · rename_i named'
        have placed := ((named native rfl).placed named').mono later.trace
        refine .bind (m := fun _ _ => True) (stamped_keeps fun _ _ others _ =>
          ⟨placed.mono others.1.trace, fun _ _ => trivial⟩) fun _ _ later _ => ?_
        exact .bind (retireExpired_keeps moment held (snapshot.evolves later))
          fun _ _ _ _ => .ret trivial
      · exact .bind (retireExpired_keeps moment held snapshot) fun _ _ _ _ => .ret trivial
    · exact .bind (retireExpired_keeps moment held snapshot) fun _ _ _ _ => .ret trivial

theorem expireReservations_keeps :
    (discipline py x).Keeps H s (expireReservations py) fun _ _ => True := by
  refine .bind (plain_keeps plain_clock H s) fun moment s₁ _ _ => ?_
  refine .bind (read_keeps _) fun candidates s₂ _ _ => forEach_keeps fun candidate _ s₃ _ => ?_
  refine .bind (m := fun _ _ => True) ?_ fun superseded s₄ _ _ => ?_
  · exact excepting_keeps
      (taskLock_keeps fun _ _ => expireLocked_keeps _ moment (Set.mem_insert _ _))
      fun _ _ _ => .ret trivial
  · split
    · exact .ret trivial
    · exact plain_safe (plain_isolated (plain_stopSuperseded _)) H s₄

/-! ### Wake delivery -/

theorem CountedWake.evolves {s s' : Shared Tx Query Store γ} {wake : Wake}
    (counted : CountedWake s.store wake) (later : Evolves s s') : CountedWake s'.store wake := by
  intro n seq
  obtain ⟨row, known, below⟩ := counted n seq
  obtain ⟨next, known, before⟩ := later.rows _ row known
  exact ⟨next, known, below.trans before.events⟩

theorem KnownWake.evolves {s s' : Shared Tx Query Store γ} {wake : Wake}
    (known : KnownWake s.store wake) (later : Evolves s s') : KnownWake s'.store wake := by
  obtain ⟨v, mem, same⟩ := known
  obtain ⟨w, mem, grown⟩ := later.wakes v mem
  exact ⟨w, mem, same.trans grown.origin⟩

theorem Rendered.evolves {s s' : Shared Tx Query Store γ} {wake : Wake} {text : String}
    (rendered : Rendered s.store.ownershipShared s.trace wake text) (later : Evolves s s') :
    Rendered s'.store.ownershipShared s'.trace wake text := by
  rw [later.wiring]
  exact rendered.mono later.grows

theorem WasActive.evolves {s s' : Shared Tx Query Store γ} {t : TaskId}
    (active : WasActive s.store.ownershipShared s.trace t) (later : Evolves s s') :
    WasActive s'.store.ownershipShared s'.trace t := by
  rw [later.wiring]
  exact active.mono later.grows

theorem SentWake.evolves {s s' : Shared Tx Query Store γ} {wake : Wake}
    (sent : SentWake s.store.ownershipShared s.trace wake) (later : Evolves s s') :
    SentWake s'.store.ownershipShared s'.trace wake := by
  rw [later.wiring]
  exact sent.mono later.grows

/-- What a process knows of a wake it claimed. -/
def ClaimedWake (db : Store) (wake : Wake) : Prop := CountedWake db wake ∧ KnownWake db wake

theorem ClaimedWake.evolves {s s' : Shared Tx Query Store γ} {wake : Wake}
    (claimed : ClaimedWake s.store wake) (later : Evolves s s') : ClaimedWake s'.store wake :=
  ⟨claimed.1.evolves later, claimed.2.evolves later⟩

theorem resolveWake_keeps {wake : Wake} (reason : String) (claimed : ClaimedWake s.store wake) :
    (discipline py x).Keeps H s (resolveWake wake reason) fun _ _ => True :=
  .bind (plain_keeps plain_clock H s) fun _ _ later _ =>
    .bind (m := fun _ _ => True)
      (.commit fun _ others _ =>
        have claimed := (claimed.evolves later).evolves others.1
        ⟨⟨claimed.1, claimed.2, .inl rfl⟩, trivial⟩)
      fun _ _ _ _ => .ret trivial

theorem rendered_now {wake : Wake} {parent : TaskRecord} (sane : Sane s)
    (claimed : ClaimedWake s.store wake) (snapshot : Snapshot s.store parent)
    (named : parent.taskId = wake.parentTaskId) :
    Rendered s.store.ownershipShared s.trace wake (wakePayload wake.predicate parent
      (s.store.children parent.taskId) wake.dedupeKey.isEscalation) := by
  obtain ⟨row, known, _⟩ := snapshot
  rw [named] at known
  refine ⟨[], s.trace, parent, row, rfl, named, ?_, fun n seq => ?_, ?_⟩
  · rw [← sane.replayed]
    exact known
  · obtain ⟨row', known', below⟩ := claimed.1 n seq
    cases Option.some.inj (known.symm.trans known')
    exact below
  · rw [← sane.replayed, named]

def ChosenText (s : Shared Tx Query Store γ) (wake : Wake) (text : String) : Prop :=
  (∃ w ∈ s.store.wakes.rows, w.wakeId = wake.wakeId ∧ w.payload = some text) ∧
    Rendered s.store.ownershipShared s.trace wake text

theorem ChosenText.evolves {s s' : Shared Tx Query Store γ} {wake : Wake} {text : String}
    (chosen : ChosenText s wake text) (later : Evolves s s') : ChosenText s' wake text := by
  obtain ⟨⟨v, mem, named, kept⟩, rendered⟩ := chosen
  obtain ⟨w, mem, grown⟩ := later.wakes v mem
  exact ⟨⟨w, mem, grown.origin.wakeId.symm.trans named, grown.payload text kept⟩,
    rendered.evolves later⟩

theorem persistPayload_chooses {wake : Wake} {selected text : String} (sane : Sane s)
    (known : KnownWake s.store wake)
    (rendered : Rendered s.store.ownershipShared s.trace wake selected)
    (answer : ((Tx.persistPayload wake selected).exec s.store).2 = some text) :
    ChosenText (Shared.after s (.persistPayload wake selected)) wake text := by
  have later := evolves_after s (.persistPayload wake selected)
  obtain ⟨v, mem, same⟩ := known
  obtain left | ⟨row, there, named, claimed, left⟩ := persistPayload_cases wake selected s.store
  · rw [Tx.exec, left] at answer
    cases answer
  · have outbox : (Shared.after s (.persistPayload wake selected)).store.wakes =
        s.store.wakes.put { row with payload := some (row.payload.getD selected) } :=
      congrArg (fun r => r.1.wakes) left
    rw [Tx.exec, left] at answer
    cases answer
    have origin : v = row := Wake.eq_of_id mem there (same.wakeId.symm.trans named.symm)
    subst origin
    constructor
    · refine ⟨{ v with payload := some (v.payload.getD selected) }, ?_, named, rfl⟩
      rw [outbox]
      exact Table.mem_put.mpr (.inl rfl)
    · cases kept : v.payload with
      | some bytes =>
        exact ((sane.chosen v mem (by rw [claimed]; rfl) bytes kept).congr same.symm).evolves later
      | none => exact rendered.evolves later

theorem deliverWake_keeps {wake : Wake} (claimed : ClaimedWake s.store wake) :
    (discipline py x).Keeps H s (deliverWake wake) fun _ _ => True := by
  refine .bind (read_keeps _) fun found s₁ later answered => ?_
  have claimed := claimed.evolves later
  split
  · exact resolveWake_keeps _ claimed
  rename_i _ parent
  obtain ⟨current, named⟩ := current_of_getById answered.1.symm
  have snapshot := current.snapshot
  split
  · exact resolveWake_keeps _ claimed
  split
  · exact resolveWake_keeps _ claimed
  refine .bind (read_keeps _) fun retired s₂ later _ => ?_
  have claimed := claimed.evolves later
  have snapshot := snapshot.evolves later
  split
  · exact resolveWake_keeps _ claimed
  refine .bind (m := fun children s' => Rendered s'.store.ownershipShared s'.trace wake
      (wakePayload wake.predicate parent children wake.dedupeKey.isEscalation))
    (.commit fun s₃ others sane => ⟨trivial, ?_⟩) fun children s₃ later rendered => ?_
  · have claimed := claimed.evolves others.1
    exact (rendered_now sane claimed (snapshot.evolves others.1) named).mono (List.suffix_cons _ _)
  have claimed := claimed.evolves later
  split
  · exact resolveWake_keeps _ claimed
  refine .bind (m := fun answer s' => ∀ text, answer = some text → ChosenText s' wake text)
    (.commit fun s₄ others sane => ?_) fun answer s₄ later chosen => ?_
  · have known := (claimed.evolves others.1).2
    have rendered := rendered.evolves others.1
    exact ⟨⟨known, rendered⟩, fun text answer => persistPayload_chooses sane known rendered answer⟩
  have claimed := claimed.evolves later
  split
  · exact .ret trivial
  rename_i text
  have chosen := chosen text rfl
  refine .bind (m := fun _ s' => SentWake s'.store.ownershipShared s'.trace wake)
    (.query (fun s₅ others _ => ⟨rfl, (chosen.evolves others.1).1⟩) ?_) fun _ s₅ later sent => ?_
  · intro s₅ answer env others _ _
    exact ⟨[], s₅.trace, _, text, answer, rfl, (chosen.evolves others.1).2⟩
  have claimed := claimed.evolves later
  refine .bind (plain_keeps plain_clock H s₅) fun _ s₆ later _ => ?_
  have claimed := claimed.evolves later
  have sent := sent.evolves later
  refine .bind (m := fun _ _ => True) (.commit fun _ others _ => ?_) fun _ _ _ _ => .ret trivial
  have claimed := claimed.evolves others.1
  exact ⟨⟨claimed.1, claimed.2, .inr ⟨rfl, sent.evolves others.1⟩⟩, trivial⟩

theorem claimWakes_claimed (sane : Sane s) (now : Time) :
    ∀ w ∈ ((Tx.claimWakes now).exec s.store).2,
      ClaimedWake (Shared.after s (.claimWakes now)).store w := by
  intro w mem
  have later := evolves_after s (.claimWakes now)
  obtain ⟨v, known, origin⟩ := (claimWakes_origin claimSeconds now s.store).2 w mem
  constructor
  · have counted := (sane.wakes v known).evolves later
    intro n seq
    rw [← origin.parentTaskId]
    exact counted n (origin.eventSeq.trans seq)
  · obtain ⟨u, mem, grown⟩ := later.wakes v known
    exact ⟨u, mem, origin.symm.trans grown.origin⟩

theorem pump_keeps : (discipline py x).Keeps H s pump fun _ _ => True := by
  refine .bind (plain_keeps plain_clock H s) fun now s₁ _ _ => ?_
  refine .bind (m := fun claimed s' => ∀ w ∈ claimed, ClaimedWake s'.store w)
    (.commit fun s₂ _ sane => ⟨trivial, claimWakes_claimed sane now⟩) fun claimed s₂ _ known => ?_
  refine forEach_keeps fun wake mem s₃ later => excepting_keeps ?_ fun _ _ _ => .ret trivial
  exact deliverWake_keeps ((known wake mem).evolves later)

/-! ### Terminal command cleanup -/

theorem plain_queueCommands (sessionId : SessionId) :
    (discipline py x).Plain (queueCommands sessionId) :=
  (plain_query _ (by intro; trivial)).bind fun _ => trivial

theorem plain_requestCleanup (intent : CleanupIntent) :
    (discipline py x).Plain (requestCleanup intent) := by
  unfold requestCleanup
  split
  · refine (plain_ask _ (by intro; trivial)).bind fun answer => ?_
    split
    · trivial
    · exact (plain_queueCommands _).bind fun _ => (plain_commit (by intros; trivial)).bind
        fun _ => trivial
    · trivial
  · refine (plain_query _ (by intro; trivial)).bind fun _ => ?_
    split
    · trivial
    · exact (plain_query _ (by intro; trivial)).bind fun _ => trivial

theorem resolveOutgoing_keeps (outgoing : OutgoingCommand) :
    (discipline py x).Keeps H s (resolveOutgoing outgoing) fun _ _ => True := by
  refine taskLock_keeps fun s₁ _ => ?_
  refine .bind (externalIo_keeps (plain_queueCommands _)) fun commands s₂ _ _ => ?_
  split
  · exact .ret trivial
  · exact plain_safe (plain_run (by intros; trivial)) _ s₂

theorem reconcileIntent_keeps (intent : CleanupIntent) :
    (discipline py x).Keeps H s (reconcileIntent intent) fun _ _ => True := by
  refine taskLock_keeps fun s₁ _ => ?_
  refine .bind (externalIo_keeps (plain_requestCleanup intent)) fun settled s₂ _ _ => ?_
  split
  · exact plain_safe (plain_commit (by intros; trivial)) _ s₂
  · exact .ret trivial

theorem reconcileCleanupIntents_keeps :
    (discipline py x).Keeps H s reconcileCleanupIntents fun _ _ => True :=
  .bind (read_keeps _) fun _ _ _ _ =>
    .bind (forEach_keeps fun command _ _ _ => isolated_keeps (resolveOutgoing_keeps command))
      fun _ _ _ _ => .bind (read_keeps _) fun _ _ _ _ =>
        forEach_keeps fun intent _ _ _ => isolated_keeps (reconcileIntent_keeps intent)

/-! ### Losses -/

theorem holderCommands_keeps (task : TaskRecord) :
    (discipline py x).Keeps H s (holderCommands task) fun _ _ => True := by
  unfold holderCommands
  split
  · exact .ret trivial
  · exact taskLock_keeps fun _ _ => externalIo_keeps (plain_queueCommands _)

theorem recordLossLocked_keeps {task : TaskRecord} {reason : String} (payload : String)
    (commands : List Command) (held : .task task.taskId ∈ H) (lost : startsWith "lost:" reason) :
    (discipline py x).Keeps H s (recordLossLocked task reason payload commands)
      fun _ _ => True := by
  refine .bind (read_keeps _) fun found s₁ _ known => ?_
  obtain ⟨found, -⟩ := known
  split
  · exact .ret trivial
  rename_i seen
  obtain ⟨current, named⟩ := current_of_getById found.symm
  split
  · exact .ret trivial
  rename_i live
  have active : seen.state = .active := by
    by_contra other
    exact live (.inl other)
  rw [← named] at held
  have record (s₂ : Shared Tx Query Store γ) (others : Rely H s₁ s₂) :
      (discipline py x).Keeps H s₂ (stamped (.recordLoss seen reason payload)) fun _ _ => True :=
    stamped_keeps fun now s₃ later _ =>
      ⟨⟨held, current.rely (others.trans later) held, active, lost⟩, fun _ _ => trivial⟩
  dsimp only
  split
  · refine .bind (plain_keeps (plain_commit (by intros; trivial)) H s₁) fun _ s₂ _ others => ?_
    exact .bind (record s₂ others) fun _ _ _ _ => .ret trivial
  · exact .bind (record s₁ (.refl s₁)) fun _ _ _ _ => .ret trivial

theorem recordLossOf_keeps (task : TaskRecord) (finding : Finding) :
    (discipline py x).Keeps H s (recordLossOf py task finding) fun _ _ => True := by
  refine .bind (holderCommands_keeps task) fun commands s₁ _ _ => ?_
  refine .bind (m := fun _ _ => True) ?_ fun settled s₂ _ _ => ?_
  · refine excepting_keeps (taskLock_keeps fun s₂ _ => ?_) fun _ _ _ => .ret trivial
    exact recordLossLocked_keeps _ commands (Set.mem_insert _ _) (startsWith_append _ _)
  split
  · refine .bind (read_keeps _) fun effect s₃ _ _ => ?_
    dsimp only
    split
    · exact reconcileCleanupIntents_keeps
    split
    · exact .bind (isolated_keeps (taskLock_keeps fun _ _ =>
        externalIo_keeps (plain_stopTerminal _))) fun _ _ _ _ => reconcileCleanupIntents_keeps
    · exact reconcileCleanupIntents_keeps
  · exact .ret trivial

theorem plain_readSnapshot (current : Option Dict) :
    (discipline py x).Plain (readSnapshot py current) := by
  unfold readSnapshot
  split
  · trivial
  · refine (plain_safely _ (by intro; trivial)).bind fun answer => ?_
    split <;> trivial

theorem plain_readQueuedMail (sessionId : SessionId) (typed : Dict) :
    (discipline py x).Plain (readQueuedMail sessionId typed) := by
  unfold readQueuedMail
  split
  · refine (plain_safely _ (by intro; trivial)).bind fun answer => ?_
    split
    · trivial
    · exact plain_lift _
  · trivial

theorem plain_gatherEvidence (sessionId : SessionId) (now : Time) (checkpointAt : Option Time)
    (previousOutputBytes : Option ℕ) :
    (discipline py x).Plain (gatherEvidence py sessionId now checkpointAt previousOutputBytes) := by
  refine (plain_safely _ (by intro; trivial)).bind fun rows => ?_
  dsimp only
  split
  · exact (plain_lift _).bind fun _ => trivial
  · exact (plain_lift _).bind fun _ => (plain_lift _).bind fun _ =>
      (plain_readSnapshot _).bind fun _ => (plain_lift _).bind fun _ =>
        (plain_readQueuedMail _ _).bind fun _ => trivial

theorem sweepVerdict_keeps (task : TaskRecord) :
    (discipline py x).Keeps H s (sweepVerdict py task) fun _ _ => True := by
  refine taskLock_keeps fun s₁ _ => .bind (read_keeps _) fun found s₂ _ _ => ?_
  split
  · exact .ret trivial
  split
  · exact .ret trivial
  refine .bind (externalIo_keeps (plain_clock.bind fun _ => plain_gatherEvidence _ _ _ _))
    fun evidence s₃ _ _ => ?_
  split
  · exact .ret trivial
  · exact .bind (plain_safe plain_clock _ s₃) fun _ _ _ _ => .ret trivial

theorem sweepLosses_keeps : (discipline py x).Keeps H s (sweepLosses py) fun _ _ => True := by
  refine .bind (read_keeps _) fun tasks s₁ _ _ => forEach_keeps fun task _ s₂ _ =>
    isolated_keeps (.bind (sweepVerdict_keeps task) fun verdict s₃ _ _ => ?_)
  split
  · exact .ret trivial
  · exact recordLossOf_keeps task _

/-! ### Detection -/

theorem resolveParkedApproval_keeps (epoch : ℕ) (task : TaskRecord) (finding : Finding)
    (policy : DetectionPolicy) :
    (discipline py x).Keeps H s (resolveParkedApproval epoch task finding policy) fun _ _ => True := by
  unfold resolveParkedApproval
  split
  · exact .ret trivial
  split
  · exact .ret trivial
  refine excepting_keeps (taskLock_keeps fun s₁ _ => ?_) fun _ _ _ => .ret trivial
  refine .bind (read_keeps _) fun found s₂ _ known => ?_
  obtain ⟨found, -⟩ := known
  split
  · exact .ret trivial
  rename_i seen
  obtain ⟨current, named⟩ := current_of_getById found.symm
  have held : LockKey.task seen.taskId ∈ insert (LockKey.task task.taskId) H := by simp [named]
  refine .bind (m := fun _ _ => True) (stamped_keeps fun now s₃ others _ => ?_)
    fun _ _ _ _ => .ret trivial
  have current := current.rely others held
  exact ⟨⟨held, current.snapshot, current, rfl, rfl⟩, fun _ _ => trivial⟩

theorem recordObservation_keeps (task : TaskRecord) (finding : Finding) (policy : DetectionPolicy) :
    (discipline py x).Keeps H s (recordObservation py task finding policy) fun _ _ => True := by
  unfold recordObservation
  refine .bind (m := fun _ _ => True) ?_ fun recorded s₁ _ _ => ?_
  · refine excepting_keeps ?_ fun _ _ _ => .ret trivial
    exact .bind (plain_safe (plain_run (by intros; trivial)) H s) fun _ _ _ _ => .ret trivial
  split
  · refine .bind (read_keeps _) fun found s₂ _ _ => ?_
    split
    · exact .ret trivial
    · split
      · exact resolveParkedApproval_keeps _ _ finding policy
      · exact .ret trivial
  · exact .ret trivial

theorem applyFinding_keeps (task : TaskRecord) (finding : Finding) (policy : DetectionPolicy) :
    (discipline py x).Keeps H s (applyFinding py task finding policy) fun _ _ => True := by
  unfold applyFinding
  split
  · exact recordLossOf_keeps task finding
  split
  · exact .ret trivial
  · exact recordObservation_keeps task finding policy

theorem detectOne_keeps (baseline : TaskId → Option ℕ) (task : TaskRecord) :
    (discipline py x).Keeps H s (detectOne py baseline task) fun _ _ => True := by
  refine .bind (plain_safe plain_clock H s) fun _ s₁ _ _ => ?_
  refine .bind (plain_safe (plain_gatherEvidence _ _ _ _) H s₁) fun evidence s₂ _ _ => ?_
  refine .bind (plain_safe plain_clock H s₂) fun now s₃ _ _ => ?_
  dsimp only
  split
  · exact .bind (read_keeps _) fun _ _ _ _ => applyFinding_keeps task _ _
  · exact .bind (.ret (d := fun _ _ => True) trivial) fun _ _ _ _ => applyFinding_keeps task _ _

theorem plain_readTasks (taskIds : List TaskId) :
    (discipline py x).Plain (readTasks taskIds) := by
  induction taskIds with
  | nil => trivial
  | cons taskId rest ih => exact (plain_read _).bind fun _ => ih.bind fun _ => trivial

theorem detectLiveness_keeps (baseline : TaskId → Option ℕ) :
    (discipline py x).Keeps H s (detectLiveness py baseline) fun _ _ => True := by
  refine .bind (plain_safe (plain_read _) H s) fun watched s₁ _ _ => ?_
  refine .bind (plain_safe (plain_ask _ (by intro; trivial)) H s₁) fun start s₂ _ _ => ?_
  refine .bind (plain_safe (plain_ask _ (by intro; trivial)) H s₂) fun reach s₃ _ _ => ?_
  refine .bind (plain_safe (plain_readTasks _) H s₃) fun selected s₄ _ _ => ?_
  exact forEach_keeps fun task _ _ _ => isolated_keeps (detectOne_keeps baseline task)

theorem reconcileKernel_keeps (baseline : TaskId → Option ℕ) :
    (discipline py x).Keeps H s (reconcileKernel py baseline) fun _ _ => True := by
  refine .bind (isolated_keeps ?_) fun _ _ _ _ => .bind (isolated_keeps sweepLosses_keeps)
    fun _ _ _ _ => .bind (isolated_keeps (detectLiveness_keeps baseline)) fun _ _ _ _ =>
      .bind (isolated_keeps pump_keeps) fun _ _ _ _ => .bind (isolated_keeps ?_) fun _ _ _ _ =>
        isolated_keeps reconcileCleanupIntents_keeps
  · exact plain_safe (plain_clock.bind fun _ => plain_commit (by intros; trivial)) H s
  · exact .bind expireReservations_keeps fun _ _ _ _ => reconcileTerminal_keeps

end SightMesh
