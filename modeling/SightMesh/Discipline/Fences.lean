import SightMesh.Concurrency.Manners
import SightMesh.Discipline.Delivery
import SightMesh.Kernel.Refusals

/-! Under which fences a program asks and raises what. The rules know the locks that are held and
nothing of the rows, so they follow every path of a program, that of an error included. -/
namespace SightMesh

open Concurrency Database Python

variable {α β γ : Type}

/-! ### Requests -/

/-- How a query leaves the process. `told` cannot fail; `offline` reads the state file of the pool;
everything else counts as a request, and one request launches a worker. -/
inductive QueryKind where
  | told | offline | request | launch
  deriving DecidableEq

def Query.kind : {β : Type} → Query β → QueryKind
  | _, .clock | _, .patience => .told
  | _, .advanceRoute .. | _, .coolOutcome .. => .offline
  | _, .managedLaunch .. => .launch
  | _, _ => .request

def Query.remote (q : Query β) : Prop := q.kind = .request ∨ q.kind = .launch

def raisedBy : Answer β → Option KernelError
  | .ok _ => none
  | .error e => some e

def Query.raised : {β : Type} → Query β → β → Option KernelError
  | _, .clock, _ | _, .patience, _ => none
  | _, .contract, answer | _, .resolveRepo _, answer | _, .setupScript .., answer
  | _, .selectTarget .., answer | _, .resolvePolicy _, answer | _, .registerRepo .., answer
  | _, .defaultProvider, answer | _, .advanceRoute .., answer | _, .coolOutcome .., answer
  | _, .readCheckpoint _, answer | _, .checkpointEvidence, answer | _, .checkpointFile .., answer
  | _, .publishCheckpoint _, answer | _, .runningProcesses, answer
  | _, .executionProcesses _, answer | _, .executionProcess _, answer
  | _, .normalizedSnapshot _, answer | _, .queueStatus _, answer | _, .sessionCommands _, answer
  | _, .send .., answer | _, .cancelCommand .., answer | _, .stopExecution .., answer
  | _, .managedLaunch .., answer | _, .managedEffect .., answer | _, .stopWorkspace .., answer =>
    raisedBy answer

/-! ### Fences -/

def Unfenced (H : Set LockKey) : Prop := ∀ t, .task t ∉ H

def FencedBy (t : TaskId) (H : Set LockKey) : Prop := ∀ other, .task other ∈ H ↔ other = t

variable {H : Set LockKey} {t : TaskId}

theorem unfenced_empty : Unfenced ∅ := fun _ mem => mem

theorem Unfenced.fence (h : Unfenced H) : FencedBy t (insert (.task t) H) := by
  intro other
  constructor
  · rintro (same | mem)
    · exact LockKey.task.inj same
    · exact absurd mem (h other)
  · rintro rfl
    exact Set.mem_insert _ _

theorem Unfenced.admission (h : Unfenced H) : Unfenced (insert .admission H) := by
  rintro other (same | mem)
  · exact nomatch same
  · exact h other mem

theorem FencedBy.held (h : FencedBy t H) : .task t ∈ H := (h t).mpr rfl

theorem FencedBy.unfenced (h : FencedBy t H) : Unfenced (H \ {.task t}) := by
  rintro other ⟨mem, apart⟩
  rw [(h other).mp mem] at apart
  exact apart rfl

/-! ### Names -/

/-- The scope in which `SightMesh._find` looks the names of a caller up. -/
def Store.callerScope (db : Store) (caller : Option SessionId) : String :=
  match present caller with
  | none => "operator"
  | some session =>
    match db.getBySession session with
    | some parent => parent.taskId
    | none => "session:" ++ session

/-- Somewhere in `past` the name meant the task to the caller; its scope is read before the row. -/
def Meant (past : Set Store) (caller : Option SessionId) (key : String) (task : TaskRecord) :
    Prop :=
  ∃ before ∈ past, ∃ db ∈ past, db.getByKey (before.callerScope caller) key = some task

/-- A name has meant two tasks to one caller. -/
def Renamed (past : Set Store) : Prop :=
  ∃ caller key one other, Meant past caller key one ∧ Meant past caller key other ∧
    one.taskId ≠ other.taskId

/-! ### The manners of the kernel -/

/-- No request under a task fence, launches and the admission only where `launching`, and in a
`strict` world the refusal of an unfenced write only once a name has meant two tasks. -/
def manners (launching strict : Prop) (past : Set Store) :
    Manners KernelError Tx Query LockKey where
  asks H _ q := (q.remote → Unfenced H) ∧ (q.kind = .launch → launching)
  gives l := l = .admission → launching
  raises e := strict → e = unfenced → Renamed past
  answers q b := strict → q.raised b ≠ some unfenced
  results tx b := ∃ db ∈ past, b = (tx.exec db).2

variable {launching strict : Prop} {past : Set Store}

abbrev Obeys (launching strict : Prop) (past : Set Store) (H : Set LockKey) (p : Kernel α) : Prop :=
  (manners launching strict past).Heeds H p fun _ => True

theorem obeys_ret {a : α} : Obeys launching strict past H (.ret a) := Manners.Heeds.ret trivial

theorem obeys_fail {e : KernelError} (other : e ≠ unfenced) {done : α → Prop} :
    (manners launching strict past).Heeds H (.fail e) done :=
  Manners.Heeds.fail fun _ same => absurd same other

theorem Obeys.bind {p : Kernel α} {f : α → Kernel β} {last : β → Prop}
    (first : Obeys launching strict past H p)
    (rest : ∀ a, (manners launching strict past).Heeds H (f a) last) :
    (manners launching strict past).Heeds H (p.bind f) last :=
  Manners.Heeds.bind first fun a _ => rest a

theorem heeds_told {q : Query β} (told : q.kind = .told) :
    Obeys launching strict past H (Prog.ask q) := by
  refine Manners.Heeds.ask ⟨fun remote => ?_, fun launch => ?_⟩ fun _ _ => trivial
  · rcases remote with request | launch
    · exact nomatch told.symm.trans request
    · exact nomatch told.symm.trans launch
  · exact nomatch told.symm.trans launch

theorem obeys_clock : Obeys launching strict past H clock := heeds_told rfl

theorem obeys_patience : Obeys launching strict past H (Prog.ask .patience) := heeds_told rfl

theorem heeds_read {view : Store → β} :
    (manners launching strict past).Heeds H (read view) fun b => ∃ db ∈ past, b = view db :=
  Manners.Heeds.commit fun _ told => told

theorem obeys_read {view : Store → β} : Obeys launching strict past H (read view) :=
  heeds_read.anyway

theorem obeys_commit {tx : Tx β} : Obeys launching strict past H (Prog.commit' tx) :=
  Manners.Heeds.commit fun _ _ => trivial

theorem heeds_run {tx : Tx (Answer β)} (plain : tx.Fenceless) :
    (manners launching strict past).Heeds H (Prog.run tx)
      fun b => ∃ db ∈ past, (tx.exec db).2 = .ok b := by
  apply Manners.Heeds.run
  · rintro b ⟨db, known, told⟩
    exact ⟨db, known, told.symm⟩
  · rintro e ⟨db, _, told⟩ _ same
    exact absurd same (plain db e told.symm)

theorem obeys_run {tx : Tx (Answer β)} (plain : tx.Fenceless) :
    Obeys launching strict past H (Prog.run tx) := (heeds_run plain).anyway

theorem heeds_stamped {tx : Time → Tx (Answer β)} (plain : ∀ now, (tx now).Fenceless) :
    (manners launching strict past).Heeds H (stamped tx)
      fun b => ∃ now, ∃ db ∈ past, ((tx now).exec db).2 = .ok b :=
  obeys_clock.bind fun now => (heeds_run (plain now)).mono fun _ known => ⟨now, known⟩

theorem obeys_stamped {tx : Time → Tx (Answer β)} (plain : ∀ now, (tx now).Fenceless) :
    Obeys launching strict past H (stamped tx) := (heeds_stamped plain).anyway

theorem heeds_ask {q : Query β} (open_ : Unfenced H) (plain : q.kind = .request) :
    (manners launching strict past).Heeds H (Prog.ask q)
      fun b => strict → q.raised b ≠ some unfenced :=
  Manners.Heeds.ask ⟨fun _ => open_, fun launch => nomatch plain.symm.trans launch⟩
    fun _ told => told

theorem obeys_query {q : Query (Answer β)} (asks : (manners launching strict past).asks H q)
    (raises : ∀ e, q.raised (.error e) = some e) : Obeys launching strict past H (query q) := by
  apply Manners.Heeds.query asks fun _ _ => trivial
  intro e told held same
  exact absurd (congrArg some same) (raises e ▸ told held)

theorem obeys_request {q : Query (Answer β)} (open_ : Unfenced H) (plain : q.kind = .request)
    (raises : ∀ e, q.raised (.error e) = some e) : Obeys launching strict past H (query q) :=
  obeys_query ⟨fun _ => open_, fun launch => nomatch plain.symm.trans launch⟩ raises

theorem obeys_offline {q : Query (Answer β)} (offline : q.kind = .offline)
    (raises : ∀ e, q.raised (.error e) = some e) : Obeys launching strict past H (query q) := by
  refine obeys_query ⟨fun remote => ?_, fun launch => nomatch offline.symm.trans launch⟩ raises
  rcases remote with request | launch
  · exact nomatch offline.symm.trans request
  · exact nomatch offline.symm.trans launch

theorem obeys_taskLock {body : Kernel α} (open_ : Unfenced H)
    (inner : ∀ H', FencedBy t H' → Obeys launching strict past H' body) :
    Obeys launching strict past H (taskLock t body) :=
  Manners.Heeds.withLock (open_ t) (nomatch ·) (inner _ open_.fence)

theorem obeys_externalIo {body : Kernel α} (fenced : FencedBy t H)
    (inner : ∀ H', Unfenced H' → Obeys launching strict past H' body) :
    Obeys launching strict past H (externalIo t body) :=
  Manners.Heeds.released fenced.held (nomatch ·) (inner _ fenced.unfenced)

theorem obeys_externalRequest {q : Query (Answer β)} (fenced : FencedBy t H)
    (plain : q.kind = .request) (raises : ∀ e, q.raised (.error e) = some e) :
    Obeys launching strict past H (externalIo t (query q)) :=
  obeys_externalIo fenced fun _ open_ => obeys_request open_ plain raises

theorem obeys_isolated {body : Kernel Unit} (inner : Obeys launching strict past H body) :
    Obeys launching strict past H (isolated body) := Manners.Heeds.handle inner fun _ _ => obeys_ret

theorem obeys_excepting {body : Kernel α} {caught : KernelError → Bool}
    {handler : KernelError → Kernel α} (inner : Obeys launching strict past H body)
    (handled : ∀ e, Obeys launching strict past H (handler e)) :
    Obeys launching strict past H (excepting body caught handler) := by
  apply Manners.Heeds.handle inner
  intro e raised
  split
  · exact handled e
  · exact Manners.Heeds.fail raised

theorem obeys_forEach {xs : List α} {body : α → Kernel Unit}
    (round : ∀ x ∈ xs, Obeys launching strict past H (body x)) :
    Obeys launching strict past H (forEach xs body) := by
  induction xs with
  | nil => exact obeys_ret
  | cons x xs ih =>
    exact (round x List.mem_cons_self).bind fun _ =>
      ih fun y mem => round y (List.mem_cons_of_mem x mem)

theorem obeys_collect {xs : List α} {body : α → Kernel β}
    (round : ∀ x, Obeys launching strict past H (body x)) :
    Obeys launching strict past H (collect xs body) := by
  induction xs with
  | nil => exact obeys_ret
  | cons x xs ih => exact (round x).bind fun _ => ih.bind fun _ => obeys_ret

theorem obeys_lift {answer : Answer β} (other : ∀ e, answer = .error e → e ≠ unfenced) :
    Obeys launching strict past H (lift answer) := by
  cases answer with
  | ok b => exact obeys_ret
  | error e => exact obeys_fail (other e rfl)

theorem obeys_safely {q : Query (Answer β)} (open_ : Unfenced H) (plain : q.kind = .request) :
    Obeys launching strict past H (safely q) := by
  refine (heeds_ask open_ plain).anyway.bind fun answer _ => ?_
  cases answer with
  | ok value => exact obeys_ret
  | error e => exact obeys_ret

/-- The row a fenced program finds is of the task it asks for. -/
theorem heeds_getById {taskId : TaskId} :
    (manners launching strict past).Heeds H (read (·.getById taskId))
      fun found => ∀ task, found = some task → task.taskId = taskId := by
  apply heeds_read.mono
  rintro _ ⟨db, _, rfl⟩ task found
  obtain ⟨row, known, rfl⟩ := Option.map_eq_some_iff.mp found
  exact Store.taskId_of_task known

theorem obeys_fenced {body : Option TaskRecord → Kernel α} (open_ : Unfenced H)
    (absent : ∀ H', FencedBy t H' → Obeys launching strict past H' (body none))
    (found : ∀ H' task, FencedBy t H' → task.taskId = t →
      Obeys launching strict past H' (body (some task))) :
    Obeys launching strict past H (taskLock t ((read (·.getById t)).bind body)) := by
  apply obeys_taskLock open_
  intro H' fenced
  refine heeds_getById.bind fun row known => ?_
  cases row with
  | none => exact absent H' fenced
  | some task => exact found H' task fenced (known task rfl)

/-! ### Evidence -/

def Overflows (answer : Answer β) : Prop := ∀ e, answer = .error e → e = overflowError

theorem overflows_ok {b : β} : Overflows (.ok b : Answer β) := fun _ raised => nomatch raised

theorem Overflows.bind {answer : Answer α} {f : α → Answer β} (first : Overflows answer)
    (rest : ∀ a, Overflows (f a)) : Overflows (answer >>= f) := by
  cases answer with
  | ok a => exact rest a
  | error e =>
    rintro _ ⟨⟩
    exact first e rfl

theorem Overflows.mapM {f : α → Answer β} (round : ∀ x, Overflows (f x)) (xs : List α) :
    Overflows (xs.mapM f) := by
  induction xs with
  | nil => exact overflows_ok
  | cons x xs ih =>
    rw [List.mapM_cons]
    exact (round x).bind fun _ => ih.bind fun _ => overflows_ok

theorem obeys_reading {answer : Answer β} (overflows : Overflows answer) :
    Obeys launching strict past H (lift answer) := by
  apply obeys_lift
  intro e raised
  rw [overflows e raised]
  simp [overflowError, unfenced]

theorem overflows_plausibleMoment {value : Json} {now : Time} :
    Overflows (plausibleMoment value now) := by
  unfold plausibleMoment
  dsimp only
  split
  · split
    · rintro _ ⟨⟩
      rfl
    · exact overflows_ok
  · exact overflows_ok
  · exact overflows_ok

theorem overflows_nonNegativeInt {value : Json} : Overflows (nonNegativeInt value) := by
  unfold nonNegativeInt
  split
  · split
    · rintro _ ⟨⟩
      rfl
    · exact overflows_ok
  · exact overflows_ok
  · exact overflows_ok

theorem overflows_timestamp {py : Library} {process : Dict} {now : Time} :
    Overflows (timestamp py process now) := by
  unfold timestamp
  generalize ["completed_at", "updated_at", "started_at", "created_at"] = names
  induction names with
  | nil => exact overflows_ok
  | cons name names ih =>
    unfold timestamp.first
    dsimp only
    split
    · exact ih
    · split
      · rename_i failed
        rintro _ ⟨⟩
        exact overflows_plausibleMoment _ failed
      · exact overflows_ok
      · exact ih

theorem overflows_outputBytes {rows : List Dict} : Overflows (outputBytes rows) := by
  unfold outputBytes
  generalize (none : Option ℕ) = total
  induction rows generalizing total with
  | nil => exact overflows_ok
  | cons p rows ih =>
    rw [List.foldlM_cons]
    refine Overflows.bind ?_ ih
    split
    · refine overflows_nonNegativeInt.bind fun value => ?_
      split
      · exact overflows_ok
      · exact overflows_ok
    · exact overflows_ok

theorem overflows_currentExecution {py : Library} {rows : List Dict} {now : Time} :
    Overflows (currentExecution py rows now) :=
  (Overflows.mapM (fun _ => overflows_timestamp.bind fun _ => overflows_ok) _).bind
    fun _ => overflows_ok

theorem overflows_rowEvidence {py : Library} {now : Time} {checkpointAt : Option Time}
    {rows : List Dict} : Overflows (rowEvidence py now checkpointAt rows) := by
  refine (Overflows.mapM (fun _ => overflows_timestamp) rows).bind fun stamps => ?_
  dsimp only
  split
  · exact overflows_outputBytes.bind fun _ => overflows_ok
  · exact overflows_plausibleMoment.bind fun _ => overflows_outputBytes.bind fun _ => overflows_ok

theorem overflows_snapshotTokens {snapshot : Dict} : Overflows (snapshotTokens snapshot) := by
  unfold snapshotTokens
  split
  · rename_i entries read
    clear read
    induction entries with
    | nil => exact overflows_ok
    | cons wrapped rest ih =>
      unfold snapshotTokens.first
      dsimp only
      split
      · exact ih
      · split
        · rename_i failed
          rintro _ ⟨⟩
          exact overflows_nonNegativeInt _ failed
        · exact overflows_ok
        · exact ih
  · exact overflows_ok

theorem overflows_snapshotEvidence {now : Time} {snapshot : Option Dict} :
    Overflows (snapshotEvidence now snapshot) := by
  cases snapshot with
  | none => exact overflows_ok
  | some fields =>
    exact overflows_snapshotTokens.bind fun _ => overflows_plausibleMoment.bind fun _ =>
      overflows_ok

theorem overflows_queuedMail {status : Dict} : Overflows (queuedMail status) := by
  unfold queuedMail
  generalize ["pending", "queued", "depth"] = names
  induction names with
  | nil => exact overflows_ok
  | cons name names ih =>
    unfold queuedMail.first
    split
    · exact overflows_ok
    · split
      · rintro _ ⟨⟩
        rfl
      · exact overflows_ok
    · exact overflows_ok
    · exact overflows_ok
    · exact ih

variable {py : Library}

theorem obeys_gatherEvidence {sessionId : SessionId} {now : Time} {checkpointAt : Option Time}
    {previous : Option ℕ} (open_ : Unfenced H) :
    Obeys launching strict past H (gatherEvidence py sessionId now checkpointAt previous) := by
  refine (obeys_safely open_ rfl).bind fun rows => ?_
  dsimp only
  split
  · refine (obeys_reading ?_).bind fun _ => obeys_ret
    split
    · exact overflows_ok
    · exact overflows_plausibleMoment
  refine (obeys_reading overflows_rowEvidence).bind fun evidence => ?_
  refine (obeys_reading overflows_currentExecution).bind fun current => ?_
  refine Obeys.bind ?_ fun snapshot => ?_
  · unfold readSnapshot
    split
    · exact obeys_ret
    · refine (obeys_safely open_ rfl).bind fun answer => ?_
      split
      · exact obeys_ret
      · exact obeys_ret
  refine (obeys_reading overflows_snapshotEvidence).bind fun read => ?_
  refine Obeys.bind ?_ fun queued => obeys_ret
  unfold readQueuedMail
  split
  · refine (obeys_safely open_ rfl).bind fun status => ?_
    split
    · exact obeys_ret
    · exact obeys_reading overflows_queuedMail
  · exact obeys_ret

/-! ### Reconciling -/

theorem obeys_stopTerminal {effect : Effect} (open_ : Unfenced H) :
    Obeys launching strict past H (stopTerminal effect) := by
  unfold stopTerminal
  split
  · exact obeys_ret
  split
  · exact obeys_ret
  · exact (obeys_request open_ rfl fun _ => rfl).bind fun _ => obeys_clock.bind fun _ => obeys_commit

theorem obeys_stopSuperseded {effect : Effect} (open_ : Unfenced H) :
    Obeys launching strict past H (stopSuperseded effect) := by
  unfold stopSuperseded
  split
  · exact obeys_ret
  · exact obeys_stopTerminal open_

theorem obeys_fencedStop {effect : Effect} (open_ : Unfenced H) :
    Obeys launching strict past H
      (taskLock effect.taskId (externalIo effect.taskId (stopTerminal effect))) :=
  obeys_taskLock open_ fun _ fenced => obeys_externalIo fenced fun _ => obeys_stopTerminal

theorem obeys_reconcileTerminal (open_ : Unfenced H) :
    Obeys launching strict past H reconcileTerminal :=
  obeys_read.bind fun _ => obeys_forEach fun _ _ => obeys_isolated (obeys_fencedStop open_)

theorem obeys_reconcileSuperseded (open_ : Unfenced H) :
    Obeys launching strict past H reconcileSuperseded :=
  obeys_read.bind fun _ => obeys_forEach fun _ _ => obeys_isolated (obeys_stopSuperseded open_)

theorem obeys_nativeEffect {taskId : TaskId} {epoch : ℕ} (open_ : Unfenced H) :
    Obeys launching strict past H (nativeEffect py taskId epoch) := by
  refine (heeds_ask open_ rfl).bind fun answer told => ?_
  split
  · split
    · exact obeys_ret
    · exact obeys_ret
  · split
    · exact obeys_ret
    · exact obeys_fail (by simp [unfenced])
  · rename_i e _
    exact Manners.Heeds.fail fun held same => absurd (congrArg some same) (told held)

theorem obeys_retireExpired {seen : TaskRecord} {epoch : ℕ} {moment : Time} :
    Obeys launching strict past H (retireExpired seen epoch moment) := by
  refine obeys_commit.bind fun retired => ?_
  split
  · exact (obeys_stamped fun _ => Tx.finishExpired_fenceless).bind fun _ => obeys_ret
  · exact obeys_ret

theorem obeys_expireReservation {moment : Time} {candidate : TaskId × ℕ} (open_ : Unfenced H) :
    Obeys launching strict past H (expireReservation py moment candidate) := by
  refine (obeys_excepting ?_ fun _ => obeys_ret).bind fun superseded => ?_
  · apply obeys_fenced open_
    · exact fun _ _ => obeys_commit.bind fun _ => obeys_ret
    intro H' seen fenced _
    dsimp only
    split
    · exact obeys_ret
    refine (obeys_externalIo fenced fun _ => obeys_nativeEffect).bind fun native => ?_
    refine obeys_read.bind fun current => ?_
    split
    · split
      · split
        · exact (obeys_stamped fun _ => Tx.markLaunched_fenceless).bind fun _ =>
            (obeys_stamped fun _ => Tx.activate_fenceless).bind fun _ => obeys_ret
        · exact obeys_retireExpired.bind fun _ => obeys_ret
      · exact obeys_retireExpired.bind fun _ => obeys_ret
    · split
      · split
        · exact (obeys_stamped fun _ => Tx.markSuperseded_fenceless).bind fun _ =>
            obeys_retireExpired.bind fun _ => obeys_ret
        · exact obeys_retireExpired.bind fun _ => obeys_ret
      · exact obeys_retireExpired.bind fun _ => obeys_ret
  · split
    · exact obeys_ret
    · exact obeys_isolated (obeys_stopSuperseded open_)

theorem obeys_expireReservations (open_ : Unfenced H) :
    Obeys launching strict past H (expireReservations py) :=
  obeys_clock.bind fun _ => obeys_read.bind fun _ => obeys_forEach fun _ _ =>
    obeys_expireReservation open_

theorem obeys_assertDeliverable {sessionId : SessionId} :
    Obeys launching strict past H (assertDeliverable sessionId) := by
  refine obeys_read.bind fun record => ?_
  split
  · exact obeys_ret
  · exact obeys_fail (by simp [unfenced])

theorem obeys_resolveWake {wake : Wake} {reason : String} :
    Obeys launching strict past H (resolveWake wake reason) :=
  obeys_clock.bind fun _ => obeys_commit.bind fun _ => obeys_ret

theorem obeys_deliverWake {wake : Wake} (open_ : Unfenced H) :
    Obeys launching strict past H (deliverWake wake) := by
  refine obeys_read.bind fun parent => ?_
  split
  · exact obeys_resolveWake
  split
  · exact obeys_resolveWake
  split
  · exact obeys_resolveWake
  refine obeys_read.bind fun record => ?_
  split
  · exact obeys_resolveWake
  refine obeys_read.bind fun children => ?_
  split
  · exact obeys_resolveWake
  refine obeys_commit.bind fun payload => ?_
  split
  · exact obeys_ret
  · exact (obeys_request open_ rfl fun _ => rfl).bind fun _ => obeys_clock.bind fun _ =>
      obeys_commit.bind fun _ => obeys_ret

theorem obeys_pump (open_ : Unfenced H) : Obeys launching strict past H pump :=
  obeys_clock.bind fun _ => obeys_commit.bind fun _ => obeys_forEach fun _ _ =>
    obeys_excepting (obeys_deliverWake open_) fun _ => obeys_ret

theorem obeys_queueCommands {sessionId : SessionId} (open_ : Unfenced H) :
    Obeys launching strict past H (queueCommands sessionId) :=
  (obeys_request open_ rfl fun _ => rfl).bind fun _ => obeys_ret

theorem obeys_requestCleanup {intent : CleanupIntent} (open_ : Unfenced H) :
    Obeys launching strict past H (requestCleanup intent) := by
  unfold requestCleanup
  split
  · refine (heeds_ask open_ rfl).bind fun answer told => ?_
    split
    · exact obeys_ret
    · exact (obeys_queueCommands open_).bind fun _ => obeys_commit.bind fun _ => obeys_ret
    · rename_i e _
      exact Manners.Heeds.fail fun held same => absurd (congrArg some same) (told held)
  · refine (obeys_request open_ rfl fun _ => rfl).bind fun stopped => ?_
    split
    · exact obeys_ret
    · exact (obeys_request open_ rfl fun _ => rfl).bind fun _ => obeys_ret

theorem obeys_reconcileCleanupIntents (open_ : Unfenced H) :
    Obeys launching strict past H reconcileCleanupIntents := by
  refine obeys_read.bind fun outgoing => Obeys.bind ?_ fun _ => obeys_read.bind fun intents => ?_
  · refine obeys_forEach fun command _ => obeys_isolated (obeys_taskLock open_ fun _ fenced => ?_)
    refine (obeys_externalIo fenced fun _ => obeys_queueCommands).bind fun commands => ?_
    split
    · exact obeys_ret
    · exact obeys_run Tx.settleOutgoing_fenceless
  · refine obeys_forEach fun intent _ => obeys_isolated (obeys_taskLock open_ fun _ fenced => ?_)
    refine (obeys_externalIo fenced fun _ => obeys_requestCleanup).bind fun settled => ?_
    split
    · exact obeys_commit
    · exact obeys_ret

theorem obeys_holderCommands {task : TaskRecord} (open_ : Unfenced H) :
    Obeys launching strict past H (holderCommands task) := by
  unfold holderCommands
  split
  · exact obeys_ret
  · exact obeys_taskLock open_ fun _ fenced => obeys_externalIo fenced fun _ => obeys_queueCommands

theorem obeys_recordLossLocked {task : TaskRecord} {reason payload : String}
    {commands : List Command} :
    Obeys launching strict past H (recordLossLocked task reason payload commands) := by
  refine obeys_read.bind fun current => ?_
  split
  · exact obeys_ret
  dsimp only
  split
  · exact obeys_ret
  split
  · exact obeys_commit.bind fun _ =>
      (obeys_stamped fun _ => Tx.recordLoss_fenceless).bind fun _ => obeys_ret
  · exact (obeys_stamped fun _ => Tx.recordLoss_fenceless).bind fun _ => obeys_ret

theorem obeys_recordLossOf {task : TaskRecord} {finding : Finding} (open_ : Unfenced H) :
    Obeys launching strict past H (recordLossOf py task finding) := by
  refine (obeys_holderCommands open_).bind fun commands => ?_
  refine (obeys_excepting (obeys_taskLock open_ fun _ _ => obeys_recordLossLocked)
    fun _ => obeys_ret).bind fun settled => ?_
  dsimp only
  split
  · refine obeys_read.bind fun effect => ?_
    split
    · exact obeys_reconcileCleanupIntents open_
    · split
      · refine (obeys_isolated ?_).bind fun _ => obeys_reconcileCleanupIntents open_
        exact obeys_taskLock open_ fun _ fenced =>
          obeys_externalIo fenced fun _ => obeys_stopTerminal
      · exact obeys_reconcileCleanupIntents open_
  · exact obeys_ret

theorem obeys_sweepVerdict {task : TaskRecord} (open_ : Unfenced H) :
    Obeys launching strict past H (sweepVerdict py task) := by
  apply obeys_fenced open_
  · exact fun _ _ => obeys_ret
  intro H' current fenced _
  dsimp only
  split
  · exact obeys_ret
  refine (obeys_externalIo fenced fun _ open_ =>
    obeys_clock.bind fun _ => obeys_gatherEvidence open_).bind fun evidence => ?_
  split
  · exact obeys_ret
  · exact obeys_clock.bind fun _ => obeys_ret

theorem obeys_sweepLosses (open_ : Unfenced H) :
    Obeys launching strict past H (sweepLosses py) := by
  refine obeys_read.bind fun tasks => obeys_forEach fun task _ => obeys_isolated ?_
  refine (obeys_sweepVerdict open_).bind fun verdict => ?_
  split
  · exact obeys_ret
  · exact obeys_recordLossOf open_

theorem obeys_resolveParkedApproval {epoch : ℕ} {task : TaskRecord} {finding : Finding}
    {policy : DetectionPolicy} (open_ : Unfenced H) :
    Obeys launching strict past H (resolveParkedApproval epoch task finding policy) := by
  unfold resolveParkedApproval
  split
  · exact obeys_ret
  split
  · exact obeys_ret
  refine obeys_excepting (obeys_taskLock open_ fun _ _ => ?_) fun _ => obeys_ret
  refine obeys_read.bind fun current => ?_
  split
  · exact obeys_ret
  · exact (obeys_stamped fun _ => Tx.finish_fenceless).bind fun _ => obeys_ret

theorem obeys_applyFinding {task : TaskRecord} {finding : Finding} {policy : DetectionPolicy}
    (open_ : Unfenced H) :
    Obeys launching strict past H (applyFinding py task finding policy) := by
  unfold applyFinding
  split
  · exact obeys_recordLossOf open_
  split
  · exact obeys_ret
  refine (obeys_excepting ((obeys_run Tx.recordFinding_fenceless).bind fun _ => obeys_ret)
    fun _ => obeys_ret).bind fun recorded => ?_
  split
  · refine obeys_read.bind fun current => ?_
    split
    · exact obeys_ret
    · split
      · exact obeys_resolveParkedApproval open_
      · exact obeys_ret
  · exact obeys_ret

theorem obeys_detectOne {baseline : TaskId → Option ℕ} {task : TaskRecord} (open_ : Unfenced H) :
    Obeys launching strict past H (detectOne py baseline task) := by
  refine obeys_clock.bind fun gatheredAt => (obeys_gatherEvidence open_).bind fun evidence => ?_
  refine obeys_clock.bind fun now => ?_
  dsimp only
  split
  · exact obeys_read.bind fun _ => obeys_applyFinding open_
  · exact obeys_applyFinding open_

theorem obeys_readTasks {ids : List TaskId} : Obeys launching strict past H (readTasks ids) := by
  induction ids with
  | nil => exact obeys_ret
  | cons taskId rest ih => exact obeys_read.bind fun _ => ih.bind fun _ => obeys_ret

theorem obeys_detectLiveness {baseline : TaskId → Option ℕ} (open_ : Unfenced H) :
    Obeys launching strict past H (detectLiveness py baseline) :=
  obeys_read.bind fun _ => obeys_patience.bind fun _ => obeys_patience.bind fun _ =>
    obeys_readTasks.bind fun _ => obeys_forEach fun _ _ => obeys_isolated (obeys_detectOne open_)

theorem obeys_reconcileKernel {baseline : TaskId → Option ℕ} (open_ : Unfenced H) :
    Obeys launching strict past H (reconcileKernel py baseline) := by
  refine (obeys_isolated (obeys_clock.bind fun _ => obeys_commit)).bind fun _ => ?_
  refine (obeys_isolated (obeys_sweepLosses open_)).bind fun _ => ?_
  refine (obeys_isolated (obeys_detectLiveness open_)).bind fun _ => ?_
  refine (obeys_isolated (obeys_pump open_)).bind fun _ => ?_
  refine (obeys_isolated ?_).bind fun _ => obeys_isolated (obeys_reconcileCleanupIntents open_)
  exact (obeys_expireReservations open_).bind fun _ => obeys_reconcileTerminal open_

end SightMesh
