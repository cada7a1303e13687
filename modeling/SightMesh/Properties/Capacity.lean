import Mathlib.Data.Finset.Card
import SightMesh.Discipline.Launching
import SightMesh.Programs.Scripted

/-! The number of running agents, where only starts launch: counting them and launching one more is
one admission. -/
namespace SightMesh

open Concurrency Database Python

variable {γ α β : Type} {py : Library} {x : Executor γ} {agents : γ → Finset String} {cap : ℕ}

/-! ### The system -/

def runsAgent (id : String) (row : Dict) : Bool :=
  (row.get "id").isText id && (row.get "status").isText "running" &&
    (row.get "run_reason").isText "codingagent"

/-- `agents` are the coding agents that run. The list of the running processes has each of them, a
launch adds no more than one and before it is answered, and nothing else adds any. -/
structure Executor.Counts (x : Executor γ) (agents : γ → Finset String) : Prop where
  listed : ∀ env rows env', x.answer env .runningProcesses (.ok rows) env' →
    ∀ id ∈ agents env', rows.any (runsAgent id)
  launched : ∀ {β : Type} env (q : Query β) b env', q.kind = .launch → x.answer env q b env' →
    ∃ id, agents env' ⊆ insert id (agents env)
  ends : ∀ {β : Type} env (q : Query β) b env', q.kind ≠ .launch → x.answer env q b env' →
    agents env' ⊆ agents env

inductive CappedOp (py : Library) (cap : ℕ) : Kernel Unit → Prop where
  | startAll (owner : String) (caller : Option SessionId) (swept : Bool)
      (requested : List WorkerSpec) : CappedOp py cap (startAll py owner cap caller swept requested)
  | complete (caller : Option SessionId) (summary worker : Option String) :
      CappedOp py cap (complete caller summary worker)
  | blocked (caller : Option SessionId) (reason : String) (worker : Option String) :
      CappedOp py cap (blocked py caller reason worker)
  | cancel (caller : Option SessionId) (worker : String) : CappedOp py cap (cancel caller worker)
  | sendAll (caller : Option SessionId) (entries : List (String × String × String)) :
      CappedOp py cap (sendAll py caller entries)
  | checkpoint (caller : Option SessionId) (text : String) (worker operationId : Option String) :
      CappedOp py cap (checkpoint py caller text worker operationId)
  | reconcileKernel (baseline : TaskId → Option ℕ) : CappedOp py cap (reconcileKernel py baseline)
  | sweepAdmission : CappedOp py cap (sweepAdmission py)
  | reconcileSuperseded : CappedOp py cap reconcileSuperseded

/-- The system over any store, with no more than `cap` agents running at first. -/
def cappedKernel (py : Library) (x : Executor γ) (agents : γ → Finset String) (cap : ℕ) :
    System KernelError Tx Query LockKey Store γ where
  exec := Tx.exec
  answer := x.answer
  ops := CappedOp py cap
  start _ env := (agents env).card ≤ cap

/-! ### The protocol -/

def Room (agents : γ → Finset String) (cap : ℕ) (s : Shared Tx Query Store γ) : Prop :=
  (agents s.env).card < cap

/-- A launch is admitted, and while somebody else holds the admission no agent is added. -/
def admission (py : Library) (cap : ℕ) (counts : x.Counts agents) :
    Protocol (cappedKernel py x agents cap) where
  inv s := (agents s.env).card ≤ cap
  evolves _ _ := True
  frozen l s s' := l = .admission → agents s'.env ⊆ agents s.env
  pre _ _ _ _ := True
  preCall H _ q s := q.kind = .launch → .admission ∈ H ∧ Room agents cap s
  evolves_refl _ := trivial
  evolves_trans _ _ := trivial
  frozen_refl _ _ _ := subset_rfl
  frozen_trans _ _ first second same := (second same).trans (first same)
  init _ _ start := start
  commit capped _ := ⟨capped, trivial, fun _ _ _ => subset_rfl⟩
  call := by
    intro H β q s b env capped allowed answered
    by_cases launch : q.kind = .launch
    · obtain ⟨admitted, room⟩ := allowed launch
      obtain ⟨id, added⟩ := counts.launched _ _ _ _ launch answered
      refine ⟨?_, trivial, fun l free same => absurd (same ▸ admitted) free⟩
      have bound := (Finset.card_le_card added).trans (Finset.card_insert_le _ _)
      exact bound.trans room
    · have ended := counts.ends _ _ _ _ launch answered
      exact ⟨(Finset.card_le_card ended).trans capped, trivial, fun _ _ _ => ended⟩

variable {counts : x.Counts agents} {H : Set LockKey} {s s' : Shared Tx Query Store γ}

theorem Room.of_ended (room : Room agents cap s) (ended : agents s'.env ⊆ agents s.env) :
    Room agents cap s' := (Finset.card_le_card ended).trans_lt room

/-- Nobody else takes a slot from the holder of the admission. -/
theorem Room.rely (room : Room agents cap s) (admitted : .admission ∈ H)
    (others : (admission py cap counts).rely H s s') : Room agents cap s' :=
  room.of_ended (others.2 _ admitted rfl)

/-! ### Launch-free programs -/

theorem manners_free :
    (manners False False Set.univ).Under (admission py cap counts)
      fun _ _ => True where
  pre _ _ _ := trivial
  preCall _ _ _ allowed launch := (allowed.2 launch).elim
  results _ db := ⟨db, trivial, rfl⟩
  answers _ _ _ _ _ held := held.elim
  rely _ _ := trivial
  commit _ _ _ := trivial
  call _ _ _ _ _ _ _ := trivial
  lock _ _ := trivial
  unlock _ _ _ := trivial

/-- A free slot stays free until the holder of the admission launches. -/
theorem manners_roomy :
    (manners False False Set.univ).Under (admission py cap counts)
      fun H s => .admission ∈ H ∧ Room agents cap s where
  pre _ _ _ := trivial
  preCall _ _ _ allowed launch := (allowed.2 launch).elim
  results _ db := ⟨db, trivial, rfl⟩
  answers _ _ _ _ _ held := held.elim
  rely others holds := ⟨holds.1, holds.2.rely holds.1 others⟩
  commit _ _ holds := holds
  call q _ b env allowed answered holds :=
    ⟨holds.1, holds.2.of_ended (counts.ends _ q b env (fun launch => allowed.2 launch) answered)⟩
  lock _ holds := ⟨Set.mem_insert_of_mem _ holds.1, holds.2⟩
  unlock _ gives holds := ⟨⟨holds.1, fun same => gives same.symm⟩, holds.2⟩

theorem free_keeps {p : Kernel α} (free : Obeys False False Set.univ H p) :
    (admission py cap counts).Keeps H s p fun _ _ => True :=
  (Manners.Heeds.keeps manners_free free trivial).trivially

theorem roomy_keeps {p : Kernel α} (free : Obeys False False Set.univ H p)
    (admitted : .admission ∈ H) (room : Room agents cap s) :
    (admission py cap counts).Keeps H s p fun _ s' => Room agents cap s' :=
  (Manners.Heeds.keeps manners_roomy free ⟨admitted, room⟩).mono fun _ _ _ known => known.2.2

/-! ### Counting -/

def agentId (row : Dict) : String :=
  match row.get "id" with
  | .str id => id
  | _ => ""

theorem agentId_of_runs {id : String} {row : Dict} (runs : runsAgent id row = true) :
    agentId row = id := by
  simp only [runsAgent, Bool.and_eq_true] at runs
  unfold agentId
  cases named : row.get "id" with
  | str text =>
    have same := runs.1.1
    rw [named] at same
    exact of_decide_eq_true same
  | _ =>
    have same := runs.1.1
    rw [named] at same
    exact nomatch same

theorem card_le_countRunning {ids : Finset String} {rows : List Dict} {running : ℕ}
    (counted : countRunning rows = .ok running) (listed : ∀ id ∈ ids, rows.any (runsAgent id)) :
    ids.card ≤ running := by
  unfold countRunning at counted
  split at counted
  · obtain rfl := Except.ok.inj counted
    rw [← List.length_map agentId]
    refine le_trans (Finset.card_le_card ?_) (List.toFinset_card_le _)
    intro id running
    obtain ⟨row, mem, runs⟩ := List.any_eq_true.mp (listed id running)
    rw [List.mem_toFinset, List.mem_map]
    refine ⟨row, List.mem_filter.mpr ⟨mem, ?_⟩, agentId_of_runs runs⟩
    simp only [runsAgent, Bool.and_eq_true] at runs ⊢
    exact ⟨runs.1.2, runs.2⟩
  · exact nomatch counted

/-! ### Starting -/

theorem waitForLaunchCapacity_room {task : TaskRecord} (admitted : .admission ∈ H) (patience : ℕ) :
    (admission py cap counts).Keeps H s (waitForLaunchCapacity task cap patience)
      fun _ s' => Room agents cap s' := by
  have looked : ∀ s, (admission py cap counts).Keeps H s
      (externalIo task.taskId (query .runningProcesses))
      fun rows s' => ∀ running, countRunning rows = .ok running →
        (agents s'.env).card ≤ running := by
    intro s
    refine .released (fun s₁ _ => .query (fun _ _ _ => (nomatch ·)) ?_) ?_
    · intro s₂ rows env _ _ answered running counted
      exact card_le_countRunning counted (counts.listed _ _ _ answered)
    · intro rows s₁ s₂ others known running counted
      have admitted : .admission ∈ H \ {LockKey.task task.taskId} := ⟨admitted, (nomatch ·)⟩
      exact (Finset.card_le_card (others.2 _ admitted rfl)).trans (known running counted)
  have round : ∀ (last : ℕ → Kernel Unit), (∀ running s,
      (admission py cap counts).Keeps H s (last running)
        fun _ s' => Room agents cap s') → ∀ s,
      (admission py cap counts).Keeps H s
        ((externalIo task.taskId (query .runningProcesses)).bind fun processes =>
          (lift (countRunning processes)).bind fun running =>
            if running < cap then .ret () else last running) fun _ s' => Room agents cap s' := by
    intro last later s
    refine (looked s).bind fun rows s₁ _ known => ?_
    cases counted : countRunning rows with
    | error e => exact .fail
    | ok running =>
      dsimp only [lift, Prog.bind]
      split
      · rename_i free
        exact .ret ((known running counted).trans_lt free)
      · exact later running s₁
  induction patience generalizing s with
  | zero =>
    unfold waitForLaunchCapacity
    exact round _ (fun _ _ => .fail) s
  | succ patience ih =>
    unfold waitForLaunchCapacity
    exact round _ (fun _ _ => ih) s

theorem journaledLaunch_admitted {owner : String} {task : TaskRecord} {launch : Launch}
    (admitted : .admission ∈ H) (fenced : FencedBy task.taskId H) (room : Room agents cap s) :
    (admission py cap counts).Keeps H s (journaledLaunch py owner task launch)
      fun _ _ => True := by
  refine (roomy_keeps obeys_patience admitted room).bind fun patience s₁ _ room => ?_
  refine (roomy_keeps (obeys_reserveLaunch fenced patience) admitted room).bind
    fun effect s₂ _ room => ?_
  split
  · exact .ret trivial
  refine Protocol.Keeps.bind (m := fun _ _ => True) ?_ fun native s₃ _ _ => free_keeps ?_
  · refine .handle (.released (fun s₃ others => ?_) fun _ _ _ _ _ => trivial)
      fun e s₃ _ => free_keeps (obeys_launchRejected fun held => held.elim)
    have room := room.rely admitted others
    have admitted : .admission ∈ H \ {LockKey.task task.taskId} := ⟨admitted, (nomatch ·)⟩
    exact .query (fun s₄ others _ _ => ⟨admitted, room.rely admitted others⟩)
      fun _ _ _ _ _ _ => trivial
  · refine obeys_effectIds.bind fun ids => obeys_read.bind fun current => ?_
    split
    · exact obeys_launchSuperseded fenced
    · exact (obeys_stamped fun _ => Tx.markLaunched_fenceless).bind fun _ => obeys_ret

theorem startReservedLocked_admitted {owner : String} {task : TaskRecord}
    (admitted : .admission ∈ H) (fenced : FencedBy task.taskId H) :
    (admission py cap counts).Keeps H s
      (startReservedLocked py owner cap task) fun _ _ => True := by
  unfold startReservedLocked
  split
  · exact .ret trivial
  refine (free_keeps (obeys_externalIo fenced fun _ => obeys_workspaceRequest)).bind
    fun launch s₁ _ _ => ?_
  refine (free_keeps obeys_read).bind fun prepared s₂ _ _ => ?_
  split
  · exact .ret trivial
  refine (free_keeps obeys_patience).bind fun patience s₃ _ _ => ?_
  refine (waitForLaunchCapacity_room admitted patience).bind fun _ s₄ _ room => ?_
  refine (roomy_keeps obeys_read admitted room).bind fun current s₅ _ room => ?_
  split
  · exact .ret trivial
  refine (journaledLaunch_admitted admitted fenced room).bind fun ids s₆ _ _ => free_keeps ?_
  exact (obeys_stamped fun _ => Tx.activate_fenceless).bind fun _ => obeys_ret

theorem startReserved_admitted {owner : String} {task : TaskRecord} (open_ : Unfenced H) :
    (admission py cap counts).Keeps H s (startReserved py owner cap task)
      fun _ _ => True := by
  refine .withLock (fun s₁ _ _ => .withLock (fun s₂ _ _ => ?_) fun _ _ _ _ _ => trivial)
    fun _ _ _ _ _ => trivial
  have fenced : FencedBy task.taskId (insert (.task task.taskId) (insert .admission H)) :=
    open_.admission.fence
  have admitted : .admission ∈ insert (.task task.taskId) (insert .admission H) :=
    Set.mem_insert_of_mem _ (Set.mem_insert _ _)
  generalize insert (LockKey.task task.taskId) (insert .admission H) = held at fenced admitted ⊢
  refine (Manners.Heeds.keeps manners_free heeds_getById trivial).bind fun found s₃ _ known => ?_
  cases found with
  | none => exact .fail
  | some current =>
    rw [← known.1 current rfl] at fenced
    exact startReservedLocked_admitted admitted fenced

theorem startAll_admitted {owner : String} {caller : Option SessionId} {swept : Bool}
    {requested : List WorkerSpec} (open_ : Unfenced H) :
    (admission py cap counts).Keeps H s
      (startAll py owner cap caller swept requested) fun _ _ => True := by
  refine (free_keeps (obeys_ensureSwept open_)).bind fun _ s₁ _ _ => ?_
  refine (free_keeps obeys_callerContext).bind fun context s₂ _ _ => ?_
  refine (free_keeps obeys_requireActiveParent).bind fun _ s₃ _ _ => ?_
  refine (free_keeps (obeys_collect fun _ => obeys_prepareSpec open_)).bind fun specs s₄ _ _ => ?_
  refine (free_keeps (obeys_forEach fun _ _ => obeys_reissueExpired open_)).bind fun _ s₅ _ _ => ?_
  refine (free_keeps (obeys_request open_ rfl fun _ => rfl)).bind fun _ s₆ _ _ => ?_
  refine (free_keeps obeys_clock).bind fun now s₇ _ _ => ?_
  refine (free_keeps (obeys_run Tx.reserveAll_fenceless)).bind fun reservations s₈ _ _ => ?_
  generalize s₈ = s
  induction reservations generalizing s with
  | nil => exact .ret trivial
  | cons reservation rest ih =>
    have started : (admission py cap counts).Keeps H s
        (excepting (startReserved py owner cap reservation.1) KernelError.staysInBatch
          fun _ => .ret ()) fun _ _ => True := by
      refine .handle (startReserved_admitted open_) fun e s' _ => ?_
      split
      · exact .ret trivial
      · exact .fail
    exact started.bind fun _ s' _ _ => ih s'

theorem CappedOp.keeps {op : Kernel Unit} (known : CappedOp py cap op) :
    (admission py cap counts).Keeps ∅ s op fun _ _ => True := by
  have open_ := unfenced_empty
  have nonempty : (Set.univ : Set Store).Nonempty := ⟨Store.initial true, trivial⟩
  cases known with
  | startAll => exact startAll_admitted open_
  | complete => exact free_keeps (obeys_complete nonempty open_)
  | blocked => exact free_keeps (obeys_blocked nonempty open_)
  | cancel => exact free_keeps (obeys_cancel nonempty open_)
  | sendAll => exact free_keeps (obeys_sendAll nonempty open_)
  | checkpoint => exact free_keeps (obeys_checkpoint nonempty open_)
  | reconcileKernel => exact free_keeps (obeys_reconcileKernel open_)
  | sweepAdmission => exact free_keeps (obeys_sweepAdmission open_)
  | reconcileSuperseded => exact free_keeps (obeys_reconcileSuperseded open_)

/-- In every interleaving of starts of one cap with operations that launch nothing, no more than
`cap` coding agents run. -/
theorem agents_within_cap (counts : x.Counts agents) {w : World KernelError Tx Query LockKey Store γ}
    (reached : Reachable (cappedKernel py x agents cap) anyEvent w) :
    (agents w.shared.env).card ≤ cap :=
  (Protocol.sound (R := admission py cap counts) (fun _ known _ => known.keeps.safe) reached).1

/-! ### A counting executor -/

def agentRow (id : String) : Dict :=
  [("id", .str id), ("status", .str "running"), ("run_reason", .str "codingagent")]

def countingOracle {β : Type} (running : List SessionId) : Query β → β × List SessionId
  | .runningProcesses => (.ok (running.map agentRow), running)
  | .managedLaunch taskId epoch _ => (launched taskId epoch, sessionOf taskId epoch :: running)
  | q => (Script.calm.reply 0 q, running)

def countingExecutor : Executor (List SessionId) where
  answer running q b next := (b, next) = countingOracle running q

theorem counting_counts : countingExecutor.Counts List.toFinset where
  listed running rows next answered id known := by
    obtain ⟨answer, rfl⟩ := Prod.mk.inj answered
    obtain rfl := Except.ok.inj answer
    rw [List.any_map, List.any_eq_true]
    exact ⟨id, List.mem_toFinset.mp known, by
      simp [runsAgent, agentRow, Dict.get, Json.isText, List.lookup_cons]⟩
  launched running q b next launch answered := by
    cases q with
    | managedLaunch taskId epoch _ =>
      obtain ⟨-, rfl⟩ := Prod.mk.inj answered
      exact ⟨sessionOf taskId epoch, by rw [List.toFinset_cons]⟩
    | _ => cases launch
  ends running q b next plain answered := by
    cases q with
    | managedLaunch => exact absurd rfl plain
    | _ =>
      obtain ⟨-, rfl⟩ := Prod.mk.inj answered
      exact subset_rfl

def rivalOps : List (Kernel Unit) :=
  [startAll asciiLibrary "owner" 1 none true [workerSpec "worker" 0],
    startAll asciiLibrary "owner" 1 none true [workerSpec "other" 0]]

def rivalWorld : World KernelError Tx Query LockKey Store (List SessionId) :=
  (World.boot (Store.initial true) [] rivalOps).play
    (cappedKernel asciiLibrary countingExecutor List.toFinset 1) countingOracle
    (steps 0 100 ++ steps 1 100)

set_option maxRecDepth 100000 in
theorem rivals_within_cap :
    rivalWorld.shared.env = [sessionOf workerId 1] ∧ rivalWorld.shared.env.toFinset.card ≤ 1 := by
  have known : ∀ op ∈ rivalOps, CappedOp asciiLibrary 1 op := by
    simp [rivalOps, CappedOp.startAll]
  have reached : Reachable (cappedKernel asciiLibrary countingExecutor List.toFinset 1) anyEvent
      rivalWorld :=
    World.play_reachable (fun _ _ => rfl) _ (World.boot_reachable (Nat.zero_le 1) rivalOps known)
  exact ⟨by decide +kernel, agents_within_cap counting_counts reached⟩

end SightMesh
