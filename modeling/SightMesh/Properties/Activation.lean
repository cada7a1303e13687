import SightMesh.Concurrency.Monitor
import SightMesh.Updates.Activation
import Mathlib.Tactic.NormNum

/-! What an activation may do, and when: the swap waits for an idle executor that refuses new work,
the state file says `active` of a release that proved itself, and the bridge comes back. -/
namespace SightMesh.Updates

open Concurrency Python

/-- What an activation has shown of itself. -/
structure Rollout where
  pending : Option Package
  /-- No approval was pending when the approvals were read last. -/
  unasked : Bool
  /-- The activity read last is idle. -/
  quiet : Bool
  /-- The running executor has accepted a drain. -/
  draining : Bool
  /-- The running executor is of a version that has no drain. -/
  undrainable : Bool
  /-- The executor was asked to take the drain back, or was not healthy. -/
  askedBack : Bool
  /-- Whether the executor is healthy could not be told. -/
  blind : Bool
  /-- A drain was accepted since the clock was read last. -/
  rearmed : Bool
  armedAt : ℚ
  clock : ℚ
  /-- The bridge was told to stop, was seen unloaded, was told to start, and started. -/
  bridgeTouched : Bool
  bridgeOut : Bool
  bridgeTold : Bool
  bridgeBack : Bool
  /-- Before it was to start again, the bridge that was seen unloaded could not be stopped, or was not
  seen unloaded once more. -/
  bridgeStuck : Bool
  installed : Bool
  launched : Bool
  healthy : Bool
  reported : Option String
  migrated : Bool

def Rollout.start : Rollout where
  pending := none
  unasked := false
  quiet := false
  draining := false
  undrainable := false
  askedBack := false
  blind := false
  rearmed := false
  armedAt := 0
  clock := 0
  bridgeTouched := false
  bridgeOut := false
  bridgeTold := false
  bridgeBack := false
  bridgeStuck := false
  installed := false
  launched := false
  healthy := false
  reported := none
  migrated := false

def Process.busy (process : Process) : Bool :=
  process.status = "running" ∧ process.runReason ≠ "devserver"

def Rollout.next (s : Rollout) : Event UpdateTx UpdateQuery → Rollout
  | .commit .readState (.ok state) => { s with pending := state.pending }
  | .call .monotonic now =>
    { s with clock := now, rearmed := false, armedAt := if s.rearmed then now else s.armedAt }
  | .call (.info false) (.ok version) =>
    { s with undrainable := version ∈ undrainedBootstrapVersions }
  | .call (.info true) (.ok version) => { s with reported := some version }
  | .call (.setUpdateDrain _ 0) _ => { s with askedBack := true }
  | .call (.setUpdateDrain _ (_ + 1)) (.ok _) => { s with draining := true, rearmed := true }
  | .call .pendingApprovals (.ok approvals) =>
    { s with unasked := approvals.isEmpty, quiet := false }
  | .call .pendingApprovals (.error _) => { s with unasked := false, quiet := false }
  | .call .runningProcesses (.ok processes) =>
    { s with quiet := s.unasked && processes.all fun process => !process.busy }
  | .call .runningProcesses (.error _) => { s with quiet := false }
  | .call .isHealthy answer =>
    { s with
      askedBack := answer.toOption = some false || s.askedBack
      blind := !answer.isOk || s.blind }
  | .call (.bootout .bridge) answer =>
    { s with bridgeTouched := true, bridgeStuck := s.bridgeStuck || s.bridgeOut && !answer.isOk }
  | .call (.waitUntilUnloaded .bridge) answer =>
    { s with
      bridgeOut := answer.isOk || s.bridgeOut
      bridgeStuck := s.bridgeStuck || s.bridgeOut && !answer.isOk }
  | .call (.launch .bridge) answer =>
    { s with bridgeTold := true, bridgeBack := answer.isOk || s.bridgeBack }
  | .call (.installDefinition _) (.ok _) => { s with installed := true }
  | .call (.launch .cdesktop) (.ok _) => { s with launched := true }
  | .call .waitUntilHealthy (.ok _) => { s with healthy := s.launched }
  | .call .migrateNativeState (.ok _) => { s with migrated := true }
  | _ => s

/-- The executor does nothing, and takes nothing on. -/
def Rollout.Converged (s : Rollout) : Prop :=
  s.quiet = true ∧ (s.draining = true ∨ s.undrainable = true)

/-- The new executor runs, and is the release that was staged. -/
def Rollout.Proven (s : Rollout) (pending : Package) : Prop :=
  s.launched = true ∧ s.healthy = true ∧ ∃ version, s.reported = some version ∧
    contains pending.version version = true

def Rollout.Says (s : Rollout) (state : UpdateState) : Prop :=
  match state.status with
  | .active => state.pending = none ∧ ∃ pending, s.pending = some pending ∧
      state.active = some pending ∧ s.Proven pending ∧ s.migrated = true ∧ s.bridgeBack = true
  | .failed => s.installed = true ∧ state.pending = none ∧ state.failedPackage = s.pending
  | .activating => s.installed = true ∧ s.bridgeOut = true ∧ state.pending = s.pending
  | .drainTimedOut => s.bridgeTouched = false ∧ s.installed = false ∧ state.pending = s.pending
  | _ => False

def Rollout.allows (s : Rollout) : Event UpdateTx UpdateQuery → Prop
  | .commit (.writeState state) _ => s.Says state
  | .call (.sleep seconds) _ =>
    seconds = drainPollSeconds → s.draining = true → s.clock - s.armedAt < drainRearmSeconds
  | .call (.bootout .bridge) _ => s.Converged ∨ s.bridgeOut = true
  | .call (.launch .bridge) _ => s.bridgeOut = true
  | .call (.installDefinition executable) _ =>
    s.Converged ∧ s.bridgeOut = true ∧ s.pending.map Package.executable = some executable
  | .call (.bootout .cdesktop) _ => s.installed = true
  | .call (.launch .cdesktop) _ => s.installed = true
  | .call .migrateNativeState _ => ∃ pending, s.pending = some pending ∧ s.Proven pending
  | _ => True

/-- The order of an activation. -/
def order : Monitor UpdateTx UpdateQuery Rollout where
  next := Rollout.next
  allows := Rollout.allows

/-- A bridge that was down was told to start again; if not, it could not be stopped before, or the
probe of the executor's health raised. -/
def Rollout.Restores (s : Rollout) : Prop :=
  s.bridgeTold = true ∨ s.bridgeStuck = true ∨ s.blind = true

/-- A drain that was taken was asked back, or went with the executor that had it; if not, the probe of
that executor's health raised. -/
def Rollout.Returns (s : Rollout) : Prop :=
  s.askedBack = true ∨ s.launched = true ∨ s.blind = true

/-- Where an activation may end. -/
structure Rollout.Closed (s : Rollout) : Prop where
  bridge : s.bridgeOut = true → s.Restores
  drain : s.draining = true → s.Returns

/-- Where it may end with an answer. -/
def Rollout.Ended (s : Rollout) : Except Fault (UpdateState × Action) → Prop
  | .ok (_, .activated) => s.bridgeBack = true ∧ ∃ pending, s.pending = some pending ∧ s.Proven pending
  | .ok (_, _) => s.bridgeTouched = false ∧ s.installed = false
  | .error _ => True

variable {α β : Type} {s : Rollout}

/-! ### The parts -/

@[simp] theorem watched_ask {q : UpdateQuery α} {done : Except Fault α → Rollout → Prop} :
    (ask q).Watched order done s ↔
      ∀ b, s.allows (.call q b) ∧ done (.ok b) (s.next (.call q b)) := Iff.rfl

@[simp] theorem watched_query {q : UpdateQuery (Except Fault α)}
    {done : Except Fault α → Rollout → Prop} :
    (query q).Watched order done s ↔
      ∀ r, s.allows (.call q r) ∧ done r (s.next (.call q r)) :=
  Prog.watched_query

theorem launch_pause {left : ℕ} (few : left ≤ 2) : (1 / 5 * (3 - left) : ℚ) ≠ drainPollSeconds := by
  obtain rfl | rfl | rfl : left = 0 ∨ left = 1 ∨ left = 2 := by omega
  all_goals norm_num [drainPollSeconds]

theorem launch_watched {label : Label} {left : ℕ} {done : Except Fault Unit → Rollout → Prop}
    (during : Rollout → Prop) (few : left ≤ 2) (here : during s)
    (allowed : ∀ s r, during s → s.allows (.call (.launch label) r))
    (failed : ∀ s detail, during s → during (s.next (.call (.launch label) (.error detail))))
    (launched : ∀ s, during s → done (.ok ()) (s.next (.call (.launch label) (.ok ()))))
    (refused : ∀ fault s detail, during s →
      done (.error fault) (s.next (.call (.launch label) (.error detail)))) :
    (launch label (left + 1)).Watched order done s := by
  induction left generalizing s with
  | zero =>
    simp only [launch, Prog.bind_eq, Prog.watched_bind, watched_ask]
    intro r
    refine ⟨allowed s r here, ?_⟩
    cases r with
    | ok u => exact launched s here
    | error detail => simpa using refused _ s detail here
  | succ left ih =>
    rw [launch]
    simp only [Prog.bind_eq, Prog.watched_bind, watched_ask]
    intro r
    refine ⟨allowed s r here, ?_⟩
    cases r with
    | ok u => exact launched s here
    | error detail =>
      simp only [Prog.andThen_ok]
      by_cases transient : contains "Input/output error" detail
      · simp only [Nat.add_eq_zero_iff, one_ne_zero, and_false, transient, not_true_eq_false,
          or_self, if_false, Prog.watched_bind, watched_ask, Prog.andThen_ok]
        intro u
        refine ⟨fun same => (launch_pause few (by simpa using same)).elim, ?_⟩
        exact ih (by omega) (failed s detail here)
      · simpa [transient] using refused _ s detail here

/-- The bridge is told to start, unless it cannot be stopped before. -/
theorem restoreBridge_watched {done : Except Fault Unit → Rollout → Prop} (out : s.bridgeOut = true)
    (restored : done (.ok ()) { s with
      bridgeTouched := true, bridgeTold := true, bridgeBack := true })
    (refused : ∀ fault told stuck, told = true ∨ stuck = true →
      done (.error fault) { s with
        bridgeTouched := true, bridgeTold := told, bridgeStuck := stuck }) :
    restoreBridge.Watched order done s := by
  have stuck : ∀ fault, done (.error fault) { s with bridgeTouched := true, bridgeStuck := true } :=
    fun fault => refused fault s.bridgeTold true (.inr rfl)
  simp only [restoreBridge, bootstrap, Prog.bind_eq, Prog.watched_bind, watched_query]
  intro stopped
  refine ⟨.inr out, ?_⟩
  cases stopped with
  | error fault => simpa [order, Rollout.next, out, Except.isOk, Except.toBool] using stuck fault
  | ok u =>
    have told : s.next (.call (.bootout .bridge) (.ok u)) = { s with bridgeTouched := true } := by
      simp [Rollout.next, Except.isOk, Except.toBool]
    rw [Prog.andThen_ok, told]
    simp only [Prog.watched_bind, watched_query]
    intro unloaded
    refine ⟨trivial, ?_⟩
    cases unloaded with
    | error fault => simpa [order, Rollout.next, out, Except.isOk, Except.toBool] using stuck fault
    | ok u =>
      have same : Rollout.next { s with bridgeTouched := true }
          (.call (.waitUntilUnloaded .bridge) (.ok u)) = { s with bridgeTouched := true } := by
        simp [Rollout.next, out, Except.isOk, Except.toBool]
      rw [Prog.andThen_ok, same]
      refine launch_watched
        (fun s' => ∃ told, s' = { s with bridgeTouched := true, bridgeTold := told }) (by decide)
        ⟨s.bridgeTold, rfl⟩ ?_ ?_ ?_ ?_
      · rintro _ r ⟨told, rfl⟩
        exact out
      · rintro _ detail ⟨told, rfl⟩
        exact ⟨true, by simp [Rollout.next, Except.isOk, Except.toBool]⟩
      · rintro _ ⟨told, rfl⟩
        simpa [Rollout.next, Except.isOk, Except.toBool] using restored
      · rintro fault _ detail ⟨told, rfl⟩
        simpa [Rollout.next, Except.isOk, Except.toBool] using
          refused fault true s.bridgeStuck (.inl rfl)

/-! ### The wait -/

def Rollout.unseen (s : Rollout) : Rollout := { s with unasked := false, quiet := false }

def Rollout.still (s : Rollout) : Rollout :=
  { s.unseen with draining := false, rearmed := false, armedAt := 0, clock := 0 }

variable {enforced : Bool} {wait : Wait} {current : Activity} {started : ℚ} {polls : ℕ}

theorem probe_watched {done : Except Fault (Activity × Wait) → Rollout → Prop}
    (ended : ∀ (current' : Activity) wait' s', s'.unseen = s.unseen → wait'.armedAt = wait.armedAt →
      (current'.idle = true → s'.quiet = true) → done (.ok (current', wait')) s')
    (raised : ∀ fault s', s'.unseen = s.unseen → done (.error fault) s') :
    (probe wait).Watched order done s := by
  have failed : ∀ fault s', s'.unseen = s.unseen →
      Prog.orElse order (probeFailed wait) done (.error fault) s' := by
    intro fault s' same
    cases fault with
    | cdesktop message => exact ended _ _ _ same rfl nofun
    | other message => exact raised _ _ same
  simp only [probe, activity, Prog.bind_eq, Prog.pure_eq, Prog.watched_handle, Prog.watched_bind,
    watched_query]
  intro approvals
  refine ⟨trivial, ?_⟩
  cases approvals with
  | error fault => exact failed fault _ rfl
  | ok approvals =>
    simp only [Prog.andThen_ok, Prog.watched_bind, watched_query]
    intro processes
    refine ⟨trivial, ?_⟩
    cases processes with
    | error fault => exact failed fault _ rfl
    | ok processes =>
      refine ended _ _ _ rfl rfl fun idle => ?_
      simpa [order, Rollout.next, Process.busy, and_comm, imp_iff_not_or] using idle

/-- The wait knows when the drain was taken last. -/
structure Rollout.Holds (s : Rollout) (enforced : Bool) (wait : Wait) : Prop where
  draining : s.draining = enforced
  settled : s.rearmed = false
  armedAt : enforced = true → s.armedAt = wait.armedAt

theorem Rollout.Holds.of_unseen {s' : Rollout} {wait' : Wait} (holds : s.Holds enforced wait)
    (same : s'.unseen = s.unseen) (armed : wait'.armedAt = wait.armedAt) :
    s'.Holds enforced wait' where
  draining := (congrArg Rollout.draining same).trans holds.draining
  settled := (congrArg Rollout.rearmed same).trans holds.settled
  armedAt on := ((congrArg Rollout.armedAt same).trans (holds.armedAt on)).trans armed.symm

theorem still_of_unseen {s' : Rollout} (same : s'.unseen = s.unseen) : s'.still = s.still :=
  congrArg (fun u : Rollout =>
    { u with draining := false, rearmed := false, armedAt := 0, clock := 0 }) same

/-- Before the next pause the drain has been taken, at most as long ago as it may be. -/
theorem rearm_watched {done : Except Fault Wait → Rollout → Prop} (holds : s.Holds enforced wait)
    (ended : ∀ wait' s', s'.still = s.still → s'.Holds enforced wait' → s'.quiet = s.quiet →
      (wait'.lapsed = none → s'.draining = true → s'.clock - s'.armedAt < drainRearmSeconds) →
      done (.ok wait') s') : (rearm enforced wait).Watched order done s := by
  unfold rearm
  cases enforced with
  | false =>
    refine ended wait s rfl holds rfl fun _ drained => ?_
    exact absurd (holds.draining.symm.trans drained) Bool.false_ne_true
  | true =>
    simp only [if_true, Prog.bind_eq, Prog.pure_eq, Prog.watched_bind, watched_ask]
    intro now
    refine ⟨trivial, ?_⟩
    have settled := holds.settled
    have armed := holds.armedAt rfl
    have draining := holds.draining
    have read : s.next (.call .monotonic now) = { s with clock := now } := by
      simp [Rollout.next, settled]
    rw [Prog.andThen_ok, read]
    by_cases due : now - wait.armedAt ≥ drainRearmSeconds
    · rw [if_pos due]
      simp only [Prog.watched_bind, Prog.watched_handle, watched_query]
      intro accepted
      refine ⟨trivial, ?_⟩
      cases accepted with
      | error fault =>
        refine ended { wait with lapsed := some _ } _ rfl ⟨draining, settled, fun _ => armed⟩ rfl ?_
        exact fun none_ => absurd none_ (Option.some_ne_none _)
      | ok u =>
        simp only [Prog.andThen_ok, Prog.orElse_ok, Prog.watched_ret, Prog.watched_bind, watched_ask]
        intro later
        refine ⟨trivial, ended _ _ rfl ⟨rfl, rfl, fun _ => rfl⟩ rfl fun _ _ => ?_⟩
        show later - later < _
        norm_num [drainRearmSeconds]
    · rw [if_neg due]
      refine ended wait _ rfl ⟨draining, settled, fun _ => armed⟩ rfl fun _ _ => ?_
      show now - s.armedAt < _
      rw [armed]
      exact not_le.mp due

theorem drainLoop_watched {done : Except Fault (Activity × Wait) → Rollout → Prop}
    (holds : s.Holds enforced wait) (idle : current.idle = true → s.quiet = true)
    (ended : ∀ (current' : Activity) wait' s', s'.still = s.still → s'.draining = enforced →
      (current'.idle = true → s'.quiet = true) → done (.ok (current', wait')) s')
    (raised : ∀ fault s', s'.still = s.still → s'.draining = enforced → done (.error fault) s') :
    (drainLoop started enforced polls current wait).Watched order done s := by
  induction polls generalizing s current wait with
  | zero => exact ended current wait s rfl holds.draining idle
  | succ polls ih =>
    rw [drainLoop]
    by_cases over_now : current.idle
    · simpa [over_now] using ended current wait s rfl holds.draining idle
    simp only [over_now, Bool.false_eq_true, if_false, Prog.bind_eq, Prog.pure_eq, Prog.watched_bind,
      watched_ask]
    intro now
    refine ⟨trivial, ?_⟩
    have read : s.next (.call .monotonic now) = { s with clock := now } := by
      simp [Rollout.next, holds.settled]
    rw [Prog.andThen_ok, read]
    by_cases out_of_time : ¬ now - started < drainWaitSeconds
    · rw [if_pos out_of_time]
      exact ended current wait _ rfl holds.draining idle
    rw [if_neg out_of_time, Prog.watched_bind]
    refine rearm_watched ⟨holds.draining, holds.settled, holds.armedAt⟩ ?_
    intro wait' s₁ still₁ holds₁ quiet₁ due₁
    rw [Prog.andThen_ok]
    by_cases lapsed : wait'.lapsed.isSome
    · rw [if_pos lapsed]
      exact ended current wait' s₁ still₁ holds₁.draining fun done_ => (over_now done_).elim
    rw [if_neg lapsed]
    simp only [Prog.watched_bind, watched_ask]
    intro u
    refine ⟨fun _ drained => due₁ (by simpa using lapsed) drained, ?_⟩
    rw [Prog.andThen_ok, Prog.watched_bind]
    refine probe_watched ?_ ?_
    · intro current' wait₂ s₂ seen armed idle'
      refine ih (holds₁.of_unseen seen armed) idle' ?_ ?_
      · intro current₃ wait₃ s₃ still₃
        exact ended current₃ wait₃ s₃ (still₃.trans ((still_of_unseen seen).trans still₁))
      · intro fault s₃ still₃
        exact raised fault s₃ (still₃.trans ((still_of_unseen seen).trans still₁))
    · intro fault s₂ seen
      exact raised fault s₂ ((still_of_unseen seen).trans still₁)
        ((congrArg Rollout.draining seen).trans holds₁.draining)

theorem drainAndWait_watched {done : Except Fault (Activity × Wait × ℚ) → Rollout → Prop}
    (draining : s.draining = enforced) (fresh : s.rearmed = enforced)
    (ended : ∀ (current' : Activity) wait' waited s', s'.still = s.still → s'.draining = enforced →
      (current'.idle = true → s'.quiet = true) → done (.ok (current', wait', waited)) s')
    (raised : ∀ fault s', s'.still = s.still → s'.draining = enforced → done (.error fault) s') :
    (drainAndWait enforced).Watched order done s := by
  simp only [drainAndWait, Prog.bind_eq, Prog.pure_eq, Prog.watched_bind, watched_ask]
  intro begun
  refine ⟨trivial, ?_⟩
  have holds : (s.next (.call .monotonic begun)).Holds enforced ⟨begun, 0, none, []⟩ := by
    refine ⟨draining, rfl, ?_⟩
    rintro rfl
    simp [Rollout.next, fresh]
  have still : (s.next (.call .monotonic begun)).still = s.still := rfl
  rw [Prog.andThen_ok]
  generalize s.next (.call .monotonic begun) = s₀ at holds still ⊢
  simp only [Prog.watched_bind, watched_ask]
  intro u
  refine ⟨fun same => absurd same (by norm_num [quietSeconds, drainPollSeconds]), ?_⟩
  rw [Prog.andThen_ok, Prog.watched_bind]
  refine probe_watched ?_ ?_
  · intro current wait s₁ seen armed idle
    simp only [Prog.andThen_ok, Prog.watched_bind, watched_ask]
    intro polls
    refine ⟨trivial, ?_⟩
    have still₁ := (still_of_unseen seen).trans still
    refine drainLoop_watched (holds.of_unseen seen armed) idle ?_ ?_
    · intro current' wait' s₂ still₂ drained idle'
      simp only [Prog.andThen_ok, Prog.watched_bind, watched_ask, Prog.watched_ret]
      exact fun finished => ⟨trivial, ended _ _ _ _ (still₂.trans still₁) drained idle'⟩
    · intro fault s₂ still₂ drained
      exact raised fault s₂ (still₂.trans still₁) drained
  · intro fault s₁ seen
    exact raised fault s₁ ((still_of_unseen seen).trans still)
      ((congrArg Rollout.draining seen).trans holds.draining)

/-! ### The swap -/

/-- The handler finds what it has to undo: its locals tell the bridge is down where it is, and the
drain is on wherever it was not asked back. -/
structure Rollout.Unwinds (s : Rollout) (drainEnabled bridgeDown bridgeRestored : Bool) : Prop where
  drain : s.draining = true → drainEnabled = true ∨ s.Returns
  bridge : s.bridgeOut = true → s.Restores ∨ bridgeDown = true ∧ bridgeRestored = false
  down : bridgeDown = true → bridgeRestored = false → s.bridgeOut = true

variable {drainEnabled bridgeDown bridgeRestored : Bool}

def guarded (done : Except Fault α → Rollout → Prop) (drainEnabled bridgeDown bridgeRestored : Bool) :
    Except Fault α → Rollout → Prop
  | .ok a, s => done (.ok a) s
  | .error _, s => s.Unwinds drainEnabled bridgeDown bridgeRestored

theorem restore_watched {done : Except Fault α → Rollout → Prop} {fault : Fault}
    (unwinds : s.Unwinds drainEnabled bridgeDown bridgeRestored)
    (returned : s.draining = true → s.Returns)
    (closed : ∀ fault s', s'.Closed → done (.error fault) s') :
    (if bridgeDown = true ∧ ¬ bridgeRestored = true then
        restoreBridge.bind fun _ => (Prog.fail fault : Update α)
      else Prog.fail fault).Watched order done s := by
  by_cases down : bridgeDown = true ∧ ¬ bridgeRestored = true
  · have out := unwinds.down down.1 (by simpa using down.2)
    rw [if_pos down, Prog.watched_bind]
    refine restoreBridge_watched out ?_ ?_
    · exact closed _ _ ⟨fun _ => .inl rfl, returned⟩
    · rintro fault told stuck tried
      exact closed _ _ ⟨fun _ => tried.imp_right .inl, returned⟩
  · rw [if_neg down]
    refine closed _ _ ⟨fun out => ?_, returned⟩
    obtain restored | ⟨is_down, not_back⟩ := unwinds.bridge out
    · exact restored
    · exact (down ⟨is_down, by simp [not_back]⟩).elim

/-- An exception of the health probe leaves the handler as it stands. -/
theorem closed_blind (fault : Fault) : (s.next (.call .isHealthy (.error fault))).Closed := by
  have blind : (s.next (.call .isHealthy (.error fault))).blind = true := by
    simp [Rollout.next, Except.isOk, Except.toBool]
  exact ⟨fun _ => .inr (.inr blind), fun _ => .inr (.inr blind)⟩

theorem guarding_watched {done : Except Fault α → Rollout → Prop} {body : Update α}
    (run : body.Watched order (guarded done drainEnabled bridgeDown bridgeRestored) s)
    (closed : ∀ fault s', s'.Closed → done (.error fault) s') :
    (guarding drainEnabled bridgeDown bridgeRestored body).Watched order done s := by
  rw [guarding, Prog.watched_handle]
  refine run.mono fun r s' left => ?_
  cases r with
  | ok a => exact left
  | error fault =>
    simp only [Prog.orElse_error, Prog.bind_eq, Prog.throw_eq]
    cases drainEnabled with
    | false =>
      rw [if_neg (by decide)]
      refine restore_watched left (fun drained => ?_) closed
      exact (left.drain drained).resolve_left (by simp)
    | true =>
      rw [if_pos rfl, Prog.watched_bind, watched_query]
      intro answer
      refine ⟨trivial, ?_⟩
      cases answer with
      | error fault => exact closed fault _ (closed_blind fault)
      | ok healthy =>
        rw [Prog.andThen_ok]
        cases healthy with
        | false =>
          rw [if_neg (by decide)]
          have asked : (s'.next (.call .isHealthy (.ok false))).askedBack = true := by
            simp [Rollout.next, Except.toOption]
          have same : s'.next (.call .isHealthy (.ok false)) = { s' with askedBack := true } := by
            simp [Rollout.next, Except.toOption, Except.isOk, Except.toBool]
          have unwinds : (s'.next (.call .isHealthy (.ok false))).Unwinds true bridgeDown
              bridgeRestored := by
            rw [same]
            exact ⟨fun _ => .inl rfl, left.bridge, left.down⟩
          exact restore_watched unwinds (fun _ => .inl asked) closed
        | true =>
          have same : s'.next (.call .isHealthy (.ok true)) = s' := by
            simp [Rollout.next, Except.toOption, Except.isOk, Except.toBool]
          rw [if_pos rfl, Prog.watched_bind, ignoring, Prog.watched_handle, watched_query]
          intro given
          refine ⟨trivial, ?_⟩
          have unwinds : ((s'.next (.call .isHealthy (.ok true))).next
              (.call (.setUpdateDrain false 0) given)).Unwinds true bridgeDown bridgeRestored := by
            rw [same]
            exact ⟨fun _ => .inl rfl, left.bridge, left.down⟩
          cases given <;> exact restore_watched unwinds (fun _ => .inl rfl) closed

structure Rollout.Swapping (s : Rollout) (pending : Package) : Prop where
  staged : s.pending = some pending
  out : s.bridgeOut = true
  installed : s.installed = true

variable {pending : Package}

theorem verified_watched {done : Except Fault Unit → Rollout → Prop}
    (swapping : s.Swapping pending) (launched : s.launched = true) (healthy : s.healthy = true)
    (replaced : ∀ s', s'.Swapping pending → s'.Proven pending → s'.migrated = true →
      s'.bridgeBack = true → s'.bridgeTold = true → done (.ok ()) s')
    (failed : ∀ fault s', s'.Swapping pending → done (.error fault) s') :
    (verifyBackend pending).Watched order done s := by
  simp only [verifyBackend, Prog.bind_eq, Prog.throw_eq, Prog.watched_bind, watched_query]
  intro reported
  refine ⟨trivial, ?_⟩
  obtain ⟨staged, out, installed⟩ := swapping
  cases reported with
  | error fault => exact failed fault _ ⟨staged, out, installed⟩
  | ok version =>
    rw [Prog.andThen_ok]
    by_cases named : contains pending.version version = true
    · rw [if_neg (not_not.mpr named), Prog.watched_bind, watched_query]
      intro migrated
      have proven : Rollout.Proven (s.next (.call (.info true) (.ok version))) pending :=
        ⟨launched, healthy, version, rfl, named⟩
      refine ⟨⟨pending, staged, proven⟩, ?_⟩
      cases migrated with
      | error fault => exact failed fault _ ⟨staged, out, installed⟩
      | ok u =>
        rw [Prog.andThen_ok]
        refine restoreBridge_watched out ?_ ?_
        · exact replaced _ ⟨staged, out, installed⟩ ⟨launched, healthy, version, rfl, named⟩ rfl rfl
            rfl
        · exact fun fault _ _ _ => failed fault _ ⟨staged, out, installed⟩
    · rw [if_pos named]
      exact failed _ _ ⟨staged, out, installed⟩

theorem replaceBackend_watched {done : Except Fault Unit → Rollout → Prop}
    (swapping : s.Swapping pending)
    (replaced : ∀ s', s'.Swapping pending → s'.Proven pending → s'.migrated = true →
      s'.bridgeBack = true → s'.bridgeTold = true → done (.ok ()) s')
    (failed : ∀ fault s', s'.Swapping pending → done (.error fault) s') :
    (replaceBackend pending).Watched order done s := by
  obtain ⟨staged, out, installed⟩ := swapping
  simp only [replaceBackend, bootstrap, Prog.bind_eq, Prog.watched_bind, watched_query]
  intro stopped
  refine ⟨installed, ?_⟩
  cases stopped with
  | error fault => exact failed fault _ ⟨staged, out, installed⟩
  | ok u =>
    simp only [Prog.andThen_ok, Prog.watched_bind, watched_query]
    intro unloaded
    refine ⟨trivial, ?_⟩
    cases unloaded with
    | error fault => exact failed fault _ ⟨staged, out, installed⟩
    | ok u =>
      rw [Prog.andThen_ok]
      refine launch_watched (fun s' => s' = s) (by decide) rfl ?_ ?_ ?_ ?_
      · rintro _ r rfl
        exact installed
      · rintro _ detail rfl
        exact rfl
      · rintro s rfl
        simp only [Prog.andThen_ok, Prog.watched_bind, watched_query]
        intro waited
        refine ⟨trivial, ?_⟩
        cases waited with
        | error fault => exact failed fault _ ⟨staged, out, installed⟩
        | ok u => exact verified_watched ⟨staged, out, installed⟩ rfl rfl replaced failed
      · rintro fault s detail rfl
        exact failed fault _ ⟨staged, out, installed⟩

theorem failed_watched {done : Except Fault α → Rollout → Prop} {activating : UpdateState}
    {fault : Fault} {restored : Bool} (swapping : s.Swapping pending) (restores : s.Restores)
    (returned : s.Returns) (closed : ∀ fault s', s'.Closed → done (.error fault) s') :
    (guarding false true restored do
      writeState { activating with
        status := .failed, pending := none, failedPackage := some pending
        lastError := some fault.message }
      throw (.other ("Update failed and will not be retried automatically: " ++ fault.message)) :
      Update α).Watched order done s := by
  obtain ⟨staged, out, installed⟩ := swapping
  have unwinds : s.Unwinds false true restored :=
    ⟨fun _ => .inr returned, fun _ => .inl restores, fun _ _ => out⟩
  refine guarding_watched ?_ closed
  simp only [writeState, Prog.bind_eq, Prog.throw_eq, Prog.watched_bind, Prog.watched_run]
  intro written
  refine ⟨⟨installed, rfl, staged.symm⟩, ?_⟩
  cases written <;> exact unwinds

theorem recordFailure_watched {done : Except Fault α → Rollout → Prop} {activating : UpdateState}
    {fault : Fault} (swapping : s.Swapping pending)
    (closed : ∀ fault s', s'.Closed → done (.error fault) s') :
    (recordFailure activating pending fault : Update α).Watched order done s := by
  have restoring : ∀ s', s'.Swapping pending → s'.Returns →
      (Prog.bind (Prog.handle (restoreBridge.bind fun _ => .ret true) fun _ => .ret false)
        fun restored => guarding false true restored do
          writeState { activating with
            status := .failed, pending := none, failedPackage := some pending
            lastError := some fault.message }
          (throw (.other ("Update failed and will not be retried automatically: " ++
            fault.message)) : Update α)).Watched order done s' := by
    rintro s' ⟨staged, out, installed⟩ returned
    rw [Prog.watched_bind, Prog.watched_handle, Prog.watched_bind]
    refine restoreBridge_watched out ?_ fun _ told stuck tried => ?_
    · exact failed_watched ⟨staged, out, installed⟩ (.inl rfl) returned closed
    · exact failed_watched ⟨staged, out, installed⟩ (tried.imp_right .inl) returned closed
  obtain ⟨staged, out, installed⟩ := swapping
  simp only [recordFailure, Prog.bind_eq, Prog.pure_eq]
  rw [Prog.watched_bind]
  refine guarding_watched ?_ closed
  rw [watched_query]
  intro answer
  refine ⟨trivial, ?_⟩
  cases answer with
  | error raised =>
    have closing := closed_blind (s := s) raised
    exact ⟨fun on => .inr (closing.drain on), fun out => .inl (closing.bridge out), fun _ _ => out⟩
  | ok healthy =>
    cases healthy with
    | false =>
      simp only [guarded, Prog.andThen_ok]
      rw [if_neg (by decide)]
      refine restoring _ ⟨staged, out, installed⟩ (.inl ?_)
      simp [Rollout.next, Except.toOption]
    | true =>
      simp only [guarded, Prog.andThen_ok]
      rw [if_pos trivial, Prog.watched_bind, ignoring, Prog.watched_handle, watched_query]
      intro given
      refine ⟨trivial, ?_⟩
      cases given <;> exact restoring _ ⟨staged, out, installed⟩ (.inl rfl)

/-! ### The whole -/

structure Rollout.Asked (s : Rollout) (pending : Package) (enforced : Bool) : Prop where
  staged : s.pending = some pending
  untouched : s.bridgeTouched = false
  up : s.bridgeOut = false
  kept : s.installed = false
  drained : s.draining = enforced
  undrainable : enforced = false → s.undrainable = true

def ended (r : Except Fault (UpdateState × Action)) (s : Rollout) : Prop := s.Closed ∧ s.Ended r

theorem closed_ended (fault : Fault) (s' : Rollout) (closed : s'.Closed) :
    ended (.error fault) s' := ⟨closed, trivial⟩

theorem timeOut_watched {state : UpdateState} {report : DrainReport}
    (asked : s.Asked pending enforced) (kept : state.pending = some pending) :
    (timeOut state enforced current report).Watched order ended s := by
  have writing : ∀ s' waiting, waiting.status = .drainTimedOut → waiting.pending = some pending →
      s'.pending = some pending → s'.bridgeTouched = false → s'.bridgeOut = false →
      s'.installed = false → (s'.draining = true → s'.askedBack = true) →
      ((writeState waiting).bind fun _ => Prog.ret (waiting, .drainTimedOut)).Watched order ended s' := by
    intro s' waiting status kept staged untouched up installed asked
    have closed : s'.Closed := ⟨fun out => by simp [up] at out, fun on => .inl (asked on)⟩
    rw [Prog.watched_bind, writeState, Prog.watched_run]
    intro written
    refine ⟨?_, ?_⟩
    · show s'.Says waiting
      unfold Rollout.Says
      rw [status]
      exact ⟨untouched, installed, kept.trans staged.symm⟩
    · cases written with
      | error fault => exact ⟨closed, trivial⟩
      | ok u => exact ⟨closed, untouched, installed⟩
  obtain ⟨staged, untouched, up, installed, drained, _⟩ := asked
  simp only [timeOut, Prog.bind_eq, Prog.pure_eq]
  cases enforced with
  | false =>
    rw [if_neg (by decide)]
    exact writing s _ rfl kept staged untouched up installed fun on => by simp [drained] at on
  | true =>
    rw [if_pos rfl, Prog.watched_bind]
    refine guarding_watched ?_ closed_ended
    rw [watched_query]
    intro given
    refine ⟨trivial, ?_⟩
    cases given with
    | error fault => exact ⟨fun _ => .inl rfl, fun out => by simp [Rollout.next, up] at out, nofun⟩
    | ok u => exact writing _ _ rfl kept staged untouched up installed fun _ => rfl

theorem activated_watched {active : UpdateState} (status : active.status = .active)
    (cleared : active.pending = none) (named : active.active = some pending)
    (swapping : s.Swapping pending) (proven : s.Proven pending) (migrated : s.migrated = true)
    (back : s.bridgeBack = true) (told : s.bridgeTold = true) :
    ((guarding enforced true true (writeState active)).bind fun _ =>
      (ask .automaticPrune).bind fun _ => Prog.ret (active, .activated)).Watched order ended s := by
  have launched := proven.1
  have closed : s.Closed := ⟨fun _ => .inl told, fun _ => .inr (.inl launched)⟩
  rw [Prog.watched_bind]
  refine guarding_watched ?_ closed_ended
  rw [writeState, Prog.watched_run]
  intro written
  refine ⟨?_, ?_⟩
  · show s.Says active
    unfold Rollout.Says
    rw [status]
    exact ⟨cleared, pending, swapping.staged, named, proven, migrated, back⟩
  · cases written with
    | error fault => exact ⟨fun _ => .inr (.inr (.inl launched)), fun _ => .inl (.inl told), nofun⟩
    | ok u => exact fun _ => ⟨trivial, closed, back, pending, swapping.staged, proven⟩

theorem swap_watched {state : UpdateState} {report : DrainReport} (asked : s.Asked pending enforced)
    (quiet : s.quiet = true) (kept : state.pending = some pending) :
    (swap state pending enforced report).Watched order ended s := by
  obtain ⟨staged, untouched, up, installed, drained, undrainable⟩ := asked
  have converged : s.Converged := by
    cases enforced with
    | true => exact ⟨quiet, .inl drained⟩
    | false => exact ⟨quiet, .inr (undrainable rfl)⟩
  have on : s.draining = true → enforced = true := fun on => drained.symm.trans on
  simp only [swap, Prog.bind_eq, Prog.pure_eq]
  rw [Prog.watched_bind]
  refine guarding_watched ?_ closed_ended
  rw [Prog.watched_bind, watched_query]
  intro stopped
  refine ⟨.inl converged, ?_⟩
  cases stopped with
  | error fault => exact ⟨fun h => .inl (on h), fun out => (nomatch up.symm.trans out), nofun⟩
  | ok u =>
    rw [Prog.andThen_ok, watched_query]
    intro unloaded
    refine ⟨trivial, ?_⟩
    cases unloaded with
    | error fault => exact ⟨fun h => .inl (on h), fun out => (nomatch up.symm.trans out), nofun⟩
    | ok u =>
      simp only [guarded, Prog.andThen_ok, Prog.watched_bind]
      refine guarding_watched ?_ closed_ended
      rw [Prog.watched_bind, watched_query]
      intro written
      refine ⟨⟨converged, rfl, by simp [Rollout.next, staged]⟩, ?_⟩
      cases written with
      | error fault => exact ⟨fun h => .inl (on h), fun _ => .inr ⟨rfl, rfl⟩, fun _ _ => rfl⟩
      | ok u =>
        rw [Prog.andThen_ok, writeState, Prog.watched_run]
        intro noted
        refine ⟨⟨rfl, rfl, kept.trans staged.symm⟩, ?_⟩
        cases noted with
        | error fault => exact ⟨fun h => .inl (on h), fun _ => .inr ⟨rfl, rfl⟩, fun _ _ => rfl⟩
        | ok u =>
          simp only [guarded, Prog.andThen_ok]
          rw [Prog.watched_bind, Prog.watched_handle]
          refine replaceBackend_watched ⟨staged, rfl, rfl⟩ ?_ ?_
          · intro s' swapping proven migrated back told
            exact activated_watched rfl rfl rfl swapping proven migrated back told
          · exact fun fault s' swapping => recordFailure_watched swapping closed_ended

theorem activatePending_watched {state : UpdateState} (staged : s.pending = some pending)
    (kept : state.pending = some pending) (fresh : s = { Rollout.start with pending := s.pending }) :
    (activatePending state pending).Watched order ended s := by
  have up : s.bridgeOut = false := congrArg Rollout.bridgeOut fresh
  have off : s.draining = false := congrArg Rollout.draining fresh
  have untouched : s.bridgeTouched = false := congrArg Rollout.bridgeTouched fresh
  have installed : s.installed = false := congrArg Rollout.installed fresh
  have settled : s.rearmed = false := congrArg Rollout.rearmed fresh
  clear fresh
  have nothing : ∀ s' : Rollout, s'.bridgeOut = false → s'.draining = false → s'.Closed :=
    fun s' up off => ⟨fun out => absurd (up.symm.trans out) Bool.false_ne_true,
      fun on => absurd (off.symm.trans on) Bool.false_ne_true⟩
  -- From the drain on: the wait, and what follows from what it has seen.
  have waiting : ∀ version enforced s', s'.Asked pending enforced → s'.rearmed = enforced →
      ∀ rest : Activity × Wait × ℚ → Update (UpdateState × Action),
      (∀ current wait waited, rest (current, wait, waited) =
        let report := drainReport enforced version wait waited
        if current.idle then swap state pending enforced report
        else timeOut state enforced current report) →
      ((guarding enforced false false (drainAndWait enforced)).bind rest).Watched order ended s' := by
    intro version enforced s' asked rearmed rest follows
    rw [Prog.watched_bind]
    refine guarding_watched ?_ closed_ended
    refine drainAndWait_watched asked.drained rearmed ?_ ?_
    · intro current wait waited s₁ still drained idle
      have asked₁ : s₁.Asked pending enforced :=
        ⟨(congrArg Rollout.pending still).trans asked.staged,
          (congrArg Rollout.bridgeTouched still).trans asked.untouched,
          (congrArg Rollout.bridgeOut still).trans asked.up,
          (congrArg Rollout.installed still).trans asked.kept, drained,
          fun off => (congrArg Rollout.undrainable still).trans (asked.undrainable off)⟩
      simp only [guarded, Prog.andThen_ok, follows]
      by_cases over_now : current.idle
      · rw [if_pos over_now]
        exact swap_watched asked₁ (idle over_now) kept
      · rw [if_neg over_now]
        exact timeOut_watched asked₁ kept
    · intro fault s₁ still drained
      have up := (congrArg Rollout.bridgeOut still).trans asked.up
      exact ⟨fun on => .inl (drained.symm.trans on),
        fun out => absurd (up.symm.trans out) Bool.false_ne_true, fun off => absurd off Bool.false_ne_true⟩
  simp only [activatePending, Prog.bind_eq]
  rw [Prog.watched_bind, watched_query]
  intro answered
  refine ⟨trivial, ?_⟩
  cases answered with
  | error fault => exact ⟨nothing _ up off, trivial⟩
  | ok version =>
    simp only [Prog.andThen_ok, requestDrain, Prog.bind_eq, Prog.pure_eq, Prog.watched_bind,
      Prog.watched_handle, watched_query]
    intro accepted
    refine ⟨trivial, ?_⟩
    cases accepted with
    | ok u =>
      refine waiting version true _ ?_ ?_ _ ?_
      · exact ⟨staged, untouched, up, installed, rfl, fun off => absurd off.symm Bool.false_ne_true⟩
      · exact rfl
      · exact fun _ _ _ => rfl
    | error fault =>
      simp only [Prog.andThen_error, Prog.orElse_error]
      by_cases bootstrap : version ∈ undrainedBootstrapVersions
      · rw [if_pos bootstrap]
        refine waiting version false _ ?_ ?_ _ ?_
        · exact ⟨staged, untouched, up, installed, off, fun _ => decide_eq_true bootstrap⟩
        · exact settled
        · exact fun _ _ _ => rfl
      · rw [if_neg bootstrap]
        exact ⟨nothing _ up off, trivial⟩

theorem activateAfterDrain_watched :
    activateAfterDrain.Watched order ended Rollout.start := by
  have closed : Rollout.start.Closed := ⟨nofun, nofun⟩
  simp only [activateAfterDrain, Prog.bind_eq, Prog.pure_eq]
  rw [Prog.watched_bind, watched_ask]
  intro locked
  refine ⟨trivial, ?_⟩
  rw [Prog.andThen_ok]
  cases locked with
  | false =>
    rw [if_neg (by decide), Prog.watched_bind, readState, Prog.watched_run]
    intro found
    refine ⟨trivial, ?_⟩
    cases found with
    | error fault => exact ⟨closed, trivial⟩
    | ok state => exact ⟨⟨nofun, nofun⟩, rfl, rfl⟩
  | true =>
    rw [if_pos rfl, Prog.watched_finally]
    have last : ∀ (r : Except Fault (UpdateState × Action)) s, ended r s →
        (ask .unlockActivation).Watched order (fun r' => ended (r'.bind fun _ => r)) s :=
      fun r s closed u => ⟨trivial, closed⟩
    refine Prog.Watched.mono ?_ last
    simp only [activateLocked, Prog.bind_eq, Prog.pure_eq]
    rw [Prog.watched_bind, readState, Prog.watched_run]
    intro found
    refine ⟨trivial, ?_⟩
    cases found with
    | error fault => exact ⟨closed, trivial⟩
    | ok state =>
      rw [Prog.andThen_ok]
      cases kept : state.pending with
      | none => exact ⟨⟨nofun, nofun⟩, rfl, rfl⟩
      | some pending => exact activatePending_watched kept kept rfl

def quietHost : {β : Type} → UpdateQuery β → β
  | _, .lockActivation => true
  | _, .unlockActivation => ()
  | _, .monotonic => 0
  | _, .sleep _ => ()
  | _, .patience => 1
  | _, .info updated => .ok (if updated then "0.2.9" else "0.2.8")
  | _, .setUpdateDrain _ _ => .ok ()
  | _, .pendingApprovals => .ok []
  | _, .runningProcesses => .ok []
  | _, .isHealthy => .ok true
  | _, .waitUntilHealthy => .ok ()
  | _, .bootout _ => .ok ()
  | _, .waitUntilUnloaded _ => .ok ()
  | _, .launch _ => .ok ()
  | _, .installDefinition _ => .ok ()
  | _, .migrateNativeState => .ok ()
  | _, .automaticPrune => ()

def stagedRelease : Package := ⟨"0.2.9", "/updates/cdesktop-0.2.9/node_modules/.bin/cdesktop"⟩

def stagedState : UpdateState where
  status := .staged
  pending := some stagedRelease
  active := none
  failedPackage := none
  lastError := none
  bootstrapWithoutDrain := false
  drain := none
  activity := none

def quietRun : List (Event UpdateTx UpdateQuery) × Except Fault (UpdateState × Action) × UpdateState :=
  activateAfterDrain.follow UpdateTx.exec quietHost stagedState

end SightMesh.Updates
