import SightMesh.Discipline.Fences
import SightMesh.Discipline.Operations

/-! The fences of the programs of `sdk.py`. Only the programs that may launch a worker say so. -/
namespace SightMesh

open Concurrency Database Python

variable {α β : Type} {launching strict : Prop} {past : Set Store} {H : Set LockKey} {t : TaskId}
  {py : Library} {owner : String}

/-! ### Finishing -/

theorem obeys_finishTask {site : FinishSite} {task : TaskRecord} {state : TaskState}
    {result : Option String} {chargeFailure : Bool} :
    Obeys launching strict past H (finishTask site task state result chargeFailure) := by
  have finished : Obeys launching strict past H
      ((stamped (.finish site task state result chargeFailure)).bind fun r => .ret r.1) :=
    (obeys_stamped fun _ => Tx.finish_fenceless).bind fun _ => obeys_ret
  apply finished.handle
  intro e raised
  split
  · split
    · exact obeys_ret
    · exact Manners.Heeds.fail raised
  · exact Manners.Heeds.fail raised

theorem obeys_retireSession {record : TerminalOwnership} :
    Obeys launching strict past H (retireSession record) := by
  refine obeys_read.bind fun existing => ?_
  split
  · exact obeys_ret
  · exact obeys_commit

theorem obeys_retireHolder {current : TaskRecord} {reason : String} :
    Obeys launching strict past H (retireHolder current reason) := by
  unfold retireHolder
  split
  · exact obeys_ret
  · exact obeys_retireSession.bind fun _ => obeys_ret

theorem obeys_recordHolderIntents {task current : TaskRecord} {state : TaskState}
    {commands : List Command} :
    Obeys launching strict past H (recordHolderIntents task current state commands) := by
  unfold recordHolderIntents
  split
  · refine obeys_commit.bind fun _ => obeys_read.bind fun outgoing => obeys_forEach ?_
    intro command _
    split
    · exact obeys_ret
    · exact obeys_commit
  · exact obeys_ret

theorem obeys_settleEffect {current : TaskRecord} {state : TaskState}
    {wanted : Option WorkspaceId} :
    Obeys launching strict past H (settleEffect current state wanted) := by
  refine obeys_read.bind fun effect => ?_
  split
  · exact obeys_ret
  split
  · exact obeys_ret
  dsimp only
  split
  · exact obeys_ret
  · exact (obeys_stamped fun _ => Tx.markTerminal_fenceless).bind fun _ => obeys_ret

theorem obeys_finishDecision {task : TaskRecord} {state : TaskState} {result : Option String}
    {stopWorkspace : Bool} {commands : List Command} :
    Obeys launching strict past H (finishDecision task state result stopWorkspace commands) := by
  refine obeys_read.bind fun current => ?_
  split
  · exact obeys_fail (by simp [unfenced])
  refine obeys_recordHolderIntents.bind fun _ => obeys_finishTask.bind fun updated => ?_
  refine obeys_settleEffect.bind fun settled => ?_
  dsimp only
  split
  · exact obeys_retireHolder.bind fun _ => obeys_ret
  · exact obeys_ret

theorem obeys_stopFinished {task : TaskRecord} {epoch : ℕ} {effect : Option Effect}
    {workspaceId : Option WorkspaceId} (open_ : Unfenced H) :
    Obeys launching strict past H (stopFinished task epoch effect workspaceId) := by
  unfold stopFinished
  split
  · exact obeys_ret
  refine obeys_taskLock open_ fun _ fenced => obeys_externalIo fenced fun _ open_ => ?_
  split
  · exact obeys_stopTerminal open_
  · exact obeys_request open_ rfl fun _ => rfl

theorem obeys_announceFinish {task updated : TaskRecord} (open_ : Unfenced H) :
    Obeys launching strict past H (announceFinish task updated) := by
  refine (obeys_taskLock open_ fun _ _ => obeys_read).bind fun current => ?_
  split
  · exact obeys_ret
  split
  · exact (obeys_pump open_).bind fun _ => obeys_reconcileCleanupIntents open_
  · exact obeys_ret

theorem obeys_finishLocked {task : TaskRecord} {state : TaskState} {result : Option String}
    {stopWorkspace : Bool} (open_ : Unfenced H) :
    Obeys launching strict past H (finishLocked task state result stopWorkspace) := by
  refine Obeys.bind ?_ fun commands => ?_
  · unfold finishCommands
    split
    · exact obeys_holderCommands open_
    · exact obeys_ret
  refine (obeys_taskLock open_ fun _ _ => obeys_finishDecision).bind fun decided => ?_
  exact (obeys_stopFinished open_).bind fun _ => obeys_announceFinish open_

/-! ### Launching -/

theorem obeys_recordProviderOutcome {task : TaskRecord} {outcome : String}
    {retryAt : Option Time} :
    Obeys launching strict past H (recordProviderOutcome task outcome retryAt) := by
  refine Obeys.bind ?_ fun _ =>
    (obeys_stamped fun _ => Tx.markTerminal_fenceless).bind fun _ => obeys_ret
  unfold coolBinding
  split
  · exact obeys_ret
  split
  · exact obeys_offline rfl fun _ => rfl
  · exact obeys_ret

theorem obeys_launchRejected {task : TaskRecord} {e : KernelError}
    (raised : (manners launching strict past).raises e) :
    Obeys launching strict past H (launchRejected task e) := by
  have reraised : ∀ {α : Type}, Obeys launching strict past H (.fail e : Kernel α) :=
    Manners.Heeds.fail raised
  unfold launchRejected
  split
  · split
    · refine obeys_read.bind fun current => ?_
      dsimp only
      split
      · exact (obeys_stamped fun _ => Tx.markTerminal_fenceless).bind fun _ => reraised
      · split
        · exact obeys_recordProviderOutcome.bind fun _ => obeys_finishTask.bind fun _ => reraised
        · exact reraised
    · exact reraised
  · exact reraised

theorem obeys_effectIds {task : TaskRecord} {native : Native} :
    Obeys launching strict past H (effectIds task py native) := by
  unfold effectIds
  dsimp only
  split
  · exact (obeys_stamped fun _ => Tx.markRefused_fenceless).bind fun _ =>
      obeys_fail (by simp [unfenced])
  split
  · exact (obeys_stamped fun _ => Tx.markTerminal_fenceless).bind fun _ =>
      obeys_finishTask.bind fun _ => obeys_fail (by simp [unfenced])
  split
  · exact obeys_fail (by simp [unfenced])
  · exact obeys_ret

theorem obeys_reserveLaunch {task : TaskRecord} {launch : Launch} (fenced : FencedBy task.taskId H)
    (patience : ℕ) : Obeys launching strict past H (reserveLaunch task launch owner patience) := by
  have reserved : Obeys launching strict past H
      ((stamped (.reserve task.taskId task.epoch launch owner)).bind fun r => .ret r.1) :=
    (obeys_stamped fun _ => Tx.reserve_fenceless).bind fun _ => obeys_ret
  induction patience with
  | zero => exact reserved
  | succ patience ih =>
    apply reserved.handle
    intro e raised
    split
    · exact (obeys_externalIo fenced fun _ _ => obeys_ret).bind fun _ => ih
    · exact Manners.Heeds.fail raised

theorem obeys_launchSuperseded {task : TaskRecord} {workspaceId : WorkspaceId}
    (fenced : FencedBy task.taskId H) :
    Obeys launching strict past H (launchSuperseded task workspaceId) := by
  refine Obeys.bind ?_ fun superseded =>
    (obeys_externalIo fenced fun _ => obeys_stopTerminal).bind fun _ =>
      obeys_fail (by simp [unfenced])
  refine obeys_read.bind fun existing => ?_
  split
  · exact obeys_stamped fun _ => Tx.markCleanupWorkspace_fenceless
  · exact obeys_stamped fun _ => Tx.markSuperseded_fenceless

theorem obeys_journaledLaunch {task : TaskRecord} {launch : Launch} (allowed : launching)
    (fenced : FencedBy task.taskId H) :
    Obeys launching strict past H (journaledLaunch py owner task launch) := by
  have launched : Obeys launching strict past H (externalIo task.taskId
      (query (.managedLaunch task.taskId task.epoch launch))) :=
    obeys_externalIo fenced fun _ open_ => obeys_query ⟨fun _ => open_, fun _ => allowed⟩ fun _ => rfl
  refine obeys_patience.bind fun patience => ?_
  refine (obeys_reserveLaunch fenced patience).bind fun effect => ?_
  split
  · exact obeys_ret
  refine Obeys.bind (launched.handle fun e => obeys_launchRejected) fun native => ?_
  refine obeys_effectIds.bind fun ids => obeys_read.bind fun current => ?_
  split
  · exact obeys_launchSuperseded fenced
  · exact (obeys_stamped fun _ => Tx.markLaunched_fenceless).bind fun _ => obeys_ret

theorem obeys_requireUnchanged {task : TaskRecord} :
    Obeys launching strict past H (requireUnchanged task) := by
  refine obeys_read.bind fun current => ?_
  split
  · exact obeys_fail (by simp [changedWhilePrepared, unfenced])
  · exact obeys_ret

theorem obeys_transferOwnership {prepared : TaskRecord} {source : SessionId}
    {spawn : Kernel SessionId} (fenced : FencedBy prepared.taskId H)
    (spawned : Obeys launching strict past H spawn) :
    Obeys launching strict past H (transferOwnership prepared source spawn) := by
  refine obeys_retireSession.bind fun record => ?_
  refine (obeys_externalRequest fenced rfl fun _ => rfl).bind fun rows => ?_
  refine Obeys.bind ?_ fun successor => obeys_assertDeliverable.bind fun _ => ?_
  · unfold linkedSuccessor
    split
    · exact obeys_ret
    refine obeys_requireUnchanged.bind fun _ => spawned.bind fun session => ?_
    have linked : Obeys launching strict past H (do
        let _ ← Prog.run (.linkSuccessor source session)
        return session : Kernel SessionId) :=
      (obeys_run Tx.linkSuccessor_fenceless).bind fun _ => obeys_ret
    split
    · exact obeys_fail (by simp [unfenced])
    · exact linked
  refine Obeys.bind (obeys_forEach fun row _ => ?_) fun _ =>
    Obeys.bind (obeys_forEach fun row _ => ?_) fun _ => obeys_ret
  · split
    · exact obeys_ret
    · exact (obeys_externalRequest fenced rfl fun _ => rfl).bind fun _ => obeys_ret
  · split
    · exact obeys_ret
    · exact (obeys_externalRequest fenced rfl fun _ => rfl).bind fun _ => obeys_ret

theorem obeys_workspaceRequest {task : TaskRecord} {prompt : String} (open_ : Unfenced H) :
    Obeys launching strict past H (workspaceRequest task prompt) :=
  (obeys_request open_ rfl fun _ => rfl).bind fun _ => obeys_ret

theorem obeys_replacePrepared {prepared : TaskRecord} {prompt : String} (allowed : launching)
    (fenced : FencedBy prepared.taskId H) :
    Obeys launching strict past H (replacePrepared py owner prepared prompt) :=
  (obeys_transferOwnership fenced ((obeys_journaledLaunch allowed fenced).bind fun _ =>
    obeys_ret)).bind fun _ => obeys_stamped fun _ => Tx.activate_fenceless

theorem obeys_launchPrepared {prepared : TaskRecord} {prompt : String} (allowed : launching)
    (fenced : FencedBy prepared.taskId H) :
    Obeys launching strict past H (launchPrepared py owner prepared prompt) := by
  unfold launchPrepared
  split
  · exact obeys_replacePrepared allowed fenced
  refine (obeys_externalIo fenced fun _ => obeys_workspaceRequest).bind fun launch => ?_
  refine obeys_requireUnchanged.bind fun _ => ?_
  exact (obeys_journaledLaunch allowed fenced).bind fun _ =>
    obeys_stamped fun _ => Tx.activate_fenceless

/-! ### Starting -/

theorem countRunning_ne_unfenced {rows : List Dict} {e : KernelError}
    (raised : countRunning rows = .error e) : e ≠ unfenced := by
  unfold countRunning at raised
  split at raised
  · exact nomatch raised
  · cases raised
    simp [unfenced]

theorem obeys_waitForLaunchCapacity {task : TaskRecord} {cap : ℕ} (fenced : FencedBy task.taskId H)
    (patience : ℕ) : Obeys launching strict past H (waitForLaunchCapacity task cap patience) := by
  induction patience with
  | zero =>
    unfold waitForLaunchCapacity
    refine (obeys_externalRequest fenced rfl fun _ => rfl).bind fun rows => ?_
    refine (obeys_lift fun e => countRunning_ne_unfenced).bind fun running => ?_
    split
    · exact obeys_ret
    · exact obeys_fail (by simp [unfenced])
  | succ patience ih =>
    unfold waitForLaunchCapacity
    refine (obeys_externalRequest fenced rfl fun _ => rfl).bind fun rows => ?_
    refine (obeys_lift fun e => countRunning_ne_unfenced).bind fun running => ?_
    split
    · exact obeys_ret
    · exact ih

theorem obeys_startReserved {cap : ℕ} {task : TaskRecord} (allowed : launching)
    (open_ : Unfenced H) (unadmitted : .admission ∉ H) :
    Obeys launching strict past H (startReserved py owner cap task) := by
  apply Manners.Heeds.withLock unadmitted fun _ => allowed
  apply obeys_fenced open_.admission
  · exact fun _ _ => obeys_fail (by simp [unfenced])
  intro H' current fenced same
  rw [← same] at fenced
  dsimp only
  unfold startReservedLocked
  split
  · exact obeys_ret
  refine (obeys_externalIo fenced fun _ => obeys_workspaceRequest).bind fun launch => ?_
  refine obeys_read.bind fun prepared => ?_
  split
  · exact obeys_ret
  refine obeys_patience.bind fun patience =>
    (obeys_waitForLaunchCapacity fenced patience).bind fun _ => obeys_read.bind fun again => ?_
  split
  · exact obeys_ret
  refine (obeys_journaledLaunch allowed fenced).bind fun ids => ?_
  exact (obeys_stamped fun _ => Tx.activate_fenceless).bind fun _ => obeys_ret

theorem obeys_reissueExpired {scope : String} {spec : TaskSpec} (open_ : Unfenced H) :
    Obeys launching strict past H (reissueExpired scope spec) := by
  refine obeys_read.bind fun found => ?_
  split
  · exact obeys_ret
  dsimp only
  split
  · exact obeys_ret
  refine obeys_taskLock open_ fun H' _ => obeys_read.bind fun current => ?_
  split
  · exact obeys_ret
  split
  · exact obeys_ret
  split
  · exact obeys_fail (by simp [unfenced])
  · exact (obeys_stamped fun _ => Tx.reissue_fenceless).bind fun _ => obeys_ret

theorem heeds_callerContext {caller : Option SessionId} (known : past.Nonempty) :
    (manners launching strict past).Heeds H (callerContext caller)
      fun context => ∃ db ∈ past, context.1 = db.callerScope caller := by
  unfold callerContext
  split
  · rename_i unset
    obtain ⟨db, known⟩ := known
    exact Manners.Heeds.ret ⟨db, known, by simp [Store.callerScope, unset]⟩
  · rename_i session set_
    apply heeds_read.bind
    rintro _ ⟨db, known, rfl⟩
    split
    · rename_i parent held
      exact Manners.Heeds.ret ⟨db, known, by simp [Store.callerScope, set_, held]⟩
    · rename_i unheld
      exact Manners.Heeds.ret ⟨db, known, by simp [Store.callerScope, set_, unheld]⟩

theorem obeys_prepareSpec {scope : String} {topLevel : Bool} {requested : WorkerSpec}
    (open_ : Unfenced H) :
    Obeys launching strict past H (prepareSpec py scope topLevel requested) := by
  refine (obeys_lift ?_).bind fun _ => (obeys_request open_ rfl fun _ => rfl).bind fun repo => ?_
  · intro e raised
    unfold validateSpec at raised
    repeat' split at raised
    all_goals cases raised <;> simp [unfenced]
  dsimp only
  split
  · exact obeys_fail (by simp [unfenced])
  refine obeys_read.bind fun existing => ?_
  split
  · split
    · exact obeys_fail (by simp [unfenced])
    · exact obeys_ret
  · exact (obeys_request open_ rfl fun _ => rfl).bind fun _ =>
      (obeys_request open_ rfl fun _ => rfl).bind fun _ =>
        (obeys_request open_ rfl fun _ => rfl).bind fun _ => obeys_ret

theorem obeys_sweepAdmission (open_ : Unfenced H) :
    Obeys launching strict past H (sweepAdmission py) :=
  (obeys_sweepLosses open_).bind fun _ => (obeys_expireReservations open_).bind fun _ =>
    obeys_reconcileTerminal open_

theorem obeys_ensureSwept {swept : Bool} (open_ : Unfenced H) :
    Obeys launching strict past H (ensureSwept py swept) := by
  unfold ensureSwept
  split
  · exact obeys_ret
  · exact obeys_sweepAdmission open_

theorem obeys_callerContext {caller : Option SessionId} :
    Obeys launching strict past H (callerContext caller) := by
  unfold callerContext
  split
  · exact obeys_ret
  · refine obeys_read.bind fun parent => ?_
    split
    · exact obeys_ret
    · exact obeys_ret

theorem obeys_requireActiveParent {parent : Option TaskRecord} :
    Obeys launching strict past H (requireActiveParent parent) := by
  unfold requireActiveParent
  split
  · exact obeys_ret
  · split
    · exact obeys_ret
    · exact obeys_fail (by simp [unfenced])

theorem obeys_startAll {cap : ℕ} {caller : Option SessionId} {swept : Bool}
    {requested : List WorkerSpec} (allowed : launching) (open_ : Unfenced H)
    (unadmitted : .admission ∉ H) :
    Obeys launching strict past H (startAll py owner cap caller swept requested) := by
  refine (obeys_ensureSwept open_).bind fun _ => obeys_callerContext.bind fun context => ?_
  refine obeys_requireActiveParent.bind fun _ =>
    (obeys_collect fun _ => obeys_prepareSpec open_).bind fun specs => ?_
  refine (obeys_forEach fun _ _ => obeys_reissueExpired open_).bind fun _ => ?_
  refine (obeys_request open_ rfl fun _ => rfl).bind fun _ => obeys_clock.bind fun now => ?_
  refine (obeys_run Tx.reserveAll_fenceless).bind fun reservations => obeys_forEach fun _ _ => ?_
  exact obeys_excepting (obeys_startReserved allowed open_ unadmitted) fun _ => obeys_ret

/-! ### Calls of a worker or a manager -/

theorem heeds_findTask {caller : Option SessionId} {key : String} (known : past.Nonempty) :
    (manners launching strict past).Heeds H (findTask caller key) (Meant past caller key) := by
  apply (heeds_callerContext known).bind
  rintro ⟨scope, parent⟩ ⟨before, seen, rfl⟩
  apply heeds_read.bind
  rintro _ ⟨db, later, rfl⟩
  split
  · rename_i found
    exact Manners.Heeds.ret ⟨before, seen, db, later, found⟩
  · exact obeys_fail (by simp [unfenced])

theorem obeys_namedTask {caller : Option SessionId} {worker : Option String}
    (known : past.Nonempty) : Obeys launching strict past H (namedTask caller worker) := by
  unfold namedTask
  split
  · unfold currentTask
    split
    · exact obeys_fail (by simp [unfenced])
    · refine obeys_read.bind fun task => ?_
      split
      · exact obeys_ret
      · exact obeys_fail (by simp [unfenced])
  · exact (heeds_findTask known).anyway

theorem obeys_complete {caller : Option SessionId} {summary worker : Option String}
    (known : past.Nonempty) (open_ : Unfenced H) :
    Obeys launching strict past H (complete caller summary worker) :=
  (obeys_namedTask known).bind fun _ => obeys_finishLocked open_

theorem obeys_blocked {caller : Option SessionId} {reason : String} {worker : Option String}
    (known : past.Nonempty) (open_ : Unfenced H) :
    Obeys launching strict past H (blocked py caller reason worker) := by
  unfold blocked
  split
  · exact obeys_fail (by simp [unfenced])
  · exact (obeys_namedTask known).bind fun _ => obeys_finishLocked open_

theorem obeys_cancel {caller : Option SessionId} {worker : String} (known : past.Nonempty)
    (open_ : Unfenced H) : Obeys launching strict past H (cancel caller worker) :=
  Obeys.bind (heeds_findTask known).anyway fun _ => obeys_finishLocked open_

theorem heeds_prepareReplace {task : TaskRecord} :
    (manners launching strict past).Heeds H (prepareReplace task)
      fun prepared => prepared.taskId = task.taskId := by
  unfold prepareReplace
  dsimp only
  split
  · apply (heeds_stamped fun _ => Tx.resumeReplacement_fenceless).mono
    rintro prepared ⟨now, db, _, answer⟩
    exact (current_of_transition (wrapping_ok.mp (atomically_answer answer))).2
  · apply (heeds_stamped fun _ => Tx.prepareReplacement_fenceless).mono
    rintro prepared ⟨now, db, _, answer⟩
    obtain ⟨_, _, _, moved⟩ := prepareReplacement_ok (atomically_answer answer)
    exact (current_of_transition moved).2

theorem obeys_replace {caller : Option SessionId} {worker : String} {prompt : Option String}
    (allowed : launching) (known : past.Nonempty) (open_ : Unfenced H) :
    Obeys launching strict past H (replace py owner caller worker prompt) := by
  refine (heeds_findTask known).bind fun first meant => ?_
  refine (obeys_request open_ rfl fun _ => rfl).bind fun _ => obeys_taskLock open_ fun H' fenced => ?_
  refine (heeds_findTask known).bind fun task again => ?_
  have replaced : ∀ text : String, Obeys launching strict past H' (do
      requireFence task.taskId first.taskId
      let prepared ← prepareReplace task
      let _ ← replacePrepared py owner prepared text
      return ()) := by
    intro text
    unfold requireFence
    split
    · rename_i same
      refine heeds_prepareReplace.bind fun prepared kept => ?_
      rw [same, ← kept] at fenced
      exact (obeys_replacePrepared allowed fenced).bind fun _ => obeys_ret
    · rename_i apart
      exact Manners.Heeds.fail fun _ _ => ⟨caller, worker, first, task, meant, again, apart⟩
  have prompted : Obeys launching strict past H' (do
      let text ← replacementPrompt py first.taskId task prompt
      requireFence task.taskId first.taskId
      let prepared ← prepareReplace task
      let _ ← replacePrepared py owner prepared text
      return ()) := by
    refine Obeys.bind ?_ replaced
    unfold replacementPrompt
    dsimp only
    split
    · refine obeys_ret.bind fun text => ?_
      split
      · exact obeys_ret
      · exact obeys_fail (by simp [unfenced])
    · refine (obeys_externalRequest fenced rfl fun _ => rfl).bind fun text => ?_
      split
      · exact obeys_ret
      · exact obeys_fail (by simp [unfenced])
  dsimp only
  split
  · exact obeys_fail (by simp [unfenced])
  · exact prompted

/-! ### Recovery -/

theorem obeys_blockUnroutable {site : FinishSite} {task : TaskRecord} {reason : String} :
    Obeys launching strict past H (blockUnroutable site task reason) := by
  unfold blockUnroutable
  split
  · exact obeys_ret
  · exact obeys_finishTask.bind fun _ => obeys_ret

theorem obeys_observeSessionFailure {task : TaskRecord} {sessionId : SessionId}
    (open_ : Unfenced H) :
    Obeys launching strict past H (observeSessionFailure py task sessionId) := by
  apply obeys_fenced open_
  · exact fun _ _ => obeys_ret
  intro H' current fenced same
  rw [← same] at fenced
  dsimp only
  unfold observeSessionFailureLocked
  split
  · exact obeys_ret
  refine obeys_read.bind fun effect => ?_
  split
  · exact obeys_ret
  split
  · exact obeys_ret
  refine (obeys_externalRequest fenced rfl fun _ => rfl).bind fun rows => ?_
  split
  · exact obeys_ret
  split
  · exact obeys_ret
  refine obeys_clock.bind fun now => ?_
  split
  · exact obeys_recordProviderOutcome.bind fun _ => obeys_ret
  refine (obeys_externalIo fenced fun _ open_ =>
    (obeys_request open_ rfl fun _ => rfl).bind fun _ => obeys_ret).bind fun owned => ?_
  split
  · exact obeys_ret
  · exact obeys_blockUnroutable.bind fun _ => obeys_ret

theorem obeys_resumePrepared {task : TaskRecord} {effect : Option Effect} (allowed : launching)
    (fenced : FencedBy task.taskId H) :
    Obeys launching strict past H (resumePrepared py owner task effect) := by
  unfold resumePrepared
  split
  · split
    · exact obeys_blockUnroutable
    · exact (obeys_launchPrepared allowed fenced).bind fun _ => obeys_ret
  · exact (obeys_launchPrepared allowed fenced).bind fun _ => obeys_ret

theorem obeys_rerouteTask {task : TaskRecord} {outcome : String} (allowed : launching)
    (fenced : FencedBy task.taskId H) :
    Obeys launching strict past H (rerouteTask py owner task outcome) := by
  unfold rerouteTask
  dsimp only
  split
  · exact obeys_blockUnroutable
  refine (obeys_offline rfl fun _ => rfl).bind fun selection => ?_
  split
  · exact obeys_blockUnroutable
  refine (obeys_externalRequest fenced rfl fun _ => rfl).bind fun provider => ?_
  refine (heeds_stamped fun _ => Tx.prepareReplacement_fenceless).bind ?_
  rintro prepared ⟨now, db, _, answer⟩
  obtain ⟨_, _, _, moved⟩ := prepareReplacement_ok (atomically_answer answer)
  rw [← (current_of_transition moved).2] at fenced
  exact (obeys_launchPrepared allowed fenced).bind fun _ => obeys_ret

theorem obeys_advancePastOutcome {task : TaskRecord} (allowed : launching) (open_ : Unfenced H) :
    Obeys launching strict past H (advancePastOutcome py owner task) := by
  refine (obeys_request open_ rfl fun _ => rfl).bind fun _ => obeys_fenced open_ ?_ ?_
  · exact fun _ _ => obeys_ret
  intro H' current fenced same
  rw [← same] at fenced
  refine obeys_read.bind fun effect => ?_
  split
  · split
    · exact obeys_ret
    · exact obeys_resumePrepared allowed fenced
  split
  · exact obeys_ret
  dsimp only
  split
  · exact obeys_ret
  split
  · exact obeys_ret
  split
  · exact obeys_finishTask.bind fun _ => obeys_retireHolder
  · exact obeys_rerouteTask allowed fenced

theorem obeys_reconcileProviderOutcome {sessionId : SessionId} (allowed : launching)
    (open_ : Unfenced H) :
    Obeys launching strict past H (reconcileProviderOutcome py owner sessionId) := by
  refine obeys_read.bind fun found => ?_
  split
  · exact obeys_ret
  refine (obeys_observeSessionFailure open_).bind fun observed => ?_
  split
  · exact obeys_ret
  · exact obeys_read.bind fun _ => obeys_advancePastOutcome allowed open_

theorem obeys_reconcileProviderOutcomes (allowed : launching) (open_ : Unfenced H) :
    Obeys launching strict past H (reconcileProviderOutcomes py owner) :=
  obeys_read.bind fun _ => obeys_readTasks.bind fun _ => obeys_read.bind fun _ =>
    obeys_forEach fun _ _ =>
      obeys_excepting (obeys_advancePastOutcome allowed open_) fun _ => obeys_ret

/-! ### Mail and checkpoints -/

theorem obeys_sendLocked {entry : TaskRecord} {prompt operationId : String} (open_ : Unfenced H) :
    Obeys launching strict past H
      (taskLock entry.taskId (sendLocked entry prompt operationId)) := by
  apply obeys_fenced open_
  · exact fun _ _ => obeys_fail (by simp [unfenced])
  intro H' current fenced same
  rw [← same] at fenced
  dsimp only
  split
  · exact obeys_fail (by simp [unfenced])
  refine obeys_assertDeliverable.bind fun _ => obeys_commit.bind fun _ => ?_
  refine Obeys.bind (obeys_externalIo fenced fun _ open_ => ?_) fun nativeId =>
    obeys_read.bind fun latest => obeys_run Tx.settleOutgoing_fenceless
  refine (obeys_request open_ rfl fun _ => rfl).bind fun answer => ?_
  split
  · exact obeys_ret
  · exact (obeys_queueCommands open_).bind fun _ => obeys_ret

theorem obeys_sendTarget {caller : Option SessionId} {entry : String × String × String}
    (known : past.Nonempty) : Obeys launching strict past H (sendTarget py caller entry) := by
  unfold sendTarget
  split
  · exact obeys_fail (by simp [unfenced])
  refine Obeys.bind (heeds_findTask known).anyway fun task => ?_
  dsimp only
  split
  · exact obeys_fail (by simp [unfenced])
  · exact obeys_assertDeliverable.bind fun _ => obeys_ret

theorem obeys_sendAll {caller : Option SessionId} {entries : List (String × String × String)}
    (known : past.Nonempty) (open_ : Unfenced H) :
    Obeys launching strict past H (sendAll py caller entries) := by
  unfold sendAll
  split
  · exact obeys_fail (by simp [unfenced])
  refine (obeys_collect fun _ => obeys_sendTarget known).bind fun targets => ?_
  exact (obeys_forEach fun _ _ => obeys_excepting (obeys_sendLocked open_) fun _ =>
    obeys_ret).bind fun _ => obeys_reconcileCleanupIntents open_

theorem verifiedReceipt_ne_unfenced {operation : CheckpointOperation} {receipt : Receipt}
    {e : KernelError} (raised : verifiedReceipt py operation receipt = .error e) :
    e ≠ unfenced := by
  unfold verifiedReceipt at raised
  split_ifs at raised
  all_goals
    cases raised
    simp [unfenced]

theorem obeys_checkpointNatively {task : TaskRecord} {operationId reference : String}
    {facts : CheckpointFacts} (fenced : FencedBy task.taskId H) :
    Obeys launching strict past H (checkpointNatively py task operationId reference facts) := by
  refine obeys_excepting ?_ fun _ => obeys_fail (by simp [unfenced])
  refine (obeys_run Tx.prepareCheckpoint_fenceless).bind fun operation => ?_
  refine Obeys.bind (obeys_externalIo fenced fun _ open_ => ?_) fun receipt => ?_
  · exact (obeys_request open_ rfl fun _ => rfl).bind fun _ =>
      obeys_lift fun e => verifiedReceipt_ne_unfenced
  · exact (obeys_lift fun e => verifiedReceipt_ne_unfenced).bind fun _ =>
      (obeys_stamped fun _ => Tx.checkpointOccurrence_fenceless).bind fun _ => obeys_ret

theorem obeys_checkpointTask {task : TaskRecord} {text : String} {operationId : Option String}
    (open_ : Unfenced H) :
    Obeys launching strict past H (checkpointTask py task text operationId) := by
  refine (obeys_request open_ rfl fun _ => rfl).bind fun native => ?_
  refine Obeys.bind ?_ fun saved => (obeys_lift ?_).bind fun _ => ?_
  · unfold savedCheckpoint
    split
    · exact obeys_ret
    · exact obeys_read
  · intro e raised
    unfold checkRetry at raised
    repeat' split at raised
    all_goals cases raised
    simp [unfenced]
  dsimp only
  split
  · exact obeys_fail (by simp [unfenced])
  split
  · exact obeys_fail (by simp [unfenced])
  refine (obeys_request open_ rfl fun _ => rfl).bind fun filed => obeys_taskLock open_ fun _ fenced => ?_
  split
  · split
    · exact obeys_checkpointNatively fenced
    · exact obeys_checkpointNatively fenced
  · exact (obeys_stamped fun _ => Tx.checkpointRow_fenceless).bind fun _ => obeys_ret

theorem obeys_checkpoint {caller : Option SessionId} {text : String}
    {worker operationId : Option String} (known : past.Nonempty) (open_ : Unfenced H) :
    Obeys launching strict past H (checkpoint py caller text worker operationId) := by
  unfold checkpoint
  split
  · exact obeys_fail (by simp [unfenced])
  · exact (obeys_namedTask known).bind fun _ => obeys_checkpointTask open_

end SightMesh
