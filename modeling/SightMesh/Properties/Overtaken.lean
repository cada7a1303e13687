import SightMesh.Properties.Settlement

/-! What is written for a row that moved while its caller was waiting for the executor. -/
namespace SightMesh

open Concurrency Database Python

variable {γ β : Type} {py : Library} {x : Executor γ} {H : Set LockKey}
  {s : Shared Tx Query Store γ}

theorem Current.row {db : Store} {seen : TaskRecord} {row : TaskRow} (current : Current db seen)
    (known : db.task seen.taskId = some row) : row.toLifecycle = seen.toLifecycle := by
  obtain ⟨row', found, _, same⟩ := current
  cases Option.some.inj (known.symm.trans found)
  exact same

/-! ### The sweep over reservations -/

/-- The record a step of the sweep over reservations writes the task row for. -/
def Tx.expires : Tx β → Option TaskRecord
  | .finishExpired seen _ => some seen
  | .activate .adoptExpired seen _ _ _ => some seen
  | _ => none

/-- The sweep leaves a row alone that has moved since it was read. -/
def Tx.SparesMoved (tx : Tx β) (db : Store) : Prop :=
  ∀ seen ∈ tx.expires, ∀ row ∈ db.task seen.taskId,
    row.epoch ≠ seen.epoch ∨ row.version ≠ seen.version →
      (tx.exec db).1.task seen.taskId = some row

instance (tx : Tx β) (db : Store) : Decidable (tx.SparesMoved db) := by
  unfold Tx.SparesMoved
  infer_instance

/-- The sweep is about to finish a row that has moved and can still be lost. -/
def Tx.finishesMoved (db : Store) : Tx β → Bool
  | .finishExpired seen _ => (db.task seen.taskId).any fun row =>
    (row.epoch ≠ seen.epoch || row.version ≠ seen.version) && row.losable
  | _ => false

theorem finishExpired_spares_iff (db : Store) (seen : TaskRecord) (now : Time) :
    (Tx.finishExpired seen now).SparesMoved db ↔
      (Tx.finishExpired seen now).finishesMoved db = false := by
  cases known : db.task seen.taskId with
  | none =>
    constructor
    · simp [Tx.finishesMoved, known]
    · intro _ seen' same row found
      cases same
      exact nomatch known.symm.trans found
  | some row =>
    have named : row.taskId = seen.taskId := Store.taskId_of_task known
    have exec := finishExpired_exec seen now known
    constructor
    · intro spares
      by_contra finishes
      simp only [Tx.finishesMoved, known, Option.any_some, Bool.not_eq_false, Bool.and_eq_true,
        Bool.or_eq_true, decide_eq_true_eq] at finishes
      obtain ⟨moved, open_⟩ := finishes
      have spared := spares seen rfl row known moved
      rw [exec, if_pos open_, ← named] at spared
      have written := Store.task_putTask_self db
        (row.finish .lost (some "reservation expired") false now)
      have same := Option.some.inj (written.symm.trans spared)
      exact absurd (congrArg (fun r : TaskRow => r.version) same) (Nat.succ_ne_self _)
    · intro quiet seen' same row' found moved
      cases same
      cases Option.some.inj (known.symm.trans found)
      have shut : ¬ row.losable := by
        intro open_
        simp [Tx.finishesMoved, known, open_] at quiet
        rcases moved with moved | moved
        · exact moved quiet.1
        · exact moved quiet.2
      rw [exec, if_neg shut]
      exact known

/-- In every interleaving, the sweep over reservations spares a row that moved while it asked the
executor, except where it finishes one that can still be lost. -/
theorem sweep_spares_moved_iff {w : KernelWorld γ} (reached : Reachable (kernel py x) anyEvent w)
    {p : ℕ} {tx : Tx β} {k : β → Kernel Unit} (pending : w.procs p = some (.commit tx k)) :
    tx.SparesMoved w.shared.store ↔ tx.finishesMoved w.shared.store = false := by
  have issued := reachable_issued reached pending
  cases tx with
  | finishExpired seen now => exact finishExpired_spares_iff w.shared.store seen now
  | activate site seen workspaceId sessionId now =>
    refine ⟨fun _ => rfl, fun _ seen' same row known moved => ?_⟩
    cases site with
    | adoptExpired =>
      cases same
      have current := (issued.2.2.1 rfl).row known
      have epoch : row.epoch = seen.epoch := congrArg Lifecycle.epoch current
      have version : row.version = seen.version := congrArg Lifecycle.version current
      rcases moved with moved | moved
      · exact absurd epoch moved
      · exact absurd version moved
    | _ => exact nomatch same
  | _ => exact ⟨fun _ => rfl, fun _ seen' same => nomatch same⟩

def unansweredScript : Script :=
  { Script.calm with
    tick := 100
    launch := fun taskId epoch => if epoch = 2 then noAnswer else launched taskId epoch
    processes := [failedProcess "quota_exhausted"] }

def sweptOps : List (Kernel Unit) :=
  [startWorker, reconcileProviderOutcome asciiLibrary "owner" (sessionOf workerId 1),
    sweepAdmission asciiLibrary, replace asciiLibrary "owner" none "worker" (some "go on"),
    cancel none "worker"]

theorem sweptOps_known : ∀ op ∈ sweptOps, KernelOp asciiLibrary op := by
  simp [sweptOps, startWorker, startOne, KernelOp.startAll, KernelOp.reconcileProviderOutcome,
    KernelOp.sweepAdmission, KernelOp.replace, KernelOp.cancel]

def replacedMeanwhile : ScriptWorld :=
  unansweredScript.run sweptOps
    (steps 0 60 ++ steps 1 80 ++ steps 2 6 ++ steps 3 30 ++ steps 2 5)

def cancelledMeanwhile : ScriptWorld :=
  unansweredScript.run sweptOps
    (steps 0 60 ++ steps 1 80 ++ steps 2 6 ++ steps 3 30 ++ steps 4 40 ++ steps 2 5)

def Tx.expiresMoved (tx : Tx β) (db : Store) : Bool :=
  tx.expires.any fun seen => (db.task seen.taskId).any fun row => row.version ≠ seen.version

set_option maxRecDepth 100000 in
theorem cancelled_row_spared :
    ∃ (β : Type) (tx : Tx β), tx.expiresMoved cancelledMeanwhile.shared.store ∧
      tx.SparesMoved cancelledMeanwhile.shared.store := by
  have reached : Reachable (kernel asciiLibrary unansweredScript.executor) anyEvent
      cancelledMeanwhile := unansweredScript.run_reachable sweptOps_known _
  have sweeping : (cancelledMeanwhile.pending 2).any fun tx =>
      tx.2.expiresMoved cancelledMeanwhile.shared.store &&
        !tx.2.finishesMoved cancelledMeanwhile.shared.store := by decide +kernel
  obtain ⟨β, tx, k, at_tx, known⟩ := World.pending_passes sweeping
  simp only [Bool.and_eq_true, Bool.not_eq_true'] at known
  exact ⟨β, tx, known.1, (sweep_spares_moved_iff reached at_tx).mpr known.2⟩

set_option maxRecDepth 100000 in
/-- The sweep finishes a row whose version it has never read. -/
theorem moved_row_swept :
    ¬ ∀ (w : ScriptWorld) (p : ℕ) (β : Type) (tx : Tx β) (k : β → Kernel Unit),
      Reachable (kernel asciiLibrary unansweredScript.executor) anyEvent w →
      w.procs p = some (.commit tx k) → tx.SparesMoved w.shared.store := by
  intro all
  have reached : Reachable (kernel asciiLibrary unansweredScript.executor) anyEvent
      replacedMeanwhile := unansweredScript.run_reachable sweptOps_known _
  have finishes : (replacedMeanwhile.pending 2).any
      fun tx => ¬ tx.2.SparesMoved replacedMeanwhile.shared.store := by decide +kernel
  obtain ⟨β, tx, k, at_tx, missed⟩ := World.pending_passes finishes
  exact of_decide_eq_true missed (all replacedMeanwhile 2 β tx k reached at_tx)

set_option maxRecDepth 100000 in
/-- The replacement is active in the third epoch, and ends with the reservation of the second. -/
example : (replacedMeanwhile.shared.store.task workerId).any (fun row =>
      row.state = .active && row.epoch = 3) ∧
    ((unansweredScript.run sweptOps (steps 0 60 ++ steps 1 80 ++ steps 2 6 ++ steps 3 30 ++
      steps 2 6)).shared.store.task workerId).any fun row =>
      row.state = .exhausted := by
  decide +kernel

/-! ### The results of executor calls -/

/-- The incarnation an answer of the executor is recorded for: a task, its epoch, and the version
the caller read, where it writes the row. -/
def Tx.speaksFor : Tx β → Option (TaskId × ℕ × Option ℕ)
  | .activate .startReserved seen .. | .activate .launchPrepared seen ..
  | .activate .replacePrepared seen .. | .prepareReplacement seen .. | .resumeReplacement seen ..
  | .finish .exhausted seen .. | .finish .processFailure seen .. | .finish .unroutable seen ..
  | .finish .replacementEnded seen .. | .finish .launchRejected seen ..
  | .finish .nativeLost seen .. => some (seen.taskId, seen.epoch, some seen.version)
  | .markLaunched taskId epoch .. | .markTerminal taskId epoch .. | .markRefused taskId epoch ..
  | .markSuperseded taskId epoch .. | .markCleanupWorkspace taskId epoch .. =>
    some (taskId, epoch, none)
  | _ => none

/-- An answer for an incarnation that is over changes neither the row nor the effect of another
epoch. -/
def Tx.SparesNewer (tx : Tx β) (db : Store) : Prop :=
  ∀ spoken ∈ tx.speaksFor, ∀ row ∈ db.task spoken.1, spoken.2.2 ≠ some row.version →
    (tx.exec db).1.task spoken.1 = some row ∧
      ∀ effect ∈ db.effects.rows, effect.taskId = spoken.1 → effect.epoch ≠ spoken.2.1 →
        (tx.exec db).1.effect effect.taskId effect.epoch = some effect

instance (tx : Tx β) (db : Store) : Decidable (tx.SparesNewer db) := by
  unfold Tx.SparesNewer
  infer_instance

instance (l : Lifecycle) (maxAttempts : ℕ) (state : TaskState) (charge : Bool) :
    Decidable (l.Finishable maxAttempts state charge) :=
  decidable_of_iff (((finishPredecessors state).any fun predecessors => l.state ∈ predecessors) ∧
    (state = .lost ∨ charge → l.attempts < maxAttempts)) (by
      simp [Lifecycle.Finishable, Option.any_eq_true])

/-- An answer for an incarnation that is over is about to be written by a call site that compares
nothing but the state of the row. -/
def Tx.overtakesNewer (db : Store) : Tx β → Bool
  | .activate .startReserved seen workspaceId sessionId now
  | .activate .launchPrepared seen workspaceId sessionId now
  | .activate .replacePrepared seen workspaceId sessionId now =>
    (db.task seen.taskId).any fun row => row.version ≠ seen.version &&
      decide (row.state ∈ activatePredecessors ∧
        db.holderTaken (row.moved (Lifecycle.activated workspaceId sessionId) id now) = false)
  | .finish .processFailure seen state result charge now
  | .finish .nativeLost seen state result charge now =>
    (db.task seen.taskId).any fun row => row.version ≠ seen.version &&
      decide (row.toLifecycle.Finishable row.maxAttempts state charge ∧
        db.holderTaken (row.finish state result charge now) = false)
  | _ => false

theorem activate_spares_iff (site : ActivateSite) (seen : TaskRecord) (workspaceId : WorkspaceId)
    (sessionId : SessionId) (now : Time) {db : Store} {row : TaskRow}
    (known : db.task seen.taskId = some row) :
    ((Tx.activate site seen workspaceId sessionId now).exec db).1.task seen.taskId = some row ↔
      ¬ (row.state ∈ activatePredecessors ∧
        db.holderTaken (row.moved (Lifecycle.activated workspaceId sessionId) id now) = false) := by
  have named : row.taskId = seen.taskId := Store.taskId_of_task known
  have exec : ((Tx.activate site seen workspaceId sessionId now).exec db).1 = _ :=
    transaction_exec known
  rw [exec]
  split
  · rename_i accepted
    have written : (db.putTask (row.moved (Lifecycle.activated workspaceId sessionId) id now)).task
        row.taskId = some (row.moved (Lifecycle.activated workspaceId sessionId) id now) :=
      Store.task_putTask_self db _
    rw [← named, written]
    constructor
    · intro same
      exact absurd (congrArg (fun r : TaskRow => r.version) (Option.some.inj same))
        (Nat.succ_ne_self _)
    · exact fun refused => absurd ⟨accepted.1, accepted.2.2⟩ refused
  · rename_i refused
    exact ⟨fun _ accepted => refused ⟨accepted.1, .inl rfl, accepted.2⟩, fun _ => known⟩

theorem finish_spares_iff (site : FinishSite) (seen : TaskRecord) (state : TaskState)
    (result : Option String) (charge : Bool) (now : Time) {db : Store} {row : TaskRow}
    (known : db.task seen.taskId = some row) :
    ((Tx.finish site seen state result charge now).exec db).1.task seen.taskId = some row ↔
      ¬ (row.toLifecycle.Finishable row.maxAttempts state charge ∧
        db.holderTaken (row.finish state result charge now) = false) := by
  rcases finish_exec_row site seen state result charge now known with
    ⟨finishable, free, answer, ran⟩ | ⟨refused, left⟩
  · obtain ⟨row', next, found, after, _, observed, _⟩ := finishWithWakeWithin_rows ran
    cases Option.some.inj (known.symm.trans found)
    constructor
    · intro same
      rw [same] at after
      cases after
      exact absurd (congrArg Lifecycle.version observed.lifecycle) (Nat.succ_ne_self _).symm
    · exact fun refused => absurd ⟨finishable, free⟩ refused
  · rw [left]
    exact ⟨fun _ => refused, fun _ => known⟩

/-- A writer that expects a version leaves every other one alone. -/
theorem expecter_spares {tx : Tx β} {t : TaskId} {v : ℕ} {db : Store} {row : TaskRow}
    (expects : tx.expects = some (t, v)) (spoken : tx.speaksFor.isSome)
    (known : db.task t = some row) (moved : row.version ≠ v) :
    (tx.exec db).1.task t = some row := by
  cases tx with
  | prepareReplacement seen replacement charge now =>
    cases expects
    obtain ⟨answer, db', ran, _⟩ | ⟨e, _, left⟩ := atomically_cases
      (SightMesh.prepareReplacement seen.taskId replacement charge (some seen.version) now) db
    · obtain ⟨_, _, _, went⟩ := prepareReplacement_ok ran
      obtain ⟨row', found, _, version, _⟩ := transition_ok.mp went
      cases Option.some.inj (known.symm.trans found)
      rcases version with none_ | same
      · exact nomatch none_
      · exact absurd (Option.some.inj same).symm moved
    · have exec : ((Tx.prepareReplacement seen replacement charge now).exec db).1 = db :=
        congrArg Prod.fst left
      rw [exec]
      exact known
  | resumeReplacement seen replacement automatic now =>
    cases expects
    obtain ⟨answer, db', ran, _⟩ | ⟨e, _, left⟩ := atomically_cases
      (SightMesh.resumeReplacement seen replacement automatic now) db
    · obtain ⟨row', found, _, version, _⟩ := transaction_ok.mp ran
      cases Option.some.inj (known.symm.trans found)
      rcases version with none_ | same
      · exact nomatch none_
      · exact absurd (Option.some.inj same).symm moved
    · have exec : ((Tx.resumeReplacement seen replacement automatic now).exec db).1 = db :=
        congrArg Prod.fst left
      rw [exec]
      exact known
  | reissue | checkpointRow | checkpointOccurrence => simp [Tx.speaksFor] at spoken
  | _ => exact nomatch expects

theorem Tx.Marks.spoken {tx : Tx β} {answer : β} {row next : Effect}
    (marks : tx.Marks row next answer) {target : TaskId × ℕ × Option ℕ}
    (speaks : tx.speaksFor = some target) : row.key = (target.1, target.2.1) := by
  cases tx with
  | markLaunched | markTerminal | markRefused | markSuperseded | markCleanupWorkspace =>
    cases speaks
    rcases answer with _ | _
    · exact marks.elim
    · exact marks.1
  | activate | finish | prepareReplacement | resumeReplacement => exact marks.elim
  | _ => exact nomatch speaks

/-- An answer for one epoch leaves the effects of the others alone. -/
theorem speaker_spares_effect {tx : Tx β} {target : TaskId × ℕ × Option ℕ} {db : Store}
    {effect : Effect} (speaks : tx.speaksFor = some target) (mem : effect ∈ db.effects.rows)
    (other : effect.epoch ≠ target.2.1) :
    (tx.exec db).1.effect effect.taskId effect.epoch = some effect := by
  have known : db.effect effect.taskId effect.epoch = some effect := Table.get_of_mem mem
  obtain ⟨next, found, rfl | marks⟩ := (tx.exec_journal db).kept _ _ effect known
  · exact found
  · have key := marks.spoken speaks
    exact absurd (congrArg Prod.snd key) other

theorem sparesNewer_iff_row (tx : Tx β) (db : Store) :
    tx.SparesNewer db ↔ ∀ spoken ∈ tx.speaksFor, ∀ row ∈ db.task spoken.1,
      spoken.2.2 ≠ some row.version → (tx.exec db).1.task spoken.1 = some row := by
  constructor
  · exact fun spares spoken speaks row known moved => (spares spoken speaks row known moved).1
  · exact fun spares spoken speaks row known moved => ⟨spares spoken speaks row known moved,
      fun effect mem _ other => speaker_spares_effect speaks mem other⟩

/-- A call site that compares only the state of the row spares a moved row it does not accept. -/
theorem overtakes_iff {tx : Tx β} {seen : TaskRecord} {db : Store} {accepts : TaskRow → Prop}
    [DecidablePred accepts]
    (speaks : tx.speaksFor = some (seen.taskId, seen.epoch, some seen.version))
    (overtakes : tx.overtakesNewer db = (db.task seen.taskId).any fun row =>
      row.version ≠ seen.version && decide (accepts row))
    (spared : ∀ row, db.task seen.taskId = some row →
      ((tx.exec db).1.task seen.taskId = some row ↔ ¬ accepts row)) :
    tx.SparesNewer db ↔ tx.overtakesNewer db = false := by
  rw [sparesNewer_iff_row, overtakes, speaks]
  constructor
  · intro spares
    cases known : db.task seen.taskId with
    | none => rfl
    | some row =>
      by_contra overtaken
      simp only [Option.any_some, Bool.not_eq_false, Bool.and_eq_true, decide_eq_true_eq]
        at overtaken
      obtain ⟨moved, accepted⟩ := overtaken
      have same := spares _ rfl row known fun same => moved (Option.some.inj same).symm
      exact (spared row known).mp same accepted
  · intro quiet spoken same row known moved
    cases same
    have known : db.task seen.taskId = some row := known
    have moved : row.version ≠ seen.version := fun same => moved (congrArg some same).symm
    apply (spared row known).mpr
    simpa [known, moved] using quiet

theorem activate_overtakes_iff {site : ActivateSite} {seen : TaskRecord} {workspaceId : WorkspaceId}
    {sessionId : SessionId} {now : Time} {db : Store} (other : site ≠ .adoptExpired) :
    (Tx.activate site seen workspaceId sessionId now).SparesNewer db ↔
      (Tx.activate site seen workspaceId sessionId now).overtakesNewer db = false := by
  have spared (row : TaskRow) (known : db.task seen.taskId = some row) :=
    activate_spares_iff site seen workspaceId sessionId now known
  cases site with
  | adoptExpired => exact absurd rfl other
  | startReserved | launchPrepared | replacePrepared => exact overtakes_iff rfl rfl spared

theorem finish_overtakes_iff {site : FinishSite} {seen : TaskRecord} {state : TaskState}
    {result : Option String} {charge : Bool} {now : Time} {db : Store}
    (unchecked : site = .processFailure ∨ site = .nativeLost) :
    (Tx.finish site seen state result charge now).SparesNewer db ↔
      (Tx.finish site seen state result charge now).overtakesNewer db = false := by
  have spared (row : TaskRow) (known : db.task seen.taskId = some row) :=
    finish_spares_iff site seen state result charge now known
  rcases unchecked with rfl | rfl
  · exact overtakes_iff rfl rfl spared
  · exact overtakes_iff rfl rfl spared

theorem current_spares {tx : Tx β} {seen : TaskRecord} {db : Store}
    (speaks : tx.speaksFor = some (seen.taskId, seen.epoch, some seen.version))
    (current : Current db seen) : tx.SparesNewer db := by
  rw [sparesNewer_iff_row, speaks]
  intro spoken same row known moved
  cases same
  have version : row.version = seen.version := congrArg Lifecycle.version (current.row known)
  exact absurd (congrArg some version).symm moved

theorem mark_spares {tx : Tx β} {taskId : TaskId} {epoch : ℕ} {db : Store}
    (speaks : tx.speaksFor = some (taskId, epoch, none)) (only : (tx.exec db).1.tasks = db.tasks) :
    tx.SparesNewer db := by
  rw [sparesNewer_iff_row, speaks]
  intro spoken same row known _
  cases same
  rw [Store.task, only]
  exact known

/-- In every interleaving, an answer of the executor for an incarnation that is over changes
nothing of the newer one, except where an activation, a failed process or a lost launch is written
to a row that moved into a state it accepts. -/
theorem results_spare_newer_iff {w : KernelWorld γ} (reached : Reachable (kernel py x) anyEvent w)
    {p : ℕ} {tx : Tx β} {k : β → Kernel Unit} (pending : w.procs p = some (.commit tx k)) :
    tx.SparesNewer w.shared.store ↔ tx.overtakesNewer w.shared.store = false := by
  have issued := reachable_issued reached pending
  have only := tx.exec_only w.shared.store
  cases tx with
  | activate site seen workspaceId sessionId now =>
    cases site with
    | adoptExpired => exact ⟨fun _ => rfl, fun _ spoken same => nomatch same⟩
    | startReserved | launchPrepared | replacePrepared => exact activate_overtakes_iff (by decide)
  | finish site seen state result charge now =>
    cases site with
    | processFailure => exact finish_overtakes_iff (.inl rfl)
    | nativeLost => exact finish_overtakes_iff (.inr rfl)
    | exhausted | unroutable | replacementEnded | launchRejected =>
      exact ⟨fun _ => rfl, fun _ => current_spares rfl issued.2.2.1⟩
    | lifecycle | approval _ => exact ⟨fun _ => rfl, fun _ spoken same => nomatch same⟩
  | prepareReplacement seen | resumeReplacement seen =>
    refine ⟨fun _ => rfl, fun _ => (sparesNewer_iff_row _ _).mpr ?_⟩
    intro spoken same row known moved
    cases same
    have moved : row.version ≠ seen.version := fun same => moved (congrArg some same).symm
    exact expecter_spares rfl rfl known moved
  | markLaunched | markTerminal | markRefused | markSuperseded | markCleanupWorkspace =>
    have same := congrArg Store.tasks only
    exact ⟨fun _ => rfl, fun _ => mark_spares rfl same⟩
  | _ => exact ⟨fun _ => rfl, fun _ spoken same => nomatch same⟩

def crashedScript : Script :=
  { Script.calm with
    processes := [[("status", .str "failed"), ("run_reason", .str "codingagent")]] }

def replacedOps : List (Kernel Unit) :=
  [startWorker, reconcileProviderOutcome asciiLibrary "owner" (sessionOf workerId 1),
    replace asciiLibrary "owner" none "worker" (some "go on"), cancel none "worker"]

theorem replacedOps_known : ∀ op ∈ replacedOps, KernelOp asciiLibrary op := by
  simp [replacedOps, startWorker, startOne, KernelOp.startAll, KernelOp.reconcileProviderOutcome,
    KernelOp.replace, KernelOp.cancel]

def endedWorld : ScriptWorld :=
  crashedScript.run replacedOps (steps 0 100 ++ steps 1 6 ++ steps 3 60 ++ steps 1 6)

def overtakenWorld : ScriptWorld :=
  crashedScript.run replacedOps (steps 0 100 ++ steps 1 6 ++ steps 2 60 ++ steps 1 6)

def Tx.speaksForMoved (tx : Tx β) (db : Store) : Bool :=
  tx.speaksFor.any fun spoken => (db.task spoken.1).any fun row => spoken.2.2 ≠ some row.version

set_option maxRecDepth 100000 in
theorem ended_worker_spared :
    ∃ (β : Type) (tx : Tx β), tx.speaksForMoved endedWorld.shared.store ∧
      tx.SparesNewer endedWorld.shared.store := by
  have reached : Reachable (kernel asciiLibrary crashedScript.executor) anyEvent endedWorld :=
    crashedScript.run_reachable replacedOps_known _
  have recording : (endedWorld.pending 1).any fun tx =>
      tx.2.speaksForMoved endedWorld.shared.store &&
        !tx.2.overtakesNewer endedWorld.shared.store := by decide +kernel
  obtain ⟨β, tx, k, at_tx, known⟩ := World.pending_passes recording
  simp only [Bool.and_eq_true, Bool.not_eq_true'] at known
  exact ⟨β, tx, known.1, (results_spare_newer_iff reached at_tx).mpr known.2⟩

set_option maxRecDepth 100000 in
/-- The failed process of the first epoch blocks the second. -/
theorem failed_process_blocks_newer :
    ¬ ∀ (w : ScriptWorld) (p : ℕ) (β : Type) (tx : Tx β) (k : β → Kernel Unit),
      Reachable (kernel asciiLibrary crashedScript.executor) anyEvent w →
      w.procs p = some (.commit tx k) → tx.SparesNewer w.shared.store := by
  intro all
  have reached : Reachable (kernel asciiLibrary crashedScript.executor) anyEvent overtakenWorld :=
    crashedScript.run_reachable replacedOps_known _
  have overtaken : (overtakenWorld.pending 1).any
      fun tx => ¬ tx.2.SparesNewer overtakenWorld.shared.store := by decide +kernel
  obtain ⟨β, tx, k, at_tx, missed⟩ := World.pending_passes overtaken
  exact of_decide_eq_true missed (all overtakenWorld 1 β tx k reached at_tx)

end SightMesh
