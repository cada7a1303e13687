import SightMesh.Properties.Settlement

/-! What the commit that loses a child leaves in the outbox of its parent. -/
namespace SightMesh

open Concurrency Database Python

variable {γ β : Type} {py : Library} {x : Executor γ}

/-- The lost child is, at the epoch of the wake, not yet open again. -/
def Wake.ReportsLoss (db : Store) (w : Wake) (child : TaskId) (epoch : ℕ) : Prop :=
  w.predicate = .anyChildLost ∧ ∃ row, db.task child = some row ∧
    row.parentTaskId = some w.parentTaskId ∧
    (epoch < row.epoch ∨ epoch = row.epoch ∧ row.state ∉ liveStates)

/-- Every wake under the key of a loss reports an epoch the child has lost. -/
def Store.LossesReported (db : Store) : Prop :=
  ∀ w ∈ db.wakes.rows, ∀ child epoch, w.dedupeKey = lostKey child epoch →
    w.ReportsLoss db child epoch

theorem not_live_of_reportsLoss {row : TaskRow} (reports : row.reportsLoss) :
    row.state ∉ liveStates := by
  unfold TaskRow.reportsLoss at reports
  simp only [Bool.or_eq_true, Bool.and_eq_true, decide_eq_true_eq] at reports
  rcases reports with lost | ⟨exhausted, _⟩
  · simp [lost, liveStates]
  · simp [exhausted, liveStates]

theorem Tx.Steps.not_live {tx : Tx β} {answer : β} {row next : TaskRow}
    (h : tx.Steps answer row next) (dead : row.state ∉ liveStates) :
    row.epoch < next.epoch ∨ row.epoch = next.epoch ∧ next.state ∉ liveStates := by
  rcases h.lifecycle with same | ⟨l, assigned, moved⟩
  · rw [same]
    exact .inr ⟨rfl, dead⟩
  · rcases assigned.leaves with live | ⟨_, opened⟩
    · exact absurd live dead
    · rw [moved]
      exact .inl opened

theorem Wake.ReportsLoss.after {s : Shared Tx Query Store γ} {tx : Tx β} {v w : Wake}
    {child : TaskId} {epoch : ℕ} (h : v.ReportsLoss s.store child epoch) (origin : v.SameOrigin w) :
    w.ReportsLoss (Shared.after s tx).store child epoch := by
  obtain ⟨predicate, row, known, parented, ended⟩ := h
  obtain ⟨next, found, step⟩ := tx.exec_task known
  have parent : next.parentTaskId = row.parentTaskId :=
    congrArg Identity.parentTaskId step.identity
  refine ⟨origin.predicate ▸ predicate, next, found, ?_, ?_⟩
  · rw [parent, parented, origin.parentTaskId]
  · have grows := step.epoch
    rcases ended with before | ⟨rfl, dead⟩
    · exact .inl (by omega)
    · exact step.not_live dead

theorem lossesReported_after {s : Shared Tx Query Store γ} (tx : Tx β)
    (known : s.store.LossesReported) : (Shared.after s tx).store.LossesReported := by
  intro w mem child epoch key
  rcases tx.exec_outbox s.store w mem with ⟨v, before, origin⟩ | cohort | incident
  · exact (known v before child epoch (origin.dedupeKey.trans key)).after origin
  · exact nomatch key.symm.trans cohort.1
  · obtain ⟨_, row, reason, episode, escalation, found, parented, predicate, named, reports⟩ :=
      incident
    obtain ⟨rfl, rfl, rfl, _⟩ := DedupeKey.episode.inj (key.symm.trans named)
    exact ⟨predicate, row, found, parented, .inr ⟨rfl, not_live_of_reportsLoss (reports rfl)⟩⟩

theorem reachable_lossesReported {w : KernelWorld γ}
    (reached : Reachable (kernel py x) anyEvent w) : w.shared.store.LossesReported :=
  run_invariant (fun s => s.store.LossesReported) (fun _ _ _ mem => nomatch mem)
    (fun {_ _ _ tx} _ _ _ known => lossesReported_after tx known) (fun _ _ known => known) reached

/-! ### The paths that record a loss -/

def Tx.loses : Tx β → Option TaskRecord
  | .recordLoss seen _ _ _ => some seen
  | .finishExpired seen _ => some seen
  | .finish .nativeLost seen _ _ _ _ => some seen
  | _ => none

/-- The outbox of the parent tells, or told, of the lost epoch of the child. -/
def Store.TellsOf (db : Store) (parentId child : TaskId) (epoch : ℕ) : Prop :=
  ∃ w ∈ db.wakes.rows, w.parentTaskId = parentId ∧ w.predicate = .anyChildLost ∧
    w.dedupeKey = lostKey child epoch ∧ w.state ∈ toldWakeStates

instance (db : Store) (parentId child : TaskId) (epoch : ℕ) :
    Decidable (db.TellsOf parentId child epoch) := by
  unfold Store.TellsOf
  infer_instance

/-- A child that is lost in the commit is reported to its parent. -/
def Tx.TellsLoss (tx : Tx β) (db : Store) : Prop :=
  ∀ seen ∈ tx.loses, ∀ row ∈ db.task seen.taskId, ∀ parentId ∈ row.parentTaskId,
    ∀ next ∈ (tx.exec db).1.task seen.taskId, next.state ≠ row.state →
      (tx.exec db).1.TellsOf parentId seen.taskId row.epoch

instance (tx : Tx β) (db : Store) : Decidable (tx.TellsLoss db) := by
  unfold Tx.TellsLoss
  infer_instance

/-- The transaction loses a child by the sweep over reservations, or spends its last attempt on a
launch that was lost for a reason not spelled as one. -/
def Tx.hidesLoss (db : Store) : Tx β → Bool
  | .finishExpired seen _ =>
    (db.task seen.taskId).any fun row => row.parentTaskId.isSome && row.losable
  | .finish .nativeLost seen _ result _ _ =>
    (db.task seen.taskId).any fun row => row.parentTaskId.isSome && row.losable &&
      decide (row.maxAttempts ≤ row.attempts + 1) && !startsWith "lost:" (orText result "lost")
  | _ => false

theorem startsWith_append_append (start text rest : String) :
    startsWith (start ++ text) (start ++ rest) = startsWith text rest := by
  unfold startsWith
  rw [String.toList_append, String.toList_append]
  induction start.toList with
  | nil => rfl
  | cons c cs ih => simpa using ih

theorem finished_reportsLoss (row : TaskRow) (result : Option String) (now : Time) :
    (row.finish .lost result false now).reportsLoss =
      (decide (row.attempts + 1 < row.maxAttempts) || startsWith "lost:" (orText result "lost")) := by
  have fields : (row.finish .lost result false now).toLifecycle =
      { row.toLifecycle.finished row.maxAttempts .lost result false with
        version := row.version + 1 } := rfl
  unfold TaskRow.reportsLoss
  rw [fields]
  unfold Lifecycle.finished
  rw [if_pos (.inl rfl)]
  split
  · rename_i last
    have spelled : "exhausted: lost:" = "exhausted: " ++ "lost:" := by decide
    have spent : ¬ row.attempts + 1 < row.maxAttempts := by omega
    have shifted : startsWith "exhausted: lost:" ("exhausted: " ++ orText result "lost") =
        startsWith "lost:" (orText result "lost") := by
      rw [spelled, startsWith_append_append]
    simp [shifted, spent, TaskState.name]
  · rename_i more
    have left : row.attempts + 1 < row.maxAttempts := by omega
    simp [left]

/-- No loss of an epoch is told while the row is still open in it. -/
theorem not_tellsOf_of_live {db : Store} {t parentId : TaskId} {row : TaskRow}
    (reported : db.LossesReported) (known : db.task t = some row) (live : row.state ∈ liveStates) :
    ¬ db.TellsOf parentId t row.epoch := by
  rintro ⟨w, mem, _, _, key, _⟩
  obtain ⟨_, row', found, _, ended⟩ := reported w mem t row.epoch key
  cases Option.some.inj (known.symm.trans found)
  rcases ended with past | ⟨_, dead⟩
  · exact lt_irrefl _ past
  · exact dead live

/-- A finish with its wakes tells of the loss it leaves. -/
theorem lossFinish_tellsOf {s : Shared Tx Query Store γ} {tx : Tx β} {mid : Store} {t : TaskId}
    {result : Option String} {now : Time} {answer : TaskRecord × List ℕ} {row : TaskRow}
    {parentId : TaskId} (reported : s.store.LossesReported)
    (ran : finishWithWakeWithin t .lost result none false now mid =
      .ok (answer, (tx.exec s.store).1))
    (known : s.store.task t = some row) (noted : s.store.Observed mid)
    (parented : row.parentTaskId = some parentId)
    (loss : (row.finish .lost result false now).reportsLoss) :
    (tx.exec s.store).1.TellsOf parentId t row.epoch := by
  obtain ⟨mid_row, mid_known, seen⟩ := noted.kept t row known
  have epoch : mid_row.epoch = row.epoch := congrArg Lifecycle.epoch seen.lifecycle
  have limit : mid_row.maxAttempts = row.maxAttempts := congrArg Identity.maxAttempts seen.identity
  have attempts : mid_row.attempts = row.attempts := congrArg Lifecycle.attempts seen.lifecycle
  have parent : mid_row.parentTaskId = some parentId :=
    (congrArg Identity.parentTaskId seen.identity).trans parented
  rw [finished_reportsLoss, ← limit, ← attempts, ← finished_reportsLoss mid_row result now] at loss
  obtain ⟨w, mem, key, told⟩ := finishWithWakeWithin_told ran mid_known parent loss
  rw [epoch] at key
  obtain ⟨predicate, next, found, parented', _⟩ :=
    lossesReported_after tx reported w mem t row.epoch key
  obtain ⟨next', found', step⟩ := tx.exec_task known
  cases Option.some.inj (found'.symm.trans found)
  have kept : next.parentTaskId = row.parentTaskId :=
    congrArg Identity.parentTaskId step.identity
  have parent : w.parentTaskId = parentId :=
    Option.some.inj (parented'.symm.trans (kept.trans parented))
  exact ⟨w, mem, parent, predicate, key, told⟩

/-- A finish with its wakes that leaves no report tells of no loss. -/
theorem silentFinish_not_tellsOf {t parentId : TaskId} {result : Option String} {now : Time}
    {db db' : Store} {answer : TaskRecord × List ℕ} {row : TaskRow} (reported : db.LossesReported)
    (ran : finishWithWakeWithin t .lost result none false now db = .ok (answer, db'))
    (known : db.task t = some row)
    (silent : (row.finish .lost result false now).reportsLoss = false) :
    ¬ db'.TellsOf parentId t row.epoch := by
  rintro ⟨w, mem, _, _, key, told⟩
  obtain ⟨v, before, key, told⟩ :=
    finishWithWakeWithin_silent ran known silent row.epoch ⟨w, mem, key, told⟩
  obtain ⟨row', _, found, _, finishable, _⟩ := finishWithWakeWithin_rows ran
  cases Option.some.inj (known.symm.trans found)
  obtain ⟨predicate, row', found, parented, _⟩ := reported v before t row.epoch key
  exact not_tellsOf_of_live reported known finishable.live
    ⟨v, before, rfl, predicate, key, told⟩

theorem nativeLost_exec (seen : TaskRecord) (result : Option String) (now : Time) {db : Store}
    {row : TaskRow} (known : db.task seen.taskId = some row) :
    if row.losable then ∃ answer, finishWithWakeWithin seen.taskId .lost result none false now db =
      .ok (answer, ((Tx.finish .nativeLost seen .lost result false now).exec db).1)
    else ((Tx.finish .nativeLost seen .lost result false now).exec db).1 = db := by
  have free := holderTaken_lost db row result now
  rcases finish_exec_row .nativeLost seen .lost result false now known with
    ⟨finishable, _, ran⟩ | ⟨refused, left⟩
  · rw [if_pos (row.losable_iff.mpr finishable)]
    exact ran
  · rw [if_neg]
    · exact left
    · exact fun open_ => refused ⟨row.losable_iff.mp open_, free⟩

theorem orText_of_startsWith {text fallback : String} (spelled : startsWith "lost:" text) :
    orText (some text) fallback = text := by
  have nonempty : text ≠ "" := by
    rintro rfl
    exact absurd spelled (by decide)
  exact orText_of_ne nonempty fallback

theorem lost_moves {row : TaskRow} (open_ : row.losable) (result : Option String) (now : Time) :
    (row.finish .lost result false now).state ≠ row.state := by
  have moves : ∀ s ∈ liveStates, ∀ s' ∈ [TaskState.lost, .exhausted], s' ≠ s := by decide
  exact moves _ (row.losable_iff.mp open_).live _ (finished_lost_state ..)

theorem recordLoss_tellsLoss {s : Shared Tx Query Store γ} (reported : s.store.LossesReported)
    {seen : TaskRecord} {reason payload : String} {now : Time} (spelled : startsWith "lost:" reason) :
    (Tx.recordLoss seen reason payload now).TellsLoss s.store := by
  intro seen' same row known parentId parented next found moves
  cases same
  rcases recordLoss_exec seen reason payload now s.store with ⟨mid, answer, noted, ran⟩ | still
  · have loss : (row.finish .lost (some reason) false now).reportsLoss := by
      rw [finished_reportsLoss, orText_of_startsWith spelled, spelled, Bool.or_true]
    exact lossFinish_tellsOf reported ran known noted parented loss
  · have kept : ((Tx.recordLoss seen reason payload now).exec s.store).1.task seen.taskId =
        s.store.task seen.taskId := by
      rw [Store.task, still]
      rfl
    rw [kept, known] at found
    cases found
    exact absurd rfl moves

theorem finishExpired_tellsLoss_iff {db : Store} (reported : db.LossesReported) (seen : TaskRecord)
    (now : Time) :
    (Tx.finishExpired seen now).TellsLoss db ↔ (Tx.finishExpired seen now).hidesLoss db = false := by
  constructor
  · intro tells
    cases known : db.task seen.taskId with
    | none => simp [Tx.hidesLoss, known]
    | some row =>
      by_contra hides
      simp only [Tx.hidesLoss, known, Option.any_some, Bool.not_eq_false, Bool.and_eq_true] at hides
      obtain ⟨parented, open_⟩ := hides
      obtain ⟨parentId, parented⟩ := Option.isSome_iff_exists.mp parented
      have named : row.taskId = seen.taskId := Store.taskId_of_task known
      have exec := finishExpired_exec seen now known
      rw [if_pos open_] at exec
      have found : ((Tx.finishExpired seen now).exec db).1.task seen.taskId =
          some (row.finish .lost (some "reservation expired") false now) := by
        rw [exec, ← named]
        exact Store.task_putTask_self _ _
      have told := tells seen rfl row known parentId parented _ found (lost_moves open_ _ now)
      rw [exec] at told
      exact not_tellsOf_of_live reported known (row.losable_iff.mp open_).live told
  · intro shown seen' same row known parentId parented next found moves
    cases same
    have parented : row.parentTaskId = some parentId := parented
    have known : db.task seen.taskId = some row := known
    have shut : ¬ row.losable := by simpa [Tx.hidesLoss, known, parented] using shown
    rw [finishExpired_exec seen now known, if_neg shut, known] at found
    cases found
    exact absurd rfl moves

theorem nativeLost_tellsLoss_iff {s : Shared Tx Query Store γ} (reported : s.store.LossesReported)
    (seen : TaskRecord) (result : Option String) (now : Time) :
    (Tx.finish .nativeLost seen .lost result false now).TellsLoss s.store ↔
      (Tx.finish .nativeLost seen .lost result false now).hidesLoss s.store = false := by
  cases known : s.store.task seen.taskId with
  | none =>
    constructor
    · simp [Tx.hidesLoss, known]
    · intro _ seen' same row found
      cases same
      exact nomatch known.symm.trans found
  | some row =>
    have exec := nativeLost_exec seen result now known
    by_cases open_ : row.losable
    · rw [if_pos open_] at exec
      obtain ⟨answer, ran⟩ := exec
      obtain ⟨row', next, found, after, _, observed, _⟩ := finishWithWakeWithin_rows ran
      cases Option.some.inj (known.symm.trans found)
      have moves : next.state ≠ row.state := by
        have state := congrArg Lifecycle.state observed.lifecycle
        exact state ▸ lost_moves open_ result now
      have shown : (Tx.finish .nativeLost seen .lost result false now).hidesLoss s.store = false ↔
          ∀ parentId, row.parentTaskId = some parentId →
            (row.finish .lost result false now).reportsLoss := by
        rw [finished_reportsLoss]
        cases parented : row.parentTaskId with
        | none => simp [Tx.hidesLoss, known, parented]
        | some parentId =>
          simp only [Tx.hidesLoss, known, parented, open_, Option.any_some, Option.isSome_some,
            Option.some.injEq, forall_eq', Bool.and_eq_false_iff, Bool.not_eq_false',
            decide_eq_false_iff_not, not_le, Bool.or_eq_true, decide_eq_true_eq,
            Bool.true_eq_false, false_or]
      rw [shown]
      constructor
      · intro tells parentId parented
        have told := tells seen rfl row known parentId parented next after moves
        by_contra silent
        exact silentFinish_not_tellsOf reported ran known (by simpa using silent) told
      · intro loss seen' same row' known' parentId parented _ _ _
        cases same
        cases Option.some.inj (known.symm.trans known')
        exact lossFinish_tellsOf reported ran known (.refl _) parented (loss parentId parented)
    · rw [if_neg open_] at exec
      constructor
      · simp [Tx.hidesLoss, known, open_]
      · intro _ seen' same row' known' parentId parented next found moves
        cases same
        have known' : s.store.task seen.taskId = some row' := known'
        rw [exec, known'] at found
        cases found
        exact absurd rfl moves

/-- In every interleaving, every recorded loss of a child is told in the commit that records it,
except where the sweep over reservations loses the child, and where a lost launch spends the last
attempt of the child and its reason is not spelled as a loss. -/
theorem losses_told_iff {w : KernelWorld γ} (reached : Reachable (kernel py x) anyEvent w)
    {p : ℕ} {tx : Tx β} {k : β → Kernel Unit} (pending : w.procs p = some (.commit tx k)) :
    tx.TellsLoss w.shared.store ↔ tx.hidesLoss w.shared.store = false := by
  have reported := reachable_lossesReported reached
  have issued := reachable_issued reached pending
  cases tx with
  | recordLoss seen reason payload now =>
    obtain ⟨_, _, _, spelled⟩ := issued
    exact ⟨fun _ => rfl, fun _ => recordLoss_tellsLoss reported spelled⟩
  | finishExpired seen now => exact finishExpired_tellsLoss_iff reported seen now
  | finish site seen state result charge now =>
    cases site with
    | nativeLost =>
      obtain ⟨_, _, rfl, rfl, _⟩ := issued
      exact nativeLost_tellsLoss_iff reported seen result now
    | _ => exact ⟨fun _ => rfl, fun _ seen' same => nomatch same⟩
  | _ => exact ⟨fun _ => rfl, fun _ seen' same => nomatch same⟩

def nativeLostScript : Script :=
  { Script.calm with
    launch := fun taskId epoch =>
      if taskId = childId then .ok ⟨"lost", "host gone", false, none, "", ""⟩
      else launched taskId epoch }

theorem startChild_known : ∀ op ∈ [startBoss, startChild], KernelOp asciiLibrary op := by
  simp [startBoss, startChild, startOne, KernelOp.startAll]

/-- The start of the child is about to record the loss. -/
def losingWorld : ScriptWorld :=
  nativeLostScript.run [startBoss, startChild] (steps 0 100 ++ steps 1 31)

set_option maxRecDepth 100000 in
theorem native_loss_told :
    ∃ (β : Type) (tx : Tx β), tx.loses.isSome ∧ tx.TellsLoss losingWorld.shared.store := by
  have reached : Reachable (kernel asciiLibrary nativeLostScript.executor) anyEvent losingWorld :=
    nativeLostScript.run_reachable startChild_known _
  have losing : (losingWorld.pending 1).any fun tx =>
      tx.2.loses.isSome && !tx.2.hidesLoss losingWorld.shared.store := by decide +kernel
  obtain ⟨β, tx, k, at_tx, known⟩ := World.pending_passes losing
  simp only [Bool.and_eq_true, Bool.not_eq_true'] at known
  exact ⟨β, tx, known.1, (losses_told_iff reached at_tx).mpr known.2⟩

set_option maxRecDepth 100000 in
theorem expired_child_untold :
    ¬ ∀ (w : ScriptWorld) (p : ℕ) (β : Type) (tx : Tx β) (k : β → Kernel Unit),
      Reachable (kernel asciiLibrary lostScript.executor) anyEvent w →
      w.procs p = some (.commit tx k) → tx.TellsLoss w.shared.store := by
  intro all
  have reached : Reachable (kernel asciiLibrary lostScript.executor) anyEvent sweptWorld :=
    lostScript.run_reachable lostOps_known _
  have untold : (sweptWorld.pending 2).any
      fun tx => ¬ tx.2.TellsLoss sweptWorld.shared.store := by decide +kernel
  obtain ⟨β, tx, k, at_tx, missed⟩ := World.pending_passes untold
  exact of_decide_eq_true missed (all sweptWorld 2 β tx k reached at_tx)

end SightMesh
