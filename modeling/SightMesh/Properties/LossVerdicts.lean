import SightMesh.Properties.LossRecording

/-! The two passes that record losses, against the verdict of the classifier on the evidence they
gathered. -/
namespace SightMesh

open Concurrency Database Python Prog

variable {γ α β : Type} {py : Library} {x : Executor γ}
  {ok : Shared Tx Query Store γ → Event Tx Query → Prop} {s s' : Shared Tx Query Store γ}

/-! ### The verdict -/

/-- A typed marker of a loss. -/
def ProgressEvidence.marked (evidence : ProgressEvidence) : Bool :=
  evidence.lostReason.any (· ≠ "")

theorem classify_lost_iff (evidence : ProgressEvidence) (now : Time) (policy : DetectionPolicy) :
    classify evidence now policy = .lost ↔ evidence.marked ∧ evidence.processAlive = false := by
  unfold classify ProgressEvidence.marked
  split
  · rename_i lost
    simpa using lost
  · rename_i alive
    have other : ¬ (evidence.lostReason.any (· ≠ "") ∧ evidence.processAlive = false) := by
      simpa using alive
    refine ⟨fun lost => ?_, fun lost => absurd lost other⟩
    repeat' split at lost
    all_goals exact nomatch lost

theorem present_isNone_iff (evidence : ProgressEvidence) :
    (present evidence.lostReason).isNone ↔ evidence.marked = false := by
  unfold present ProgressEvidence.marked
  cases evidence.lostReason with
  | none => simp
  | some reason => simp [Option.filter]

/-! ### The two paths -/

inductive LossPath where
  | sweep | detector

def LossPath.program (py : Library) (baseline : TaskId → Option ℕ) (task : TaskRecord) :
    LossPath → Kernel Unit
  | sweep => sweepLoss py task
  | detector => detectOne py baseline task

/-- How a path gathers its evidence: the sweep reads the row again, the detector remembers the
output of earlier passes. -/
def LossPath.gathering (py : Library) (baseline : TaskId → Option ℕ) (task : TaskRecord) :
    LossPath → Kernel ProgressEvidence
  | sweep => do
    let _ ← read (·.getById task.taskId)
    let now ← clock
    gatherEvidence py (task.holderSessionId.getD "None") now task.checkpointAt none
  | detector => do
    let now ← clock
    gatherEvidence py (task.holderSessionId.getD "None") now task.checkpointAt
      (baseline task.taskId)

/-- What a path takes for a loss: the sweep does not ask whether a process is running. -/
def LossPath.declares (evidence : ProgressEvidence) : LossPath → Bool
  | sweep => evidence.marked
  | detector => evidence.marked && !evidence.processAlive

def Tx.Reads : Tx β → Prop
  | .read _ => True
  | _ => False

theorem Tx.Reads.still {tx : Tx β} (reads : tx.Reads) (db : Store) : (tx.exec db).1 = db := by
  cases tx with
  | read => rfl
  | _ => exact reads.elim

theorem reads_ends {p : Kernel α} {r : Answer α} (issues : p.Issues (@Tx.Reads))
    (run : p.Ends (kernel py x) ok s r s') : s'.store = s.store :=
  Ends.moves (S := kernel py x) (R := fun a b => b = a) (fun _ => rfl)
    (fun _ _ _ first second => second.trans first) (fun _ db reads => reads.still db) issues run

theorem issues_safely (q : Query (Answer β)) : (safely q).Issues (@Tx.Reads) := by
  refine Issues.bind (.ask _) fun b => ?_
  cases b <;> trivial

theorem issues_lift (a : Answer β) : (lift a).Issues (@Tx.Reads) := by
  cases a <;> trivial

theorem issues_gatherEvidence (sessionId : SessionId) (now : Time) (checkpointAt : Option Time)
    (bytes : Option ℕ) :
    (gatherEvidence py sessionId now checkpointAt bytes).Issues (@Tx.Reads) := by
  have snapshot (current : Option Dict) : (readSnapshot py current).Issues (@Tx.Reads) := by
    unfold readSnapshot
    split
    · trivial
    · refine (issues_safely _).bind fun found => ?_
      split <;> trivial
  have mail (typed : Dict) : (readQueuedMail sessionId typed).Issues (@Tx.Reads) := by
    unfold readQueuedMail
    split
    · refine (issues_safely _).bind fun found => ?_
      split
      · trivial
      · exact issues_lift _
    · trivial
  refine (issues_safely _).bind fun rows => ?_
  dsimp only
  split
  · exact (issues_lift _).bind fun _ => trivial
  · refine (issues_lift _).bind fun measured => (issues_lift _).bind fun current => ?_
    refine (snapshot current).bind fun found => (issues_lift _).bind fun counted => ?_
    exact (mail _).bind fun _ => trivial

theorem LossPath.issues_gathering (baseline : TaskId → Option ℕ) (task : TaskRecord)
    (path : LossPath) : (path.gathering py baseline task).Issues (@Tx.Reads) := by
  cases path with
  | sweep =>
    exact (issues_read trivial).bind fun _ => issues_clock.bind fun _ =>
      issues_gatherEvidence _ _ _ _
  | detector => exact issues_clock.bind fun _ => issues_gatherEvidence _ _ _ _

/-! ### What is done with the evidence -/

def Tx.Harmless : Tx β → Prop
  | .finish _ _ state _ charge _ => state ∉ lostStates ∧ charge = false
  | .finishExpired .. | .recordLoss .. => False
  | _ => True

/-- A row that is not lost stays so. -/
def Store.Spared (a b : Store) : Prop :=
  ∀ t row, a.task t = some row → row.state ∉ lostStates →
    ∃ next, b.task t = some next ∧ next.state ∉ lostStates

theorem Store.Spared.refl (db : Store) : db.Spared db :=
  fun _ row known open_ => ⟨row, known, open_⟩

theorem Store.Spared.trans (a b c : Store) (first : a.Spared b) (second : b.Spared c) :
    a.Spared c := by
  intro t row known open_
  obtain ⟨mid, known, open_⟩ := first t row known open_
  exact second t mid known open_

theorem Lifecycle.finished_spared {l : Lifecycle} {maxAttempts : ℕ} {state : TaskState}
    (open_ : state ∉ lostStates) (result : Option String) :
    (l.finished maxAttempts state result false).state ∉ lostStates := by
  have lost : state ≠ .lost := by
    rintro rfl
    exact open_ (by decide)
  have exhausted : state ≠ .exhausted := by
    rintro rfl
    exact open_ (by decide)
  simp only [Lifecycle.finished, lost, exhausted, Bool.false_eq_true, or_self, if_false]
  exact open_

theorem Tx.Harmless.spared {tx : Tx β} (harmless : tx.Harmless) (db : Store) :
    db.Spared (tx.exec db).1 := by
  intro t row known open_
  obtain ⟨next, found, step⟩ := tx.exec_task known
  refine ⟨next, found, ?_⟩
  rcases step.lifecycle with same | ⟨l, assigned, moved⟩
  · rw [show next.state = row.state from congrArg Lifecycle.state same]
    exact open_
  rw [show next.state = l.state from by rw [moved]]
  generalize (tx.exec db).2 = answer at assigned
  cases tx with
  | activate =>
    rcases answer with _ | _
    · exact assigned.elim
    obtain ⟨_, _, rfl⟩ := assigned
    simp [Lifecycle.activated, lostStates]
  | prepareReplacement =>
    rcases answer with _ | _
    · exact assigned.elim
    obtain ⟨_, _, _, _, rfl⟩ := assigned
    simp [Lifecycle.replaced, lostStates]
  | reissue =>
    rcases answer with _ | _
    · exact assigned.elim
    obtain ⟨_, _, _, rfl⟩ := assigned
    simp [Lifecycle.reissued, lostStates]
  | resumeReplacement | checkpointRow | checkpointOccurrence =>
    rcases answer with _ | _
    · exact assigned.elim
    obtain ⟨_, _, _, rfl⟩ := assigned
    exact open_
  | finish site seen state result charge now =>
    rcases answer with _ | _
    · exact assigned.elim
    obtain ⟨_, _, rfl⟩ := assigned
    obtain ⟨target, rfl⟩ := harmless
    exact Lifecycle.finished_spared target result
  | finishExpired | recordLoss => exact harmless.elim
  | _ => exact assigned.elim

theorem harmless_ends {p : Kernel α} {r : Answer α} (issues : p.Issues (@Tx.Harmless))
    (run : p.Ends (kernel py x) ok s r s') : s.store.Spared s'.store :=
  Ends.moves (S := kernel py x) .refl Store.Spared.trans
    (fun _ db harmless => harmless.spared db) issues run

theorem issues_resolveParkedApproval (epoch : ℕ) (task : TaskRecord) (finding : Finding)
    (policy : DetectionPolicy) :
    (resolveParkedApproval epoch task finding policy).Issues (@Tx.Harmless) := by
  unfold resolveParkedApproval
  split
  · trivial
  split
  · trivial
  refine issues_excepting (Issues.withLock ((issues_read trivial).bind fun current => ?_))
    fun _ => trivial
  split
  · trivial
  · exact (issues_stamped fun _ => ⟨by decide, rfl⟩).bind fun _ => trivial

theorem issues_recordObservation (task : TaskRecord) (finding : Finding)
    (policy : DetectionPolicy) :
    (recordObservation py task finding policy).Issues (@Tx.Harmless) := by
  apply Issues.bind
  · apply issues_excepting
    · apply Issues.bind
      · exact .run trivial
      · exact fun _ => trivial
    · exact fun _ => trivial
  intro recorded
  split
  · refine (issues_read trivial).bind fun found => ?_
    split
    · trivial
    · split
      · exact issues_resolveParkedApproval _ _ _ _
      · trivial
  · trivial

theorem issues_applyFinding {task : TaskRecord} {finding : Finding} {policy : DetectionPolicy}
    (other : finding.reason ≠ .lost) :
    (applyFinding py task finding policy).Issues (@Tx.Harmless) := by
  unfold applyFinding
  rw [if_neg other]
  split
  · trivial
  · exact issues_recordObservation task finding policy

/-- How a path goes on from its evidence: it records the loss it declares, and loses nothing
otherwise. -/
def LossPath.GoesOn (py : Library) (x : Executor γ)
    (ok : Shared Tx Query Store γ → Event Tx Query → Prop) (path : LossPath)
    (task : TaskRecord) (evidence : ProgressEvidence) (mid : Shared Tx Query Store γ)
    (r : Answer Unit) (s' : Shared Tx Query Store γ) : Prop :=
  mid.trace <:+ s'.trace ∧
    if path.declares evidence then ∃ finding now env,
      (recordLossOf py task finding).Ends (kernel py x) ok (mid.call .clock now env) r s'
    else mid.store.Spared s'.store

theorem asked_trace {p : Kernel α} {r : Answer α} {q : Query β} {b : β} {env : γ}
    (run : p.Ends (kernel py x) ok (s.call q b env) r s') : s.trace <:+ s'.trace := by
  obtain ⟨events, left⟩ := run.extends
  rw [left]
  exact ((List.suffix_cons _ _).trans (List.suffix_append _ _))

theorem sweepVerdict_ends {baseline : TaskId → Option ℕ} {row : TaskRow}
    {r : Answer (Option Finding)} (known : s.store.task row.taskId = some row)
    (active : row.state = .active)
    (run : (sweepVerdict py row.toTaskRecord).Ends (kernel py x) ok s r s') :
    (∃ e, (LossPath.sweep.gathering py baseline row.toTaskRecord).Ends (kernel py x) ok s
        (.error e) s' ∧ r = .error e) ∨
      ∃ evidence mid, (LossPath.sweep.gathering py baseline row.toTaskRecord).Ends (kernel py x) ok
          s (.ok evidence) mid ∧
        ((evidence.marked = false ∧ r = .ok none ∧ s' = mid) ∨
          ∃ now env, evidence.marked ∧ r = .ok (some ⟨.lost, evidence, now, false⟩) ∧
            s' = mid.call .clock now env) := by
  have read : s.store.getById row.taskId = some row.toTaskRecord := by
    rw [Store.getById, known, Option.map_some]
  obtain ⟨allowed, run⟩ := ends_read_bind.mp (ends_withLock.mp run)
  simp only [read, active, ne_eq, not_true_eq_false, or_self, if_false] at run
  rcases ends_bind.mp run with ⟨evidence, mid, first, run⟩ | ⟨e, first, rfl⟩
  · refine .inr ⟨evidence, mid, ends_read_bind.mpr ⟨allowed, ends_released.mp first⟩, ?_⟩
    split at run
    · rename_i unmarked
      obtain ⟨rfl, rfl⟩ := run
      exact .inl ⟨(present_isNone_iff evidence).mp unmarked, rfl, rfl⟩
    · rename_i marked
      obtain ⟨now, env, _, _, rfl, rfl⟩ := ends_ask_bind.mp run
      have marked : evidence.marked := by
        by_contra unmarked
        exact marked ((present_isNone_iff evidence).mpr (Bool.eq_false_of_not_eq_true unmarked))
      exact .inr ⟨now, env, marked, rfl, rfl⟩
  · exact .inl ⟨e, ends_read_bind.mpr ⟨allowed, ends_released.mp first⟩, rfl⟩

theorem sweepLoss_ends {baseline : TaskId → Option ℕ} {row : TaskRow} {r : Answer Unit}
    (known : s.store.task row.taskId = some row) (active : row.state = .active)
    (run : (sweepLoss py row.toTaskRecord).Ends (kernel py x) ok s r s') :
    (∃ e, (LossPath.sweep.gathering py baseline row.toTaskRecord).Ends (kernel py x) ok s
        (.error e) s') ∨
      ∃ evidence mid, (LossPath.sweep.gathering py baseline row.toTaskRecord).Ends (kernel py x) ok
          s (.ok evidence) mid ∧
        LossPath.sweep.GoesOn py x ok row.toTaskRecord evidence mid r s' := by
  rcases ends_bind.mp run with ⟨found, last, verdict, run⟩ | ⟨e, verdict, rfl⟩
  · rcases sweepVerdict_ends known active verdict with ⟨e, _, failed⟩ |
      ⟨evidence, mid, gathered, ⟨unmarked, same, rfl⟩ | ⟨now, env, marked, same, rfl⟩⟩
    · exact nomatch failed
    · cases same
      obtain ⟨rfl, rfl⟩ := run
      refine .inr ⟨evidence, _, gathered, ?_⟩
      simp only [LossPath.GoesOn, LossPath.declares, unmarked, Bool.false_eq_true, if_false]
      exact ⟨List.suffix_refl _, .refl _⟩
    · cases same
      refine .inr ⟨evidence, mid, gathered, ?_⟩
      simp only [LossPath.GoesOn, LossPath.declares, marked, if_true]
      exact ⟨asked_trace run, _, now, env, run⟩
  · rcases sweepVerdict_ends known active verdict with ⟨e, gathered, _⟩ |
      ⟨evidence, mid, _, ⟨_, failed, _⟩ | ⟨now, env, _, failed, _⟩⟩
    · exact .inl ⟨e, gathered⟩
    · exact nomatch failed
    · exact nomatch failed

theorem detectOne_ends {baseline : TaskId → Option ℕ} {row : TaskRow} {r : Answer Unit}
    (run : (detectOne py baseline row.toTaskRecord).Ends (kernel py x) ok s r s') :
    (∃ e, (LossPath.detector.gathering py baseline row.toTaskRecord).Ends (kernel py x) ok s
        (.error e) s') ∨
      ∃ evidence mid, (LossPath.detector.gathering py baseline row.toTaskRecord).Ends (kernel py x)
          ok s (.ok evidence) mid ∧
        LossPath.detector.GoesOn py x ok row.toTaskRecord evidence mid r s' := by
  obtain ⟨gatheredAt, env, answered, allowed, run⟩ := ends_ask_bind.mp run
  rcases ends_bind.mp run with ⟨evidence, mid, first, run⟩ | ⟨e, first, rfl⟩
  swap
  · exact .inl ⟨e, ends_ask_bind.mpr ⟨gatheredAt, env, answered, allowed, first⟩⟩
  refine .inr ⟨evidence, mid, ends_ask_bind.mpr ⟨gatheredAt, env, answered, allowed, first⟩, ?_⟩
  obtain ⟨now, env', _, _, run⟩ := ends_ask_bind.mp run
  refine ⟨asked_trace run, ?_⟩
  by_cases lost : classify evidence now row.spec.detection = .lost
  · have declared := (classify_lost_iff ..).mp lost
    simp only [LossPath.declares, declared.1, declared.2]
    simp only [lost, reduceCtorEq, or_self, if_false, pure_eq, bind_eq, Prog.bind,
      Bool.false_eq_true, applyFinding, if_true] at run
    exact ⟨_, now, env', run⟩
  · have declared : (evidence.marked && !evidence.processAlive) = false := by
      simpa [classify_lost_iff] using lost
    simp only [LossPath.declares, declared, Bool.false_eq_true, if_false]
    have applied (yielding : Bool) : (applyFinding py row.toTaskRecord
        ⟨if yielding then .live else classify evidence now row.spec.detection, evidence, now,
          overBudget evidence row.spec.detection.budget⟩ row.spec.detection).Issues
            (@Tx.Harmless) := by
      apply issues_applyFinding
      dsimp only
      split
      · simp
      · exact lost
    dsimp only at run
    refine harmless_ends (s := mid.call .clock now env') ?_ run
    split
    · exact (issues_read trivial).bind applied
    · exact applied false

theorem LossPath.ends {baseline : TaskId → Option ℕ} {row : TaskRow} {r : Answer Unit}
    (path : LossPath) (known : s.store.task row.taskId = some row) (active : row.state = .active)
    (run : (path.program py baseline row.toTaskRecord).Ends (kernel py x) ok s r s') :
    (∃ e, (path.gathering py baseline row.toTaskRecord).Ends (kernel py x) ok s (.error e) s') ∨
      ∃ evidence mid, (path.gathering py baseline row.toTaskRecord).Ends (kernel py x) ok s
          (.ok evidence) mid ∧
        path.GoesOn py x ok row.toTaskRecord evidence mid r s' := by
  cases path with
  | sweep => exact sweepLoss_ends known active run
  | detector => exact detectOne_ends run

/-! ### Agreement -/

def Lost (t : TaskId) (s : Shared Tx Query Store γ) : Prop :=
  ∃ next, s.store.task t = some next ∧ next.state ∈ lostStates

/-- A run of the path came to this evidence, at the state `mid`. -/
def LossPath.Gathered (py : Library) (x : Executor γ) (baseline : TaskId → Option ℕ)
    (task : TaskRecord) (path : LossPath) (s s' : Shared Tx Query Store γ)
    (evidence : ProgressEvidence) (mid : Shared Tx Query Store γ) : Prop :=
  (path.gathering py baseline task).Ends (kernel py x) anyEvent s (.ok evidence) mid ∧
    mid.trace <:+ s'.trace

/-- The executor does not answer for the commands of the holder, when a loss asks for them. -/
def Unlisted (task : TaskRecord) (mid s' : Shared Tx Query Store γ) : Prop :=
  ∃ holder ∈ present task.holderSessionId, ∃ now e,
    .call (.sessionCommands holder) (.error e) :: .call .clock now :: mid.trace <:+ s'.trace

/-- The loss of the task can be recorded. -/
def LossPath.Records (task : TaskRecord) (s mid s' : Shared Tx Query Store γ) : Prop :=
  s.store.recordable task ∧ ¬ Unlisted task mid s'

/-- A path agrees with the classifier: it loses the task exactly when the classifier says so, of
the evidence the path gathered. -/
def LossPath.Agrees (py : Library) (x : Executor γ) (baseline : TaskId → Option ℕ)
    (task : TaskRecord) (path : LossPath) (s s' : Shared Tx Query Store γ) : Prop :=
  (∀ evidence mid, path.Gathered py x baseline task s s' evidence mid → ∀ now policy,
    (Lost task.taskId s' ↔ classify evidence now policy = .lost)) ∧
  (Lost task.taskId s' → ∃ evidence mid, path.Gathered py x baseline task s s' evidence mid)

/-- Where the agreement needs something: a declared loss is recorded, and it is one. -/
def LossPath.accords (recorded : Prop) (evidence : ProgressEvidence) : LossPath → Prop
  | sweep => evidence.marked → (recorded ↔ evidence.processAlive = false)
  | detector => evidence.marked → evidence.processAlive = false → recorded

theorem spared_not_lost {t : TaskId} {row : TaskRow} (known : s.store.task t = some row)
    (active : row.state = .active) (spared : s.store.Spared s'.store) : ¬ Lost t s' := by
  have open_ : row.state ∉ lostStates := by
    rw [active]
    decide
  rintro ⟨next, found, lost⟩
  obtain ⟨last, found', open_⟩ := spared t row known open_
  cases Option.some.inj (found.symm.trans found')
  exact open_ lost

theorem Listed.unique {holder : SessionId} {answer answer' : Answer (List NativeCommand)}
    (first : Listed holder s s' answer) (second : Listed holder s s' answer') :
    answer = answer' := by
  have same := (List.suffix_of_suffix_length_le first second (by simp)).eq_of_length (by simp)
  cases same
  rfl

/-- A path that goes on from its evidence loses the task if it declares a loss that can be
recorded. -/
theorem LossPath.GoesOn.lost_iff {path : LossPath} {row : TaskRow} {evidence : ProgressEvidence}
    {mid : Shared Tx Query Store γ} {r : Answer Unit}
    (known : s.store.task row.taskId = some row) (active : row.state = .active)
    (parents : ∀ p, row.parentTaskId = some p → p ≠ row.taskId ∧ (s.store.task p).isSome)
    (still : mid.store = s.store)
    (went : path.GoesOn py x ok row.toTaskRecord evidence mid r s') :
    Lost row.taskId s' ↔ path.declares evidence ∧ Records row.toTaskRecord s mid s' := by
  obtain ⟨_, went⟩ := went
  rw [← still] at known
  by_cases declared : path.declares evidence
  swap
  · rw [if_neg declared] at went
    have kept := spared_not_lost known active went
    constructor
    · exact fun lost => absurd lost kept
    · exact fun h => absurd h.1 declared
  rw [if_pos declared] at went
  obtain ⟨finding, now, env, run⟩ := went
  have tasks_same (same : s'.store.tasks = mid.store.tasks) : ¬ Lost row.taskId s' := by
    rintro ⟨next, found, lost⟩
    have same : s'.store.task row.taskId = some row := by
      rw [Store.task, same]
      exact known
    cases Option.some.inj (found.symm.trans same)
    rw [active] at lost
    exact absurd lost (by decide)
  have parents' : ∀ p, row.parentTaskId = some p → p ≠ row.taskId ∧ (mid.store.task p).isSome := by
    rw [still]
    exact parents
  have outcome : LossOutcome row (mid.call .clock now env) s' r :=
    recordLossOf_ends (s := mid.call .clock now env) known active parents' run
  cases outcome with
  | unlisted holder e held listed same =>
    have kept := tasks_same (congrArg Store.tasks same)
    constructor
    · exact fun lost => absurd lost kept
    · exact fun h => absurd ⟨holder, held, now, e, listed⟩ h.2.2
  | settled listed recordable settled =>
    obtain ⟨next, found, _, lost⟩ := settled.row
    constructor
    · rintro -
      refine ⟨declared, ?_, ?_⟩
      · have recordable : mid.store.recordable row.toTaskRecord := recordable
        rw [← still]
        exact recordable
      · rintro ⟨holder, held, now', e, other⟩
        obtain ⟨rows, listed⟩ := listed holder held
        have same := (List.suffix_of_suffix_length_le listed other
          (by simp [Shared.call])).eq_of_length (by simp [Shared.call])
        simp at same
    · exact fun _ => ⟨next, found, lost⟩
  | refused listed refused tasks =>
    have kept := tasks_same tasks
    constructor
    · exact fun lost => absurd lost kept
    · intro h
      have refused : mid.store.recordable row.toTaskRecord = false := refused
      rw [still, h.2.1] at refused
      cases refused

/-- Either path agrees with the classifier on an active task exactly where every loss it declares
can be recorded, and, in the sweep, where it cannot be or there is a process. -/
theorem loss_paths_agree_iff {w : KernelWorld γ} (reached : Reachable (kernel py x) anyEvent w)
    {row : TaskRow} (known : w.shared.store.task row.taskId = some row)
    (active : row.state = .active) (path : LossPath) {baseline : TaskId → Option ℕ}
    {r : Answer Unit} {s' : Shared Tx Query Store γ}
    (run : (path.program py baseline row.toTaskRecord).Ends (kernel py x) anyEvent w.shared r s') :
    path.Agrees py x baseline row.toTaskRecord w.shared s' ↔
      ∀ evidence mid, path.Gathered py x baseline row.toTaskRecord w.shared s' evidence mid →
        path.accords (LossPath.Records row.toTaskRecord w.shared mid s') evidence := by
  have sane := reachable_sane reached
  have parents : ∀ p, row.parentTaskId = some p →
      p ≠ row.taskId ∧ (w.shared.store.task p).isSome := fun p parented =>
    sane.parents row.taskId row p known parented
  -- the verdict on any evidence the path gathered
  have told {evidence : ProgressEvidence} {mid : Shared Tx Query Store γ}
      (gathered : path.Gathered py x baseline row.toTaskRecord w.shared s' evidence mid) :
      Lost row.taskId s' ↔
        path.declares evidence ∧ LossPath.Records row.toTaskRecord w.shared mid s' := by
    rcases path.ends known active run with ⟨e, failed⟩ | ⟨other, mid', found, went⟩
    · have same := gathered.1.determined failed rfl rfl gathered.2 (List.suffix_refl _)
      exact nomatch same.1
    · have same := found.determined gathered.1 rfl rfl went.1 gathered.2
      have still := reads_ends (path.issues_gathering baseline row.toTaskRecord) found
      cases same.1
      rw [went.lost_iff known active parents still]
      unfold LossPath.Records Unlisted
      rw [same.2.2]
  constructor
  · rintro ⟨agrees, _⟩ evidence mid gathered
    have lost := told gathered
    rw [agrees evidence mid gathered 0 row.spec.detection, classify_lost_iff] at lost
    cases path with
    | sweep =>
      intro marked
      simpa [LossPath.declares, marked, iff_comm] using lost
    | detector =>
      intro marked quiet
      exact (lost.mp ⟨marked, quiet⟩).2
  · intro accords
    constructor
    · intro evidence mid gathered now policy
      have accord := accords evidence mid gathered
      rw [told gathered, classify_lost_iff]
      cases path with
      | sweep =>
        rw [LossPath.declares]
        exact and_congr_right accord
      | detector =>
        rw [LossPath.declares, Bool.and_eq_true, Bool.not_eq_true']
        exact ⟨And.left, fun verdict => ⟨verdict, accord verdict.1 verdict.2⟩⟩
    · intro lost
      rcases path.ends known active run with ⟨e, failed⟩ | ⟨evidence, mid, found, went⟩
      · have still := reads_ends (path.issues_gathering baseline row.toTaskRecord) failed
        have kept : ¬ Lost row.taskId s' := by
          apply spared_not_lost known active
          rw [still]
          exact .refl _
        exact absurd lost kept
      · exact ⟨evidence, mid, found, went.1⟩

/-! ### Runs of a script -/

def reportingScript (status : String) : Script :=
  { Script.calm with
    processes := [[("id", .str "p1"), ("status", .str status), ("run_reason", .str "codingagent")]]
    snapshot := .ok (.obj [("lost_reason", .str "killed")]) }

def apartWorld (script : Script) : ScriptWorld :=
  (World.boot (Store.initial false) 0 [startWorker]).play (kernel asciiLibrary script.executor)
    script.oracle (steps 0 100)

theorem apartWorld_reachable (script : Script) :
    Reachable (kernel asciiLibrary script.executor) anyEvent (apartWorld script) := by
  have known : ∀ op ∈ [startWorker], KernelOp asciiLibrary op := by
    simp [startWorker, startOne, KernelOp.startAll]
  have booted : Reachable (kernel asciiLibrary script.executor) anyEvent
      (World.boot (Store.initial false) 0 [startWorker]) :=
    World.boot_reachable (S := kernel asciiLibrary script.executor) ⟨false, rfl⟩ _ known
  exact World.play_reachable (fun _ _ => rfl) _ booted

def LossPath.scripted (path : LossPath) (row : TaskRow) : Kernel Unit :=
  path.program asciiLibrary (fun _ => none) row.toTaskRecord

def checkedWorld (script : Script) (path : LossPath) (row : TaskRow) : ScriptWorld :=
  ((apartWorld script).put 1 (path.scripted row)).play (kernel asciiLibrary script.executor)
    script.oracle (steps 1 60)

def listingFailed : Event Tx Query → Bool
  | .call (.sessionCommands _) (.error _) => true
  | _ => false

def isLost (w : ScriptWorld) (t : TaskId) : Bool :=
  (w.shared.store.task t).any fun row => row.state ∈ lostStates

theorem isLost_iff (w : ScriptWorld) (t : TaskId) : isLost w t ↔ Lost t w.shared :=
  Option.any_eq_true ..  |>.trans (by simp [Lost])

set_option maxRecDepth 100000 in
theorem killed_worker_agrees :
    ∃ row ∈ (apartWorld (reportingScript "killed")).shared.store.tasks.rows,
      LossPath.detector.Agrees asciiLibrary (reportingScript "killed").executor (fun _ => none)
        row.toTaskRecord (apartWorld (reportingScript "killed")).shared
        (checkedWorld (reportingScript "killed") .detector row).shared ∧
      Lost row.taskId (checkedWorld (reportingScript "killed") .detector row).shared := by
  have found : ∃ row ∈ (apartWorld (reportingScript "killed")).shared.store.tasks.rows,
      row.state = .active ∧
      (apartWorld (reportingScript "killed")).shared.store.recordable row.toTaskRecord ∧
      (checkedWorld (reportingScript "killed") .detector row).finished 1 ∧
      (checkedWorld (reportingScript "killed") .detector row).shared.trace.any
        listingFailed = false ∧
      isLost (checkedWorld (reportingScript "killed") .detector row) row.taskId := by
    decide +kernel
  obtain ⟨row, mem, active, recordable, ended, listed, lost⟩ := found
  refine ⟨row, mem, ?_, (isLost_iff _ _).mp lost⟩
  refine (loss_paths_agree_iff (apartWorld_reachable _) (Table.get_of_mem mem) active .detector
    (Script.ends_alone _ ended)).mpr ?_
  intro evidence mid _ _ _
  refine ⟨recordable, ?_⟩
  rintro ⟨holder, _, now, e, unanswered⟩
  have mem := unanswered.subset List.mem_cons_self
  rw [List.any_eq_false] at listed
  exact listed _ mem rfl

set_option maxRecDepth 100000 in
/-- The sweep loses a worker whose process is running. -/
theorem running_worker_lost :
    ¬ ∀ (w : ScriptWorld) (row : TaskRow) (path : LossPath) (r : Answer Unit)
        (s' : Shared Tx Query Store ℕ),
      Reachable (kernel asciiLibrary (reportingScript "running").executor) anyEvent w →
      w.shared.store.task row.taskId = some row → row.state = .active →
      (path.scripted row).Ends (kernel asciiLibrary (reportingScript "running").executor) anyEvent
        w.shared r s' →
      path.Agrees asciiLibrary (reportingScript "running").executor (fun _ => none)
        row.toTaskRecord w.shared s' := by
  intro all
  have found : ∃ row ∈ (apartWorld (reportingScript "running")).shared.store.tasks.rows,
      row.state = .active ∧
      (checkedWorld (reportingScript "running") .sweep row).finished 1 ∧
      isLost (checkedWorld (reportingScript "running") .sweep row) row.taskId ∧
      (((LossPath.sweep.gathering asciiLibrary (fun _ => none) row.toTaskRecord).alone
        (kernel asciiLibrary (reportingScript "running").executor)
        (reportingScript "running").oracle
        (apartWorld (reportingScript "running")).shared).1.toOption.all
          ProgressEvidence.processAlive) := by
    decide +kernel
  obtain ⟨row, mem, active, ended, lost, alive⟩ := found
  have lost := (isLost_iff _ _).mp lost
  have agrees := all _ row .sweep _ _ (apartWorld_reachable _) (Table.get_of_mem mem) active
    (Script.ends_alone _ ended)
  obtain ⟨evidence, mid, gathered⟩ := agrees.2 lost
  have verdict := (agrees.1 evidence mid gathered 0 row.spec.detection).mp lost
  have result := gathered.1.alone fun _ _ _ _ answered => answered
  rw [result] at alive
  have alive : evidence.processAlive = true := alive
  have dead := ((classify_lost_iff ..).mp verdict).2
  exact nomatch alive.symm.trans dead

end SightMesh
