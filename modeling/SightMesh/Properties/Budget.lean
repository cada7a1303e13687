import SightMesh.Properties.Lifecycle

/-! The attempt budget of a task. -/
namespace SightMesh

open Concurrency Database Python

variable {γ β : Type} {py : Library} {x : Executor γ} {H : Set LockKey}
  {s : Shared Tx Query Store γ}

/-- The attempts of a row are below its limit until it is exhausted. -/
def TaskRow.WithinBudget (row : TaskRow) : Prop :=
  row.attempts ≤ row.maxAttempts ∧ (row.state ≠ .exhausted → row.attempts < row.maxAttempts)

def Store.WithinBudget (db : Store) : Prop := ∀ row ∈ db.tasks.rows, row.WithinBudget

instance (row : TaskRow) : Decidable row.WithinBudget :=
  inferInstanceAs (Decidable (_ ∧ _))

instance (db : Store) : Decidable db.WithinBudget :=
  inferInstanceAs (Decidable (∀ row ∈ db.tasks.rows, row.WithinBudget))

/-- A manual replacement that takes over an automatic recovery finds an attempt left after the one
it charges. -/
def affordsRecovery (s : Shared Tx Query Store γ) : Event Tx Query → Bool
  | .commit (.resumeReplacement seen _ true _) _ =>
    (s.store.task seen.taskId).all fun row =>
      row.state ≠ .replacing || row.version ≠ seen.version || row.attempts + 1 < row.maxAttempts
  | _ => true

theorem ne_exhausted_of_live {state : TaskState} (live : state ∈ liveStates) :
    state ≠ .exhausted := by
  rintro rfl
  exact absurd live (by decide)

/-- A finish charges an attempt that was left, and exhausts the row with the last. -/
theorem Lifecycle.finished_budget {l : Lifecycle} {maxAttempts : ℕ} {state : TaskState}
    {result : Option String} {charge : Bool} (left : l.attempts < maxAttempts) :
    (l.finished maxAttempts state result charge).attempts ≤ maxAttempts ∧
      ((l.finished maxAttempts state result charge).state ≠ .exhausted →
        (l.finished maxAttempts state result charge).attempts < maxAttempts) := by
  unfold Lifecycle.finished
  split
  · split
    · exact ⟨left, fun other => absurd rfl other⟩
    · rename_i more
      exact ⟨left, fun _ => by simpa using more⟩
  · split
    · exact ⟨left, fun other => absurd rfl other⟩
    · exact ⟨left.le, fun _ => left⟩

theorem Tx.Assigns.withinBudget {tx : Tx β} {answer : β} {row : TaskRow} {l : Lifecycle}
    (assigned : tx.Assigns row.toIdentity row.toLifecycle l answer) (issued : Issued py H s tx)
    (afforded : affordsRecovery s (.commit tx answer)) (known : s.store.task row.taskId = some row)
    (within : row.WithinBudget) :
    l.attempts ≤ row.maxAttempts ∧ (l.state ≠ .exhausted → l.attempts < row.maxAttempts) := by
  have left (live : row.state ≠ .exhausted) : row.attempts < row.maxAttempts := within.2 live
  cases tx with
  | activate =>
    rcases answer with _ | _
    · exact assigned.elim
    obtain ⟨_, before, rfl⟩ := assigned
    have left := left fun same => absurd (same ▸ before) (by decide)
    exact ⟨left.le, fun _ => left⟩
  | prepareReplacement seen target charge now =>
    rcases answer with _ | _
    · exact assigned.elim
    obtain ⟨named, _, version, unspent, rfl⟩ := assigned
    obtain ⟨_, snapshot, charged⟩ := issued
    obtain ⟨row', found, identity, _, _, still⟩ := snapshot
    rw [← named] at found
    cases Option.some.inj (known.symm.trans found)
    cases charge with
    | false => exact ⟨unspent.le, fun _ => unspent⟩
    | true =>
      obtain ⟨_, more, _⟩ := charged rfl
      rw [← congrArg Lifecycle.attempts (still version),
        ← congrArg Identity.maxAttempts identity] at more
      exact ⟨more.le, fun _ => more⟩
  | resumeReplacement seen target automatic now =>
    rcases answer with _ | _
    · exact assigned.elim
    obtain ⟨named, replacing, version, rfl⟩ := assigned
    have left := left fun same => nomatch same.symm.trans replacing
    cases automatic with
    | false => exact ⟨left.le, fun _ => left⟩
    | true =>
      have more : row.attempts + 1 < row.maxAttempts := by
        simpa [affordsRecovery, ← named, known, replacing, version] using afforded
      exact ⟨more.le, fun _ => more⟩
  | reissue =>
    rcases answer with _ | _
    · exact assigned.elim
    obtain ⟨_, lost, _, rfl⟩ := assigned
    have left := left fun same => nomatch same.symm.trans lost
    exact ⟨left.le, fun _ => left⟩
  | checkpointRow | checkpointOccurrence =>
    rcases answer with _ | _
    · exact assigned.elim
    obtain ⟨_, live, _, rfl⟩ := assigned
    have left := left (ne_exhausted_of_live live)
    exact ⟨left.le, fun _ => left⟩
  | finish | finishExpired | recordLoss =>
    rcases answer with _ | _
    · exact assigned.elim
    obtain ⟨_, finishable, rfl⟩ := assigned
    exact Lifecycle.finished_budget (left (ne_exhausted_of_live finishable.live))
  | _ => exact assigned.elim

/-- One transaction keeps every row within its budget. -/
theorem withinBudget_after {tx : Tx β} (issued : Issued py H s tx)
    (afforded : affordsRecovery s (.commit tx (tx.exec s.store).2))
    (within : s.store.WithinBudget) : (Shared.after s tx).store.WithinBudget := by
  intro next mem
  have known : (tx.exec s.store).1.task next.taskId = some next := Table.get_of_mem mem
  obtain ⟨row, before, step⟩ | ⟨_, inserted⟩ := tx.task_after known
  · have named : row.taskId = next.taskId := Store.taskId_of_task before
    have within := within row (Table.mem_of_get before)
    have limit : next.maxAttempts = row.maxAttempts :=
      congrArg Identity.maxAttempts step.identity
    obtain same | ⟨l, assigned, moved⟩ := step.lifecycle
    · have attempts : next.attempts = row.attempts := congrArg Lifecycle.attempts same
      have state : next.state = row.state := congrArg Lifecycle.state same
      rw [TaskRow.WithinBudget, attempts, state, limit]
      exact within
    · have attempts : next.attempts = l.attempts := by rw [moved]
      have state : next.state = l.state := by rw [moved]
      rw [TaskRow.WithinBudget, attempts, state, limit]
      exact assigned.withinBudget issued afforded (named ▸ before) within
  · cases tx with
    | reserveAll =>
      obtain ⟨_, _, rfl⟩ := inserted
      exact ⟨Nat.zero_le _, fun _ => issued.1⟩
    | _ => exact inserted.elim

/-- Where every recovery taken over can be afforded, every row stays within its budget. -/
theorem reachable_within_budget {w : KernelWorld γ}
    (reached : Reachable (kernel py x) (fun s e => affordsRecovery s e) w) :
    w.shared.store.WithinBudget :=
  run_invariant (fun s => s.store.WithinBudget) (fun _ _ _ mem => nomatch mem)
    (fun _ issued afforded within => withinBudget_after issued afforded within)
    (fun _ _ within => within) reached

def spentScript : Script :=
  { Script.calm with
    launch := fun taskId epoch => if epoch = 3 then noAnswer else launched taskId epoch
    processes := [failedProcess "quota_exhausted"] }

def spentOps : List (Kernel Unit) :=
  [startWorker, reconcileProviderOutcome asciiLibrary "owner" (sessionOf workerId 1),
    reconcileProviderOutcome asciiLibrary "owner" (sessionOf workerId 2),
    replace asciiLibrary "owner" none "worker" (some "go on")]

theorem spentOps_known : ∀ op ∈ spentOps, KernelOp asciiLibrary op := by
  simp [spentOps, startWorker, startOne, KernelOp.startAll, KernelOp.reconcileProviderOutcome,
    KernelOp.replace]

set_option maxRecDepth 100000 in
theorem recoveries_within_budget :
    (spentScript.run spentOps (steps 0 60 ++ steps 1 80 ++ steps 2 80)).shared.store.WithinBudget ∧
      (spentScript.run spentOps (steps 0 60 ++ steps 1 80 ++ steps 2 80)).shared.store.tasks.rows.map
        (fun r => (r.state, r.epoch, r.attempts)) = [(.replacing, 3, 2)] :=
  ⟨reachable_within_budget (spentScript.run_allowed spentOps_known (by decide +kernel)),
    by decide +kernel⟩

set_option maxRecDepth 100000 in
/-- A manual replacement of the second recovery spends the last attempt and leaves the row live. -/
theorem replacement_exceeds_budget :
    ¬ ∀ w : ScriptWorld, Reachable (kernel asciiLibrary spentScript.executor) anyEvent w →
      w.shared.store.WithinBudget := by
  intro all
  have within := all _ (spentScript.run_reachable spentOps_known
    (steps 0 60 ++ steps 1 80 ++ steps 2 80 ++ steps 3 80))
  revert within
  decide +kernel

end SightMesh
