import SightMesh.Properties.Lifecycle

/-! The child limit of a row, its column against its specification. -/
namespace SightMesh

open Concurrency Database Python

variable {β γ : Type} {py : Library} {x : Executor γ} {H : Set LockKey}
  {s : Shared Tx Query Store γ}

/-- The column is the number of children the specification asks for. -/
def TaskRow.LimitMatches (row : TaskRow) : Prop := row.childLimit = row.spec.children

instance : DecidablePred TaskRow.LimitMatches := fun _ => instDecidableEqNat _ _

def Store.LimitsMatch (db : Store) : Prop := ∀ row ∈ db.tasks.rows, row.LimitMatches

instance : DecidablePred Store.LimitsMatch := fun db =>
  inferInstanceAs (Decidable (∀ row ∈ db.tasks.rows, row.LimitMatches))

/-- An expired reservation is issued again with another number of children than its column. -/
def Tx.resizes (db : Store) : Tx β → Bool
  | .reissue seen resolvedSpec _ => (db.task seen.taskId).any fun row =>
    row.state = .lost && row.version = seen.version && resolvedSpec.children ≠ row.childLimit
  | _ => false

/-- Every other transition keeps the number of children of the specification. -/
theorem Tx.Assigns.children {tx : Tx β} {answer : β} {row : TaskRow} {l : Lifecycle}
    (assigned : tx.Assigns row.toIdentity row.toLifecycle l answer) (issued : Issued py H s tx)
    (known : s.store.task row.taskId = some row) (spared : tx.resizes s.store = false) :
    l.spec.children = row.spec.children ∨ l.spec.children = row.childLimit := by
  cases tx with
  | activate | checkpointRow | checkpointOccurrence =>
    rcases answer with _ | _
    · exact assigned.elim
    first
      | obtain ⟨_, _, rfl⟩ := assigned
        exact .inl rfl
      | obtain ⟨_, _, _, rfl⟩ := assigned
        exact .inl rfl
  | prepareReplacement seen target chargeFailure now =>
    rcases answer with _ | _
    · exact assigned.elim
    obtain ⟨_, _, _, _, rfl⟩ := assigned
    left
    cases target <;> rfl
  | resumeReplacement seen target automatic now =>
    rcases answer with _ | _
    · exact assigned.elim
    obtain ⟨named, _, version, rfl⟩ := assigned
    obtain ⟨_, other, found, _, _, _, still⟩ := issued
    rw [show row.taskId = seen.taskId from named] at known
    cases Option.some.inj (known.symm.trans found)
    have same : row.spec = seen.spec := congrArg Lifecycle.spec (still version)
    left
    change seen.spec.children = row.spec.children
    rw [same]
  | reissue seen resolvedSpec now =>
    rcases answer with _ | _
    · exact assigned.elim
    obtain ⟨named, lost, version, rfl⟩ := assigned
    rw [show row.taskId = seen.taskId from named] at known
    right
    change resolvedSpec.children = row.childLimit
    simpa [Tx.resizes, known, show row.state = .lost from lost,
      show row.version = seen.version from version] using spared
  | finish | finishExpired | recordLoss =>
    rcases answer with _ | _
    · exact assigned.elim
    obtain ⟨_, _, rfl⟩ := assigned
    left
    unfold Lifecycle.finished
    split <;> split <;> rfl
  | _ => exact assigned.elim

theorem limitsMatch_after {tx : Tx β} (issued : Issued py H s tx)
    (spared : tx.resizes s.store = false) (before : s.store.LimitsMatch) :
    (Shared.after s tx).store.LimitsMatch := by
  intro next listed
  obtain ⟨row, known, step⟩ | ⟨_, inserted⟩ := tx.task_after (Table.get_of_mem listed)
  · have named : row.taskId = next.taskId := Store.taskId_of_task known
    have matched : row.childLimit = row.spec.children := before row (Table.mem_of_get known)
    have limit : next.childLimit = row.childLimit := congrArg Identity.childLimit step.identity
    rw [TaskRow.LimitMatches, limit]
    obtain same | ⟨l, assigned, moved⟩ := step.lifecycle
    · rw [show next.spec = row.spec from congrArg Lifecycle.spec same]
      exact matched
    · rw [show next.spec = l.spec by rw [moved]]
      rw [show next.id = row.taskId from named.symm] at known
      obtain kept | resized := assigned.children issued known spared
      · exact matched.trans kept.symm
      · exact resized.symm
  · cases tx with
    | reserveAll =>
      obtain ⟨_, _, rfl⟩ := inserted
      rfl
    | _ => exact inserted.elim

/-- A transaction that resizes a row leaves its two copies apart. -/
theorem Tx.resizes_apart {tx : Tx β} {db : Store} (resizes : tx.resizes db = true) :
    ¬ (tx.exec db).1.LimitsMatch := by
  cases tx with
  | reissue seen resolvedSpec now =>
    rw [Tx.resizes] at resizes
    cases known : db.task seen.taskId with
    | none => simp [known] at resizes
    | some row =>
      simp only [known, Option.any_some, Bool.and_eq_true, decide_eq_true_eq] at resizes
      obtain ⟨⟨lost, version⟩, apart⟩ := resizes
      have accepted : row.state ∈ [TaskState.lost] ∧
          (some seen.version = none ∨ some seen.version = some row.version) ∧
          db.holderTaken (row.moved (Lifecycle.reissued resolvedSpec) id now) = false :=
        ⟨by simp [lost], .inr (congrArg some version.symm), rfl⟩
      have exec : ((Tx.reissue seen resolvedSpec now).exec db).1 =
          db.putTask (row.moved (Lifecycle.reissued resolvedSpec) id now) :=
        (transaction_exec known).trans (if_pos accepted)
      intro all
      have written := Store.task_putTask_self db (row.moved (Lifecycle.reissued resolvedSpec) id now)
      rw [← exec] at written
      exact apart (all _ (Table.mem_of_get written)).symm
  | _ => exact nomatch resizes

def keepsChildren (s : Shared Tx Query Store γ) : Event Tx Query → Bool
  | .commit tx _ => !tx.resizes s.store
  | .call _ _ => true

/-- In every run that issues no expired reservation again with another number of children, the
limit of every row is the one its specification asks for; and where it is, the next commit keeps it
so if and only if it is no such reissue. -/
theorem childLimits_follow_specs {w : KernelWorld γ}
    (reached : Reachable (kernel py x) (fun s e => keepsChildren s e) w) :
    w.shared.store.LimitsMatch ∧ ∀ (p : ℕ) (β : Type) (tx : Tx β) (k : β → Kernel Unit),
      w.procs p = some (.commit tx k) →
        ((tx.exec w.shared.store).1.LimitsMatch ↔ tx.resizes w.shared.store = false) := by
  have holds : w.shared.store.LimitsMatch := by
    refine run_invariant (fun s => s.store.LimitsMatch) (fun _ _ _ mem => nomatch mem)
      (fun _ issued kept before => ?_) (fun _ _ before => before) reached
    exact limitsMatch_after issued (by simpa [keepsChildren] using kept) before
  refine ⟨holds, fun p β tx k pending => ⟨fun after => ?_, fun spared => ?_⟩⟩
  · by_contra resizes
    exact Tx.resizes_apart (Bool.not_eq_false _ ▸ resizes) after
  · have issued := reachable_issued (reached.mono fun _ _ _ => trivial) pending
    exact limitsMatch_after issued spared holds

def expiringScript : Script :=
  { Script.calm with
    tick := 1000
    launch := fun _ _ => noAnswer }

def restartedOps (children : ℤ) : List (Kernel Unit) :=
  [startWorker, sweepAdmission asciiLibrary, startOne none "worker" children]

theorem restartedOps_known (children : ℤ) : ∀ op ∈ restartedOps children,
    KernelOp asciiLibrary op := by
  simp [restartedOps, startWorker, startOne, KernelOp.startAll, KernelOp.sweepAdmission]

set_option maxRecDepth 100000 in
/-- The same specification again is the same limit. -/
theorem restarted_alike :
    (expiringScript.run (restartedOps 0)
      (steps 0 60 ++ steps 1 60 ++ steps 2 60)).shared.store.LimitsMatch :=
  (childLimits_follow_specs
    (expiringScript.run_allowed (restartedOps_known 0) (by decide +kernel))).1

set_option maxRecDepth 100000 in
/-- The worker may start two children by its specification, and none by its column. -/
theorem restarted_larger :
    ¬ ∀ w : ScriptWorld, Reachable (kernel asciiLibrary expiringScript.executor) anyEvent w →
      w.shared.store.LimitsMatch := by
  intro all
  have matched := all _ (expiringScript.run_reachable (restartedOps_known 2)
    (steps 0 60 ++ steps 1 60 ++ steps 2 60))
  revert matched
  decide +kernel

end SightMesh
