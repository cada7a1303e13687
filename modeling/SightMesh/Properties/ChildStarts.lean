import SightMesh.Discipline.Operations
import SightMesh.Kernel.Batches
import SightMesh.Programs.Scripted

/-! Children started under a parent that has ended meanwhile. -/
namespace SightMesh

open Concurrency Database Python

variable {β γ : Type} {py : Library} {x : Executor γ}

/-- The parent of the rows the transaction inserts. -/
def Tx.startsUnder : Tx β → Option TaskId
  | .reserveAll _ parentTaskId .. => parentTaskId
  | _ => none

/-- Every row the transaction inserts under a parent finds that parent active. -/
def Tx.StartsUnderActive (tx : Tx β) (db : Store) : Prop :=
  ∀ t row, db.task t = none → (tx.exec db).1.task t = some row →
    ∀ p, row.parentTaskId = some p → ∃ parent, db.task p = some parent ∧ parent.state = .active

/-- A batch with a new key is not refused, and its parent is active no more. -/
def Tx.startsUnderEnded (db : Store) : Tx β → Bool
  | .reserveAll scope (some p) specs _ _ =>
    db.admits scope (some p) specs &&
      specs.any (fun spec => (db.findByKey scope spec.key).isNone) &&
      (db.task p).any fun parent => parent.state ≠ .active
  | _ => false

theorem Tx.exec_insert_parent {tx : Tx β} {db : Store} {t : TaskId} {row : TaskRow}
    (absent : db.task t = none) (known : (tx.exec db).1.task t = some row) :
    row.parentTaskId = tx.startsUnder := by
  obtain ⟨inserted, _⟩ := tx.exec_insert absent known
  cases tx with
  | reserveAll =>
    obtain ⟨spec, _, rfl⟩ := inserted
    rfl
  | _ => exact inserted.elim

/-- A batch that was admitted has a new key, if it inserts a row at all. -/
theorem reserveAll_admitted {scope : String} {parentTaskId : Option TaskId} {specs : List TaskSpec}
    {maxAttempts : ℕ} {now : Time} {db : Store} {t : TaskId} {row : TaskRow}
    (absent : db.task t = none)
    (known : ((Tx.reserveAll scope parentTaskId specs maxAttempts now).exec db).1.task t = some row) :
    db.admits scope parentTaskId specs = true ∧
      specs.any (fun spec => (db.findByKey scope spec.key).isNone) = true := by
  rw [reserveAll_exec] at known
  split at known
  · rename_i admitted
    refine ⟨admitted, ?_⟩
    by_contra none_new
    have found : ∀ spec ∈ specs, (db.findByKey scope spec.key).isSome := by
      intro spec listed
      rw [Option.isSome_iff_ne_none]
      intro missing
      apply none_new
      rw [List.any_eq_true]
      exact ⟨spec, listed, by rw [missing]; rfl⟩
    rw [Store.insertNew_known found] at known
    exact nomatch absent.symm.trans known
  · exact nomatch absent.symm.trans known

theorem Store.admits_accepts {db : Store} {scope : String} {parentTaskId : Option TaskId}
    {specs : List TaskSpec} (admitted : db.admits scope parentTaskId specs = true) :
    db.AcceptsAll scope specs := by
  simp only [Store.admits, Bool.and_eq_true, decide_eq_true_eq, List.all_eq_true] at admitted
  exact ⟨admitted.1.1, admitted.2⟩

theorem Tx.StartsUnderActive.spared {tx : Tx β} {db : Store} (active : tx.StartsUnderActive db) :
    tx.startsUnderEnded db = false := by
  by_contra ended
  rw [Bool.not_eq_false] at ended
  cases tx with
  | reserveAll scope parentTaskId specs maxAttempts now =>
    cases parentTaskId with
    | none => cases ended
    | some p =>
      simp only [Tx.startsUnderEnded, Bool.and_eq_true, List.any_eq_true, Option.isNone_iff_eq_none,
        Option.any_eq_true, decide_eq_true_eq] at ended
      obtain ⟨⟨admitted, spec, listed, missing⟩, parent, known, ended⟩ := ended
      have accepts := Store.admits_accepts admitted
      have absent : db.task (taskIdOf scope spec.key) = none := by
        have accepted := accepts.accepted spec listed
        rw [Store.acceptsSpec, missing, Option.isNone_iff_eq_none] at accepted
        exact accepted
      have inserted : ((Tx.reserveAll scope (some p) specs maxAttempts now).exec db).1.task
          (taskIdOf scope spec.key) = some (.reserved scope (some p) maxAttempts spec now) := by
        rw [reserveAll_exec, if_pos admitted]
        exact accepts.inserts listed missing
      obtain ⟨parent', known', state⟩ := active _ _ absent inserted p rfl
      cases Option.some.inj (known.symm.trans known')
      exact ended state
  | _ => cases ended

/-- The parent is looked up only where it has a name. -/
theorem startsUnderActive_iff {tx : Tx β} {db : Store}
    (named : ∀ p, tx.startsUnder = some p → p ≠ "") :
    tx.StartsUnderActive db ↔ tx.startsUnderEnded db = false := by
  constructor
  · exact Tx.StartsUnderActive.spared
  · intro spared t row absent known p parented
    obtain ⟨inserted, parents⟩ := tx.exec_insert absent known
    have under := Tx.exec_insert_parent absent known
    cases tx with
    | reserveAll scope parentTaskId specs maxAttempts now =>
      obtain rfl : parentTaskId = some p := under.symm.trans parented
      have looked_up : present row.parentTaskId = some p := by
        rw [parented, present_of_ne (named p rfl)]
      obtain ⟨parent, found⟩ := Option.isSome_iff_exists.mp (parents p looked_up)
      obtain ⟨admitted, new⟩ := reserveAll_admitted absent known
      refine ⟨parent, found, ?_⟩
      simpa [Tx.startsUnderEnded, admitted, new, found] using spared
    | _ => exact inserted.elim

/-- In every interleaving, the parent of a start batch was active at some time before the commit of
the batch; and the commit inserts no row under a parent that is not active if and only if the parent
is active still, or the batch is refused, or all its keys exist. -/
theorem children_started_iff {w : World KernelError Tx Query LockKey Store γ}
    (reached : Reachable (kernel py x) anyEvent w) {i : ℕ} {tx : Tx β} {k : β → Kernel Unit}
    (pending : w.procs i = some (.commit tx k)) :
    (∀ p, tx.startsUnder = some p → WasActive w.shared.store.ownershipShared w.shared.trace p) ∧
      (tx.StartsUnderActive w.shared.store ↔ tx.startsUnderEnded w.shared.store = false) := by
  have were : ∀ p, tx.startsUnder = some p →
      WasActive w.shared.store.ownershipShared w.shared.trace p := by
    intro p parented
    have issued := reachable_issued reached pending
    cases tx with
    | reserveAll => exact issued.2 p parented
    | _ => exact nomatch parented
  exact ⟨were, startsUnderActive_iff fun p parented => (were p parented).named⟩

/-- The boss starts its child, and completes. -/
def bossOps : List (Kernel Unit) :=
  [startBoss, startChild, complete (some (sessionOf bossId 1)) none none]

theorem bossOps_known : ∀ op ∈ bossOps, KernelOp asciiLibrary op := by
  simp [bossOps, startBoss, startChild, startOne, KernelOp.startAll, KernelOp.complete]

def startingWorld : ScriptWorld :=
  Script.calm.run bossOps (steps 0 100 ++ steps 1 9)

def endedBossWorld : ScriptWorld :=
  Script.calm.run bossOps (steps 0 100 ++ steps 1 8 ++ steps 2 40 ++ steps 1 1)

set_option maxRecDepth 100000 in
theorem active_boss_starts :
    ∃ (β : Type) (tx : Tx β), tx.startsUnder = some bossId ∧
      tx.StartsUnderActive startingWorld.shared.store := by
  have reached : Reachable (kernel asciiLibrary Script.calm.executor) anyEvent startingWorld :=
    Script.calm.run_reachable bossOps_known _
  have starting : (startingWorld.pending 1).any fun tx =>
      tx.2.startsUnder = some bossId && !tx.2.startsUnderEnded startingWorld.shared.store := by
    decide +kernel
  obtain ⟨β, tx, k, at_tx, known⟩ := World.pending_passes starting
  simp only [Bool.and_eq_true, decide_eq_true_eq, Bool.not_eq_true'] at known
  exact ⟨β, tx, known.1, (children_started_iff reached at_tx).2.mpr known.2⟩

set_option maxRecDepth 100000 in
/-- The child of a completed boss is inserted. -/
theorem ended_boss_starts :
    ¬ ∀ (w : ScriptWorld) (p : ℕ) (β : Type) (tx : Tx β) (k : β → Kernel Unit),
      Reachable (kernel asciiLibrary Script.calm.executor) anyEvent w →
      w.procs p = some (.commit tx k) → tx.StartsUnderActive w.shared.store := by
  intro all
  have reached : Reachable (kernel asciiLibrary Script.calm.executor) anyEvent endedBossWorld :=
    Script.calm.run_reachable bossOps_known _
  have ended : (endedBossWorld.pending 1).any
      fun tx => tx.2.startsUnderEnded endedBossWorld.shared.store := by decide +kernel
  obtain ⟨β, tx, k, at_tx, known⟩ := World.pending_passes ended
  have spared := (all endedBossWorld 1 β tx k reached at_tx).spared
  exact absurd known (by rw [spared]; decide)

end SightMesh
