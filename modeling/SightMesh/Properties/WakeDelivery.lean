import SightMesh.Properties.Lifecycle
import SightMesh.Properties.Settlement

/-! The delivery of the wakes, over every interleaving of any number of pumps. -/
namespace SightMesh

open Concurrency Database Python

variable {γ β : Type} {py : Library} {x : Executor γ}

def settlesWake (wakeId : ℕ) : Event Tx Query → Bool
  | .commit (.settleWake wake _ _ _ _) answer => answer && wake.wakeId = wakeId
  | _ => false

theorem reachable_replayed {w : KernelWorld γ} (reached : Reachable (kernel py x) anyEvent w) :
    w.shared.store = replay w.shared.store.ownershipShared w.shared.trace :=
  (reachable_sane reached).replayed

/-! ### Settling -/

/-- Each wake was settled at most once, and is settled if it was. -/
def SettledOnce (s : Shared Tx Query Store γ) : Prop :=
  ∀ wakeId, s.trace.countP (settlesWake wakeId) ≤ 1 ∧
    (0 < s.trace.countP (settlesWake wakeId) →
      ∃ v ∈ s.store.wakes.rows, v.wakeId = wakeId ∧ v.state.settled)

theorem SettledOnce.quiet {s : Shared Tx Query Store γ} (once : SettledOnce s) (tx : Tx β)
    (wakeId : ℕ) (quiet : settlesWake wakeId (.commit tx (tx.exec s.store).2) = false) :
    (Shared.after s tx).trace.countP (settlesWake wakeId) ≤ 1 ∧
      (0 < (Shared.after s tx).trace.countP (settlesWake wakeId) →
        ∃ v ∈ (tx.exec s.store).1.wakes.rows, v.wakeId = wakeId ∧ v.state.settled) := by
  have counts : (Shared.after s tx).trace.countP (settlesWake wakeId) =
      s.trace.countP (settlesWake wakeId) := by
    rw [List.countP_cons, quiet]
    rfl
  rw [counts]
  refine ⟨(once wakeId).1, fun some => ?_⟩
  obtain ⟨v, mem, named, settled⟩ := (once wakeId).2 some
  obtain ⟨w, mem, later⟩ := tx.exec_wake mem
  rw [later.settled settled] at mem
  exact ⟨v, mem, named, settled⟩

theorem SettledOnce.after {H : Set LockKey} {s : Shared Tx Query Store γ} (once : SettledOnce s)
    {tx : Tx β} (issued : Issued py H s tx) : SettledOnce (Shared.after s tx) := by
  intro wakeId
  cases tx with
  | settleWake wake state resolution payload now =>
    obtain left | ⟨row, there, named, claimed, answered, left⟩ :=
      settleWake_cases wake state resolution payload now s.store
    · apply once.quiet
      simp only [settlesWake, Tx.exec, left, Bool.false_and]
    · by_cases same : wake.wakeId = wakeId
      · have settled : state.settled := by
          rcases issued.2.2 with rfl | ⟨rfl, _⟩
          · rfl
          · rfl
        have never : s.trace.countP (settlesWake wakeId) = 0 := by
          by_contra some
          obtain ⟨v, mem, named', before⟩ := (once wakeId).2 (by omega)
          have origin : v = row := Wake.eq_of_id mem there (named'.trans (named.trans same).symm)
          rw [origin, claimed] at before
          cases before
        constructor
        · rw [List.countP_cons, never]
          split
          · exact le_rfl
          · exact Nat.zero_le 1
        · intro _
          refine ⟨{ row with
            state := state, resolution := resolution, payload := row.payload.or payload
            claimExpiresAt := none }, ?_, named.trans same, settled⟩
          change _ ∈ (SightMesh.settleWake wake state resolution payload now s.store).1.wakes.rows
          rw [left]
          exact Table.mem_put.mpr (.inl rfl)
      · apply once.quiet
        simp [settlesWake, same]
  | _ => exact once.quiet _ wakeId rfl

theorem reachable_settledOnce {w : KernelWorld γ}
    (reached : Reachable (kernel py x) anyEvent w) : SettledOnce w.shared := by
  apply reached.invariant SettledOnce
  · intro db e _ wakeId
    exact ⟨Nat.zero_le 1, fun none => absurd none (lt_irrefl 0)⟩
  · exact fun before at_tx _ once => once.after (reachable_issued before at_tx)
  · intro w p β q k b env _ _ _ _ once wakeId
    have counts : (w.shared.call q b env).trace.countP (settlesWake wakeId) =
        w.shared.trace.countP (settlesWake wakeId) := by
      rw [Shared.call, List.countP_cons]
      rfl
    rw [counts]
    exact once wakeId

/-! ### Runs -/

theorem later_woken {w w' : KernelWorld γ} (later : Later py x w w') {t : TaskId} {row : TaskRow}
    (known : w.shared.store.task t = some row) :
    ∃ next, w'.shared.store.task t = some next ∧ row.lastWokenSeq ≤ next.lastWokenSeq := by
  induction later with
  | refl => exact ⟨row, known, le_rfl⟩
  | tail _ step ih =>
    obtain ⟨mid, known, below⟩ := ih
    obtain ⟨next, found, rfl | ⟨β, tx, answer, steps⟩⟩ := step_row step known
    · exact ⟨next, found, below⟩
    · exact ⟨next, found, below.trans steps.woken_le⟩

/-- In every interleaving: one text and one key for a wake, one claim that settles it, nothing after
that, and a watermark that follows the wakes that were sent, each of a text rendered once the event
it acknowledges had been counted. -/
theorem wakes_delivered {w : KernelWorld γ} (reached : Reachable (kernel py x) anyEvent w) :
    (∀ wakeId holder text key answer holder' text' key' answer',
      .call (.send (.wake wakeId) holder text key) answer ∈ w.shared.trace →
      .call (.send (.wake wakeId) holder' text' key') answer' ∈ w.shared.trace →
      text' = text ∧ key' = key) ∧
    (∀ wakeId, w.shared.trace.countP (settlesWake wakeId) ≤ 1) ∧
    (∀ w', Later py x w w' → ∀ v ∈ w.shared.store.wakes.rows,
      v.state = .delivered ∨ v.state = .resolved → v ∈ w'.shared.store.wakes.rows) ∧
    ∀ t row, w.shared.store.task t = some row →
      row.lastWokenSeq ≤ row.childEventSeq ∧
      (∀ w', Later py x w w' → ∃ next, w'.shared.store.task t = some next ∧
        row.lastWokenSeq ≤ next.lastWokenSeq) ∧
      (row.lastWokenSeq ≠ 0 → ∃ v ∈ w.shared.store.wakes.rows, v.parentTaskId = t ∧
        v.eventSeq = some row.lastWokenSeq ∧
        SentWake w.shared.store.ownershipShared w.shared.trace v) := by
  have sane := reachable_sane reached
  constructor
  · intro wakeId holder text key answer holder' text' key' answer' first second
    obtain ⟨named, v, mem, same, kept⟩ := sane.sends wakeId holder text key answer first
    obtain ⟨named', u, mem', same', kept'⟩ := sane.sends wakeId holder' text' key' answer' second
    have origin : u = v := Wake.eq_of_id mem' mem (same'.trans same.symm)
    rw [origin, kept] at kept'
    exact ⟨(Option.some.inj kept').symm, named'.trans named.symm⟩
  constructor
  · exact fun wakeId => (reachable_settledOnce reached wakeId).1
  constructor
  · intro w' later v mem done
    obtain ⟨u, mem, grown⟩ := later_wake later mem
    have settled : v.state.settled := by
      rcases done with state | state
      · rw [state]
        rfl
      · rw [state]
        rfl
    rw [grown.settled settled] at mem
    exact mem
  · intro t row known
    exact ⟨sane.woken t row known, fun w' later => later_woken later known, sane.told t row known⟩

def toldWorld : ScriptWorld :=
  Script.calm.run completedOps (steps 0 100 ++ steps 1 100 ++ steps 2 100)

set_option maxRecDepth 100000 in
theorem finished_child_told :
    ∃ row, toldWorld.shared.store.task bossId = some row ∧ row.lastWokenSeq = 1 ∧
      row.lastWokenSeq ≤ row.childEventSeq ∧
      ∃ v ∈ toldWorld.shared.store.wakes.rows, v.eventSeq = some 1 ∧
        SentWake toldWorld.shared.store.ownershipShared toldWorld.shared.trace v := by
  have reached : Reachable (kernel asciiLibrary Script.calm.executor) anyEvent toldWorld :=
    Script.calm.run_reachable completedOps_known _
  have woken : (toldWorld.shared.store.task bossId).any fun row => row.lastWokenSeq = 1 := by
    decide +kernel
  obtain ⟨row, known, one⟩ := (Option.any_eq_true _ _).mp woken
  have one : row.lastWokenSeq = 1 := by simpa using one
  obtain ⟨_, _, _, rows⟩ := wakes_delivered reached
  obtain ⟨counted, _, told⟩ := rows bossId row known
  obtain ⟨v, mem, _, seq, sent⟩ := told (by omega)
  rw [one] at seq
  exact ⟨row, known, one, counted, v, mem, seq, sent⟩

end SightMesh
