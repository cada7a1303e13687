import Mathlib.Logic.Relation
import SightMesh.Discipline.Operations
import SightMesh.Programs.Scripted

/-! What a row of a task can become: its closed states, its epochs and its versions. -/
namespace SightMesh

open Concurrency Database Python

variable {γ β : Type} {py : Library} {x : Executor γ}

abbrev KernelWorld (γ : Type) := World KernelError Tx Query LockKey Store γ

/-- What a world can become. -/
abbrev Later (py : Library) (x : Executor γ) : KernelWorld γ → KernelWorld γ → Prop :=
  Relation.ReflTransGen (Step (kernel py x) anyEvent)

def closedStates : List TaskState := [.completed, .cancelled, .exhausted]

def Tx.expects : Tx β → Option (TaskId × ℕ)
  | .prepareReplacement seen .. | .resumeReplacement seen .. | .reissue seen ..
  | .checkpointRow seen .. => some (seen.taskId, seen.version)
  | .checkpointOccurrence operation .. => some (operation.taskId, operation.expectedVersion)
  | _ => none

def Tx.Transitions (tx : Tx β) (db : Store) (t : TaskId) : Prop :=
  ∃ row next, db.task t = some row ∧ (tx.exec db).1.task t = some next ∧
    next.version ≠ row.version

theorem finishPredecessors_live {state : TaskState} {predecessors : List TaskState}
    (legal : finishPredecessors state = some predecessors) : predecessors ⊆ liveStates := by
  cases state <;> cases legal <;> decide

theorem Lifecycle.Finishable.live {l : Lifecycle} {maxAttempts : ℕ} {state : TaskState}
    {charge : Bool} (h : l.Finishable maxAttempts state charge) : l.state ∈ liveStates := by
  obtain ⟨⟨predecessors, legal, mem⟩, _⟩ := h
  exact finishPredecessors_live legal mem

/-- A transition leaves a live row, or opens a new epoch of a lost one. -/
theorem Tx.Assigns.leaves {tx : Tx β} {answer : β} {i : Identity} {l l' : Lifecycle}
    (h : tx.Assigns i l l' answer) :
    l.state ∈ liveStates ∨ l.state = .lost ∧ l.epoch < l'.epoch := by
  cases tx with
  | activate =>
    rcases answer with _ | _
    · exact h.elim
    obtain ⟨_, before, _⟩ := h
    have opened : activatePredecessors ⊆ liveStates := by decide
    exact .inl (opened before)
  | prepareReplacement =>
    rcases answer with _ | _
    · exact h.elim
    obtain ⟨_, before, _, _, rfl⟩ := h
    simp only [replacePredecessors, List.mem_cons, List.not_mem_nil, or_false] at before
    rcases before with active | blocked | lost
    · simp [active, liveStates]
    · simp [blocked, liveStates]
    · exact .inr ⟨lost, Nat.lt_succ_self _⟩
  | resumeReplacement =>
    rcases answer with _ | _
    · exact h.elim
    obtain ⟨_, replacing, _⟩ := h
    simp [replacing, liveStates]
  | reissue =>
    rcases answer with _ | _
    · exact h.elim
    obtain ⟨_, lost, _, rfl⟩ := h
    exact .inr ⟨lost, Nat.lt_succ_self _⟩
  | checkpointRow | checkpointOccurrence =>
    rcases answer with _ | _
    · exact h.elim
    exact .inl h.2.1
  | finish | finishExpired | recordLoss =>
    rcases answer with _ | _
    · exact h.elim
    exact .inl h.2.1.live
  | _ => exact h.elim

theorem Tx.Assigns.expected {tx : Tx β} {answer : β} {i : Identity} {l l' : Lifecycle} {t : TaskId}
    {v : ℕ} (h : tx.Assigns i l l' answer) (expects : tx.expects = some (t, v)) :
    l.version = v := by
  cases tx with
  | prepareReplacement | resumeReplacement | reissue | checkpointRow | checkpointOccurrence =>
    rcases answer with _ | _
    · exact h.elim
    cases expects
    exact h.2.2.1
  | _ => exact nomatch expects

theorem Tx.Steps.closed {tx : Tx β} {answer : β} {row next : TaskRow}
    (h : tx.Steps answer row next) (closed : row.state ∈ closedStates) :
    next.toLifecycle = row.toLifecycle := by
  rcases h.lifecycle with same | ⟨l, assigned, _⟩
  · exact same
  · have shut (state : TaskState) (mem : state ∈ closedStates) :
        state ∉ liveStates ∧ state ≠ .lost := by
      cases state <;> first | exact absurd mem (by decide) | decide
    have out := shut _ closed
    rcases assigned.leaves with live | ⟨lost, _⟩
    · exact absurd live out.1
    · exact absurd lost out.2

theorem Tx.Steps.lost {tx : Tx β} {answer : β} {row next : TaskRow}
    (h : tx.Steps answer row next) (lost : row.state = .lost) (left : next.state ≠ .lost) :
    row.epoch < next.epoch := by
  rcases h.lifecycle with same | ⟨l, assigned, moved⟩
  · rw [same] at left
    exact absurd lost left
  · rw [moved]
    rcases assigned.leaves with live | ⟨_, opened⟩
    · rw [lost] at live
      exact absurd live (by decide)
    · exact opened

theorem Tx.Steps.versioned {tx : Tx β} {answer : β} {row next : TaskRow}
    (h : tx.Steps answer row next) (moved : next.state ≠ row.state) :
    row.version < next.version := by
  have grows := h.version
  have apart : next.version ≠ row.version := by
    intro same
    apply moved
    rw [h.unmoved same]
  omega

/-! ### Runs -/

theorem step_row {w w' : KernelWorld γ} (step : Step (kernel py x) anyEvent w w') {t : TaskId}
    {row : TaskRow} (known : w.shared.store.task t = some row) :
    ∃ next, w'.shared.store.task t = some next ∧
      (next = row ∨ ∃ (β : Type) (tx : Tx β) (answer : β), tx.Steps answer row next) := by
  cases step with
  | @commit p β tx k pending _ =>
    obtain ⟨next, found, step⟩ := tx.exec_task known
    exact ⟨next, found, .inr ⟨β, tx, _, step⟩⟩
  | spawn | call | lock | unlock | stop => exact ⟨row, known, .inl rfl⟩

theorem later_row {w w' : KernelWorld γ} (later : Later py x w w') {t : TaskId} {row : TaskRow}
    (known : w.shared.store.task t = some row) :
    ∃ next, w'.shared.store.task t = some next ∧ row.Before next := by
  induction later with
  | refl => exact ⟨row, known, .refl row⟩
  | tail _ step ih =>
    obtain ⟨mid, known, before⟩ := ih
    obtain ⟨next, found, rfl | ⟨β, tx, answer, steps⟩⟩ := step_row step known
    · exact ⟨next, found, before⟩
    · exact ⟨next, found, before.trans steps.before⟩

theorem later_closed {w w' : KernelWorld γ} (later : Later py x w w') {t : TaskId} {row : TaskRow}
    (known : w.shared.store.task t = some row) (closed : row.state ∈ closedStates) :
    ∃ next, w'.shared.store.task t = some next ∧ next.toLifecycle = row.toLifecycle := by
  induction later with
  | refl => exact ⟨row, known, rfl⟩
  | tail _ step ih =>
    obtain ⟨mid, known, same⟩ := ih
    obtain ⟨next, found, rfl | ⟨β, tx, answer, steps⟩⟩ := step_row step known
    · exact ⟨next, found, same⟩
    · have closed : mid.state ∈ closedStates := by
        rw [same]
        exact closed
      exact ⟨next, found, (steps.closed closed).trans same⟩

theorem later_wake {w w' : KernelWorld γ} (later : Later py x w w') {v : Wake}
    (mem : v ∈ w.shared.store.wakes.rows) : ∃ u ∈ w'.shared.store.wakes.rows, v.Later u := by
  induction later with
  | refl => exact ⟨v, mem, .refl v⟩
  | tail _ step ih =>
    obtain ⟨u, mem, before⟩ := ih
    cases step with
    | commit pending _ =>
      obtain ⟨u', mem, after⟩ := Tx.exec_wake _ mem
      exact ⟨u', mem, before.trans after⟩
    | spawn | call | lock | unlock | stop => exact ⟨u, mem, before⟩

/-- Of two writers that expect the same version of a row, the later one moves nothing. -/
theorem later_expecter_fails {w w₁ w' : KernelWorld γ} {α : Type} {tx : Tx α} {tx' : Tx β}
    {t : TaskId} {v : ℕ} (expects : tx.expects = some (t, v))
    (moves : tx.Transitions w.shared.store t) (after : w₁.shared = Shared.after w.shared tx)
    (later : Later py x w₁ w') (expects' : tx'.expects = some (t, v)) :
    ¬ tx'.Transitions w'.shared.store t := by
  obtain ⟨row, next, known, found, moved⟩ := moves
  obtain ⟨next', found', step⟩ := tx.exec_task known
  cases Option.some.inj (found.symm.trans found')
  have first : next.version = v + 1 := by
    rcases step.lifecycle with same | ⟨l, assigned, lifecycle⟩
    · rw [same] at moved
      exact absurd rfl moved
    · have expected : row.version = v := assigned.expected expects
      rw [lifecycle, ← expected]
  have found : w₁.shared.store.task t = some next := by
    rw [after]
    exact found
  rintro ⟨row', last, known', found', moved'⟩
  obtain ⟨known'', grown⟩ : ∃ r, w'.shared.store.task t = some r ∧ next.Before r :=
    later_row later found
  obtain ⟨same, before⟩ := grown
  cases Option.some.inj (known'.symm.trans same)
  obtain ⟨last', found'', step'⟩ := tx'.exec_task known'
  cases Option.some.inj (found'.symm.trans found'')
  rcases step'.lifecycle with same | ⟨l, assigned, _⟩
  · rw [same] at moved'
    exact moved' rfl
  · have expected : row'.version = v := assigned.expected expects'
    have grown := before.version
    omega

/-- The laws of a task row, over everything a world can become. -/
theorem task_rows_obey_lifecycle (w : KernelWorld γ) :
    (∀ w', Later py x w w' → ∀ row ∈ w.shared.store.tasks.rows, row.state ∈ closedStates →
      ∃ next ∈ w'.shared.store.tasks.rows, next.taskId = row.taskId ∧ next.state = row.state ∧
        next.epoch = row.epoch ∧ next.attempts = row.attempts ∧ next.result = row.result) ∧
    (∀ w', Step (kernel py x) anyEvent w w' → ∀ row ∈ w.shared.store.tasks.rows,
      ∃ next ∈ w'.shared.store.tasks.rows, next.taskId = row.taskId ∧
        (row.state = .lost → next.state ≠ .lost → row.epoch < next.epoch) ∧
        row.epoch ≤ next.epoch ∧ (next.state ≠ row.state → row.version < next.version)) ∧
    (∀ (α β : Type) (tx : Tx α) (tx' : Tx β) (t : TaskId) (v : ℕ) (w₁ w' : KernelWorld γ),
      tx.expects = some (t, v) → tx'.expects = some (t, v) →
      tx.Transitions w.shared.store t → w₁.shared = Shared.after w.shared tx →
      Later py x w₁ w' → ¬ tx'.Transitions w'.shared.store t) := by
  constructor
  · intro w' later row mem closed
    obtain ⟨next, found, same⟩ := later_closed later (Table.get_of_mem mem) closed
    have named : next.taskId = row.taskId := Store.taskId_of_task found
    have kept := Table.mem_of_get found
    exact ⟨next, kept, named, by rw [same], by rw [same], by rw [same], by rw [same]⟩
  constructor
  · intro w' step row mem
    obtain ⟨next, found, rfl | ⟨β, tx, answer, steps⟩⟩ := step_row step (Table.get_of_mem mem)
    · have kept := Table.mem_of_get found
      exact ⟨next, kept, rfl, fun lost left => absurd lost left, le_rfl, fun moved => absurd rfl moved⟩
    · have named : next.taskId = row.taskId := Store.taskId_of_task found
      have kept := Table.mem_of_get found
      exact ⟨next, kept, named, steps.lost, steps.epoch, steps.versioned⟩
  · intro α β tx tx' t v w₁ w' expects expects' moves after later
    exact later_expecter_fails expects moves after later expects'

end SightMesh
