import SightMesh.Kernel.Journal
import SightMesh.Kernel.Pace
import SightMesh.Programs.System

/-! What a delivered wake told: the store its text was rendered from, found again in the history of
the events. -/
namespace SightMesh

open Concurrency Database Python

variable {β : Type}

abbrev History := List (Event Tx Query)

def replay (ownershipShared : Bool) : History → Store
  | [] => Store.initial ownershipShared
  | .commit tx _ :: earlier => (tx.exec (replay ownershipShared earlier)).1
  | .call _ _ :: earlier => replay ownershipShared earlier

/-- The text shows the children of the wake's parent as they were in some past store, in which the
event the wake stands for had been counted. -/
def Rendered (ownershipShared : Bool) (trace : History) (wake : Wake) (text : String) : Prop :=
  ∃ later earlier parent row, trace = later ++ earlier ∧ parent.taskId = wake.parentTaskId ∧
    (replay ownershipShared earlier).task wake.parentTaskId = some row ∧
    (∀ n, wake.eventSeq = some n → n ≤ row.childEventSeq) ∧
    text = wakePayload wake.predicate parent
      ((replay ownershipShared earlier).children wake.parentTaskId) wake.dedupeKey.isEscalation

/-- A send of the wake that went through, of a text rendered before. -/
def SentWake (ownershipShared : Bool) (trace : History) (wake : Wake) : Prop :=
  ∃ later earlier holder text answer,
    trace = later ++ .call (.send (.wake wake.wakeId) holder text (toString wake.wakeId))
      (.ok answer) :: earlier ∧ Rendered ownershipShared earlier wake text

/-- The task was active in some past store. -/
def WasActive (ownershipShared : Bool) (trace : History) (t : TaskId) : Prop :=
  ∃ later earlier row, trace = later ++ earlier ∧
    (replay ownershipShared earlier).task t = some row ∧ row.state = .active

theorem WasActive.mono {ownershipShared : Bool} {trace trace' : History} {t : TaskId}
    (h : WasActive ownershipShared trace t) (grows : trace <:+ trace') :
    WasActive ownershipShared trace' t := by
  obtain ⟨later, earlier, row, rfl, known, active⟩ := h
  obtain ⟨new, rfl⟩ := grows
  exact ⟨new ++ later, earlier, row, by simp, known, active⟩

theorem replay_task_empty (ownershipShared : Bool) (trace : History) :
    (replay ownershipShared trace).task "" = none := by
  induction trace with
  | nil => rfl
  | cons e earlier ih =>
    cases e with
    | call => exact ih
    | commit tx =>
      cases known : (replay ownershipShared (.commit tx _ :: earlier)).task "" with
      | none => rfl
      | some row => exact absurd (Store.taskId_of_task known) (tx.exec_insert ih known).1.named

theorem WasActive.named {ownershipShared : Bool} {trace : History} {t : TaskId}
    (h : WasActive ownershipShared trace t) : t ≠ "" := by
  rintro rfl
  obtain ⟨_, earlier, row, _, known, _⟩ := h
  exact nomatch (replay_task_empty ownershipShared earlier).symm.trans known

/-- The wake of a row, as some process read it. -/
def KnownWake (db : Store) (wake : Wake) : Prop := ∃ v ∈ db.wakes.rows, wake.SameOrigin v

theorem Wake.SameOrigin.symm {v w : Wake} (h : v.SameOrigin w) : w.SameOrigin v :=
  ⟨h.wakeId.symm, h.parentTaskId.symm, h.predicate.symm, h.dedupeKey.symm, h.eventSeq.symm⟩

theorem Rendered.mono {ownershipShared : Bool} {trace trace' : History} {wake : Wake}
    {text : String} (h : Rendered ownershipShared trace wake text) (grows : trace <:+ trace') :
    Rendered ownershipShared trace' wake text := by
  obtain ⟨later, earlier, parent, row, rfl, named, known, counted, shown⟩ := h
  obtain ⟨new, rfl⟩ := grows
  exact ⟨new ++ later, earlier, parent, row, by simp, named, known, counted, shown⟩

theorem Rendered.congr {ownershipShared : Bool} {trace : History} {v w : Wake} {text : String}
    (h : Rendered ownershipShared trace v text) (same : v.SameOrigin w) :
    Rendered ownershipShared trace w text := by
  obtain ⟨later, earlier, parent, row, split, named, known, counted, shown⟩ := h
  rw [same.parentTaskId] at named known
  rw [same.eventSeq] at counted
  rw [same.parentTaskId, same.predicate, same.dedupeKey] at shown
  exact ⟨later, earlier, parent, row, split, named, known, counted, shown⟩

theorem SentWake.mono {ownershipShared : Bool} {trace trace' : History} {wake : Wake}
    (h : SentWake ownershipShared trace wake) (grows : trace <:+ trace') :
    SentWake ownershipShared trace' wake := by
  obtain ⟨later, earlier, holder, text, answer, rfl, rendered⟩ := h
  obtain ⟨new, rfl⟩ := grows
  exact ⟨new ++ later, earlier, holder, text, answer, by simp, rendered⟩

theorem SentWake.congr {ownershipShared : Bool} {trace : History} {v w : Wake}
    (h : SentWake ownershipShared trace v) (same : v.SameOrigin w) :
    SentWake ownershipShared trace w := by
  obtain ⟨later, earlier, holder, text, answer, split, rendered⟩ := h
  rw [same.wakeId] at split
  exact ⟨later, earlier, holder, text, answer, split, rendered.congr same⟩

theorem Tx.exec_wiring (tx : Tx β) (db : Store) :
    (tx.exec db).1.ownershipShared = db.ownershipShared := by
  have only := tx.exec_only db
  cases tx with
  | _ =>
    have same := congrArg Store.ownershipShared only
    exact same

/-! ### Chosen texts -/

/-- A claim chooses no text, and takes no settled wake. -/
theorem claimWakes_unchosen (claimFor now : Time) (db : Store) :
    ∀ w ∈ (claimWakes claimFor now db).1.wakes.rows, ∃ v ∈ db.wakes.rows, v.SameOrigin w ∧
      w.payload = v.payload ∧ (w.state.settled = false → v.state.settled = false) := by
  unfold claimWakes
  extract_lets rows
  have listed : ∀ w ∈ rows, w ∈ db.wakes.rows ∧ w.state.settled = false := by
    intro w mem
    obtain ⟨known, due⟩ := List.mem_filter.mp ((List.mem_insertionSort _).mp mem)
    refine ⟨known, ?_⟩
    cases state : w.state <;> simp_all [WakeState.settled]
  apply List.foldlRecOn (motive := fun acc : Store × List Wake => ∀ w ∈ acc.1.wakes.rows,
    ∃ v ∈ db.wakes.rows, v.SameOrigin w ∧ w.payload = v.payload ∧
      (w.state.settled = false → v.state.settled = false))
  · exact fun w mem => ⟨w, mem, .refl w, rfl, id⟩
  · intro acc stored wake mem w found
    rcases Table.mem_put.mp found with rfl | ⟨known, _⟩
    · obtain ⟨known, unsettled⟩ := listed wake mem
      exact ⟨wake, known, ⟨rfl, rfl, rfl, rfl, rfl⟩, rfl, fun _ => unsettled⟩
    · exact stored w known

theorem persistPayload_cases (wake : Wake) (selected : String) (db : Store) :
    persistPayload wake selected db = (db, none) ∨
      ∃ row ∈ db.wakes.rows, row.wakeId = wake.wakeId ∧ row.state = .claimed ∧
        persistPayload wake selected db = ({ db with
          wakes := db.wakes.put { row with payload := some (row.payload.getD selected) } },
          some (row.payload.getD selected)) := by
  unfold persistPayload
  cases found : db.claimedWake wake with
  | none => exact .inl rfl
  | some row =>
    obtain ⟨known, _⟩ := Option.filter_eq_some_iff.mp found
    exact .inr ⟨row, Table.mem_of_get known, Table.key_of_get known,
      Store.claimedWake_claimed found, rfl⟩

/-- Only a claim settles a wake, and then for good. -/
theorem settleWake_cases (wake : Wake) (state : WakeState) (resolution payload : Option String)
    (now : Time) (db : Store) :
    settleWake wake state resolution payload now db = (db, false) ∨
      ∃ row ∈ db.wakes.rows, row.wakeId = wake.wakeId ∧ row.state = .claimed ∧
        (settleWake wake state resolution payload now db).2 = true ∧
        (settleWake wake state resolution payload now db).1.wakes = db.wakes.put { row with
          state := state, resolution := resolution, payload := row.payload.or payload
          claimExpiresAt := none } := by
  unfold settleWake
  cases found : db.claimedWake wake with
  | none => exact .inl rfl
  | some row =>
    obtain ⟨known, _⟩ := Option.filter_eq_some_iff.mp found
    refine .inr ⟨row, Table.mem_of_get known, Table.key_of_get known,
      Store.claimedWake_claimed found, ?_⟩
    dsimp only
    split
    · split
      · exact ⟨rfl, rfl⟩
      · exact ⟨rfl, rfl⟩
    · exact ⟨rfl, rfl⟩

end SightMesh
