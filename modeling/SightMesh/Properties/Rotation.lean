import SightMesh.Programs.Detection
import SightMesh.Programs.Scripted
import SightMesh.Properties.EndedEffects

/-! The rotation of the detector: a pass serves the watched tasks in a row from past its cursor, and
wherever it ends it leaves the cursor on the last one it attempted or has attempted them all. -/
namespace SightMesh

open RoundRobin

variable {tasksPerPass : ℕ} {db : Store} {fate : TaskId → Fate} {cursor : TaskId}

/-! ### The watched tasks -/

theorem Store.watchedTasks_sorted (db : Store) : db.watchedTasks.Pairwise (· < ·) := by
  have nodup : db.watchedTasks.Nodup := by
    refine (List.perm_insertionSort _ _).nodup_iff.mpr ?_
    exact db.tasks.unique.sublist (List.filter_sublist.map TaskRow.id)
  have sorted : db.watchedTasks.Pairwise (· ≤ ·) := List.pairwise_insertionSort _ _
  exact sorted.imp₂ (fun _ _ le ne => lt_of_le_of_ne le ne) nodup

theorem Store.getById_of_watched {taskId : TaskId} (watched : taskId ∈ db.watchedTasks) :
    ∃ task, db.getById taskId = some task ∧ task.taskId = taskId := by
  obtain ⟨row, kept, rfl⟩ := List.mem_map.mp ((List.mem_insertionSort _).mp watched)
  refine ⟨row.toTaskRecord, ?_, rfl⟩
  rw [Store.getById, Store.task, Database.Table.get_of_mem (List.mem_of_mem_filter kept)]
  rfl

theorem Store.getById_watched {chosen : List TaskId} (watched : chosen ⊆ db.watchedTasks) :
    (chosen.filterMap db.getById).map (·.taskId) = chosen := by
  induction chosen with
  | nil => rfl
  | cons taskId chosen ih =>
    rw [List.cons_subset] at watched
    obtain ⟨task, found, named⟩ := Store.getById_of_watched watched.1
    rw [List.filterMap_cons_some found, List.map_cons, named, ih watched.2]

/-! ### The slice -/

theorem detectionSlice_chosen (ordered : List TaskId) :
    (detectionSlice tasksPerPass ordered cursor).1 =
      (ordered.rotate (startAfter ordered cursor)).take tasksPerPass := by
  rw [detectionSlice, List.rotate_eq_drop_append_take (startAfter_le ordered cursor)]
  dsimp only
  split
  · rename_i complete
    rw [List.take_of_length_le (of_decide_eq_true complete)]
  · rfl

theorem detectionSlice_cursor {ordered : List TaskId} (more : tasksPerPass < ordered.length) :
    (detectionSlice tasksPerPass ordered cursor).2 =
      ((detectionSlice tasksPerPass ordered cursor).1.getLast?).getD "" := by
  have size : (ordered.drop (startAfter ordered cursor) ++
      ordered.take (startAfter ordered cursor)).length = ordered.length := by
    rw [← List.rotate_eq_drop_append_take (startAfter_le ordered cursor), List.length_rotate]
  have partly : ¬ ordered.length ≤ tasksPerPass := Nat.not_le_of_lt more
  simp only [detectionSlice, size, partly, decide_false, Bool.false_eq_true, if_false]
  cases (List.take tasksPerPass _).getLast? with
  | none => rfl
  | some last => rfl

/-! ### The loop -/

/-- The loop attempts tasks in a row from the first, and at least one. Where it stops early it
leaves the cursor on the last one. -/
theorem detectEach_cases (fate : TaskId → Fate) (tasks : List TaskRecord) (cursor : TaskId) :
    detectEach fate tasks cursor = (tasks.map (·.taskId), cursor) ∨
      ∃ reach, 0 < reach ∧ reach ≤ tasks.length ∧
        (detectEach fate tasks cursor).1 = (tasks.map (·.taskId)).take reach ∧
        some (detectEach fate tasks cursor).2 = (detectEach fate tasks cursor).1.getLast? := by
  induction tasks with
  | nil => exact .inl rfl
  | cons task rest ih =>
    have goes (on : fate task.taskId ≠ .returned true) : detectEach fate (task :: rest) cursor =
        (task.taskId :: (detectEach fate rest cursor).1, (detectEach fate rest cursor).2) := by
      rw [detectEach]
      split
      · contradiction
      · rfl
      · rfl
    by_cases late : fate task.taskId = .returned true
    · have stops : detectEach fate (task :: rest) cursor = ([task.taskId], task.taskId) := by
        rw [detectEach, late]
      rw [stops]
      exact .inr ⟨1, by omega, by simp, by simp, rfl⟩
    · rw [goes late]
      rcases ih with whole | ⟨reach, some', within, taken, last⟩
      · rw [whole]
        exact .inl rfl
      · refine .inr ⟨reach + 1, by omega, by simpa using within, by simp [taken], ?_⟩
        cases attempted : (detectEach fate rest cursor).1 with
        | nil => rw [attempted] at last; exact nomatch last
        | cons first others =>
          rw [last, attempted]
          simp

/-! ### A pass -/

/-- The turn a pass takes: where its cursor puts it, as far as it comes. -/
def passTurn (tasksPerPass : ℕ) (db : Store) (fate : TaskId → Fate) (cursor : TaskId) : Turn where
  start := startAfter db.watchedTasks cursor
  reach := (detectionPass tasksPerPass db fate cursor).1.length

theorem detectionPass_cases (tasksPerPass : ℕ) (db : Store) (fate : TaskId → Fate)
    (cursor : TaskId) :
    detectionPass tasksPerPass db fate cursor =
        detectionSlice tasksPerPass db.watchedTasks cursor ∨
      ∃ reach, 0 < reach ∧
        reach ≤ (detectionSlice tasksPerPass db.watchedTasks cursor).1.length ∧
        (detectionPass tasksPerPass db fate cursor).1 =
          (detectionSlice tasksPerPass db.watchedTasks cursor).1.take reach ∧
        some (detectionPass tasksPerPass db fate cursor).2 =
          (detectionPass tasksPerPass db fate cursor).1.getLast? := by
  have watched : (detectionSlice tasksPerPass db.watchedTasks cursor).1 ⊆ db.watchedTasks := by
    rw [detectionSlice_chosen]
    exact fun taskId chosen => List.mem_rotate.mp (List.mem_of_mem_take chosen)
  have found := Store.getById_watched watched
  have sizes := congrArg List.length found
  rw [List.length_map] at sizes
  have cases' := detectEach_cases fate
    ((detectionSlice tasksPerPass db.watchedTasks cursor).1.filterMap db.getById)
    (detectionSlice tasksPerPass db.watchedTasks cursor).2
  rw [found, sizes] at cases'
  exact cases'

theorem detectionPass_served (tasksPerPass : ℕ) (db : Store) (fate : TaskId → Fate)
    (cursor : TaskId) :
    (detectionPass tasksPerPass db fate cursor).1 =
      (passTurn tasksPerPass db fate cursor).served db.watchedTasks := by
  rw [Turn.served, passTurn]
  rcases detectionPass_cases tasksPerPass db fate cursor with whole | ⟨reach, _, within, part, _⟩
  · rw [whole, detectionSlice_chosen, List.take_eq_take_iff]
    simp
  · rw [part, detectionSlice_chosen, List.take_take, List.take_eq_take_iff]
    simp

variable {watched : List TaskId}

theorem passTurn_reach (limit : 0 < tasksPerPass) (some' : db.watchedTasks ≠ [])
    (fate : TaskId → Fate) (cursor : TaskId) :
    0 < (passTurn tasksPerPass db fate cursor).reach := by
  have size := List.length_pos_of_ne_nil some'
  change 0 < (detectionPass tasksPerPass db fate cursor).1.length
  rcases detectionPass_cases tasksPerPass db fate cursor with whole | ⟨reach, pos, within, part, _⟩
  · rw [whole, detectionSlice_chosen, List.length_take, List.length_rotate]
    omega
  · rw [part, List.length_take]
    omega

/-- A turn followed by one that starts past the last it served. -/
theorem follows_last (turn : Turn) {served : List TaskId} (sorted : watched.Pairwise (· < ·))
    (serves : turn.served watched = served) (reach : turn.reach = served.length)
    (last : some cursor = served.getLast?) (reach' : ℕ) :
    turn.Follows watched.length ⟨startAfter watched cursor, reach'⟩ := by
  have pos : 0 < served.length := by
    refine List.length_pos_of_ne_nil fun none => ?_
    rw [none] at last
    exact nomatch last
  have within : served.length ≤ watched.length := by
    rw [← serves, Turn.served, List.length_take, List.length_rotate]
    exact min_le_right _ _
  have size : 0 < watched.length := by omega
  have place : (served.length - 1 + turn.start) % watched.length < watched.length :=
    Nat.mod_lt _ size
  have named : cursor = watched[(served.length - 1 + turn.start) % watched.length] := by
    have there : ((watched.rotate turn.start).take turn.reach)[served.length - 1]? =
        some cursor := by
      rw [last, List.getLast?_eq_getElem?, ← serves, Turn.served]
    have item : (watched.rotate turn.start)[served.length - 1]? = some cursor := by
      rw [← there, List.getElem?_take_of_lt (by omega)]
    rw [List.getElem?_rotate (by omega), List.getElem?_eq_getElem place] at item
    exact (Option.some.inj item).symm
  refine .inr ?_
  dsimp only
  rw [named, startAfter_getElem sorted place, reach, Nat.mod_add_mod]
  congr 1
  omega

theorem passTurn_follows {db' : Store} (limit : 0 < tasksPerPass)
    (some' : db.watchedTasks ≠ []) (fixed : db'.watchedTasks = db.watchedTasks)
    (fate fate' : TaskId → Fate) (cursor : TaskId) :
    (passTurn tasksPerPass db fate cursor).Follows db.watchedTasks.length
      (passTurn tasksPerPass db' fate' (detectionPass tasksPerPass db fate cursor).2) := by
  have onLast (last : some (detectionPass tasksPerPass db fate cursor).2 =
      (detectionPass tasksPerPass db fate cursor).1.getLast?) :
      (passTurn tasksPerPass db fate cursor).Follows db.watchedTasks.length
        (passTurn tasksPerPass db' fate' (detectionPass tasksPerPass db fate cursor).2) := by
    have follows := follows_last (passTurn tasksPerPass db fate cursor)
      db.watchedTasks_sorted (detectionPass_served tasksPerPass db fate cursor).symm rfl last
      (passTurn tasksPerPass db' fate' (detectionPass tasksPerPass db fate cursor).2).reach
    rwa [← fixed] at follows ⊢
  rcases detectionPass_cases tasksPerPass db fate cursor with whole | ⟨_, _, _, _, last⟩
  · by_cases more : tasksPerPass < db.watchedTasks.length
    · -- the slice has put the cursor on its last task
      refine onLast ?_
      have pos := passTurn_reach limit some' fate cursor
      change 0 < (detectionPass tasksPerPass db fate cursor).1.length at pos
      rw [whole] at pos ⊢
      rw [detectionSlice_cursor more]
      cases chosen : (detectionSlice tasksPerPass db.watchedTasks cursor).1.getLast? with
      | none => simp [List.getLast?_eq_none_iff.mp chosen] at pos
      | some last => rfl
    · refine .inl ?_
      change _ ≤ (detectionPass tasksPerPass db fate cursor).1.length
      rw [whole, detectionSlice_chosen, List.length_take, List.length_rotate]
      omega
  · exact onLast last

/-! ### The rotation -/

/-- Over a fixed fleet every task is attempted within as many passes as there are tasks, wherever
the cursor starts and wherever each pass is cut off; and no pass attempts a task twice. -/
theorem every_task_attempted (limit : 0 < tasksPerPass) {stores : ℕ → Store}
    (fixed : ∀ k, (stores k).watchedTasks = watched) (fates : ℕ → TaskId → Fate)
    (cursor : TaskId) :
    (∀ taskId ∈ watched, ∀ first, ∃ k, first ≤ k ∧ k < first + watched.length ∧
      taskId ∈ attemptedIn tasksPerPass stores fates cursor k) ∧
    ∀ k, (attemptedIn tasksPerPass stores fates cursor k).Nodup := by
  let turns := fun k =>
    passTurn tasksPerPass (stores k) (fates k) (cursorAt tasksPerPass stores fates cursor k)
  have served (k : ℕ) : attemptedIn tasksPerPass stores fates cursor k =
      (turns k).served watched := by
    rw [attemptedIn, detectionPass_served, fixed]
  constructor
  · intro taskId waits first
    have some' : watched ≠ [] := List.ne_nil_of_mem waits
    have serves (k : ℕ) : 0 < (turns k).reach :=
      passTurn_reach limit (by rw [fixed]; exact some') _ _
    have follows (k : ℕ) : (turns k).Follows watched.length (turns (k + 1)) := by
      have next := passTurn_follows limit (by rw [fixed]; exact some')
        ((fixed (k + 1)).trans (fixed k).symm) (fates k) (fates (k + 1))
        (cursorAt tasksPerPass stores fates cursor k)
      rwa [fixed] at next
    obtain ⟨k, later, soon, mem⟩ := served_within serves follows waits first
    exact ⟨k, later, soon, by rw [served]; exact mem⟩
  · intro k
    rw [served]
    refine (turns k).served_nodup ?_
    rw [← fixed k]
    exact ((stores k).watchedTasks_sorted.imp fun less => ne_of_lt less)

/-! ### Two tasks, one a pass -/

def fleetSpec (key : String) : TaskSpec where
  key := key
  prompt := "work"
  repo := "repo"
  repoId := "repo"
  repoPath := "/repo"
  base := "main"
  profile := none
  executor := some "codex"
  model := none
  reasoning := none
  permission := "auto"
  children := 0
  routeClass := none
  setupScript := none
  target := scriptTarget
  detection := ⟨1500, none, none⟩

def fleetTask (key : String) : TaskRecord :=
  (TaskRow.reserved "operator" none 3 (fleetSpec key) 0).toTaskRecord

def fleetStarts : List AnyTx :=
  [⟨_, .reserveAll "operator" none [fleetSpec "a", fleetSpec "b"] 3 0⟩,
    ⟨_, .activate .startReserved (fleetTask "a") "/a" "session-a" 0⟩,
    ⟨_, .activate .startReserved (fleetTask "b") "/b" "session-b" 0⟩]

def fleet : Store := fleetStarts.foldl AnyTx.exec (Store.initial true)

theorem fleet_attempted :
    fleet.watchedTasks.length = 2 ∧
    (∀ taskId ∈ fleet.watchedTasks, ∀ first, ∃ k, first ≤ k ∧
      k < first + fleet.watchedTasks.length ∧
      taskId ∈ attemptedIn 1 (fun _ => fleet) (fun _ _ => .returned true) "" k) ∧
    ∀ k, (attemptedIn 1 (fun _ => fleet) (fun _ _ => .returned true) "" k).Nodup :=
  ⟨by decide +kernel, every_task_attempted Nat.one_pos (fun _ => rfl) _ _⟩

end SightMesh
