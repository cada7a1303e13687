import SightMesh.Kernel.Pace
import SightMesh.Programs.Scripted
import SightMesh.Properties.Lifecycle

/-! How often a child wakes its manager: twice in a stall episode, and once for a loss or a spent
budget. -/
namespace SightMesh

open Concurrency Database Python

variable {γ β : Type} {py : Library} {x : Executor γ}

/-- The wakes there are for one stall episode of a child, in whatever state. -/
def Store.stallWakes (db : Store) (t : TaskId) (key : ℕ × ℕ) : ℕ :=
  db.wakes.rows.countP fun w => w.dedupeKey.stall = some (t, key)

def Store.toldWakes (db : Store) (incident : TaskId × ℕ × WakeReason) : ℕ :=
  db.wakes.rows.countP fun w =>
    w.dedupeKey.incident = some incident && w.state ∈ toldWakeStates

def TaskRow.Silent (row : TaskRow) : Prop := row.liveness ≠ .live ∧ row.liveness ≠ .parked

theorem TaskRow.silent_iff {row : TaskRow} : row.Silent ↔ row.pace.stretch = .silent := by
  unfold TaskRow.Silent TaskRow.pace
  cases row.liveness <;> simp [livenessStretch]

/-- A step after which the child is still under a stall label. -/
def SilentStep (py : Library) (x : Executor γ) (t : TaskId) (w w' : KernelWorld γ) : Prop :=
  Step (kernel py x) anyEvent w w' ∧ ∀ row, w'.shared.store.task t = some row → row.Silent

/-! ### Counting -/

theorem Store.Posts.stallWakes {keys : List DedupeKey} {a b : Store}
    (posts : Store.Posts keys a b) (t : TaskId) (key : ℕ × ℕ) :
    b.stallWakes t key = a.stallWakes t key + (keys.filterMap DedupeKey.stall).count (t, key) := by
  obtain ⟨added, rows, rfl, unsent⟩ := posts
  rw [Store.stallWakes, rows, List.countP_append, ← Store.stallWakes]
  congr 1
  clear rows unsent
  induction added with
  | nil => rfl
  | cons w added ih =>
    rw [List.countP_cons, ih, List.map_cons, List.filterMap_cons]
    cases stall : w.dedupeKey.stall with
    | none => simp
    | some other => simp [List.count_cons]

theorem Store.Delivers.stallWakes {a b : Store} (delivers : a.Delivers b) (t : TaskId)
    (key : ℕ × ℕ) : b.stallWakes t key = a.stallWakes t key := by
  obtain ⟨become, rows, later⟩ := delivers
  rw [Store.stallWakes, Store.stallWakes, rows, List.countP_map]
  apply List.countP_congr
  intro w mem
  simp only [Function.comp, (later w mem).origin.dedupeKey]

theorem Store.Reports.stallWakes {a b : Store} (reports : a.Reports b) (t : TaskId)
    (key : ℕ × ℕ) : b.stallWakes t key = a.stallWakes t key := by
  obtain ⟨keys, ⟨posts, _⟩, quiet⟩ := reports
  have none : keys.filterMap DedupeKey.stall = [] := List.filterMap_eq_nil_iff.mpr quiet
  rw [posts.stallWakes, none, List.count_nil, Nat.add_zero]

/-- Every key of the outbox spells its incident in one way. -/
def Store.Spelled (db : Store) : Prop := ∀ w ∈ db.wakes.rows, w.dedupeKey.Spelled

theorem Store.Delivers.spelled {a b : Store} (delivers : a.Delivers b) (spelled : a.Spelled) :
    b.Spelled := by
  obtain ⟨become, rows, later⟩ := delivers
  intro w mem
  rw [rows] at mem
  obtain ⟨v, known, rfl⟩ := List.mem_map.mp mem
  rw [← (later v known).origin.dedupeKey]
  exact spelled v known

theorem Store.Tells.spelled {keys : List DedupeKey} {a b : Store} (tells : Store.Tells keys a b)
    (spelled : a.Spelled) : b.Spelled := by
  obtain ⟨⟨added, rows, rfl, _⟩, once⟩ := tells
  intro w mem
  rw [rows] at mem
  rcases List.mem_append.mp mem with old | new
  · exact spelled w old
  · exact (once _ (List.mem_map_of_mem new)).1

theorem Store.Delivers.toldWakes {a b : Store} (delivers : a.Delivers b)
    (incident : TaskId × ℕ × WakeReason) : b.toldWakes incident ≤ a.toldWakes incident := by
  obtain ⟨become, rows, later⟩ := delivers
  rw [Store.toldWakes, Store.toldWakes, rows, List.countP_map]
  apply List.countP_mono_left
  intro w mem told
  simp only [Function.comp, Bool.and_eq_true, decide_eq_true_eq] at told ⊢
  rw [(later w mem).origin.dedupeKey]
  exact ⟨told.1, (later w mem).told told.2⟩

/-- An incident that is reported was not told before, and is reported once. -/
theorem Store.Tells.toldWakes {keys : List DedupeKey} {a b : Store} (tells : Store.Tells keys a b)
    (spelled : a.Spelled) (incident : TaskId × ℕ × WakeReason)
    (before : a.toldWakes incident ≤ 1) : b.toldWakes incident ≤ 1 := by
  obtain ⟨⟨added, rows, rfl, unsent⟩, once⟩ := tells
  have new : added.countP (fun w => w.dedupeKey.incident = some incident &&
      w.state ∈ toldWakeStates) ≤ (added.map Wake.dedupeKey).count (incidentKey incident) := by
    rw [List.count_eq_countP, List.countP_map]
    apply List.countP_mono_left
    intro w mem told
    simp only [Bool.and_eq_true, decide_eq_true_eq] at told
    have same := (once _ (List.mem_map_of_mem mem)).1 incident told.1
    simp [same]
  rw [Store.toldWakes, rows, List.countP_append, ← Store.toldWakes]
  by_cases posted : incidentKey incident ∈ added.map Wake.dedupeKey ∧
      (incidentKey incident).incident.isSome
  · obtain ⟨single, untold⟩ := (once _ posted.1).2 posted.2
    have none : a.toldWakes incident = 0 := by
      rw [Store.toldWakes, List.countP_eq_zero]
      intro w mem told
      simp only [Bool.and_eq_true, decide_eq_true_eq] at told
      exact untold ⟨w, mem, spelled w mem incident told.1, told.2⟩
    omega
  · have none : added.countP (fun w => w.dedupeKey.incident = some incident &&
        w.state ∈ toldWakeStates) = 0 := by
      rw [List.countP_eq_zero]
      intro w mem told
      simp only [Bool.and_eq_true, decide_eq_true_eq] at told
      have named : w.dedupeKey ∈ added.map Wake.dedupeKey := List.mem_map_of_mem mem
      have same := (once w.dedupeKey named).1 incident told.1
      apply posted
      rw [← same, told.1]
      exact ⟨named, rfl⟩
    omega

/-! ### The invariant -/

structure Store.WakesCapped (db : Store) : Prop where
  paced : ∀ t row, db.task t = some row → row.pace.Capped (db.stallWakes t)
  unknown : ∀ t, db.task t = none → ∀ key, db.stallWakes t key = 0
  spelled : db.Spelled
  once : ∀ incident, db.toldWakes incident ≤ 1

theorem Pace.Capped.unposted (p : Pace) {posted : ℕ × ℕ → ℕ} (none : ∀ key, posted key = 0) :
    p.Capped posted := by
  constructor
  · intro key
    simp [none]
  · exact fun n e _ => none (n, e)
  · exact fun e _ => none (p.epoch, e)
  · intro _
    simp [none]

/-- A commit under which every row takes a step of its own, along the wakes posted for it. -/
theorem Store.WakesCapped.along {a b : Store} (capped : a.WakesCapped)
    (rows : ∀ t row, a.task t = some row → ∃ next posts, b.task t = some next ∧
      row.pace.Steps next.pace posts ∧
      ∀ key, b.stallWakes t key = a.stallWakes t key + posts.count key)
    (others : ∀ t, a.task t = none → ∀ key, b.stallWakes t key = a.stallWakes t key)
    (spelled : b.Spelled) (once : ∀ incident, b.toldWakes incident ≤ 1) : b.WakesCapped := by
  have silent (t : TaskId) (absent : a.task t = none) (key : ℕ × ℕ) : b.stallWakes t key = 0 := by
    rw [others t absent, capped.unknown t absent]
  constructor
  · intro t next found
    cases known : a.task t with
    | none => exact .unposted _ (silent t known)
    | some row =>
      obtain ⟨next', posts, found', steps, counts⟩ := rows t row known
      cases Option.some.inj (found.symm.trans found')
      rw [funext counts]
      exact (capped.paced t row known).steps steps
  · intro t absent
    cases known : a.task t with
    | none => exact silent t known
    | some row =>
      obtain ⟨next, _, found, _⟩ := rows t row known
      exact nomatch absent.symm.trans found
  · exact spelled
  · exact once

theorem Store.WakesCapped.after {db : Store} (capped : db.WakesCapped) (tx : Tx β) :
    (tx.exec db).1.WakesCapped := by
  rcases tx.exec_paced db with ⟨turns, reports⟩ | stalls | ⟨_, paced, delivers⟩
  · apply capped.along
    · intro t row known
      obtain ⟨next, found, turn⟩ := turns t row known
      exact ⟨next, [], found, .quiet turn, fun key => reports.stallWakes t key⟩
    · exact fun t _ key => reports.stallWakes t key
    · obtain ⟨keys, tells, _⟩ := reports
      exact tells.spelled capped.spelled
    · obtain ⟨keys, tells, _⟩ := reports
      exact fun incident => tells.toldWakes capped.spelled incident (capped.once incident)
  · obtain ⟨row, next, q, keys, known, turn, due, found, woken, others, tells, stall⟩ := stalls
    have counts (t : TaskId) (key : ℕ × ℕ) : (tx.exec db).1.stallWakes t key =
        db.stallWakes t key + [(row.taskId, q.epoch, q.episode)].count (t, key) := by
      rw [tells.1.stallWakes, stall]
    have apart {t : TaskId} (other : t ≠ row.taskId) (key : ℕ × ℕ) :
        (tx.exec db).1.stallWakes t key = db.stallWakes t key := by
      rw [counts, List.count_singleton, if_neg, Nat.add_zero]
      simp [other.symm]
    apply capped.along
    · intro t other known'
      by_cases same : t = row.taskId
      · subst same
        cases Option.some.inj (known.symm.trans known')
        refine ⟨next, [(q.epoch, q.episode)], found, woken ▸ Pace.Steps.woke turn due, fun key => ?_⟩
        rw [counts, List.count_singleton, List.count_singleton]
        simp
      · exact ⟨other, [], (others t same).trans known', .quiet (.kept _), apart same⟩
    · intro t absent key
      apply apart
      rintro rfl
      exact nomatch absent.symm.trans known
    · exact tells.spelled capped.spelled
    · exact fun incident => tells.toldWakes capped.spelled incident (capped.once incident)
  · apply capped.along
    · intro t row known
      obtain ⟨next, found, turn⟩ := paced.turns t row known
      exact ⟨next, [], found, .quiet turn, fun key => delivers.stallWakes t key⟩
    · exact fun t _ key => delivers.stallWakes t key
    · exact delivers.spelled capped.spelled
    · exact fun incident => (delivers.toldWakes incident).trans (capped.once incident)

theorem reachable_wakesCapped {w : KernelWorld γ} (reached : Reachable (kernel py x) anyEvent w) :
    w.shared.store.WakesCapped := by
  apply reached.invariant fun s => s.store.WakesCapped
  · rintro db e ⟨ownershipShared, rfl⟩
    constructor
    · intro t row known
      cases known
    · exact fun _ _ _ => rfl
    · intro w mem
      cases mem
    · exact fun _ => Nat.zero_le 1
  · exact fun _ _ _ capped => capped.after _
  · exact fun _ _ _ _ capped => capped

/-! ### Runs -/

theorem Tx.exec_steps (tx : Tx β) {db : Store} {t : TaskId} {row : TaskRow}
    (known : db.task t = some row) :
    ∃ next posts, (tx.exec db).1.task t = some next ∧ row.pace.Steps next.pace posts := by
  rcases tx.exec_paced db with ⟨turns, _⟩ | stalls | ⟨_, paced, _⟩
  · obtain ⟨next, found, turn⟩ := turns t row known
    exact ⟨next, [], found, .quiet turn⟩
  · obtain ⟨row', next, q, keys, known', turn, due, found, woken, others, _⟩ := stalls
    by_cases same : t = row'.taskId
    · subst same
      cases Option.some.inj (known.symm.trans known')
      exact ⟨next, _, found, woken ▸ Pace.Steps.woke turn due⟩
    · exact ⟨row, [], (others t same).trans known, .quiet (.kept _)⟩
  · obtain ⟨next, found, turn⟩ := paced.turns t row known
    exact ⟨next, [], found, .quiet turn⟩

theorem silent_run {w w' : KernelWorld γ} {t : TaskId} {row : TaskRow}
    (known : w.shared.store.task t = some row) (silent : row.Silent)
    (run : Relation.ReflTransGen (SilentStep py x t) w w') :
    ∃ next, w'.shared.store.task t = some next ∧ next.Silent ∧
      next.livenessEpisode = row.livenessEpisode ∧ row.livenessWakes ≤ next.livenessWakes := by
  induction run with
  | refl => exact ⟨row, known, silent, rfl, le_rfl⟩
  | tail _ last ih =>
    obtain ⟨mid, known, before, episode, wakes⟩ := ih
    obtain ⟨step, quiet⟩ := last
    cases step with
    | commit pending _ =>
      obtain ⟨next, posts, found, steps⟩ := Tx.exec_steps _ known
      have after := quiet next found
      obtain ⟨episode', wakes'⟩ :=
        steps.silent (TaskRow.silent_iff.mp before) (TaskRow.silent_iff.mp after)
      exact ⟨next, found, after, episode'.trans episode, wakes.trans wakes'⟩
    | spawn | call | lock | unlock | stop => exact ⟨mid, known, before, episode, wakes⟩

/-- However a child is labelled, whenever and by whichever pass: two stall wakes for an episode, one
told wake for a loss and one for a spent budget of an epoch, and one episode for as long as the
labels are silent. -/
theorem wakes_capped {w : KernelWorld γ} (reached : Reachable (kernel py x) anyEvent w) :
    (∀ t n e, w.shared.store.stallWakes t (n, e) ≤ 2) ∧
    (∀ t n, w.shared.store.toldWakes (t, n, .lost) ≤ 1 ∧
      w.shared.store.toldWakes (t, n, .overBudget) ≤ 1) ∧
    (∀ t row, w.shared.store.task t = some row → row.Silent →
      ∀ w', Relation.ReflTransGen (SilentStep py x t) w w' →
        ∃ next, w'.shared.store.task t = some next ∧
          next.livenessEpisode = row.livenessEpisode ∧ row.livenessWakes ≤ next.livenessWakes) ∧
    ∀ w', Later py x w w' → ∀ v ∈ w.shared.store.wakes.rows,
      ∃ u ∈ w'.shared.store.wakes.rows, v.SameOrigin u := by
  have capped := reachable_wakesCapped reached
  constructor
  · intro t n e
    cases known : w.shared.store.task t with
    | none =>
      rw [capped.unknown t known]
      decide
    | some row => exact (capped.paced t row known).two (n, e)
  constructor
  · exact fun t n => ⟨capped.once _, capped.once _⟩
  constructor
  · intro t row known silent w' run
    obtain ⟨next, found, _, episode, wakes⟩ := silent_run known silent run
    exact ⟨next, found, episode, wakes⟩
  · intro w' later v mem
    obtain ⟨u, mem, grown⟩ := later_wake later mem
    exact ⟨u, mem, grown.origin⟩

def stalledOps : List (Kernel Unit) :=
  [startBoss, startChild, reconcileKernel asciiLibrary fun _ => none]

theorem stalledOps_known : ∀ op ∈ stalledOps, KernelOp asciiLibrary op := by
  simp [stalledOps, startBoss, startChild, startOne, KernelOp.startAll, KernelOp.reconcileKernel]

def stalledWorld : ScriptWorld :=
  silentWorkerScript.run stalledOps (steps 0 100 ++ steps 1 100 ++ steps 2 29)

set_option maxRecDepth 100000 in
theorem stalled_child_capped :
    stalledWorld.shared.store.stallWakes childId (1, 1) = 1 ∧
    stalledWorld.shared.store.stallWakes childId (1, 1) ≤ 2 ∧
    stalledWorld.shared.store.toldWakes (childId, 1, .lost) ≤ 1 ∧
    ∀ w', Relation.ReflTransGen (SilentStep asciiLibrary silentWorkerScript.executor childId)
      stalledWorld w' → ∃ next, w'.shared.store.task childId = some next ∧
        next.livenessEpisode = 1 ∧ 1 ≤ next.livenessWakes := by
  have reached : Reachable (kernel asciiLibrary silentWorkerScript.executor) anyEvent
      stalledWorld := silentWorkerScript.run_reachable stalledOps_known _
  obtain ⟨two, once, silent, _⟩ := wakes_capped reached
  have stalled : (stalledWorld.shared.store.task childId).any fun row =>
      row.liveness = .stalled && row.livenessEpisode = 1 && row.livenessWakes = 1 := by
    decide +kernel
  have counted : stalledWorld.shared.store.stallWakes childId (1, 1) = 1 := by decide +kernel
  refine ⟨counted, two childId 1 1, (once childId 1).1, fun w' run => ?_⟩
  obtain ⟨row, known, label⟩ := (Option.any_eq_true _ _).mp stalled
  simp only [Bool.and_eq_true, decide_eq_true_eq] at label
  obtain ⟨⟨stalls, episode⟩, wakes⟩ := label
  have quiet : row.Silent := by simp [TaskRow.Silent, stalls]
  obtain ⟨next, found, same, grows⟩ := silent childId row known quiet w' run
  rw [episode] at same
  rw [wakes] at grows
  exact ⟨next, found, same, grows⟩

end SightMesh
