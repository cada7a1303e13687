import SightMesh.Kernel.Findings

/-! The outbox as a log: a wake is appended once and never removed, and its delivery changes it in
place until it is settled. -/
namespace SightMesh

open Database Python

variable {α β : Type}

def WakeState.settled : WakeState → Bool
  | .delivered | .resolved => true
  | .pending | .claimed => false

/-- What may become of a wake: chosen bytes stay, and a settled wake is left alone. -/
structure Wake.Later (v w : Wake) : Prop where
  origin : v.SameOrigin w
  payload : ∀ bytes, v.payload = some bytes → w.payload = some bytes
  settled : v.state.settled → w = v

theorem Wake.Later.refl (w : Wake) : w.Later w := ⟨.refl w, fun _ h => h, fun _ => rfl⟩

theorem Wake.Later.trans {u v w : Wake} (first : u.Later v) (second : v.Later w) : u.Later w where
  origin := first.origin.trans second.origin
  payload bytes chosen := second.payload bytes (first.payload bytes chosen)
  settled done := by
    have same := first.settled done
    subst same
    exact second.settled done

/-- No wake becomes untold and is told again. -/
theorem Wake.Later.told {v w : Wake} (h : v.Later w) (told : w.state ∈ toldWakeStates) :
    v.state ∈ toldWakeStates := by
  cases state : v.state with
  | pending => decide
  | claimed => decide
  | delivered => decide
  | resolved =>
    have same : w = v := h.settled (by rw [state]; rfl)
    rw [same, state] at told
    exact told

/-! ### Delivery -/

def Store.Delivers (a b : Store) : Prop :=
  ∃ become : Wake → Wake, b.wakes.rows = a.wakes.rows.map become ∧
    ∀ w ∈ a.wakes.rows, w.Later (become w)

theorem Store.Delivers.of_wakes {a b : Store} (same : b.wakes = a.wakes) : a.Delivers b :=
  ⟨id, by rw [same, List.map_id], fun w _ => .refl w⟩

theorem Store.Delivers.refl (db : Store) : db.Delivers db := .of_wakes rfl

theorem Wake.eq_of_id {db : Store} {v w : Wake} (left : v ∈ db.wakes.rows)
    (right : w ∈ db.wakes.rows) (same : v.wakeId = w.wakeId) : v = w := by
  have found := Table.get_of_mem left
  rw [same, Table.get_of_mem right] at found
  exact (Option.some.inj found).symm

/-- A wake that has not been touched yet is written. -/
theorem Store.Delivers.put {db mid : Store} (h : db.Delivers mid) {v w : Wake}
    (known : v ∈ db.wakes.rows) (later : v.Later w) :
    db.Delivers { mid with wakes := mid.wakes.put w } := by
  obtain ⟨become, rows, grows⟩ := h
  have there : w.wakeId ∈ mid.wakes.rows.map Wake.wakeId := by
    rw [rows, List.map_map]
    have mem : (Wake.wakeId ∘ become) v ∈ db.wakes.rows.map (Wake.wakeId ∘ become) :=
      List.mem_map_of_mem known
    rwa [Function.comp, ← (grows v known).origin.wakeId, later.origin.wakeId] at mem
  refine ⟨fun r => if r.wakeId = w.wakeId then w else become r, ?_, fun r mem => ?_⟩
  · rw [Table.rows_put_known there, rows, List.map_map]
    apply List.map_congr_left
    intro r mem
    simp only [Function.comp, (grows r mem).origin.wakeId]
  · dsimp only
    split
    · rename_i named
      rw [Wake.eq_of_id mem known (named.trans later.origin.wakeId.symm)]
      exact later
    · exact grows r mem

theorem claimWakes_delivers (claimFor now : Time) (db : Store) :
    db.Delivers (claimWakes claimFor now db).1 := by
  unfold claimWakes
  extract_lets rows
  have listed : ∀ w ∈ rows, w ∈ db.wakes.rows ∧ w.state.settled = false := by
    intro w mem
    obtain ⟨known, due⟩ := List.mem_filter.mp ((List.mem_insertionSort _).mp mem)
    refine ⟨known, ?_⟩
    cases state : w.state <;> simp_all [WakeState.settled]
  apply List.foldlRecOn (motive := fun acc : Store × List Wake => db.Delivers acc.1)
  · exact .refl db
  · intro acc delivers wake mem
    obtain ⟨known, unsettled⟩ := listed wake mem
    have later : wake.Later { wake with
        state := .claimed, claimExpiresAt := some (now + claimFor),
        claimToken := some acc.1.fresh } := by
      constructor
      · exact ⟨rfl, rfl, rfl, rfl, rfl⟩
      · exact fun _ chosen => chosen
      · exact fun done => nomatch unsettled.symm.trans done
    exact delivers.put known later

theorem Store.claimedWake_claimed {db : Store} {wake row : Wake}
    (found : db.claimedWake wake = some row) : row.state = .claimed := by
  obtain ⟨_, claimed⟩ := Option.filter_eq_some_iff.mp found
  simp only [Bool.and_eq_true, decide_eq_true_eq] at claimed
  exact claimed.1

theorem persistPayload_delivers (wake : Wake) (selected : String) (db : Store) :
    db.Delivers (persistPayload wake selected db).1 := by
  unfold persistPayload
  split
  · exact .refl db
  · rename_i row found
    have claimed := Store.claimedWake_claimed found
    have later : row.Later { row with payload := some (row.payload.getD selected) } := by
      constructor
      · exact ⟨rfl, rfl, rfl, rfl, rfl⟩
      · intro bytes chosen
        simp [chosen]
      · intro done
        simp [claimed, WakeState.settled] at done
    exact (Store.Delivers.refl db).put (Store.claimedWake_mem found) later

theorem settleWake_delivers (wake : Wake) (state : WakeState) (resolution payload : Option String)
    (now : Time) (db : Store) :
    db.Delivers (settleWake wake state resolution payload now db).1 := by
  unfold settleWake
  split
  · exact .refl db
  · rename_i row found
    extract_lets settled
    have claimed := Store.claimedWake_claimed found
    have later : row.Later { row with
        state := state, resolution := resolution, payload := row.payload.or payload,
        claimExpiresAt := none } := by
      constructor
      · exact ⟨rfl, rfl, rfl, rfl, rfl⟩
      · intro bytes chosen
        simp [chosen]
      · intro done
        simp [claimed, WakeState.settled] at done
    have delivers : db.Delivers settled :=
      (Store.Delivers.refl db).put (Store.claimedWake_mem found) later
    split
    · split
      · exact delivers
      · exact delivers
    · exact delivers

theorem Store.Delivers.kept {a b : Store} (delivers : a.Delivers b) {v : Wake}
    (mem : v ∈ a.wakes.rows) : ∃ w ∈ b.wakes.rows, v.Later w := by
  obtain ⟨become, rows, later⟩ := delivers
  refine ⟨become v, ?_, later v mem⟩
  rw [rows]
  exact List.mem_map_of_mem mem

/-! ### Arming -/

def Store.Posts (keys : List DedupeKey) (a b : Store) : Prop :=
  ∃ added, b.wakes.rows = a.wakes.rows ++ added ∧ added.map Wake.dedupeKey = keys ∧
    ∀ w ∈ added, w.state = .pending ∧ w.payload = none

theorem Store.Posts.of_wakes {a b : Store} (same : b.wakes = a.wakes) : Store.Posts [] a b :=
  ⟨[], by rw [same, List.append_nil], rfl, fun _ mem => nomatch mem⟩

theorem Store.Posts.refl (db : Store) : Store.Posts [] db db := .of_wakes rfl

theorem Store.Posts.trans {keys keys' : List DedupeKey} {a b c : Store}
    (first : Store.Posts keys a b) (second : Store.Posts keys' b c) :
    Store.Posts (keys ++ keys') a c := by
  obtain ⟨added, rows, named, unsent⟩ := first
  obtain ⟨added', rows', named', unsent'⟩ := second
  refine ⟨added ++ added', ?_, ?_, fun w mem => ?_⟩
  · rw [rows', rows, List.append_assoc]
  · rw [List.map_append, named, named']
  · rcases List.mem_append.mp mem with early | late
    · exact unsent w early
    · exact unsent' w late

theorem Store.Posts.kept {keys : List DedupeKey} {a b : Store} (posts : Store.Posts keys a b)
    {v : Wake} (mem : v ∈ a.wakes.rows) : ∃ w ∈ b.wakes.rows, v.Later w := by
  obtain ⟨added, rows, _⟩ := posts
  refine ⟨v, ?_, .refl v⟩
  rw [rows]
  exact List.mem_append_left _ mem

theorem Store.Posts.told {keys : List DedupeKey} {a b : Store} (posts : Store.Posts keys a b)
    {key : DedupeKey} (known : a.Told key ∨ key ∈ keys) : b.Told key := by
  obtain ⟨added, rows, rfl, unsent⟩ := posts
  rcases known with ⟨w, mem, named, told⟩ | posted
  · exact ⟨w, by simp [rows, mem], named, told⟩
  · obtain ⟨w, mem, named⟩ := List.mem_map.mp posted
    refine ⟨w, by simp [rows, mem], named, ?_⟩
    rw [(unsent w mem).1]
    decide

/-- The reasons a child is reported for once in an epoch. -/
def WakeReason.oneShot : WakeReason → Bool
  | .lost | .overBudget => true
  | .idleUnreported | .limbo | .stalled => false

def DedupeKey.incident : DedupeKey → Option (TaskId × ℕ × WakeReason)
  | .cohort _ _ => none
  | .episode childTaskId epoch reason _ _ =>
    if reason.oneShot then some (childTaskId, epoch, reason) else none

def DedupeKey.stall : DedupeKey → Option (TaskId × ℕ × ℕ)
  | .cohort _ _ => none
  | .episode childTaskId epoch reason number _ =>
    if reason.oneShot then none else some (childTaskId, epoch, number)

def incidentKey (incident : TaskId × ℕ × WakeReason) : DedupeKey :=
  .episode incident.1 incident.2.1 incident.2.2 1 false

def DedupeKey.Spelled (key : DedupeKey) : Prop :=
  ∀ incident, key.incident = some incident → key = incidentKey incident

def Store.Tells (keys : List DedupeKey) (a b : Store) : Prop :=
  Store.Posts keys a b ∧ ∀ key ∈ keys, key.Spelled ∧
    (key.incident.isSome → keys.count key = 1 ∧ ¬ a.Told key)

theorem Store.Tells.of_wakes {a b : Store} (same : b.wakes = a.wakes) : Store.Tells [] a b :=
  ⟨.of_wakes same, fun _ mem => nomatch mem⟩

theorem Store.Tells.refl (db : Store) : Store.Tells [] db db := .of_wakes rfl

theorem Store.Tells.trans {keys keys' : List DedupeKey} {a b c : Store}
    (first : Store.Tells keys a b) (second : Store.Tells keys' b c) :
    Store.Tells (keys ++ keys') a c := by
  refine ⟨first.1.trans second.1, fun key mem => ?_⟩
  have apart (early : key ∈ keys) (late : key ∈ keys') : key.incident = none := by
    by_contra some
    exact ((second.2 key late).2 (Option.isSome_iff_ne_none.mpr some)).2
      (first.1.told (.inr early))
  rcases List.mem_append.mp mem with early | late
  · obtain ⟨spelled, once⟩ := first.2 key early
    refine ⟨spelled, fun incident => ?_⟩
    have absent : key ∉ keys' := fun late => by
      rw [apart early late] at incident
      exact nomatch incident
    rw [List.count_append, List.count_eq_zero_of_not_mem absent]
    exact once incident
  · obtain ⟨spelled, once⟩ := second.2 key late
    refine ⟨spelled, fun incident => ?_⟩
    have absent : key ∉ keys := fun early => by
      rw [apart early late] at incident
      exact nomatch incident
    rw [List.count_append, List.count_eq_zero_of_not_mem absent, Nat.zero_add]
    exact ⟨(once incident).1, fun told => (once incident).2 (first.1.told (.inl told))⟩

theorem armWake_posts (parentTaskId : TaskId) (predicate : Predicate) (eventSeq : Option ℕ)
    (now : Time) {db : Store} {key : DedupeKey} (free : ¬ db.Armed key) :
    Store.Posts [key] db (db.armWake parentTaskId predicate key eventSeq now).1 := by
  rw [armWake_new parentTaskId predicate eventSeq now free]
  refine ⟨_, Table.rows_put_new db.freshWakeId_fresh, rfl, fun w mem => ?_⟩
  rw [List.mem_singleton.mp mem]
  exact ⟨rfl, rfl⟩

theorem Store.Tells.single {a b : Store} {key : DedupeKey} (posts : Store.Posts [key] a b)
    (spelled : key.Spelled) (untold : key.incident.isSome → ¬ a.Told key) :
    Store.Tells [key] a b := by
  refine ⟨posts, fun k mem => ?_⟩
  rw [List.mem_singleton.mp mem]
  exact ⟨spelled, fun incident => ⟨List.count_singleton_self, untold incident⟩⟩

def Store.Reports (a b : Store) : Prop :=
  ∃ keys, Store.Tells keys a b ∧ ∀ key ∈ keys, key.stall = none

theorem Store.Reports.of_wakes {a b : Store} (same : b.wakes = a.wakes) : a.Reports b :=
  ⟨[], .of_wakes same, fun _ mem => nomatch mem⟩

theorem Store.Reports.refl (db : Store) : db.Reports db := .of_wakes rfl

theorem Store.Reports.trans {a b c : Store} (first : a.Reports b) (second : b.Reports c) :
    a.Reports c := by
  obtain ⟨keys, tells, quiet⟩ := first
  obtain ⟨keys', tells', quiet'⟩ := second
  refine ⟨keys ++ keys', tells.trans tells', fun key mem => ?_⟩
  rcases List.mem_append.mp mem with early | late
  · exact quiet key early
  · exact quiet' key late

theorem armWake_cohort (db : Store) (parentTaskId : TaskId) (predicate : Predicate)
    (eventSeq : Option ℕ) (now : Time) : db.Reports (db.armWake parentTaskId predicate
      (.cohort parentTaskId predicate) eventSeq now).1 := by
  by_cases armed : db.Armed (.cohort parentTaskId predicate)
  · rw [armWake_quiet armed]
    exact .refl db
  · refine ⟨_, .single (armWake_posts parentTaskId predicate eventSeq now armed)
      (fun incident found => nomatch found) (fun incident => nomatch incident), fun key mem => ?_⟩
    rw [List.mem_singleton.mp mem]
    rfl

/-- An incident is told once. -/
theorem armLiveness_reports (parentTaskId : TaskId) {reason : WakeReason}
    (oneShot : reason.oneShot) (childTaskId : TaskId) (epoch : ℕ) (now : Time) (db : Store) :
    db.Reports (armLiveness parentTaskId reason (.episode childTaskId epoch reason 1 false) now
      true db).1 := by
  by_cases told : db.Told (.episode childTaskId epoch reason 1 false)
  · rw [armLiveness_quiet (.inr ⟨rfl, told⟩)]
    exact .refl db
  · rw [armLiveness_new fun _ => told]
    have free : ¬ db.Armed (.episode childTaskId epoch reason 1 false) :=
      fun armed => told armed.told
    refine ⟨_, .single (armWake_posts parentTaskId _ none now free) ?_ fun _ => told,
      fun key mem => ?_⟩
    · intro incident found
      simp only [DedupeKey.incident, oneShot, if_true, Option.some.injEq] at found
      rw [← found]
      rfl
    · rw [List.mem_singleton.mp mem]
      simp [DedupeKey.stall, oneShot]

theorem recordWakes_reports (parentTaskId : TaskId) (now : Time) (db : Store) :
    db.Reports (recordWakes parentTaskId now db).1 := by
  unfold recordWakes
  split
  · exact .refl db
  · split
    · exact .refl db
    · apply List.foldlRecOn (motive := fun acc : Store × List ℕ => db.Reports acc.1)
      · exact .refl db
      · intro acc reports predicate _
        exact reports.trans (armWake_cohort acc.1 parentTaskId predicate _ now)

theorem recordCohortWakes_reports (now : Time) (db : Store) :
    db.Reports (recordCohortWakes now db) := by
  unfold recordCohortWakes
  apply List.foldlRecOn (motive := fun acc : Store => db.Reports acc)
  · exact .refl db
  · intro acc reports parentTaskId _
    exact reports.trans (recordWakes_reports parentTaskId now acc)

/-- A row that is not worked on is reported at most as lost. -/
theorem recordLivenessWakes_reports {t : TaskId} (now progressTimeout : Time) {db : Store}
    (idle : ∀ row, db.task t = some row → row.state ≠ .active) :
    db.Reports (recordLivenessWakes t now progressTimeout db).1 := by
  unfold recordLivenessWakes
  split
  · exact .refl db
  · rename_i row known
    split
    · exact .refl db
    · split
      · exact armLiveness_reports _ rfl t row.epoch now db
      · rw [if_pos (idle row known)]
        exact .refl db

end SightMesh
