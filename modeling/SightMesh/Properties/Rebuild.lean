import Mathlib.Algebra.Order.BigOperators.Group.List
import Mathlib.Algebra.Order.Group.Nat
import Mathlib.Data.List.Nodup
import SightMesh.Evidence.Index

/-! A rebuild comes to its end, and what it tells of a source whose coverage is less than before. -/
namespace SightMesh.Native

open Python EvidenceIndex

variable (lib : IndexLibrary) (server : Server)

/-! ### One page -/

def frameRow (key : SourceKey) (n : ℕ) (frame : Frame) : Except Fault FrameRow := do
  let window ← frameWindow server key.executionId n frame
  indexWindow lib key window.1 window.2 frame

/-- The n-th answer is a page that is accepted at the position, and every frame of it can be
indexed. -/
def Takes (key : SourceKey) (n : ℕ) (position : Position) (page : Page) : Prop :=
  (server.provenance n position.afterFrame >>= (validatePage lib.toPageLibrary · position)) =
      .ok page ∧
    ∀ frame ∈ page.frames, ∃ row, frameRow lib server key n frame = .ok row

variable {lib server} {index : EvidenceIndex} {state : SourceStatus} {n : ℕ}

theorem commitFrame_of_row {frame : Frame} {row : FrameRow}
    (found : index.status state.key = some state)
    (indexed : frameRow lib server state.key n frame = .ok row) :
    ∃ start body index', frameWindow server state.key.executionId n frame = .ok (start, body) ∧
      index.commitFrame lib state frame start body = .ok index' ∧
      index'.status state.key = some (state.advance frame) ∧ Apart state.key index index' := by
  obtain ⟨⟨start, body⟩, window, row'⟩ := bind_eq_ok indexed
  refine ⟨start, body,
    { index.update state.key (·.advance frame) with frames := index.frames ++ [row] }, window, ?_,
    status_update_self (fun _ => rfl) found, apart_update fun _ => rfl⟩
  dsimp only at row'
  simp only [commitFrame, found, require, decide_true, if_true, row', bind, Except.bind]
  rfl

theorem commitFrame_of_fault {frame : Frame} {start : ℕ} {body : List UInt8}
    (found : index.status state.key = some state)
    (window : frameWindow server state.key.executionId n frame = .ok (start, body))
    (unreadable : ¬ ∃ row, frameRow lib server state.key n frame = .ok row) :
    ∃ fault, index.commitFrame lib state frame start body = .error fault := by
  cases row : indexWindow lib state.key start body frame with
  | ok row' =>
    apply absurd _ unreadable
    exact ⟨row', by rw [frameRow, window]; exact row⟩
  | error fault =>
    refine ⟨fault, ?_⟩
    simp only [commitFrame, found, require, decide_true, if_true, row, bind, Except.bind]

theorem syncFrames_spec (found : index.status state.key = some state) (frames : List Frame) :
    let out := index.syncFrames lib server n state frames
    Apart state.key index out.1 ∧
    ((∀ frame ∈ frames, ∃ row, frameRow lib server state.key n frame = .ok row) →
      out.2 = none ∧
        out.1.status state.key = some (frames.foldl SourceStatus.advance state)) ∧
    ((¬ ∀ frame ∈ frames, ∃ row, frameRow lib server state.key n frame = .ok row) →
      out.2.isSome ∧ (out.1.status state.key).isSome) := by
  induction frames generalizing index state with
  | nil =>
    refine ⟨fun _ _ => rfl, fun _ => ⟨rfl, found⟩, fun missed => ?_⟩
    exact absurd (fun _ mem => nomatch mem) missed
  | cons frame rest ih =>
    rw [syncFrames, List.forall_mem_cons]
    by_cases indexed : ∃ row, frameRow lib server state.key n frame = .ok row
    · obtain ⟨row, indexed⟩ := indexed
      obtain ⟨start, body, index', window, committed, now, apart⟩ :=
        commitFrame_of_row found indexed
      rw [window]
      dsimp only
      rw [committed]
      dsimp only
      rw [now]
      have later := @ih index' (state.advance frame) now
      refine ⟨apart.trans later.1, fun all => later.2.1 all.2, fun missed => ?_⟩
      exact later.2.2 fun all => missed ⟨⟨row, indexed⟩, all⟩
    · have stops (fault : Fault) : Apart state.key index index ∧
          ((∃ row, frameRow lib server state.key n frame = .ok row) ∧
              (∀ frame ∈ rest, ∃ row, frameRow lib server state.key n frame = .ok row) →
            some fault = none ∧ index.status state.key =
              some ((frame :: rest).foldl SourceStatus.advance state)) ∧
          (¬ ((∃ row, frameRow lib server state.key n frame = .ok row) ∧
              (∀ frame ∈ rest, ∃ row, frameRow lib server state.key n frame = .ok row)) →
            (some fault).isSome ∧ (index.status state.key).isSome) :=
        ⟨fun _ _ => rfl, fun all => absurd all.1 indexed, fun _ => ⟨rfl, by rw [found]; rfl⟩⟩
      cases window : frameWindow server state.key.executionId n frame with
      | error fault => exact stops fault
      | ok answer =>
        obtain ⟨start, body⟩ := answer
        obtain ⟨fault, raised⟩ := commitFrame_of_fault found window indexed
        dsimp only
        rw [raised]
        exact stops fault

theorem foldl_advance_position (s : SourceStatus) (frames : List Frame) :
    (frames.foldl SourceStatus.advance s).toPosition = s.toPosition.behind frames := by
  induction frames generalizing s with
  | nil => rfl
  | cons frame rest ih => exact ih _

theorem foldl_advance_end (s : SourceStatus) (frames : List Frame) (atAvailableEnd : Bool) :
    { frames.foldl SourceStatus.advance s with atAvailableEnd, error := none } =
      { s with toPosition := s.toPosition.behind frames, atAvailableEnd, error := none } := by
  induction frames generalizing s with
  | nil => rfl
  | cons frame rest ih => exact ih _

def SourceStatus.take (s : SourceStatus) (page : Page) : SourceStatus :=
  { s with
    toPosition := s.toPosition.behind page.frames
    atAvailableEnd := page.atAvailableEnd
    error := none }

/-- A page that can be taken moves the row behind it; otherwise something is raised. -/
theorem syncPage_spec (found : index.status state.key = some state) :
    let out := index.syncPage lib server state.key n
    Apart state.key index out.1 ∧
    ((∃ page, Takes lib server state.key n state.toPosition page ∧
        out.2 = .ok page.atAvailableEnd ∧ out.1.status state.key = some (state.take page)) ∨
      ((¬ ∃ page, Takes lib server state.key n state.toPosition page) ∧
        (∃ fault, out.2 = .error fault) ∧ (out.1.status state.key).isSome)) := by
  rw [syncPage, found]
  dsimp only
  cases answer : server.provenance n state.afterFrame >>=
      (validatePage lib.toPageLibrary · state.toPosition) with
  | error fault =>
    refine ⟨fun _ _ => rfl, .inr ⟨?_, ⟨fault, rfl⟩, by rw [found]; rfl⟩⟩
    rintro ⟨page, accepted, _⟩
    rw [answer] at accepted
    exact nomatch accepted
  | ok page =>
    have frames := @syncFrames_spec lib server index state n found page.frames
    dsimp only
    generalize index.syncFrames lib server n state page.frames = out at frames ⊢
    obtain ⟨index', raised⟩ := out
    obtain ⟨apart, all, missed⟩ := frames
    by_cases reads : ∀ frame ∈ page.frames, ∃ row, frameRow lib server state.key n frame = .ok row
    · obtain ⟨none, row⟩ := all reads
      dsimp only at none row apart
      subst none
      have keeps (s : SourceStatus) :
          (if s.afterFrame = (state.toPosition.behind page.frames).afterFrame then
            { s with atAvailableEnd := page.atAvailableEnd, error := none } else s).key = s.key := by
        split <;> rfl
      refine ⟨apart.trans (apart_update keeps), .inl ⟨page, ⟨answer, reads⟩, rfl, ?_⟩⟩
      have cursor : (page.frames.foldl SourceStatus.advance state).afterFrame =
          (state.toPosition.behind page.frames).afterFrame := by rw [foldl_advance_position]
      have last := status_update_self keeps row
      rw [if_pos cursor, foldl_advance_end] at last
      exact last
    · obtain ⟨some', there⟩ := missed reads
      obtain ⟨fault, rfl⟩ := Option.isSome_iff_exists.mp some'
      refine ⟨apart, .inr ⟨?_, ⟨fault, rfl⟩, there⟩⟩
      rintro ⟨page', accepted, reads'⟩
      rw [answer, Except.ok.injEq] at accepted
      exact reads (accepted ▸ reads')

/-- One call of `sync` for a page of a log that is known. -/
theorem sync_spec (found : index.status state.key = some state)
    (log : state.key.artifactId = none) :
    ∃ index' state', index.sync lib server state.key.executionId state.taskId state.repo n 1 =
        .ok (index', some state') ∧ Apart state.key index index' ∧
      index'.status state.key = some state' ∧
      ((∃ page, Takes lib server state.key n state.toPosition page ∧ state' = state.take page) ∨
        ((¬ ∃ page, Takes lib server state.key n state.toPosition page) ∧ state'.error.isSome)) := by
  have key : ({ executionId := state.key.executionId } : SourceKey) = state.key := by
    rw [← log]
  have registered : index.register state.key state.taskId state.repo = .ok index := by
    rw [register, found]
    exact if_pos ⟨rfl, rfl⟩
  rw [sync, key, registered]
  have page := @syncPage_spec lib server index state n found
  simp only [bind, Except.bind, syncPages]
  generalize index.syncPage lib server state.key n = out at page ⊢
  obtain ⟨index', answer⟩ := out
  obtain ⟨apart, ⟨page, takes, answered, row⟩ | ⟨untaken, ⟨fault, answered⟩, there⟩⟩ := page
  · dsimp only at answered row apart
    subst answered
    refine ⟨index', state.take page, ?_, apart, row, .inl ⟨page, takes, rfl⟩⟩
    cases page.atAvailableEnd <;> simp only [row]
  · dsimp only at answered there apart
    subst answered
    obtain ⟨row, there⟩ := Option.isSome_iff_exists.mp there
    have marked : (index'.markUnavailable state.key fault).status state.key =
        some { row with error := some fault.name } := status_update_self (fun _ => rfl) there
    refine ⟨index'.markUnavailable state.key fault, { row with error := some fault.name }, ?_,
      apart.trans (apart_update fun _ => rfl), marked, .inr ⟨untaken, rfl⟩⟩
    simp only [marked]

/-! ### One log -/

variable (lib server) in
/-- The answers of a log lead to one that tells of the available end before the place is reached. -/
inductive EndsShort (key : SourceKey) (goal : ℕ) : Position → ℕ → Prop
  | here {position : Position} {n : ℕ} {page : Page} (takes : Takes lib server key n position page)
      (ends : page.atAvailableEnd = true)
      (short : (position.behind page.frames).compressedEnd < goal) : EndsShort key goal position n
  | later {position : Position} {n : ℕ} {page : Page} (takes : Takes lib server key n position page)
      (more : page.atAvailableEnd = false)
      (short : (position.behind page.frames).compressedEnd < goal)
      (rest : EndsShort key goal (position.behind page.frames) (n + 1)) :
      EndsShort key goal position n

theorem Takes.unique {key : SourceKey} {position : Position} {page page' : Page}
    (takes : Takes lib server key n position page)
    (takes' : Takes lib server key n position page') : page = page' := by
  have same := takes.1.symm.trans takes'.1
  injection same

theorem Takes.chain {key : SourceKey} {position : Position} {page : Page}
    (takes : Takes lib server key n position page) : Chain position page.frames ∧
      (page.atAvailableEnd = false →
        page.frames ≠ [] ∧ (position.behind page.frames).outcome = none) := by
  obtain ⟨d, _, valid⟩ := bind_eq_ok takes.1
  exact validatePage_spec valid

theorem Takes.advances {key : SourceKey} {position : Position} {page : Page}
    (takes : Takes lib server key n position page) (more : page.atAvailableEnd = false) :
    position.compressedEnd < (position.behind page.frames).compressedEnd := by
  have forward := takes.chain.1.compressedEnd_add_le
  have some := List.length_pos_iff.mpr (takes.chain.2 more).1
  omega

/-- What is wanted of a source: its coverage is what it was, or there is an error. -/
def KeepsCoverage (original state : SourceStatus) : Prop :=
  state.error.isSome ∨
    original.compressedEnd ≤ state.compressedEnd ∧
      (original.key.artifactId.isSome → original.rawEnd ≤ state.rawEnd)

/-- Which answers lead there, told of the first of them. -/
theorem endsShort_iff {key : SourceKey} {goal : ℕ} {position : Position} {page : Page}
    (takes : Takes lib server key n position page) :
    EndsShort lib server key goal position n ↔
      (position.behind page.frames).compressedEnd < goal ∧
        (page.atAvailableEnd = true ∨
          EndsShort lib server key goal (position.behind page.frames) (n + 1)) := by
  constructor
  · intro ends
    cases ends with
    | here takes' ends short =>
      rw [takes.unique takes']
      exact ⟨short, .inl ends⟩
    | later takes' more short rest =>
      rw [takes.unique takes']
      exact ⟨short, .inr rest⟩
  · rintro ⟨short, ends | rest⟩
    · exact .here takes ends short
    · cases ends : page.atAvailableEnd with
      | true => exact .here takes ends short
      | false => exact .later takes ends short rest

theorem not_endsShort {key : SourceKey} {goal : ℕ} {position : Position}
    (untaken : ¬ ∃ page, Takes lib server key n position page) :
    ¬ EndsShort lib server key goal position n := by
  intro ends
  cases ends with
  | here takes _ _ => exact untaken ⟨_, takes⟩
  | later takes _ _ _ => exact untaken ⟨_, takes⟩

theorem keepsCoverage_take {original row : SourceStatus} {page : Page}
    (log : original.key.artifactId = none) :
    KeepsCoverage original (row.take page) ↔
      original.compressedEnd ≤ (row.toPosition.behind page.frames).compressedEnd := by
  simp [KeepsCoverage, SourceStatus.take, log]

theorem resync_spec {original row : SourceStatus} {fuel : ℕ} (log : row.key.artifactId = none)
    (same : row.key = original.key ∧ row.taskId = original.taskId ∧ row.repo = original.repo)
    (found : index.status row.key = some row) (some' : 0 < fuel)
    (enough : original.compressedEnd < row.compressedEnd + fuel) :
    ∃ index' state, EvidenceIndex.resync lib server original index n fuel =
        some (.ok (index', state)) ∧ Apart row.key index index' ∧ state.key = row.key ∧
      (KeepsCoverage original state ↔
        ¬ EndsShort lib server row.key original.compressedEnd row.toPosition n) := by
  induction fuel generalizing index row n with
  | zero => exact nomatch some'
  | succ fuel ih =>
    have log' : original.key.artifactId = none := same.1 ▸ log
    obtain ⟨index', state, synced, apart, now, ⟨page, takes, rfl⟩ | ⟨untaken, error⟩⟩ :=
      @sync_spec lib server index row n found log
    · rw [same.1, same.2.1, same.2.2] at synced
      rw [EvidenceIndex.resync, synced]
      dsimp only
      by_cases exceeded : page.atAvailableEnd = true ∨
          original.compressedEnd ≤ (row.toPosition.behind page.frames).compressedEnd
      · have stops : (row.take page).error.isSome = true ∨ (row.take page).atAvailableEnd = true ∨
            original.compressedEnd ≤ (row.take page).compressedEnd := .inr exceeded
        refine ⟨index', row.take page, if_pos stops, apart, rfl, ?_⟩
        rw [keepsCoverage_take log', endsShort_iff takes]
        by_cases reached : original.compressedEnd ≤
            (row.toPosition.behind page.frames).compressedEnd
        · exact iff_of_true reached fun short => Nat.not_lt.mpr reached short.1
        · exact iff_of_false reached fun long =>
            long ⟨Nat.not_le.mp reached, .inl (exceeded.resolve_right reached)⟩
      · have goesOn : ¬ ((row.take page).error.isSome = true ∨
            (row.take page).atAvailableEnd = true ∨
              original.compressedEnd ≤ (row.take page).compressedEnd) := by
          rintro (no | stops)
          · exact nomatch no
          · exact exceeded stops
        rw [not_or, Bool.not_eq_true, Nat.not_le] at exceeded
        have step := takes.advances exceeded.1
        obtain ⟨index'', state, ran, apart', key, covers⟩ :=
          @ih index' (n + 1) (row.take page) log same now
            (by omega) (by
              have position : (row.take page).compressedEnd =
                (row.toPosition.behind page.frames).compressedEnd := rfl
              omega)
        refine ⟨index'', state, (if_neg goesOn).trans ran, apart.trans apart', key, ?_⟩
        rw [covers, endsShort_iff takes]
        simp only [exceeded.1, Bool.false_eq_true, false_or, exceeded.2, true_and]
        rfl
    · rw [same.1, same.2.1, same.2.2] at synced
      rw [EvidenceIndex.resync, synced]
      refine ⟨index', state, if_pos (.inl error), apart, key_of_status now, ?_⟩
      exact iff_of_true (.inl error) (not_endsShort untaken)

/-! ### Indexes that can be -/

/-- The transactions of the calls, one of which may follow the other in any order. -/
inductive Transaction (lib : IndexLibrary) (index : EvidenceIndex) : EvidenceIndex → Prop
  | register {key : SourceKey} {taskId repo : Option String} {index' : EvidenceIndex}
      (ran : index.register key taskId repo = .ok index') : Transaction lib index index'
  | commitFrame {expected : SourceStatus} {frame : Frame} {start : ℕ} {body : List UInt8}
      {index' : EvidenceIndex} (log : expected.key.artifactId = none)
      (ran : index.commitFrame lib expected frame start body = .ok index') :
      Transaction lib index index'
  | endPage (key : SourceKey) (cursor : Option ℕ) (atAvailableEnd : Bool)
      (log : key.artifactId = none) :
      Transaction lib index (index.endPage key cursor atAvailableEnd)
  | markUnavailable (key : SourceKey) (fault : Fault) :
      Transaction lib index (index.markUnavailable key fault)
  | commitArtifact {key : SourceKey} {reply : ArtifactReply} {index' : EvidenceIndex}
      (artifact : key.artifactId.isSome) (ran : index.commitArtifact lib key reply = .ok index') :
      Transaction lib index index'
  | forget : Transaction lib index index.forget

/-- The cursor of an artifact is never written, and where its bytes end is nowhere or at the size of
its receipt. -/
def SourceStatus.Valid (s : SourceStatus) : Prop :=
  s.key.artifactId.isSome →
    s.compressedEnd = 0 ∧ (s.rawEnd = 0 ∨ ∃ receipt, s.receipt = some receipt ∧
      s.rawEnd = receipt.sizeBytes)

structure EvidenceIndex.Valid (index : EvidenceIndex) : Prop where
  keys : (index.sources.map (·.key)).Nodup
  rows : ∀ s ∈ index.sources, s.Valid

theorem EvidenceIndex.Valid.update {key : SourceKey} {change : SourceStatus → SourceStatus}
    (valid : index.Valid) (keeps : ∀ s, (change s).key = s.key)
    (rows : ∀ s, s.key = key → s.Valid → (change s).Valid) : (index.update key change).Valid := by
  constructor
  · have same : (index.update key change).sources.map (·.key) = index.sources.map (·.key) := by
      rw [EvidenceIndex.update, List.map_map]
      apply List.map_congr_left
      intro s _
      dsimp only [Function.comp]
      split
      · exact keeps s
      · rfl
    rw [same]
    exact valid.keys
  · intro s mem
    obtain ⟨s', mem', rfl⟩ := List.mem_map.mp mem
    split
    next here => exact rows s' here (valid.rows s' mem')
    next => exact valid.rows s' mem'

theorem EvidenceIndex.Valid.register {key : SourceKey} {taskId repo : Option String}
    {index' : EvidenceIndex} (valid : index.Valid)
    (ran : index.register key taskId repo = .ok index') : index'.Valid := by
  rw [EvidenceIndex.register] at ran
  split at ran
  next fresh =>
    cases ran
    have apart : key ∉ index.sources.map (·.key) := by
      intro mem
      obtain ⟨s, mem, same⟩ := List.mem_map.mp mem
      exact List.find?_eq_none.mp fresh s mem (decide_eq_true same)
    constructor
    · rw [List.map_append]
      exact List.nodup_append_comm.mp (List.nodup_cons.mpr ⟨apart, valid.keys⟩)
    · intro s mem
      rcases List.mem_append.mp mem with old | new
      · exact valid.rows s old
      · rw [List.mem_singleton.mp new]
        exact fun _ => ⟨rfl, .inl rfl⟩
  next row _ =>
    split at ran
    · cases ran
      exact valid
    · exact nomatch ran

theorem SourceStatus.valid_of_log {s : SourceStatus} (log : s.key.artifactId = none) : s.Valid := by
  intro artifact
  rw [log] at artifact
  exact nomatch artifact

theorem EvidenceIndex.Valid.commitArtifact {key : SourceKey} {reply : ArtifactReply}
    {index' : EvidenceIndex} (valid : index.Valid)
    (ran : index.commitArtifact lib key reply = .ok index') : index'.Valid := by
  obtain ⟨receipt, _, ran⟩ := bind_eq_ok ran
  split at ran
  · exact nomatch ran
  next current found =>
    split at ran
    · exact nomatch ran
    · split at ran
      · cases ran
        exact valid.update (fun _ => rfl) fun s _ row => row
      · obtain ⟨chunks, _, ran⟩ := bind_eq_ok ran
        obtain ⟨_, _, ran⟩ := bind_eq_ok ran
        obtain ⟨_, verified, ran⟩ := bind_eq_ok ran
        obtain ⟨rows, _, ran⟩ := bind_eq_ok ran
        obtain ⟨kept, _, ran⟩ := bind_eq_ok ran
        split at ran
        · cases ran
          have verified := require_eq_ok verified
          rw [Bool.and_eq_true, decide_eq_true_iff] at verified
          have updated : (index.update key (·.cover receipt chunks.flatten.length)).Valid :=
            valid.update (fun _ => rfl) fun s _ row artifact =>
              ⟨(row artifact).1, .inr ⟨receipt, rfl, verified.1⟩⟩
          exact ⟨updated.keys, updated.rows⟩
        · exact nomatch ran

theorem EvidenceIndex.Valid.forget (valid : index.Valid) : index.forget.Valid := by
  constructor
  · have same : index.forget.sources.map (·.key) = index.sources.map (·.key) := by
      rw [EvidenceIndex.forget, List.map_map]
      rfl
    rw [same]
    exact valid.keys
  · intro s mem
    obtain ⟨s', _, rfl⟩ := List.mem_map.mp mem
    exact fun _ => ⟨rfl, .inl rfl⟩

theorem Transaction.valid {index' : EvidenceIndex} (ran : Transaction lib index index')
    (valid : index.Valid) : index'.Valid := by
  cases ran with
  | register ran => exact valid.register ran
  | @commitFrame expected frame start body index' log ran =>
    obtain ⟨_, _, ran⟩ := bind_eq_ok ran
    obtain ⟨row, _, ran⟩ := bind_eq_ok ran
    cases ran
    have updated : (index.update expected.key (·.advance frame)).Valid :=
      valid.update (fun _ => rfl) fun s here _ => SourceStatus.valid_of_log (here.symm ▸ log)
    exact ⟨updated.keys, updated.rows⟩
  | endPage key cursor atAvailableEnd log =>
    apply valid.update
    · intro s
      split <;> rfl
    · intro s here _
      split <;> exact SourceStatus.valid_of_log (here ▸ log)
  | markUnavailable key fault => exact valid.update (fun _ => rfl) fun s _ row => row
  | commitArtifact artifact ran => exact valid.commitArtifact ran
  | forget => exact valid.forget

def Reached (lib : IndexLibrary) (index : EvidenceIndex) : Prop :=
  Relation.ReflTransGen (Transaction lib) {} index

theorem Reached.valid (reached : Reached lib index) : index.Valid := by
  induction reached with
  | refl => exact ⟨List.nodup_nil, fun _ mem => nomatch mem⟩
  | tail _ step ih => exact step.valid ih

/-! ### The whole rebuild -/

theorem register_known {s : SourceStatus} (found : index.status s.key = some s) :
    index.register s.key s.taskId s.repo = .ok index := by
  rw [register, found]
  exact if_pos ⟨rfl, rfl⟩

theorem commitArtifact_covers {original : SourceStatus} {reply : ArtifactReply}
    {index' : EvidenceIndex} (valid : original.Valid) (artifact : original.key.artifactId.isSome)
    (found : index.status original.key = some original.forget)
    (ran : index.commitArtifact lib original.key reply = .ok index') :
    Apart original.key index index' ∧
      ∃ state, index'.status original.key = some state ∧ KeepsCoverage original state := by
  obtain ⟨receipt, _, ran⟩ := bind_eq_ok ran
  rw [found] at ran
  dsimp only at ran
  split at ran
  · exact nomatch ran
  next agrees =>
    rw [if_neg (by simp [SourceStatus.forget])] at ran
    obtain ⟨chunks, _, ran⟩ := bind_eq_ok ran
    obtain ⟨_, _, ran⟩ := bind_eq_ok ran
    obtain ⟨_, verified, ran⟩ := bind_eq_ok ran
    obtain ⟨rows, _, ran⟩ := bind_eq_ok ran
    obtain ⟨kept, _, ran⟩ := bind_eq_ok ran
    split at ran
    · cases ran
      have verified := require_eq_ok verified
      rw [Bool.and_eq_true, decide_eq_true_iff] at verified
      refine ⟨apart_update fun _ => rfl, original.forget.cover receipt chunks.flatten.length,
        status_update_self (fun _ => rfl) found, .inr ⟨?_, fun _ => ?_⟩⟩
      · rw [(valid artifact).1]
        exact Nat.zero_le _
      · rcases (valid artifact).2 with zero | ⟨receipt', had, whole⟩
        · rw [zero]
          exact Nat.zero_le _
        · have same : receipt' = receipt := by
            have had' : original.forget.receipt = some receipt' := had
            simpa [had'] using agrees
          rw [whole, same, ← verified.1]
          exact le_refl chunks.flatten.length
    · exact nomatch ran

theorem syncArtifact_spec {original : SourceStatus} {reply : ArtifactReply}
    (valid : original.Valid) (artifact : original.key.artifactId.isSome)
    (found : index.status original.key = some original.forget) :
    ∃ index' state, index.syncArtifact lib original.key original.taskId original.repo reply =
        .ok (index', some state) ∧ Apart original.key index index' ∧ state.key = original.key ∧
      KeepsCoverage original state := by
  have registered : index.register original.key original.taskId original.repo = .ok index :=
    @register_known index original.forget found
  rw [syncArtifact, registered]
  cases ran : index.commitArtifact lib original.key reply with
  | ok index' =>
    obtain ⟨apart, state, now, covers⟩ := commitArtifact_covers valid artifact found ran
    refine ⟨index', state, ?_, apart, key_of_status now, covers⟩
    simp only [bind, Except.bind, ran, now]
  | error fault =>
    have marked : (index.markUnavailable original.key fault).status original.key =
        some { original.forget with error := some fault.name } :=
      status_update_self (fun _ => rfl) found
    refine ⟨index.markUnavailable original.key fault,
      { original.forget with error := some fault.name }, ?_, apart_update fun _ => rfl,
      key_of_status marked, .inl rfl⟩
    simp only [bind, Except.bind, ran, marked]

/-- The answers of the client cut the source short of what was indexed of it. -/
def CutsShort (lib : IndexLibrary) (client : Client) (original : SourceStatus) : Prop :=
  original.key.artifactId = none ∧
    EndsShort lib (client.log original.key.executionId) original.key original.compressedEnd {} 0

theorem rebuildOne_spec {client : Client} {original : SourceStatus} {fuel : ℕ}
    (valid : original.Valid) (found : index.status original.key = some original.forget)
    (enough : original.compressedEnd < fuel) :
    ∃ index' state, index.rebuildOne lib client fuel original = some (.ok (index', state)) ∧
      Apart original.key index index' ∧ state.key = original.key ∧
      (KeepsCoverage original state ↔ ¬ CutsShort lib client original) := by
  rw [rebuildOne]
  by_cases artifact : original.key.artifactId.isSome = true
  · obtain ⟨index', state, ran, apart, key, covers⟩ :=
      @syncArtifact_spec lib index original (client.artifact original.key) valid artifact found
    rw [if_pos artifact, ran]
    refine ⟨index', state, rfl, apart, key, iff_of_true covers ?_⟩
    rintro ⟨log, _⟩
    rw [log] at artifact
    exact nomatch artifact
  · have log : original.key.artifactId = none := Option.not_isSome_iff_eq_none.mp artifact
    rw [if_neg artifact]
    obtain ⟨index', state, ran, apart, key, covers⟩ :=
      @resync_spec lib (client.log original.key.executionId) index 0 original original.forget fuel
        log ⟨rfl, rfl, rfl⟩ found (by omega) (Nat.lt_add_left _ enough)
    refine ⟨index', state, ran, apart, key, covers.trans (not_congr ?_)⟩
    exact ⟨fun ends => ⟨log, ends⟩, fun short => short.2⟩

theorem rebuildAll_spec {client : Client} {fuel : ℕ} (originals : List SourceStatus)
    (keys : (originals.map (·.key)).Nodup) (valid : ∀ s ∈ originals, s.Valid)
    (found : ∀ s ∈ originals, index.status s.key = some s.forget)
    (enough : ∀ s ∈ originals, s.compressedEnd < fuel) :
    ∃ index' states, index.rebuildAll lib client fuel originals = some (.ok (index', states)) ∧
      states.map (·.key) = originals.map (·.key) ∧
      (List.Forall₂ KeepsCoverage originals states ↔
        ∀ s ∈ originals, ¬ CutsShort lib client s) := by
  induction originals generalizing index with
  | nil => exact ⟨index, [], rfl, rfl, by simp⟩
  | cons original rest ih =>
    rw [List.map_cons, List.nodup_cons] at keys
    rw [List.forall_mem_cons] at valid found enough
    obtain ⟨index', state, ran, apart, key, covers⟩ :=
      @rebuildOne_spec lib index client original fuel valid.1 found.1 enough.1
    have later : ∀ s ∈ rest, index'.status s.key = some s.forget := by
      intro s mem
      rw [apart s.key fun same => keys.1 (same ▸ List.mem_map_of_mem mem)]
      exact found.2 s mem
    obtain ⟨index'', states, rest', keys', all⟩ := @ih index' keys.2 valid.2 later enough.2
    refine ⟨index'', state :: states, ?_, ?_, ?_⟩
    · rw [rebuildAll, ran]
      dsimp only
      rw [rest']
    · rw [List.map_cons, List.map_cons, key, keys']
    · rw [List.forall₂_cons, covers, all, List.forall_mem_cons]

theorem find_key_of_mem {sources : List SourceStatus} (keys : (sources.map (·.key)).Nodup)
    {s : SourceStatus} (mem : s ∈ sources) : sources.find? (·.key = s.key) = some s := by
  induction sources with
  | nil => exact nomatch mem
  | cons s' rest ih =>
    rw [List.map_cons, List.nodup_cons] at keys
    rcases List.mem_cons.mp mem with rfl | later
    · exact List.find?_cons_of_pos (decide_eq_true rfl)
    · have other : s'.key ≠ s.key := fun same => keys.1 (same ▸ List.mem_map_of_mem later)
      rw [List.find?_cons_of_neg (by simpa using other)]
      exact ih keys.2 later

theorem EvidenceIndex.Valid.status_forget (valid : index.Valid) {s : SourceStatus}
    (mem : s ∈ index.sources) : index.forget.status s.key = some s.forget := by
  have found : (index.sources.map SourceStatus.forget).find? (·.key = s.key) =
      (index.sources.find? (·.key = s.key)).map SourceStatus.forget := List.find?_map ..
  rw [status, EvidenceIndex.forget, found, find_key_of_mem valid.keys mem]
  rfl

def oneLineLibrary : IndexLibrary where
  fromisoformat _ := .ok true
  dumpsLength _ := 256
  keptBack _ := .ok 0
  sha256 body :=
    if body = [123, 125, 10] then
      "ca3d163bab055381827226140568f3bef7eaac187cebd76878e0b63e9e442356"
    else "e3b0c44298fc1c149afbf4c8996fb92427ae41e4649b934ca495991b7852b855"

def logKey : SourceKey := { executionId := "e" }

def indexedLog : EvidenceIndex where
  sources :=
    [{ rawEnd := 3, compressedEnd := 2, afterFrame := some 1, outcome := some .complete
       key := logKey, taskId := none, repo := none, atAvailableEnd := true }]
  frames :=
    [⟨logKey, 0, 1, 0, 3, 0, 3, oneLineLibrary.sha256 [123, 125, 10]⟩,
      ⟨logKey, 1, 2, 3, 3, 3, 3, oneLineLibrary.sha256 []⟩]

theorem indexedLog_reached : Reached oneLineLibrary indexedLog := by
  let s₀ : SourceStatus := { key := logKey, taskId := none, repo := none }
  let s₁ := s₀.advance ⟨0, 3, 0, 1, none⟩
  let s₂ := s₁.advance ⟨3, 3, 1, 2, some .complete⟩
  let rows := indexedLog.frames
  have registered : Transaction oneLineLibrary {} ⟨[s₀], []⟩ :=
    .register (show EvidenceIndex.register {} logKey none none = _ from rfl)
  have first : Transaction oneLineLibrary ⟨[s₀], []⟩ ⟨[s₁], rows.take 1⟩ :=
    .commitFrame (show s₀.key.artifactId = none from rfl)
      (show EvidenceIndex.commitFrame oneLineLibrary ⟨[s₀], []⟩ s₀ ⟨0, 3, 0, 1, none⟩ 0
        [123, 125, 10] = _ from rfl)
  have second : Transaction oneLineLibrary ⟨[s₁], rows.take 1⟩ ⟨[s₂], rows⟩ :=
    .commitFrame (show s₁.key.artifactId = none from rfl)
      (show EvidenceIndex.commitFrame oneLineLibrary ⟨[s₁], rows.take 1⟩ s₁
        ⟨3, 3, 1, 2, some .complete⟩ 3 [] = _ from rfl)
  have ended : Transaction oneLineLibrary ⟨[s₂], rows⟩ indexedLog :=
    .endPage logKey (some 1) true rfl
  exact .tail (.tail (.tail (.tail .refl registered) first) second) ended

def shorterClient : Client where
  log _ :=
    { provenance := fun _ _ => .ok
        [("durability", .str "confirmed"), ("at_available_end", .bool true),
          ("frames", .arr
            [.obj [("raw_range", .obj [("start", .num (.int 0)), ("end", .num (.int 0))]),
              ("compressed_range", .obj [("start", .num (.int 0)), ("end", .num (.int 1))]),
              ("captured_at", .null), ("control", .bool true), ("outcome", .str "complete"),
              ("legacy_sql_row", .null)]]),
          ("next_after_frame", .num (.int 0)), ("outcome", .str "complete")]
      raw := fun _ _ _ => .error .unavailable }
  artifact _ := ⟨.error .unavailable, .error .unavailable⟩

def wholeClient : Client where
  log _ :=
    { provenance := fun _ _ => .ok
        [("durability", .str "confirmed"), ("at_available_end", .bool true),
          ("frames", .arr
            [.obj [("raw_range", .obj [("start", .num (.int 0)), ("end", .num (.int 3))]),
                ("compressed_range", .obj [("start", .num (.int 0)), ("end", .num (.int 1))]),
                ("captured_at", .null), ("control", .bool false), ("outcome", .null),
                ("legacy_sql_row", .null)],
              .obj [("raw_range", .obj [("start", .num (.int 3)), ("end", .num (.int 3))]),
                ("compressed_range", .obj [("start", .num (.int 1)), ("end", .num (.int 2))]),
                ("captured_at", .null), ("control", .bool true), ("outcome", .str "complete"),
                ("legacy_sql_row", .null)]]),
          ("next_after_frame", .num (.int 1)), ("outcome", .str "complete")]
      raw := fun _ start stop => .ok
        { sourceId := "e", start, stop, body := ([123, 125, 10].drop start).take (stop - start)
          durability := "confirmed" } }
  artifact _ := ⟨.error .unavailable, .error .unavailable⟩

theorem wholeClient_covers {page : Page}
    (takes : Takes oneLineLibrary (wholeClient.log "e") logKey 0 {} page) :
    (Position.behind {} page.frames).compressedEnd = 2 := by
  have covered : ((wholeClient.log "e").provenance 0 ({} : Position).afterFrame >>=
      (validatePage oneLineLibrary.toPageLibrary · {})).toOption.map
        (fun page => (Position.behind {} page.frames).compressedEnd) = some 2 := by
    decide +kernel
  rw [takes.1] at covered
  exact Option.some.inj covered

/-- Without an error, and to its end. -/
example : ∃ index' state, indexedLog.rebuild oneLineLibrary wholeClient 3 =
    some (.ok (index', [state])) ∧ state.error = none ∧ state.compressedEnd = 2 :=
  ⟨_, _, rfl, rfl, rfl⟩

end SightMesh.Native
