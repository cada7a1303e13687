import SightMesh.Concurrency.Rules
import SightMesh.Evidence.Ingestion
import SightMesh.Properties.Rebuild

/-! The frames of a source tile it, over every run of the calls that read it. -/
namespace SightMesh.Native

open Concurrency Python

variable {α β : Type} {lib : IndexLibrary} {index : EvidenceIndex} {key : SourceKey}

/-! ### Frames in a row -/

/-- The rows go from one position to another, in the source and in its log, each on from the one
before it. -/
def Linked : ℕ × ℕ → List FrameRow → ℕ × ℕ → Prop
  | p, [], q => p = q
  | p, row :: rest, q =>
    (row.rawStart, row.frameStart) = p ∧ row.rawStart ≤ row.rawEnd ∧
      row.frameStart < row.frameEnd ∧ Linked (row.rawEnd, row.frameEnd) rest q

theorem Linked.append {p q r : ℕ × ℕ} {rows more : List FrameRow} (first : Linked p rows q)
    (second : Linked q more r) : Linked p (rows ++ more) r := by
  induction rows generalizing p with
  | nil =>
    obtain rfl : p = q := first
    exact second
  | cons row rest ih =>
    obtain ⟨here, forward, goes, later⟩ := first
    exact ⟨here, forward, goes, ih later⟩

theorem Linked.behind {p q : ℕ × ℕ} {rows : List FrameRow} (linked : Linked p rows q)
    {row : FrameRow} (mem : row ∈ rows) :
    (row.rawEnd, row.frameEnd) = q ∨ ∃ next ∈ rows, next.frameStart = row.frameEnd := by
  induction rows generalizing p with
  | nil => simp at mem
  | cons first rest ih =>
    obtain ⟨_, _, _, later⟩ := linked
    rcases List.mem_cons.mp mem with rfl | mem
    · cases rest with
      | nil => exact .inl later
      | cons next rest => exact .inr ⟨next, by simp, congrArg Prod.snd later.1⟩
    · rcases ih later mem with last | ⟨next, there, follows⟩
      · exact .inl last
      · exact .inr ⟨next, List.mem_cons_of_mem _ there, follows⟩

/-! ### Windows -/

def FrameRow.bodyStart (row : FrameRow) : ℕ :=
  if row.rawStart = row.rawEnd then row.rawEnd else row.rawStart - overlapBytes

/-- The window of the row is what `_utf8_window` leaves of the bytes of its frame and the overlap
before it. -/
structure FrameRow.Windowed (lib : IndexLibrary) (content : List UInt8) (row : FrameRow) :
    Prop where
  cut : utf8Window lib row.bodyStart (slice content row.bodyStart row.rawEnd) =
    .ok (row.windowStart, slice content row.windowStart row.windowEnd)
  begins : row.rawStart - overlapBytes ≤ row.windowStart
  ordered : row.windowStart ≤ row.windowEnd
  ends : row.windowEnd ≤ row.rawEnd
  there : row.rawEnd ≤ content.length
  bytes : row.sha256 = lib.sha256 (slice content row.windowStart row.windowEnd)

theorem slice_extended {content content' : List UInt8} (grows : content <+: content')
    {start stop : ℕ} (there : stop ≤ content.length) :
    slice content' start stop = slice content start stop := by
  obtain ⟨more, rfl⟩ := grows
  unfold slice
  by_cases inside : start ≤ stop
  · rw [List.drop_append_of_le_length (by omega), List.take_append_of_le_length (by simp; omega)]
  · have empty : stop - start = 0 := by omega
    simp [empty]

theorem slice_append (a b c : List UInt8) :
    slice ((a ++ b) ++ c) a.length (a.length + b.length) = b := by
  simp [slice]

theorem FrameRow.Windowed.grows {content content' : List UInt8} {row : FrameRow}
    (windowed : row.Windowed lib content) (grows : content <+: content') :
    row.Windowed lib content' where
  cut := by
    rw [slice_extended grows windowed.there,
      slice_extended grows (windowed.ends.trans windowed.there)]
    exact windowed.cut
  begins := windowed.begins
  ordered := windowed.ordered
  ends := windowed.ends
  there := windowed.there.trans grows.length_le
  bytes := by
    rw [slice_extended grows (windowed.ends.trans windowed.there)]
    exact windowed.bytes

/-- The part of a slice that a window keeps is a slice. -/
theorem utf8Window_slice {content : List UInt8} {start stop : ℕ} {window : ℕ × List UInt8}
    (inside : start ≤ stop) (there : stop ≤ content.length)
    (made : utf8Window lib start (slice content start stop) = .ok window) :
    start ≤ window.1 ∧ window.1 + window.2.length ≤ stop ∧
      window.2 = slice content window.1 (window.1 + window.2.length) := by
  obtain ⟨kept, _, same⟩ := bind_eq_ok made
  cases same
  generalize skipped_eq : (if start = 0 then 0
    else (((slice content start stop).take 3).takeWhile isContinuation).length) = skipped
  have length : (slice content start stop).length = stop - start := by
    simp [slice]
    omega
  have skips : skipped ≤ stop - start := by
    rw [← skipped_eq, ← length]
    split
    · exact Nat.zero_le _
    · exact (List.takeWhile_prefix _).length_le.trans (List.length_take_le' ..)
  generalize (slice content start stop).length - skipped - kept = taken
  have cut : ((slice content start stop).drop skipped).take taken =
      (content.drop (start + skipped)).take (min taken (stop - start - skipped)) := by
    rw [slice, List.drop_take, List.drop_drop, List.take_take]
  have size : (((slice content start stop).drop skipped).take taken).length =
      min taken (stop - start - skipped) := by
    rw [cut, List.length_take, List.length_drop]
    omega
  refine ⟨Nat.le_add_right .., ?_, ?_⟩
  · dsimp only
    rw [size]
    omega
  · dsimp only
    rw [size, cut]
    unfold slice
    congr 1
    omega

theorem indexWindow_placed {start : ℕ} {body : List UInt8} {frame : Frame} {row : FrameRow}
    (made : indexWindow lib key start body frame = .ok row) :
    row.key = key ∧ row.frameStart = frame.compressedStart ∧ row.frameEnd = frame.compressedEnd ∧
      row.rawStart = frame.rawStart ∧ row.rawEnd = frame.rawEnd := by
  obtain ⟨window, _, same⟩ := bind_eq_ok made
  cases same
  exact ⟨rfl, rfl, rfl, rfl, rfl⟩

theorem indexWindow_windowed {content : List UInt8} {start : ℕ} {frame : Frame} {row : FrameRow}
    (made : indexWindow lib key start (slice content start frame.rawEnd) frame = .ok row)
    (begins : start = if frame.rawStart = frame.rawEnd then frame.rawEnd
      else frame.rawStart - overlapBytes)
    (forward : frame.rawStart ≤ frame.rawEnd) (there : frame.rawEnd ≤ content.length) :
    row.Windowed lib content := by
  have inside : start ≤ frame.rawEnd ∧ frame.rawStart - overlapBytes ≤ start := by
    rw [begins]
    split
    · exact ⟨le_rfl, (Nat.sub_le ..).trans forward⟩
    · exact ⟨(Nat.sub_le ..).trans forward, le_rfl⟩
  obtain ⟨window, cut, same⟩ := bind_eq_ok made
  cases same
  obtain ⟨first, ends, bytes⟩ := utf8Window_slice inside.1 there cut
  refine ⟨?_, inside.2.trans first, Nat.le_add_right .., ends, there, congrArg lib.sha256 bytes⟩
  rw [FrameRow.bodyStart, ← begins, ← bytes]
  exact cut

/-! ### Artifacts -/

/-- The last bytes of what has been read, as `sync_artifact` carries them along. -/
def overlapOf (before : List UInt8) : List UInt8 := before.drop (before.length - overlapBytes)

theorem overlapOf_append (before chunk : List UInt8) :
    (overlapOf before ++ chunk).drop ((overlapOf before ++ chunk).length - overlapBytes) =
      overlapOf (before ++ chunk) := by
  unfold overlapOf
  generalize overlapBytes = n
  have kept : before.length - n ≤ before.length := Nat.sub_le ..
  rw [← List.drop_append_of_le_length kept, List.drop_drop, List.length_drop]
  congr 1
  simp only [List.length_append]
  omega

theorem artifactRows_linked {chunks : List (List UInt8)} {before : List UInt8}
    {rows : List FrameRow} (filled : ∀ chunk ∈ chunks, 0 < chunk.length)
    (made : artifactRows lib key before.length (overlapOf before) chunks = .ok rows) :
    Linked (before.length, before.length) rows
        ((before ++ chunks.flatten).length, (before ++ chunks.flatten).length) ∧
      (∀ row ∈ rows, row.key = key ∧ row.Windowed lib (before ++ chunks.flatten)) := by
  induction chunks generalizing before rows with
  | nil =>
    cases made
    simp [Linked]
  | cons chunk rest ih =>
    obtain ⟨row, here, made⟩ := bind_eq_ok made
    obtain ⟨rows', later, made⟩ := bind_eq_ok made
    cases made
    rw [List.forall_mem_cons] at filled
    have length : (before ++ chunk).length = before.length + chunk.length := by simp
    rw [overlapOf_append, ← length] at later
    obtain ⟨linked, windowed⟩ := ih filled.2 later
    have whole : before ++ (chunk :: rest).flatten = (before ++ chunk) ++ rest.flatten := by simp
    rw [whole]
    have tail : (overlapOf before).length ≤ before.length ∧
        before.length - overlapBytes = before.length - (overlapOf before).length := by
      unfold overlapOf
      generalize overlapBytes = n
      rw [List.length_drop]
      omega
    have body : overlapOf before ++ chunk = slice ((before ++ chunk) ++ rest.flatten)
        (before.length - (overlapOf before).length) (before.length + chunk.length) := by
      have parts := before.take_append_drop (before.length - overlapBytes)
      have first : (before.take (before.length - overlapBytes)).length =
          before.length - (overlapOf before).length := by
        rw [← tail.2, List.length_take, Nat.min_eq_left (Nat.sub_le ..)]
      have last : before.length + chunk.length =
          before.length - (overlapOf before).length + (overlapOf before ++ chunk).length := by
        rw [List.length_append]
        omega
      have text : (before ++ chunk) ++ rest.flatten = (before.take (before.length - overlapBytes) ++
          (overlapOf before ++ chunk)) ++ rest.flatten := by
        rw [← List.append_assoc _ (overlapOf before), overlapOf, parts]
      rw [last, text, ← first]
      exact (slice_append ..).symm
    rw [body] at here
    have there : before.length + chunk.length ≤ ((before ++ chunk) ++ rest.flatten).length := by
      rw [List.length_append, length]
      exact Nat.le_add_right ..
    obtain ⟨keyed, frameStart, frameEnd, rawStart, rawEnd⟩ := indexWindow_placed here
    have begins : before.length - (overlapOf before).length =
        if before.length = before.length + chunk.length then before.length + chunk.length
          else before.length - overlapBytes := by
      rw [if_neg (Nat.lt_add_of_pos_right filled.1).ne]
      exact tail.2.symm
    have fits : row.Windowed lib ((before ++ chunk) ++ rest.flatten) :=
      @indexWindow_windowed lib key _ _
        ⟨before.length, before.length + chunk.length, before.length,
          before.length + chunk.length, none⟩ row here begins (Nat.le_add_right ..) there
    refine ⟨⟨?_, ?_, ?_, ?_⟩, ?_⟩
    · rw [rawStart, frameStart]
    · rw [rawStart, rawEnd]
      exact Nat.le_add_right ..
    · rw [frameStart, frameEnd]
      exact Nat.lt_add_of_pos_right filled.1
    · rw [rawEnd, frameEnd, ← length]
      exact linked
    · exact List.forall_mem_cons.mpr ⟨⟨keyed, fits⟩, windowed⟩

/-! ### What is kept of a source -/

def EvidenceIndex.rowsOf (index : EvidenceIndex) (key : SourceKey) : List FrameRow :=
  index.frames.filter (·.key = key)

/-- The frames tile the source up to where it was read, and their windows hold its bytes. -/
structure Tiled (lib : IndexLibrary) (content : List UInt8) (rows : List FrameRow) (rawEnd : ℕ) :
    Prop where
  linked : ∃ last, Linked (0, 0) rows (rawEnd, last)
  windows : ∀ row ∈ rows, row.Windowed lib content

/-- The cursor is that of the last frame, or of the empty prefix. -/
def SourceStatus.AtLast (s : SourceStatus) (rows : List FrameRow) : Prop :=
  match rows.getLast? with
  | none => s.rawEnd = 0 ∧ s.compressedEnd = 0 ∧ s.afterFrame = none
  | some row => s.rawEnd = row.rawEnd ∧ s.compressedEnd = row.frameEnd ∧
      s.afterFrame = some row.frameStart

structure SourceStatus.LogKept (lib : IndexLibrary) (content : List UInt8) (rows : List FrameRow)
    (s : SourceStatus) : Prop where
  linked : Linked (0, 0) rows (s.rawEnd, s.compressedEnd)
  windows : ∀ row ∈ rows, row.Windowed lib content
  cursor : s.AtLast rows

structure SourceStatus.ArtifactKept (lib : IndexLibrary) (content : List UInt8)
    (rows : List FrameRow) (s : SourceStatus) : Prop where
  linked : Linked (0, 0) rows (s.rawEnd, s.rawEnd)
  windows : ∀ row ∈ rows, row.Windowed lib content
  cursor : s.afterFrame = none ∧ s.compressedEnd = 0
  unread : s.atAvailableEnd = false → rows = []
  received : s.receipt = none → rows = []

/-- What holds of the row of a source and of its frames. -/
def Kept (lib : IndexLibrary) (content : List UInt8) (key : SourceKey) (rows : List FrameRow) :
    Option SourceStatus → Prop
  | none => rows = []
  | some s => (key.artifactId = none → s.LogKept lib content rows) ∧
      (key.artifactId ≠ none → s.ArtifactKept lib content rows)

def AllKept (lib : IndexLibrary) (content : Contents) (index : EvidenceIndex) : Prop :=
  ∀ key, Kept lib (content key) key (index.rowsOf key) (index.status key)

theorem Kept.grows {content content' : List UInt8} {rows : List FrameRow}
    {found : Option SourceStatus} (kept : Kept lib content key rows found)
    (grows : content <+: content') : Kept lib content' key rows found := by
  cases found with
  | none => exact kept
  | some s =>
    constructor
    · intro log
      obtain ⟨linked, windows, cursor⟩ := kept.1 log
      exact ⟨linked, fun row mem => (windows row mem).grows grows, cursor⟩
    · intro artifact
      obtain ⟨linked, windows, cursor, unread, received⟩ := kept.2 artifact
      exact ⟨linked, fun row mem => (windows row mem).grows grows, cursor, unread, received⟩

theorem Kept.change {content : List UInt8} {rows : List FrameRow} {s next : SourceStatus}
    (kept : Kept lib content key rows (some s)) (same : next.toPosition = s.toPosition)
    (read : key.artifactId ≠ none →
      s.atAvailableEnd = next.atAvailableEnd ∧ s.receipt = next.receipt) :
    Kept lib content key rows (some next) := by
  constructor
  · intro log
    obtain ⟨linked, windows, cursor⟩ := kept.1 log
    refine ⟨same ▸ linked, windows, ?_⟩
    unfold SourceStatus.AtLast at cursor ⊢
    rw [same]
    exact cursor
  · intro artifact
    obtain ⟨linked, windows, cursor, unread, received⟩ := kept.2 artifact
    obtain ⟨ended, receipt⟩ := read artifact
    rw [ended] at unread
    rw [receipt] at received
    exact ⟨same ▸ linked, windows, same ▸ cursor, unread, received⟩

theorem kept_unread {content : List UInt8} {s : SourceStatus} (start : s.toPosition = {}) :
    Kept lib content key [] (some s) := by
  constructor
  · intro log
    refine ⟨by rw [start]; rfl, by simp, ?_⟩
    unfold SourceStatus.AtLast
    rw [start]
    exact ⟨rfl, rfl, rfl⟩
  · intro artifact
    refine ⟨by rw [start]; rfl, by simp, by rw [start]; exact ⟨rfl, rfl⟩, fun _ => rfl,
      fun _ => rfl⟩

theorem AllKept.update {content : Contents} {change : SourceStatus → SourceStatus}
    (kept : AllKept lib content index) (keyed : ∀ s, (change s).key = s.key)
    (same : ∀ s, (change s).toPosition = s.toPosition)
    (read : key.artifactId ≠ none → ∀ s,
      s.atAvailableEnd = (change s).atAvailableEnd ∧ s.receipt = (change s).receipt) :
    AllKept lib content (index.update key change) := by
  intro k
  have here := kept k
  rw [EvidenceIndex.status_update keyed]
  change Kept lib (content k) k (index.rowsOf k) _
  cases found : index.status k with
  | none =>
    rw [found] at here
    exact here
  | some s =>
    rw [found] at here
    rw [Option.map_some]
    split
    · rename_i named
      rw [EvidenceIndex.key_of_status found] at named
      subst named
      exact here.change (same s) fun artifact => read artifact s
    · exact here

/-! ### Transactions -/

theorem AllKept.register {content : Contents} {taskId repo : Option String} {next : EvidenceIndex}
    (kept : AllKept lib content index) (ran : index.register key taskId repo = .ok next) :
    AllKept lib content next := by
  unfold EvidenceIndex.register at ran
  split at ran
  · rename_i missing
    cases ran
    intro k
    have here := kept k
    have found : ({ index with sources := index.sources ++ [{ key, taskId, repo }] } :
        EvidenceIndex).status k =
          (index.status k).or (if key = k then some { key, taskId, repo } else none) := by
      rw [EvidenceIndex.status, List.find?_append]
      congr 1
      by_cases same : key = k
      · simp [same]
      · simp [same]
    rw [found]
    change Kept lib (content k) k (index.rowsOf k) _
    by_cases same : key = k
    · subst same
      rw [missing] at here ⊢
      rw [if_pos rfl, Option.none_or]
      have empty : index.rowsOf key = [] := here
      rw [empty]
      exact kept_unread rfl
    · rw [if_neg same, Option.or_none]
      exact here
  · split at ran
    · cases ran
      exact kept
    · cases ran

theorem forget_kept {content : Contents} : AllKept lib content index.forget := by
  intro k
  have found : index.forget.status k = (index.status k).map SourceStatus.forget := by
    rw [EvidenceIndex.status, EvidenceIndex.forget, List.find?_map]
    rfl
  rw [found]
  change Kept lib (content k) k [] _
  cases index.status k with
  | none => exact rfl
  | some s =>
    rw [Option.map_some]
    exact kept_unread rfl

theorem AllKept.stored {content : Contents} {made : Except Fault EvidenceIndex}
    (kept : AllKept lib content index)
    (ran : ∀ next, made = .ok next → next.Unique → AllKept lib content next) :
    AllKept lib content (index.stored made).1 := by
  unfold EvidenceIndex.stored
  split
  · split
    · rename_i unique
      exact ran _ rfl unique
    · exact kept
  · exact kept

theorem Linked.end_le {content : List UInt8} {p q : ℕ × ℕ} {rows : List FrameRow}
    (linked : Linked p rows q) (windows : ∀ row ∈ rows, row.Windowed lib content)
    (start : p.1 ≤ content.length) : q.1 ≤ content.length := by
  induction rows generalizing p with
  | nil =>
    obtain rfl : p = q := linked
    exact start
  | cons row rest ih =>
    rw [List.forall_mem_cons] at windows
    exact ih linked.2.2.2 windows.2 windows.1.there

theorem AllKept.append {content : Contents} {change : SourceStatus → SourceStatus}
    {rows : List FrameRow} (kept : AllKept lib content index)
    (keyed : ∀ s, (change s).key = s.key) (named : ∀ row ∈ rows, row.key = key)
    (here : Kept lib (content key) key (index.rowsOf key ++ rows) ((index.status key).map change)) :
    AllKept lib content { index.update key change with frames := index.frames ++ rows } := by
  intro k
  change Kept lib (content k) k ((index.frames ++ rows).filter (·.key = k))
    ((index.update key change).status k)
  rw [EvidenceIndex.status_update keyed, List.filter_append]
  by_cases same : k = key
  · subst same
    have all : rows.filter (·.key = k) = rows := by simpa using named
    have status : ((index.status k).map fun s => if s.key = k then change s else s) =
        (index.status k).map change := by
      cases found : index.status k with
      | none => rfl
      | some s => rw [Option.map_some, if_pos (EvidenceIndex.key_of_status found), Option.map_some]
    rw [all, status]
    exact here
  · have none : rows.filter (·.key = k) = [] := by
      simp only [List.filter_eq_nil_iff, decide_eq_true_eq]
      exact fun row mem found => same (found.symm.trans (named row mem))
    have status : ((index.status k).map fun s => if s.key = key then change s else s) =
        index.status k := by
      cases found : index.status k with
      | none => rfl
      | some s =>
        rw [Option.map_some, if_neg]
        rw [EvidenceIndex.key_of_status found]
        exact same
    rw [none, status, List.append_nil]
    exact kept k

/-- What holds when a frame is committed: it goes on from the frame before it on its page, or from
the row as it was read, and its bytes are those of the source. -/
structure FrameIssued (content : List UInt8) (expected : SourceStatus) (before : Option Frame)
    (frame : Frame) (start : ℕ) (body : List UInt8) : Prop where
  log : expected.key.artifactId = none
  follows : (frame.rawStart, frame.compressedStart) =
    ((before.map fun b => (b.rawEnd, b.compressedEnd)).getD
      (expected.rawEnd, expected.compressedEnd))
  forward : frame.rawStart ≤ frame.rawEnd
  goes : frame.compressedStart < frame.compressedEnd
  begins : start = if frame.rawStart = frame.rawEnd then frame.rawEnd
    else frame.rawStart - overlapBytes
  body : body = slice content start frame.rawEnd
  there : frame.rawStart < frame.rawEnd → frame.rawEnd ≤ content.length

/-- The frame is stored as it was committed. -/
def EvidenceIndex.stillStored (index : EvidenceIndex) (key : SourceKey) (frame : Frame) : Bool :=
  index.frames.any fun row => row.key = key && row.frameStart = frame.compressedStart &&
    row.frameEnd = frame.compressedEnd && row.rawEnd = frame.rawEnd

/-- A frame that another process stored first is refused for its place in the log. -/
theorem FrameIssued.at_cursor {content : List UInt8} {expected : SourceStatus}
    {before : Option Frame} {frame : Frame} {start : ℕ} {body : List UInt8}
    (issued : FrameIssued content expected before frame start body)
    (linked : Linked (0, 0) (index.rowsOf expected.key) (expected.rawEnd, expected.compressedEnd))
    (goesOn : ∀ b, before = some b → index.stillStored expected.key b)
    (free : ∀ row ∈ index.rowsOf expected.key, row.frameStart ≠ frame.compressedStart) :
    (frame.rawStart, frame.compressedStart) = (expected.rawEnd, expected.compressedEnd) := by
  have follows := issued.follows
  cases before with
  | none => exact follows
  | some b =>
    obtain ⟨row, mem, same⟩ := List.any_eq_true.mp (goesOn b rfl)
    simp only [Bool.and_eq_true, decide_eq_true_eq] at same
    obtain ⟨⟨⟨keyed, _⟩, frameEnd⟩, rawEnd⟩ := same
    have mem : row ∈ index.rowsOf expected.key := List.mem_filter.mpr ⟨mem, by simpa using keyed⟩
    have follows : (frame.rawStart, frame.compressedStart) = (row.rawEnd, row.frameEnd) := by
      rw [rawEnd, frameEnd]
      exact follows
    rcases linked.behind mem with last | ⟨next, there, starts⟩
    · exact follows.trans last
    · exact absurd (starts.trans (congrArg Prod.snd follows).symm) (free next there)

theorem AllKept.commitFrame {content : Contents} {expected : SourceStatus} {before : Option Frame}
    {frame : Frame} {start : ℕ} {body : List UInt8} {next : EvidenceIndex}
    (kept : AllKept lib content index)
    (issued : FrameIssued (content expected.key) expected before frame start body)
    (goesOn : ∀ b, before = some b → index.stillStored expected.key b)
    (ran : index.commitFrame lib expected frame start body = .ok next) (unique : next.Unique) :
    AllKept lib content next := by
  obtain ⟨_, found, ran⟩ := bind_eq_ok ran
  have found : index.status expected.key = some expected := by simpa using require_eq_ok found
  obtain ⟨row, made, ran⟩ := bind_eq_ok ran
  cases ran
  have here := kept expected.key
  rw [found] at here
  obtain ⟨linked, windows, cursor⟩ := here.1 issued.log
  have read : expected.rawEnd ≤ (content expected.key).length :=
    linked.end_le windows (Nat.zero_le _)
  obtain ⟨keyed, frameStart, frameEnd, rawStart, rawEnd⟩ := indexWindow_placed made
  have free : ∀ other ∈ index.rowsOf expected.key, other.frameStart ≠ frame.compressedStart := by
    intro other mem same
    obtain ⟨stored, here⟩ := List.mem_filter.mp mem
    have here : other.key = expected.key := by simpa using here
    have apart : ((index.frames ++ [row]).map fun row => (row.key, row.frameStart)).Nodup := unique
    rw [List.map_append, List.nodup_append] at apart
    refine apart.2.2 _ (List.mem_map_of_mem stored) (row.key, row.frameStart) (by simp) ?_
    rw [here, same, keyed, frameStart]
  have placed := issued.at_cursor linked goesOn free
  have cursor_eq : frame.rawStart = expected.rawEnd := congrArg Prod.fst placed
  have there : frame.rawEnd ≤ (content expected.key).length := by
    rcases Nat.lt_or_eq_of_le issued.forward with more | same
    · exact issued.there more
    · rw [← same, cursor_eq]
      exact read
  rw [issued.body] at made
  have windowed := indexWindow_windowed made issued.begins issued.forward there
  apply kept.append (by intro s; rfl) (by simpa using keyed)
  rw [found, Option.map_some]
  refine ⟨fun _ => ⟨?_, ?_, ?_⟩, fun artifact => absurd issued.log artifact⟩
  · refine linked.append ⟨by rw [rawStart, frameStart, placed], ?_, ?_, ?_⟩
    · rw [rawStart, rawEnd]
      exact issued.forward
    · rw [frameStart, frameEnd]
      exact issued.goes
    · rw [rawEnd, frameEnd]
      rfl
  · exact List.forall_mem_append.mpr ⟨windows, by simpa using windowed⟩
  · simp [SourceStatus.AtLast, SourceStatus.advance, Frame.position, rawEnd, frameEnd, frameStart]

theorem AllKept.commitArtifact {content : Contents} {reply : ArtifactReply} {next : EvidenceIndex}
    (kept : AllKept lib content index) (artifact : key.artifactId ≠ none)
    (honest : ∀ chunks, reply.chunks = .ok chunks → chunks.flatten <+: content key)
    (ran : index.commitArtifact lib key reply = .ok next) : AllKept lib content next := by
  obtain ⟨receipt, _, ran⟩ := bind_eq_ok ran
  split at ran
  · cases ran
  · rename_i current found
    split at ran
    · cases ran
    · split at ran
      · cases ran
        exact kept.update (by intro s; rfl) (by intro s; rfl) fun _ _ => ⟨rfl, rfl⟩
      · rename_i unread
        obtain ⟨chunks, told, ran⟩ := bind_eq_ok ran
        obtain ⟨_, bounded, ran⟩ := bind_eq_ok ran
        obtain ⟨_, _, ran⟩ := bind_eq_ok ran
        obtain ⟨rows, made, ran⟩ := bind_eq_ok ran
        obtain ⟨pending, _, ran⟩ := bind_eq_ok ran
        split at ran
        · cases ran
          have filled : ∀ chunk ∈ chunks, 0 < chunk.length := by
            intro chunk mem
            have sized := List.all_eq_true.mp (require_eq_ok bounded) chunk mem
            simp only [Bool.and_eq_true, decide_eq_true_eq] at sized
            exact sized.1
          obtain ⟨linked, windowed⟩ := @artifactRows_linked lib key chunks [] rows filled made
          have here := kept key
          rw [found] at here
          obtain ⟨_, _, cursor, blank, _⟩ := here.2 artifact
          apply kept.append (by intro s; rfl) fun row mem => (windowed row mem).1
          rw [found, Option.map_some, blank (by simpa using unread)]
          refine ⟨fun log => absurd log artifact, fun _ => ⟨linked, ?_, cursor, ?_, ?_⟩⟩
          · exact fun row mem => (windowed row mem).2.grows (honest chunks told)
          · intro still
            cases still
          · intro missing
            cases missing
        · cases ran

/-! ### What a process knows -/

/-- What holds when a transaction is issued. -/
def Issued (content : Contents) : IndexTx β → Prop
  | .commitFrame expected before frame start body =>
    FrameIssued (content expected.key) expected before frame start body
  | .endPage key _ _ => key.artifactId = none
  | .commitArtifact key reply => key.artifactId ≠ none ∧
      ∀ chunks, reply.chunks = .ok chunks → chunks.flatten <+: content key
  | _ => True

/-- A sync goes on with a page only while the frame it committed last is stored. -/
def goesOn (s : IndexShared) : Event IndexTx ClientQuery → Bool
  | .commit (.commitFrame expected before _ _ _) _ => before.all (s.store.stillStored expected.key)
  | _ => true

theorem AllKept.exec {s : IndexShared} {tx : IndexTx β} {answer : β}
    (kept : AllKept lib s.env s.store) (issued : Issued s.env tx)
    (goes : goesOn s (.commit tx answer)) : AllKept lib s.env (tx.exec lib s.store).1 := by
  cases tx with
  | register key taskId repo => exact kept.stored fun next ran _ => kept.register ran
  | status key => exact kept
  | commitFrame expected before frame start body =>
    refine kept.stored fun next ran unique => kept.commitFrame issued ?_ ran unique
    rintro b rfl
    exact goes
  | endPage key cursor atAvailableEnd =>
    refine kept.update ?_ ?_ fun artifact => absurd issued artifact
    · intro s
      split
      · rfl
      · rfl
    · intro s
      split
      · rfl
      · rfl
  | markUnavailable key fault =>
    exact kept.update (by intro s; rfl) (by intro s; rfl) fun _ _ => ⟨rfl, rfl⟩
  | commitArtifact key reply =>
    exact kept.stored fun next ran _ => kept.commitArtifact issued.1 issued.2 ran
  | forget => exact forget_kept

theorem Contents.Grows.refl (content : Contents) : content.Grows content :=
  fun _ => List.prefix_refl _

theorem Contents.Grows.trans {a b c : Contents} (first : a.Grows b) (second : b.Grows c) :
    a.Grows c := fun key => (first key).trans (second key)

/-- What is known of the sources stays known. -/
def paging (lib : IndexLibrary) : Protocol (ingestion lib) where
  inv _ := True
  evolves s s' := s.env.Grows s'.env
  frozen _ _ _ := True
  pre _ _ tx s := Issued s.env tx
  preCall _ _ _ _ := True
  evolves_refl s := .refl s.env
  evolves_trans := .trans
  frozen_refl _ _ := trivial
  frozen_trans _ _ _ _ := trivial
  init _ _ _ := trivial
  commit _ _ := ⟨trivial, .refl _, fun _ _ => trivial⟩
  call _ _ answered := ⟨trivial, answered.1, fun _ _ => trivial⟩

open Protocol

variable {H : Set Empty} {s : IndexShared}

theorem raising_keeps {x : Except Fault α} {done : α → IndexShared → Prop}
    (fine : ∀ a, x = .ok a → done a s) : (paging lib).Keeps H s (Ingestion.raising x) done := by
  cases x with
  | ok a => exact .ret (fine a rfl)
  | error fault => exact .fail

theorem current_keeps (key : SourceKey) :
    (paging lib).Keeps H s (Ingestion.current key) fun state _ => state.key = key := by
  have read : (paging lib).Keeps H s (Prog.commit' (.status key)) fun found _ =>
      ∀ state, found = some state → state.key = key := by
    refine .commit fun s' _ _ => ⟨trivial, fun state found => ?_⟩
    have found : s'.store.status key = some state := found
    exact EvidenceIndex.key_of_status found
  refine read.bind fun found s' _ keyed => ?_
  cases found with
  | none => exact .fail
  | some state => exact .ret (keyed state rfl)

theorem window_keeps (executionId : String) {frame : Frame}
    (forward : frame.rawStart ≤ frame.rawEnd) :
    (paging lib).Keeps H s (Ingestion.window executionId frame) fun found s' =>
      found.1 = (if frame.rawStart = frame.rawEnd then frame.rawEnd
        else frame.rawStart - overlapBytes) ∧
      found.2 = slice (s'.env { executionId }) found.1 frame.rawEnd ∧
      (frame.rawStart < frame.rawEnd → frame.rawEnd ≤ (s'.env { executionId }).length) := by
  unfold Ingestion.window
  split
  · rename_i same
    exact .ret ⟨rfl, by simp [slice], fun more => absurd same more.ne⟩
  · rename_i apart
    refine Keeps.bind (m := fun reply (s' : IndexShared) => ∀ range, reply = .ok range →
        range.durability = "confirmed" →
          range.body = slice (s'.env { executionId }) range.start range.stop)
      (.ask (fun _ _ _ => trivial) fun s' b env _ _ answered => answered.2) ?_
    intro reply s' _ honest
    refine Keeps.bind (m := fun body (s' : IndexShared) =>
        body = slice (s'.env { executionId }) (frame.rawStart - overlapBytes) frame.rawEnd ∧
          frame.rawEnd ≤ (s'.env { executionId }).length) (raising_keeps fun body read => ?_)
      fun body s' _ read => .ret ⟨rfl, read.1, fun _ => read.2⟩
    obtain ⟨range, told, read⟩ := bind_eq_ok read
    obtain ⟨_, checked, read⟩ := bind_eq_ok read
    cases read
    have checked := require_eq_ok checked
    simp only [Bool.and_eq_true, decide_eq_true_eq] at checked
    obtain ⟨⟨⟨⟨_, start⟩, stop⟩, length⟩, confirmed⟩ := checked
    have body := honest range told confirmed
    rw [start, stop] at body
    refine ⟨body, ?_⟩
    have size := congrArg List.length body
    rw [length, slice, List.length_take, List.length_drop] at size
    have more : frame.rawStart < frame.rawEnd := lt_of_le_of_ne forward apart
    have before : frame.rawStart - overlapBytes ≤ frame.rawStart := Nat.sub_le ..
    generalize frame.rawStart - overlapBytes = start at size before
    omega

theorem frames_keeps {key : SourceKey} (log : key.artifactId = none) {frames : List Frame}
    {state : SourceStatus} {before : Option Frame} (keyed : state.key = key)
    (chain : Chain ((before.map Frame.position).getD state.toPosition) frames) :
    (paging lib).Keeps H s (Ingestion.frames key state before frames) fun _ _ => True := by
  induction frames generalizing state before s with
  | nil => exact .ret trivial
  | cons frame rest ih =>
    obtain ⟨_, start, forward, first, goes⟩ := Frame.follows_spec chain.1
    have named : key = { executionId := key.executionId } := by
      cases key
      cases log
      rfl
    refine (window_keeps key.executionId forward).bind fun found s₁ _ read => ?_
    refine Keeps.bind (m := fun _ _ => True) (.run fun s₂ others _ => ⟨?_, fun _ _ => trivial⟩) ?_
    · obtain ⟨begins, body, there⟩ := read
      rw [← named] at body there
      have grows : s₁.env key <+: s₂.env key := others.1 key
      refine ⟨keyed ▸ log, ?_, forward, goes, begins, ?_, ?_⟩
      · cases before with
        | none => exact Prod.ext start first
        | some b => exact Prod.ext start first
      · rw [keyed, body]
        rcases Nat.lt_or_eq_of_le forward with more | same
        · exact (slice_extended grows (there more)).symm
        · rw [begins, if_pos same]
          simp [slice]
      · rw [keyed]
        exact fun more => (there more).trans grows.length_le
    · intro _ s₂ _ _
      refine (current_keeps key).bind fun next s₃ _ keyed => ?_
      exact ih keyed chain.2

theorem page_keeps {key : SourceKey} (log : key.artifactId = none) :
    (paging lib).Keeps H s (Ingestion.page lib key) fun _ _ => True := by
  refine (current_keeps key).bind fun state _ _ keyed => ?_
  refine Keeps.bind (m := fun _ _ => True) (.query (fun _ _ _ => trivial)
    fun _ _ _ _ _ _ => trivial) fun reply _ _ _ => ?_
  refine Keeps.bind (m := fun page _ => Chain state.toPosition page.frames)
    (raising_keeps fun page valid => (validatePage_spec valid).1) fun page _ _ chain => ?_
  have chain : Chain (((none : Option Frame).map Frame.position).getD state.toPosition)
      page.frames := chain
  refine (frames_keeps log keyed chain).bind fun _ _ _ _ => ?_
  refine Keeps.bind (m := fun _ _ => True) (.commit fun _ _ _ => ⟨log, trivial⟩) fun _ _ _ _ => ?_
  exact .ret trivial

theorem pages_keeps {key : SourceKey} (log : key.artifactId = none) (budget : ℕ) :
    (paging lib).Keeps H s (Ingestion.pages lib key budget) fun _ _ => True := by
  induction budget generalizing s with
  | zero => exact .ret trivial
  | succ budget ih =>
    refine (page_keeps log).bind fun ended _ _ _ => ?_
    cases ended with
    | true => exact .ret trivial
    | false => exact ih

theorem caught_keeps {key : SourceKey} {p : Ingestion Unit}
    (body : (paging lib).Keeps H s p fun _ _ => True) :
    (paging lib).Keeps H s (Ingestion.caught key p) fun _ _ => True := by
  refine body.handle fun fault _ _ => ?_
  split
  · exact .fail
  · exact .commit fun _ _ _ => ⟨trivial, trivial⟩

theorem sync_keeps (executionId : String) (taskId repo : Option String) (maxPages : ℕ) :
    (paging lib).Keeps H s (Ingestion.sync lib executionId taskId repo maxPages)
      fun _ _ => True := by
  unfold Ingestion.sync
  dsimp only
  split
  · exact .fail
  · refine Keeps.bind (m := fun _ _ => True) (.run fun _ _ _ => ⟨trivial, fun _ _ => trivial⟩) ?_
    intro _ _ _ _
    refine (caught_keeps (pages_keeps rfl maxPages)).bind fun _ _ _ _ => ?_
    exact (current_keeps _).trivially

theorem syncArtifact_keeps (executionId artifactId : String) (taskId repo : Option String) :
    (paging lib).Keeps H s (Ingestion.syncArtifact executionId artifactId taskId repo)
      fun _ _ => True := by
  refine Keeps.bind (m := fun _ _ => True) (.run fun _ _ _ => ⟨trivial, fun _ _ => trivial⟩) ?_
  intro _ _ _ _
  refine (caught_keeps ?_).bind fun _ _ _ _ => (current_keeps _).trivially
  refine Keeps.bind (m := fun reply (s' : IndexShared) => ∀ chunks, reply.chunks = .ok chunks →
      chunks.flatten <+: s'.env ⟨executionId, some artifactId⟩)
    (.ask (fun _ _ _ => trivial) fun _ _ _ _ _ answered => answered.2) fun reply s₁ _ honest => ?_
  refine .run fun s₂ others _ => ⟨⟨by simp, fun chunks told => ?_⟩, fun _ _ => trivial⟩
  exact (honest chunks told).trans (others.1 _)

theorem resync_keeps (original : SourceStatus) (rounds : ℕ) :
    (paging lib).Keeps H s (Ingestion.resync lib original rounds) fun _ _ => True := by
  induction rounds generalizing s with
  | zero => exact .ret trivial
  | succ rounds ih =>
    refine (sync_keeps _ _ _ _).bind fun state _ _ _ => ?_
    split
    · exact ih
    · exact .ret trivial

theorem rebuildEach_keeps (rounds : ℕ) (originals : List SourceStatus) :
    (paging lib).Keeps H s (Ingestion.rebuildEach lib rounds originals) fun _ _ => True := by
  induction originals generalizing s with
  | nil => exact .ret trivial
  | cons original rest ih =>
    unfold Ingestion.rebuildEach
    split
    · exact (syncArtifact_keeps _ _ _ _).bind fun _ _ _ _ => ih
    · exact (resync_keeps original rounds).bind fun _ _ _ _ => ih

theorem indexOp_keeps {op : Ingestion Unit} (known : IndexOp lib op) :
    (paging lib).Keeps H s op fun _ _ => True := by
  cases known with
  | sync executionId taskId repo maxPages =>
    exact (sync_keeps _ _ _ _).bind fun _ _ _ _ => .ret trivial
  | syncArtifact executionId artifactId taskId repo =>
    exact (syncArtifact_keeps _ _ _ _).bind fun _ _ _ _ => .ret trivial
  | rebuild rounds =>
    refine Keeps.bind (m := fun _ _ => True) (.commit fun _ _ _ => ⟨trivial, trivial⟩) ?_
    exact fun originals _ _ _ => rebuildEach_keeps rounds originals

/-! ### Every run -/

theorem reachable_allKept {w : IndexWorld}
    (h : Reachable (ingestion lib) (fun s ev => goesOn s ev) w) :
    AllKept lib w.shared.env w.shared.store := by
  refine h.invariant (fun s => AllKept lib s.env s.store) ?_ ?_ ?_
  · rintro index env rfl key
    exact rfl
  · intro w p β tx k before at_tx goes kept
    have sound : (paging lib).Sound w :=
      Protocol.sound (fun _ known _ => (indexOp_keeps known).safe)
        (before.mono fun _ _ _ => trivial)
    have issued : Issued w.shared.env tx := sound.pending_commit at_tx
    exact kept.exec issued goes
  · intro w p β q k answer env before at_q answered _ kept key
    exact (kept key).grows (answered.1 key)

/-- The cursor of an artifact: it has no place in a log. -/
def SourceStatus.Unplaced (s : SourceStatus) : Prop := s.afterFrame = none ∧ s.compressedEnd = 0

/-- In every run of the calls whose syncs go on with a page only while the frame they committed last
is stored, the frames of a source tile it and their windows hold its bytes; the cursor of a log is
that of its last frame, and an artifact has none but its end. -/
theorem frames_tile_source {w : IndexWorld}
    (h : Reachable (ingestion lib) (fun s ev => goesOn s ev) w) {s : SourceStatus}
    (found : w.shared.store.status key = some s) :
    Tiled lib (w.shared.env key) (w.shared.store.rowsOf key) s.rawEnd ∧
      (key.artifactId = none → s.AtLast (w.shared.store.rowsOf key)) ∧
      (key.artifactId ≠ none → s.Unplaced) := by
  have kept := reachable_allKept h key
  rw [found] at kept
  by_cases log : key.artifactId = none
  · obtain ⟨linked, windows, cursor⟩ := kept.1 log
    exact ⟨⟨⟨_, linked⟩, windows⟩, fun _ => cursor, fun artifact => absurd log artifact⟩
  · obtain ⟨linked, windows, cursor, _⟩ := kept.2 log
    exact ⟨⟨⟨_, linked⟩, windows⟩, fun isLog => absurd isLog log, fun _ => cursor⟩

/-! ### A log and an artifact -/

def oneObject : Contents := fun _ => [123, 125, 10]

def frameOf (rawStart rawEnd first last : ℤ) (outcome : Json) : Json :=
  .obj [("raw_range", .obj [("start", .num (.int rawStart)), ("end", .num (.int rawEnd))]),
    ("compressed_range", .obj [("start", .num (.int first)), ("end", .num (.int last))]),
    ("captured_at", .null), ("control", .bool true), ("outcome", outcome),
    ("legacy_sql_row", .null)]

def wholePage : Dict :=
  [("durability", .str "confirmed"), ("at_available_end", .bool true),
    ("frames", .arr [frameOf 0 3 0 1 .null, frameOf 3 3 1 2 (.str "complete")]),
    ("next_after_frame", .num (.int 1)), ("outcome", .str "complete")]

def replyOf (lib : IndexLibrary) (chunks : List (List UInt8)) (key : SourceKey) :
    ArtifactReply where
  receipt := .ok
    { id := "a", executionId := key.executionId, attachmentId := "", originalPath := ""
      originalName := none, producerRef := none, publicationKey := none, capturedAt := ""
      sha256 := lib.sha256 chunks.flatten, sizeBytes := chunks.flatten.length }
  chunks := .ok chunks

def serve (lib : IndexLibrary) (page : Dict) (chunks : List (List UInt8)) (content : Contents)
    (q : ClientQuery β) : β × Contents :=
  match q with
  | .provenance _ _ => (.ok page, content)
  | .raw executionId start stop =>
    (.ok ⟨executionId, start, stop, "confirmed", slice (content { executionId }) start stop⟩,
      content)
  | .artifact key =>
    (if content key = chunks.flatten then replyOf lib chunks key
      else ⟨.error .unavailable, .error .unavailable⟩, content)

theorem serve_sound (page : Dict) (chunks : List (List UInt8)) (content : Contents)
    (q : ClientQuery β) :
    answers content q (serve lib page chunks content q).1 (serve lib page chunks content q).2 := by
  cases q with
  | provenance executionId afterFrame => exact ⟨.refl content, trivial⟩
  | raw executionId start stop =>
    refine ⟨.refl content, ?_⟩
    rintro range told _
    cases told
    rfl
  | artifact key =>
    refine ⟨.refl content, ?_⟩
    intro sent told
    by_cases same : content key = chunks.flatten
    · simp only [serve, same, if_true, replyOf, Except.ok.injEq] at told ⊢
      exact told ▸ List.prefix_refl _
    · simp [serve, same] at told

def serveObject (content : Contents) (q : ClientQuery β) : β × Contents :=
  serve oneLineLibrary wholePage [[123, 125, 10]] content q

theorem serveObject_sound (content : Contents) (q : ClientQuery β) :
    answers content q (serveObject content q).1 (serveObject content q).2 :=
  serve_sound wholePage [[123, 125, 10]] content q

def bothSources : List (Ingestion Unit) :=
  [(Ingestion.sync oneLineLibrary "e" none none 1).bind fun _ => .ret (),
    (Ingestion.syncArtifact "e" "a" none none).bind fun _ => .ret ()]

theorem bothSources_known : ∀ op ∈ bothSources, IndexOp oneLineLibrary op := by
  simp only [bothSources, List.mem_cons, List.not_mem_nil, or_false]
  rintro op (rfl | rfl)
  · exact .sync ..
  · exact .syncArtifact ..

def ingested (ops : List (Ingestion Unit)) (schedule : List Turn) : IndexWorld :=
  (World.boot {} oneObject ops).play (ingestion oneLineLibrary) serveObject schedule

def bothRead : IndexWorld :=
  ingested bothSources (List.replicate 20 (.step 0) ++ List.replicate 20 (.step 1))

def artifactKey : SourceKey := ⟨"e", some "a"⟩

set_option maxRecDepth 100000 in
theorem both_sources_tiled :
    (∃ s, bothRead.shared.store.status logKey = some s ∧ s.rawEnd = 3 ∧
      Tiled oneLineLibrary (bothRead.shared.env logKey) (bothRead.shared.store.rowsOf logKey)
        s.rawEnd ∧ s.AtLast (bothRead.shared.store.rowsOf logKey)) ∧
    ∃ s, bothRead.shared.store.status artifactKey = some s ∧ s.rawEnd = 3 ∧
      Tiled oneLineLibrary (bothRead.shared.env artifactKey)
        (bothRead.shared.store.rowsOf artifactKey) s.rawEnd ∧ s.Unplaced := by
  have log : (bothRead.shared.store.status logKey).map (fun s => s.rawEnd) = some 3 := by
    decide +kernel
  have artifact : (bothRead.shared.store.status artifactKey).map (fun s => s.rawEnd) = some 3 := by
    decide +kernel
  have passes : (World.boot {} oneObject bothSources).passes (ingestion oneLineLibrary) serveObject
      goesOn (List.replicate 20 (.step 0) ++ List.replicate 20 (.step 1)) := by decide +kernel
  have first : Reachable (ingestion oneLineLibrary) (fun s ev => goesOn s ev)
      (World.boot {} oneObject bothSources) :=
    World.boot_reachable rfl bothSources bothSources_known
  have reached : Reachable (ingestion oneLineLibrary) (fun s ev => goesOn s ev) bothRead :=
    World.passes_reachable serveObject_sound _ first passes
  constructor
  · obtain ⟨s, found, rawEnd⟩ := Option.map_eq_some_iff.mp log
    obtain ⟨tiled, cursor, _⟩ := frames_tile_source reached found
    exact ⟨s, found, rawEnd, tiled, cursor rfl⟩
  · obtain ⟨s, found, rawEnd⟩ := Option.map_eq_some_iff.mp artifact
    obtain ⟨tiled, _, unplaced⟩ := frames_tile_source reached found
    exact ⟨s, found, rawEnd, tiled, unplaced (by decide)⟩

set_option maxRecDepth 100000 in
theorem bothRead_unplaced : ∃ s, bothRead.shared.store.status artifactKey = some s ∧
    ¬ s.AtLast (bothRead.shared.store.rowsOf artifactKey) := by
  have stored : ((bothRead.shared.store.status artifactKey).map fun s =>
      (s.afterFrame, (bothRead.shared.store.rowsOf artifactKey).isEmpty)) =
        some (none, false) := by decide +kernel
  obtain ⟨s, found, same⟩ := Option.map_eq_some_iff.mp stored
  obtain ⟨unplaced, rows⟩ := Prod.mk.inj same
  refine ⟨s, found, fun cursor => ?_⟩
  unfold SourceStatus.AtLast at cursor
  cases last : (bothRead.shared.store.rowsOf artifactKey).getLast? with
  | none => simp [List.getLast?_eq_none_iff.mp last] at rows
  | some row =>
    rw [last] at cursor
    cases unplaced.symm.trans cursor.2.2

def resets : List (Ingestion Unit) :=
  [(Ingestion.sync oneLineLibrary "e" none none 1).bind fun _ => .ret (),
    Ingestion.rebuild oneLineLibrary 1]

/-- A sync, and a rebuild that begins between its two frames. -/
def resetWithin : IndexWorld :=
  ingested resets (List.replicate 5 (.step 0) ++ [.step 1] ++ List.replicate 3 (.step 0))

set_option maxRecDepth 100000 in
/-- The second frame is stored alone, and the row says that the source is read to its end. -/
theorem resetWithin_untiled : ∃ s, resetWithin.shared.store.status logKey = some s ∧
    s.outcome = some .complete ∧
      ¬ Tiled oneLineLibrary (resetWithin.shared.env logKey)
        (resetWithin.shared.store.rowsOf logKey) s.rawEnd := by
  have stored : (resetWithin.shared.store.status logKey).map (fun s => s.outcome) =
      some (some .complete) := by decide +kernel
  have alone : (resetWithin.shared.store.rowsOf logKey).map (fun row => row.rawStart) = [3] := by
    decide +kernel
  obtain ⟨s, found, outcome⟩ := Option.map_eq_some_iff.mp stored
  refine ⟨s, found, outcome, fun tiled => ?_⟩
  obtain ⟨row, rows, three⟩ := List.map_eq_singleton_iff.mp alone
  obtain ⟨last, linked⟩ := tiled.linked
  rw [rows] at linked
  have zero : row.rawStart = 0 := congrArg Prod.fst linked.1
  omega

/-- A rebuild in the middle of a page breaks a log apart, and the columns of an artifact never tell
its last frame. -/
theorem not_every_run_tiles :
    (∃ w : IndexWorld, Reachable (ingestion oneLineLibrary) anyEvent w ∧
      ∃ s, w.shared.store.status logKey = some s ∧
        ¬ Tiled oneLineLibrary (w.shared.env logKey) (w.shared.store.rowsOf logKey) s.rawEnd) ∧
    ∃ w : IndexWorld, Reachable (ingestion oneLineLibrary) anyEvent w ∧
      ∃ s, w.shared.store.status artifactKey = some s ∧
        ¬ s.AtLast (w.shared.store.rowsOf artifactKey) := by
  have known : ∀ op ∈ resets, IndexOp oneLineLibrary op := by
    simp only [resets, List.mem_cons, List.not_mem_nil, or_false]
    rintro op (rfl | rfl)
    · exact .sync ..
    · exact .rebuild 1
  obtain ⟨s, found, _, apart⟩ := resetWithin_untiled
  have reset : Reachable (ingestion oneLineLibrary) anyEvent resetWithin :=
    World.play_reachable serveObject_sound _ (World.boot_reachable rfl resets known)
  have both : Reachable (ingestion oneLineLibrary) anyEvent bothRead :=
    World.play_reachable serveObject_sound _
      (World.boot_reachable rfl bothSources bothSources_known)
  exact ⟨⟨_, reset, s, found, apart⟩, _, both, bothRead_unplaced⟩

end SightMesh.Native
