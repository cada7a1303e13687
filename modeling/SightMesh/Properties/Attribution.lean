import SightMesh.Evidence.Search
import SightMesh.Properties.Tiling

/-! A search to the end reports the frames in which its text ends, and where it stands. -/
namespace SightMesh.Native

open Concurrency Python

variable {lib : IndexLibrary} {content : List UInt8} {row : FrameRow} {query text : List Char}

def Occurs (query : List Char) (content : List UInt8) (position : ℕ) : Prop :=
  encode query <+: content.drop position

def FrameRow.holds (row : FrameRow) (place : ℕ) : Bool := row.rawStart < place && place ≤ row.rawEnd

/-! ### Slices -/

theorem slice_split (log : List UInt8) {a b c : ℕ} (first : a ≤ b) (last : b ≤ c) :
    slice log a c = slice log a b ++ slice log b c := by
  have cut : c - a = (b - a) + (c - b) := by omega
  have drop : log.drop b = (log.drop a).drop (b - a) := by
    rw [List.drop_drop]
    congr 1
    omega
  rw [slice, slice, slice, drop, cut, List.take_add]

theorem length_slice {log : List UInt8} {a b : ℕ} (there : b ≤ log.length) :
    (slice log a b).length = b - a := by
  simp [slice]
  omega

theorem slice_occurs {position : ℕ} (occurs : Occurs query content position) :
    slice content position (position + (encode query).length) = encode query := by
  obtain ⟨rest, same⟩ := occurs
  simp [slice, ← same]

theorem occurs_of_slice {before after : List UInt8} {a b : ℕ} (forward : a ≤ b)
    (there : b ≤ content.length)
    (same : slice content a b = before ++ (encode query ++ after)) :
    Occurs query content (a + before.length) ∧ a + before.length + (encode query).length ≤ b := by
  have length := congrArg List.length same
  rw [length_slice there, List.length_append, List.length_append] at length
  have whole : content.drop a = slice content a b ++ content.drop b := by
    have rest : content.drop b = (content.drop a).drop (b - a) := by
      rw [List.drop_drop, Nat.add_sub_cancel' forward]
    rw [slice, rest, List.take_append_drop]
  refine ⟨?_, by omega⟩
  rw [Occurs, ← List.drop_drop, whole, same, List.append_assoc, List.drop_left, List.append_assoc]
  exact List.prefix_append ..

/-! ### The window of a frame -/

theorem isContinuation_eq (byte : UInt8) : isContinuation byte = isTrail byte := by
  have all : ∀ n < 256, isContinuation (UInt8.ofNat n) = isTrail (UInt8.ofNat n) := by
    decide +kernel
  have this := all byte.toNat (UInt8.toNat_lt byte)
  simpa using this

/-- What `_utf8_window` leaves out in front is the rest of a character, and what it leaves in is a
text. -/
theorem utf8Window_text {start : ℕ} {body : List UInt8} {window : ℕ × List UInt8}
    (made : utf8Window lib.utf8 start body = .ok window) :
    ∃ skipped d, window = (start + skipped, encode d.text) ∧
      (∀ byte ∈ body.take skipped, isTrail byte = true) ∧
        Decoder.decode {} (body.drop skipped) = some d := by
  obtain ⟨kept, read, same⟩ := bind_eq_ok made
  cases same
  generalize skipped_eq : (if start = 0 then 0
    else ((body.take 3).takeWhile isContinuation).length) = skipped at read ⊢
  have trails : ∀ byte ∈ body.take skipped, isTrail byte = true := by
    intro byte mem
    rw [← skipped_eq] at mem
    split at mem
    · simp at mem
    · have front : (body.take 3).takeWhile isContinuation <+: body :=
        (List.takeWhile_prefix _).trans (List.take_prefix ..)
      rw [← List.prefix_iff_eq_take.mp front] at mem
      rw [← isContinuation_eq]
      exact List.all_eq_true.mp List.all_takeWhile byte mem
  cases decoded : Decoder.decode {} (body.drop skipped) with
  | none =>
    simp only [IndexLibrary.utf8, decoded] at read
    cases read
  | some d =>
    simp only [IndexLibrary.utf8, decoded] at read
    cases read
    refine ⟨skipped, d, ?_, trails, decoded⟩
    have whole := Decoder.decode_sound decoded
    have size : body.length - skipped - d.pending.length = (encode d.text).length := by
      have length := congrArg List.length whole
      rw [List.length_drop, List.length_append] at length
      omega
    rw [size, whole, List.take_left]

theorem trail_free (some_query : query ≠ []) : ∃ byte rest, encode query = byte :: rest ∧
    isTrail byte = false := by
  obtain ⟨c, more, rfl⟩ := List.exists_cons_of_ne_nil some_query
  obtain ⟨byte, rest, same, first⟩ := isTrail_head c
  exact ⟨byte, rest ++ encode more, by rw [encode_cons, same]; rfl, first⟩

/-- The text of the window holds whatever ends in the frame and begins in the overlap. -/
theorem FrameRow.Windowed.holds_text (windowed : row.Windowed lib.utf8 content) :
    ∃ text, slice content row.windowStart row.windowEnd = encode text ∧
      ∀ query position, query ≠ [] → Occurs query content position → row.bodyStart ≤ position →
        position + (encode query).length ≤ row.rawEnd →
          ∃ before after, text = before ++ (query ++ after) ∧
            row.windowStart + (encode before).length = position := by
  obtain ⟨skipped, d, same, trails, read⟩ := utf8Window_text windowed.cut
  obtain ⟨start, window⟩ := Prod.mk.inj same
  refine ⟨d.text, window, fun query position some_query occurs begins ends => ?_⟩
  have there := windowed.there
  obtain ⟨byte, rest, bytes, first⟩ := trail_free some_query
  have found := slice_occurs occurs
  -- the query begins behind the bytes that are left out
  have behind : row.bodyStart + skipped ≤ position := by
    by_contra inside
    have size : 0 < (encode query).length := by
      rw [bytes]
      exact Nat.succ_pos _
    have here : ((slice content row.bodyStart row.rawEnd).take skipped)[position - row.bodyStart]? =
        some byte := by
      have head : (content.drop position)[0]? = some byte := by
        obtain ⟨more, same⟩ := occurs
        rw [← same, bytes]
        rfl
      rw [List.getElem?_take_of_lt (by omega), slice, List.getElem?_take_of_lt (by omega),
        List.getElem?_drop, Nat.add_sub_cancel' begins]
      simpa using head
    have trail := trails byte (List.mem_of_getElem? here)
    rw [first] at trail
    cases trail
  have body : (slice content row.bodyStart row.rawEnd).drop skipped =
      slice content (row.bodyStart + skipped) row.rawEnd := by
    rw [slice, slice, List.drop_take, List.drop_drop, Nat.sub_sub]
  rw [body, slice_split content behind (show position ≤ row.rawEnd by omega),
    slice_split content (Nat.le_add_right position (encode query).length) ends, found] at read
  obtain ⟨before, after, text, front⟩ := Decoder.decode_infix some_query read
  refine ⟨before, after, text, ?_⟩
  rw [front, length_slice (by omega), start]
  omega

/-! ### The occurrence a frame owns -/

theorem take_at {position : ℕ} (here : query <+: text.drop position) :
    text.take (position + query.length) = text.take position ++ query := by
  rw [List.take_add]
  congr 1
  exact (List.prefix_iff_eq_take.mp here).symm

def FrameRow.stop (row : FrameRow) (query text : List Char) (position : ℕ) : ℕ :=
  row.windowStart + (encode (text.take position)).length + (encode query).length

theorem stop_eq {position : ℕ} (here : query <+: text.drop position) :
    row.windowStart + (encode (text.take (position + query.length))).length =
      row.stop query text position := by
  rw [take_at here, encode_append, List.length_append, FrameRow.stop, Nat.add_assoc]

theorem ownMatch_eq_some {fuel start position : ℕ}
    (found : ownMatch query text row fuel start = some position) :
    query <+: text.drop position ∧ row.rawStart < row.stop query text position := by
  induction fuel generalizing start with
  | zero => cases found
  | succ fuel ih =>
    unfold ownMatch at found
    split at found
    · cases found
    · rename_i first there
      have here := (find_eq_some there).2
      split at found
      · exact ih found
      · rename_i own
        cases found
        rw [stop_eq here] at own
        exact ⟨here, by omega⟩

theorem ownMatch_eq_none (some_query : query ≠ []) {fuel start : ℕ}
    (enough : text.length + 2 ≤ fuel + start) (missing : ownMatch query text row fuel start = none)
    {position : ℕ} (from_start : start ≤ position) (here : query <+: text.drop position) :
    row.stop query text position ≤ row.rawStart := by
  induction fuel generalizing start with
  | zero =>
    rw [List.drop_eq_nil_of_le (by omega), List.prefix_nil] at here
    exact absurd here some_query
  | succ fuel ih =>
    unfold ownMatch at missing
    split at missing
    · rename_i nowhere
      exact absurd here (find_eq_none some_query nowhere from_start)
    · rename_i first there
      split at missing
      · rename_i older
        by_cases same : position = first
        · subst same
          rwa [stop_eq here] at older
        · have later : first ≤ position := by
            by_contra earlier
            exact find_passed there from_start (by omega) here
          have onward := (find_eq_some there).1
          exact ih (by omega) missing (by omega)
      · cases missing

/-- A hit stands in the source and ends in its frame. -/
theorem rowHit_eq_some {s : SourceStatus} {hit : SearchHit}
    (windowed : row.Windowed lib content)
    (window : slice content row.windowStart row.windowEnd = encode text)
    (made : rowHit query text row s = some hit) :
    hit.row = row ∧ Occurs query content hit.matchStart ∧
      hit.matchEnd = hit.matchStart + (encode query).length ∧ row.holds hit.matchEnd := by
  obtain ⟨position, found, same⟩ := Option.map_eq_some_iff.mp made
  subst same
  obtain ⟨here, own⟩ := ownMatch_eq_some found
  obtain ⟨after, rest⟩ := here
  have whole : encode text = encode (text.take position) ++ (encode query ++ encode after) := by
    rw [← encode_append, rest, ← encode_append, List.take_append_drop]
  obtain ⟨occurs, inside⟩ :=
    occurs_of_slice windowed.ordered (windowed.ends.trans windowed.there) (window.trans whole)
  refine ⟨rfl, occurs, rfl, ?_⟩
  have ends := windowed.ends
  simp only [FrameRow.holds, Bool.and_eq_true, decide_eq_true_eq]
  exact ⟨own, by omega⟩

/-- The overlap is long enough for any query. -/
theorem bodyStart_le (short : query.length ≤ 256) {position : ℕ}
    (held : row.holds (position + (encode query).length) = true) : row.bodyStart ≤ position := by
  simp only [FrameRow.holds, Bool.and_eq_true, decide_eq_true_eq] at held
  have size := length_encode_le query
  rw [FrameRow.bodyStart, if_neg (by omega), overlapBytes]
  omega

/-- A frame without a hit holds the end of no occurrence. -/
theorem rowHit_eq_none {s : SourceStatus} (some_query : query ≠ []) (short : query.length ≤ 256)
    (begins : ∀ position, Occurs query content position → row.bodyStart ≤ position →
      position + (encode query).length ≤ row.rawEnd → ∃ before after,
        text = before ++ (query ++ after) ∧ row.windowStart + (encode before).length = position)
    (none_made : rowHit query text row s = none) {position : ℕ}
    (occurs : Occurs query content position) :
    row.holds (position + (encode query).length) = false := by
  by_contra held
  rw [Bool.not_eq_false] at held
  have from_body := bodyStart_le short held
  simp only [FrameRow.holds, Bool.and_eq_true, decide_eq_true_eq] at held
  obtain ⟨before, after, whole, placed⟩ := begins position occurs from_body held.2
  have here : query <+: text.drop before.length := by
    rw [whole, List.drop_left]
    exact List.prefix_append ..
  have missing : ownMatch query text row (text.length + 2) 0 = none :=
    Option.map_eq_none_iff.mp none_made
  have older := ownMatch_eq_none some_query (by omega) missing (Nat.zero_le _) here
  have front : text.take before.length = before := by rw [whole, List.take_left]
  rw [FrameRow.stop, front, placed] at older
  omega

/-! ### Originals -/

theorem slice_append_cases (x y : List UInt8) (a b : ℕ) :
    slice (x ++ y) a b = slice x a b ++ slice y (a - x.length) (b - x.length) := by
  rw [slice, List.drop_append, List.take_append, List.length_drop, slice, slice]
  congr 2
  omega

theorem cutChunks_eq (start stop offset : ℕ) (chunks : List (List UInt8)) :
    cutChunks start stop offset chunks = slice chunks.flatten (start - offset) (stop - offset) := by
  induction chunks generalizing offset with
  | nil => simp [cutChunks, slice]
  | cons chunk rest ih =>
    rw [cutChunks, ih, List.flatten_cons, slice_append_cases, Nat.sub_sub, Nat.sub_sub]
    congr 1
    rw [slice, List.drop_take, List.take_eq_take_iff, List.length_drop]
    omega

/-- The sources can be read as they are. An artifact is what its receipt says. -/
structure Originals (lib : IndexLibrary) (client : Client) (contents : Contents)
    (index : EvidenceIndex) : Prop where
  log : ∀ executionId n start stop, stop ≤ (contents { executionId }).length →
    (client.log executionId).raw n start stop =
      .ok ⟨executionId, start, stop, "confirmed", slice (contents { executionId }) start stop⟩
  artifact : ∀ s receipt, s ∈ index.sources → s.receipt = some receipt → s.key.artifactId ≠ none →
    (client.artifact s.key).receipt = .ok receipt ∧
      receipt.sizeBytes = (contents s.key).length ∧
      receipt.sha256 = lib.sha256 (contents s.key) ∧
      ∃ chunks, (client.artifact s.key).chunks = .ok chunks ∧ chunks.flatten = contents s.key ∧
        ∀ chunk ∈ chunks, 0 < chunk.length ∧ chunk.length ≤ transferBytes

theorem require_ok {condition : Bool} (holds : condition = true) : require condition = .ok () := by
  rw [require, if_pos holds]

theorem originalBytes_eq {client : Client} {contents : Contents} {index : EvidenceIndex}
    {s : SourceStatus} (originals : Originals lib client contents index)
    (found : index.status row.key = some s) (windowed : row.Windowed lib (contents row.key))
    (received : row.key.artifactId ≠ none → s.receipt ≠ none) (n : ℕ) :
    originalBytes lib client n row s =
      .ok (slice (contents row.key) row.windowStart row.windowEnd) := by
  have there := windowed.ends.trans windowed.there
  have size := length_slice (a := row.windowStart) there
  have key := EvidenceIndex.key_of_status found
  unfold originalBytes
  split
  · rename_i log
    have named : row.key = { executionId := row.key.executionId } := by
      rw [← log]
    have answer := originals.log row.key.executionId n row.windowStart row.windowEnd
      (by rw [← named]; exact there)
    rw [← named] at answer
    have fits : (decide (row.key.executionId = row.key.executionId) &&
        decide (row.windowStart = row.windowStart) && decide (row.windowEnd = row.windowEnd) &&
        decide ((slice (contents row.key) row.windowStart row.windowEnd).length =
          row.windowEnd - row.windowStart) && decide ("confirmed" = "confirmed")) = true := by
      simp [size]
    rw [confirmedRange, answer]
    exact congrArg (· >>= fun _ => _) (require_ok fits)
  · rename_i id artifact
    split
    · rename_i missing
      exact absurd missing (received (by simp [artifact]))
    · rename_i receipt stored
      have mem : s ∈ index.sources := List.mem_of_find?_eq_some found
      have known : s.key.artifactId ≠ none := by simp [key, artifact]
      obtain ⟨told, length, digest, chunks, sent, whole, sized⟩ :=
        originals.artifact s receipt mem stored known
      rw [key] at told length digest sent whole
      have bounded : (chunks.all fun chunk =>
          decide (0 < chunk.length) && decide (chunk.length ≤ transferBytes)) = true := by
        rw [List.all_eq_true]
        intro chunk mem
        simpa using sized chunk mem
      have same : (decide (chunks.flatten.length = receipt.sizeBytes) &&
          decide (lib.sha256 chunks.flatten = receipt.sha256)) = true := by
        simp [whole, length, digest]
      have window : cutChunks row.windowStart row.windowEnd 0 chunks =
          slice (contents row.key) row.windowStart row.windowEnd := by
        rw [cutChunks_eq, whole, Nat.sub_zero, Nat.sub_zero]
      have fits : decide ((cutChunks row.windowStart row.windowEnd 0 chunks).length =
          row.windowEnd - row.windowStart) = true := by
        simp [window, size]
      unfold artifactWindow
      rw [told, sent]
      dsimp only [bind, Except.bind]
      rw [require_ok (by simp), require_ok bounded, require_ok same, require_ok fits, window]

/-! ### Pages -/

def hitOf (contents : Contents) (query : List Char) (found : ℕ × FrameRow × SourceStatus) :
    Option SearchHit :=
  match decodeText (slice (contents found.2.1.key) found.2.1.windowStart found.2.1.windowEnd) with
  | some text => rowHit query text found.2.1 found.2.2
  | none => none

structure Readable (lib : IndexLibrary) (client : Client) (contents : Contents)
    (found : ℕ × FrameRow × SourceStatus) : Prop where
  bytes : originalBytes lib client found.1 found.2.1 found.2.2 =
    .ok (slice (contents found.2.1.key) found.2.1.windowStart found.2.1.windowEnd)
  same : lib.sha256 (slice (contents found.2.1.key) found.2.1.windowStart found.2.1.windowEnd) =
    found.2.1.sha256
  text : ∃ text,
    decodeText (slice (contents found.2.1.key) found.2.1.windowStart found.2.1.windowEnd) =
      some text

variable {client : Client} {contents : Contents} {found : ℕ × FrameRow × SourceStatus}

theorem look_eq (readable : Readable lib client contents found) (g : Gathered) :
    ∃ checked, g.look lib client query found =
      .ok ⟨g.index, checked, g.hits ++ (hitOf contents query found).toList⟩ := by
  obtain ⟨rowid, row, s⟩ := found
  obtain ⟨text, decoded⟩ := readable.text
  have bytes := readable.bytes
  have same := readable.same
  dsimp only at bytes same decoded
  unfold Gathered.look hitOf
  dsimp only
  rw [bytes]
  dsimp only
  rw [if_neg (by simpa using same), decoded]
  by_cases artifact : row.key.artifactId.isSome = true
  · rw [if_pos artifact]
    exact ⟨_, rfl⟩
  · rw [if_neg artifact]
    exact ⟨_, rfl⟩

theorem looks_eq {rows : List (ℕ × FrameRow × SourceStatus)}
    (readable : ∀ found ∈ rows, Readable lib client contents found) (g : Gathered) :
    ∃ checked, rows.foldlM (Gathered.look lib client query) g =
      .ok ⟨g.index, checked, g.hits ++ rows.filterMap (hitOf contents query)⟩ := by
  induction rows generalizing g with
  | nil => exact ⟨g.checked, by simp; rfl⟩
  | cons found rest ih =>
    rw [List.forall_mem_cons] at readable
    obtain ⟨first, looked⟩ := @look_eq lib query _ _ _ readable.1 g
    obtain ⟨checked, later⟩ := ih readable.2
      ⟨g.index, first, g.hits ++ (hitOf contents query found).toList⟩
    refine ⟨checked, ?_⟩
    rw [List.foldlM_cons, looked]
    refine later.trans ?_
    cases made : hitOf contents query found with
    | none => simp [made]
    | some hit => simp [made]

variable {index : EvidenceIndex} {proposed : FrameRow → Bool} {selection : Selection}

theorem candidate_eq_some {after : ℕ} {entry : FrameRow × ℕ}
    (picked : index.candidate proposed selection after entry = some found) :
    after < entry.2 ∧ proposed entry.1 = true ∧ selection.captured entry.1 = true ∧
      selection.picks found.2.2 = true ∧ index.status entry.1.key = some found.2.2 ∧
        found.1 = entry.2 ∧ found.2.1 = entry.1 := by
  unfold EvidenceIndex.candidate at picked
  split at picked
  · cases picked
  · rename_i s known
    split at picked
    · rename_i fits
      cases picked
      simp only [Bool.and_eq_true, decide_eq_true_eq] at fits
      obtain ⟨⟨⟨behind, told⟩, captured⟩, picks⟩ := fits
      exact ⟨behind, told, captured, picks, known, rfl, rfl⟩
    · cases picked

theorem candidates_increasing (after : ℕ) :
    (index.candidates proposed selection after).Pairwise fun a b => a.1 < b.1 := by
  have rowids : (index.frames.zipIdx 1).Pairwise fun a b => a.2 < b.2 := by
    have places : ((index.frames.zipIdx 1).map Prod.snd).Pairwise (· < ·) := by
      rw [List.zipIdx_map_snd]
      exact List.pairwise_lt_range'
    exact List.pairwise_map.mp places
  refine rowids.filterMap _ ?_
  intro a b less x picked y picked'
  have first := (candidate_eq_some picked).2.2.2.2.2.1
  have second := (candidate_eq_some picked').2.2.2.2.2.1
  omega

/-- The candidates behind a cursor are those behind an earlier one, cut. -/
theorem candidates_filter {after next : ℕ} (later : after ≤ next) :
    index.candidates proposed selection next =
      (index.candidates proposed selection after).filter fun found => next < found.1 := by
  rw [EvidenceIndex.candidates, EvidenceIndex.candidates, List.filter_filterMap]
  congr 1
  funext entry
  unfold EvidenceIndex.candidate
  cases index.status entry.1.key with
  | none => rfl
  | some s =>
    by_cases behind : next < entry.2
    · have before : after < entry.2 := by omega
      rw [decide_eq_true behind, decide_eq_true before]
      dsimp only
      split
      · rw [Option.filter_some, if_pos (by simpa using behind)]
      · rfl
    · rw [decide_eq_false behind]
      dsimp only
      rw [Bool.false_and, Bool.false_and, Bool.false_and, if_neg Bool.false_ne_true]
      split
      · rw [Option.filter_some, if_neg (by simpa using behind)]
      · rfl

theorem after_lt {after : ℕ} (mem : found ∈ index.candidates proposed selection after) :
    after < found.1 := by
  obtain ⟨entry, _, picked⟩ := List.mem_filterMap.mp mem
  obtain ⟨behind, _, _, _, _, rowid, _⟩ := candidate_eq_some picked
  omega

theorem filter_behind {rows : List (ℕ × FrameRow × SourceStatus)} {last : ℕ}
    (increasing : rows.Pairwise fun a b => a.1 < b.1) (inside : last < rows.length) :
    (rows.filter fun found => (rows[last]).1 < found.1) = rows.drop (last + 1) := by
  have order := List.pairwise_iff_getElem.mp increasing
  have front : (rows.take (last + 1)).filter (fun found => (rows[last]).1 < found.1) = [] := by
    rw [List.filter_eq_nil_iff]
    intro found mem
    obtain ⟨i, bound, here⟩ := List.mem_take_iff_getElem.mp mem
    have before : i < last ∨ i = last := by omega
    rcases before with less | rfl
    · have smaller := order i last (by omega) inside less
      rw [here] at smaller
      simp
      omega
    · rw [← here]
      simp
  have back : (rows.drop (last + 1)).filter (fun found => (rows[last]).1 < found.1) =
      rows.drop (last + 1) := by
    rw [List.filter_eq_self]
    intro found mem
    obtain ⟨i, bound, here⟩ := List.mem_drop_iff_getElem.mp mem
    have greater := order last (last + 1 + i) inside (by omega) (by omega)
    rw [here] at greater
    simpa using greater
  generalize (rows[last]).1 = rowid at front back ⊢
  calc rows.filter (fun found => rowid < found.1)
    _ = (rows.take (last + 1) ++ rows.drop (last + 1)).filter (fun found => rowid < found.1) := by
      rw [List.take_append_drop]
    _ = rows.drop (last + 1) := by rw [List.filter_append, front, back, List.nil_append]

variable {propose : List Char → FrameRow → Bool} {limit : ℕ}

/-- A search that asks for what it may ask. -/
structure Asks (query : List Char) (limit : ℕ) : Prop where
  long : 3 ≤ query.length
  short : query.length ≤ 256
  plain : Char.ofNat 0 ∉ query
  some_rows : 1 ≤ limit
  bounded : limit ≤ 100

theorem search_eq (asks : Asks query limit) {after : ℕ}
    (readable : ∀ found ∈ index.candidates (propose query) selection after,
      Readable lib client contents found) :
    ∃ page, index.search lib client propose selection query limit after = .ok (index, page) ∧
      page.hits =
        ((index.candidates (propose query) selection after).take limit).filterMap
          (hitOf contents query) ∧
      page.nextAfter =
        if limit < (index.candidates (propose query) selection after).length then
          (index.candidates (propose query) selection after)[limit - 1]?.map (·.1)
        else none := by
  have some_rows := asks.some_rows
  unfold EvidenceIndex.search
  generalize index.candidates (propose query) selection after = rows at readable ⊢
  have first : (rows.take (limit + 1)).take limit = rows.take limit := by
    rw [List.take_take, Nat.min_eq_left (Nat.le_succ limit)]
  obtain ⟨checked, looked⟩ := @looks_eq lib query client contents (rows.take limit)
    (fun found mem => readable found (List.mem_of_mem_take mem)) ⟨index, [], []⟩
  rw [if_neg (by have := asks.long; have := asks.short; simp [asks.plain]; omega),
    if_neg (by have := asks.bounded; omega)]
  dsimp only
  rw [first, looked]
  refine ⟨_, rfl, List.nil_append _, ?_⟩
  dsimp only
  rw [List.length_take]
  by_cases more : limit < rows.length
  · rw [if_pos (by omega), if_pos more, List.getElem?_take_of_lt (by omega)]
  · rw [if_neg (by omega), if_neg more]

theorem searchAll_eq (asks : Asks query limit) {fuel after : ℕ}
    (readable : ∀ found ∈ index.candidates (propose query) selection after,
      Readable lib client contents found)
    (enough : (index.candidates (propose query) selection after).length < fuel) :
    index.searchAll lib client propose selection query limit fuel after =
      some (.ok ((index.candidates (propose query) selection after).filterMap
        (hitOf contents query))) := by
  induction fuel generalizing after with
  | zero => omega
  | succ fuel ih =>
    have some_rows := asks.some_rows
    obtain ⟨page, ran, hits, next⟩ := search_eq asks readable
    rw [EvidenceIndex.searchAll, ran]
    dsimp only
    by_cases more : limit < (index.candidates (propose query) selection after).length
    · have inside : limit - 1 < (index.candidates (propose query) selection after).length := by
        omega
      rw [if_pos more, List.getElem?_eq_getElem inside, Option.map_some] at next
      have behind := after_lt (List.getElem_mem inside)
      have rest := @candidates_filter index (propose query) selection _ _ behind.le
      rw [filter_behind (candidates_increasing after) inside, Nat.sub_add_cancel some_rows] at rest
      have later := @ih ((index.candidates (propose query) selection after)[limit - 1]).1
        (by rw [rest]; exact fun found mem => readable found (List.mem_of_mem_drop mem))
        (by rw [rest, List.length_drop]; omega)
      rw [next]
      dsimp only
      rw [later, hits, rest]
      have whole := congrArg (List.filterMap (hitOf contents query))
        (List.take_append_drop limit (index.candidates (propose query) selection after))
      rw [List.filterMap_append] at whole
      rw [Option.map_some, ← whole]
      rfl
    · rw [if_neg more] at next
      rw [next, hits, List.take_of_length_le (by omega)]

/-! ### Every split -/

theorem Linked.start_le {p q : ℕ × ℕ} {rows : List FrameRow} (linked : Linked p rows q) :
    ∀ row ∈ rows, p.1 ≤ row.rawStart := by
  induction rows generalizing p with
  | nil => simp
  | cons row rest ih =>
    obtain ⟨here, forward, _, later⟩ := linked
    have start : row.rawStart = p.1 := congrArg Prod.fst here
    rw [List.forall_mem_cons]
    refine ⟨start.ge, fun other mem => ?_⟩
    have onward := ih later other mem
    dsimp only at onward
    omega

/-- Frames that tile a source share no place of it. -/
theorem Linked.one_holds {p q : ℕ × ℕ} {rows : List FrameRow} {place : ℕ}
    (linked : Linked p rows q) (behind : p.1 < place) (inside : place ≤ q.1) :
    ∃ row, rows.filter (·.holds place) = [row] := by
  induction rows generalizing p with
  | nil =>
    obtain rfl : p = q := linked
    omega
  | cons row rest ih =>
    obtain ⟨here, forward, _, later⟩ := linked
    have start : row.rawStart = p.1 := congrArg Prod.fst here
    by_cases own : place ≤ row.rawEnd
    · have holds : row.holds place = true := by
        simp [FrameRow.holds]
        omega
      have others : rest.filter (·.holds place) = [] := by
        rw [List.filter_eq_nil_iff]
        intro other mem
        have onward := later.start_le other mem
        simp [FrameRow.holds]
        omega
      exact ⟨row, by rw [List.filter_cons, if_pos holds, others]⟩
    · have misses : ¬ row.holds place = true := by
        simp [FrameRow.holds]
        omega
      rw [List.filter_cons, if_neg misses]
      exact ih later (by dsimp only; omega)

def Selection.selects (selection : Selection) (index : EvidenceIndex) (row : FrameRow) : Prop :=
  selection.captured row = true ∧ ∃ s, index.status row.key = some s ∧ selection.picks s = true

theorem AllKept.windowed {lib : IndexLibrary} {s : SourceStatus} (kept : AllKept lib contents index)
    (mem : row ∈ index.frames) (found : index.status row.key = some s) :
    row.Windowed lib (contents row.key) ∧ (row.key.artifactId ≠ none → s.receipt ≠ none) := by
  have here := kept row.key
  rw [found] at here
  have own : row ∈ index.rowsOf row.key := List.mem_filter.mpr ⟨mem, by simp⟩
  by_cases log : row.key.artifactId = none
  · exact ⟨(here.1 log).windows row own, fun artifact => absurd log artifact⟩
  · refine ⟨(here.2 log).windows row own, fun _ missing => ?_⟩
    have empty := (here.2 log).received missing
    rw [empty] at own
    cases own

/-- Every candidate can be read as it was indexed. -/
theorem readable_of_originals (kept : AllKept lib.utf8 contents index)
    (originals : Originals lib.utf8 client contents index) {after : ℕ}
    (mem : found ∈ index.candidates proposed selection after) :
    Readable lib.utf8 client contents found := by
  obtain ⟨entry, at_entry, picked⟩ := List.mem_filterMap.mp mem
  obtain ⟨_, _, _, _, known, _, same⟩ := candidate_eq_some picked
  have stored : entry.1 ∈ index.frames := List.fst_mem_of_mem_zipIdx at_entry
  rw [← same] at known stored
  obtain ⟨windowed, received⟩ := kept.windowed stored known
  obtain ⟨text, window, _⟩ := windowed.holds_text
  exact ⟨originalBytes_eq originals known windowed received _, windowed.bytes.symm,
    text, decodeText_eq_some_iff.mpr window⟩

/-- What a candidate's hit says is so. -/
theorem hitOf_sound (kept : AllKept lib.utf8 contents index) {after : ℕ} {hit : SearchHit}
    (mem : found ∈ index.candidates proposed selection after)
    (made : hitOf contents query found = some hit) :
    hit.row = found.2.1 ∧ Occurs query (contents hit.row.key) hit.matchStart ∧
      hit.matchEnd = hit.matchStart + (encode query).length ∧
        hit.row.holds hit.matchEnd = true := by
  obtain ⟨entry, at_entry, picked⟩ := List.mem_filterMap.mp mem
  obtain ⟨_, _, _, _, known, _, same⟩ := candidate_eq_some picked
  have stored : entry.1 ∈ index.frames := List.fst_mem_of_mem_zipIdx at_entry
  rw [← same] at known stored
  obtain ⟨windowed, _⟩ := kept.windowed stored known
  unfold hitOf at made
  split at made
  · rename_i text decoded
    obtain ⟨row, occurs, ends, holds⟩ :=
      rowHit_eq_some windowed (decodeText_eq_some_iff.mp decoded) made
    rw [row]
    exact ⟨rfl, occurs, ends, holds⟩
  · cases made

/-- A candidate in which an occurrence ends has a hit. -/
theorem hitOf_complete {s : SourceStatus} {rowid : ℕ}
    (windowed : row.Windowed lib.utf8 (contents row.key)) (some_query : query ≠ [])
    (short : query.length ≤ 256) {position : ℕ} (occurs : Occurs query (contents row.key) position)
    (held : row.holds (position + (encode query).length) = true) :
    ∃ hit, hitOf contents query (rowid, row, s) = some hit := by
  obtain ⟨text, window, begins⟩ := windowed.holds_text
  have decoded := decodeText_eq_some_iff.mpr window
  cases made : rowHit query text row s with
  | some hit =>
    refine ⟨hit, ?_⟩
    rw [hitOf]
    dsimp only
    rw [decoded]
    exact made
  | none =>
    have misses := rowHit_eq_none some_query short
      (fun position occurs => begins query position some_query occurs) made occurs
    rw [held] at misses
    cases misses

/-- In whatever way the sources are split into frames and chunks, a search that is paged to its end
reports the frames in which its text ends, each occurrence ends in one frame, and a hit tells where
an occurrence stands. -/
theorem search_attributes (kept : AllKept lib.utf8 contents index)
    (originals : Originals lib.utf8 client contents index) (asks : Asks query limit)
    (proposes : ∀ row ∈ index.frames, ∀ text,
      decodeText (slice (contents row.key) row.windowStart row.windowEnd) = some text →
        query <:+: text → propose query row = true) :
    ∃ hits, index.searchAll lib.utf8 client propose selection query limit
        (index.frames.length + 1) 0 = some (.ok hits) ∧
      (∀ row ∈ index.frames, (∃ hit ∈ hits, hit.row = row) ↔ selection.selects index row ∧
        ∃ position, Occurs query (contents row.key) position ∧
          row.holds (position + (encode query).length) = true) ∧
      (∀ key s, index.status key = some s → ∀ position, Occurs query (contents key) position →
        position + (encode query).length ≤ s.rawEnd →
          ∃ row, (index.rowsOf key).filter (·.holds (position + (encode query).length)) = [row]) ∧
      ∀ hit ∈ hits, Occurs query (contents hit.row.key) hit.matchStart ∧
        hit.matchEnd = hit.matchStart + (encode query).length ∧
          hit.row.holds hit.matchEnd = true := by
  have some_query : query ≠ [] := by
    rintro rfl
    have long : 3 ≤ 0 := asks.long
    omega
  have enough : (index.candidates (propose query) selection 0).length <
      index.frames.length + 1 := by
    have fewer := List.length_filterMap_le (index.candidate (propose query) selection 0)
      (index.frames.zipIdx 1)
    rw [List.length_zipIdx] at fewer
    exact Nat.lt_succ_of_le fewer
  have ran := searchAll_eq asks (fun found mem => readable_of_originals kept originals mem) enough
  refine ⟨_, ran, ?_, ?_, ?_⟩
  · intro row mem
    constructor
    · rintro ⟨hit, among, rfl⟩
      obtain ⟨found, candidate, made⟩ := List.mem_filterMap.mp among
      obtain ⟨same, occurs, ends, holds⟩ := hitOf_sound kept candidate made
      obtain ⟨entry, at_entry, picked⟩ := List.mem_filterMap.mp candidate
      obtain ⟨_, _, captured, picks, known, _, row⟩ := candidate_eq_some picked
      rw [← row, ← same] at captured known
      exact ⟨⟨captured, _, known, picks⟩, hit.matchStart, occurs, by rw [← ends]; exact holds⟩
    · rintro ⟨⟨captured, s, known, picks⟩, position, occurs, held⟩
      obtain ⟨windowed, _⟩ := kept.windowed mem known
      obtain ⟨i, here⟩ := List.mem_iff_getElem?.mp mem
      have at_entry : (row, 1 + i) ∈ index.frames.zipIdx 1 :=
        List.mk_add_mem_zipIdx_iff_getElem?.mpr here
      have told : propose query row = true := by
        obtain ⟨text, window, begins⟩ := windowed.holds_text
        have inside := held
        simp only [FrameRow.holds, Bool.and_eq_true, decide_eq_true_eq] at inside
        obtain ⟨before, after, whole, _⟩ := begins query position some_query occurs
          (bodyStart_le asks.short held) inside.2
        exact proposes row mem text (decodeText_eq_some_iff.mpr window)
          ⟨before, after, by rw [whole, List.append_assoc]⟩
      have candidate : (1 + i, row, s) ∈ index.candidates (propose query) selection 0 := by
        refine List.mem_filterMap.mpr ⟨(row, 1 + i), at_entry, ?_⟩
        rw [EvidenceIndex.candidate, known]
        dsimp only
        rw [if_pos]
        simp [told, captured, picks]
      obtain ⟨hit, made⟩ := @hitOf_complete lib row query contents s (1 + i) windowed some_query
        asks.short position occurs held
      exact ⟨hit, List.mem_filterMap.mpr ⟨_, candidate, made⟩, (hitOf_sound kept candidate made).1⟩
  · intro key s known position occurs inside
    have here := kept key
    rw [known] at here
    have size : 0 < (encode query).length := by
      obtain ⟨byte, rest, bytes, _⟩ := trail_free some_query
      rw [bytes]
      exact Nat.succ_pos _
    by_cases log : key.artifactId = none
    · exact (here.1 log).linked.one_holds (by dsimp only; omega) inside
    · exact (here.2 log).linked.one_holds (by dsimp only; omega) inside
  · intro hit among
    obtain ⟨found, candidate, made⟩ := List.mem_filterMap.mp among
    exact (hitOf_sound kept candidate made).2

/-! ### A character in two frames -/

def cutBytes : List UInt8 := [0x61, 0x62, 0xC3, 0xA9, 0x0A]

def cutParts : List (List UInt8) := [[0x61, 0x62, 0xC3], [0xA9, 0x0A]]

def cutText : List Char := ['a', 'b', Char.ofNat 0xE9]

def cutLibrary : IndexLibrary where
  fromisoformat _ := .ok true
  dumpsLength _ := 256
  keptBack _ := .ok 0
  sha256 body :=
    if body = cutBytes then "84265d28c3feeb44fb8bb6524401e928819fb9d4c72a9606dc727234094226c5"
    else if body = cutBytes.take 2 then
      "fb8e20fc2e4c3f248c60c39bd652f3c1347298bb977b8b4d5903b85055620603"
    else "e3b0c44298fc1c149afbf4c8996fb92427ae41e4649b934ca495991b7852b855"

def cutPage : Dict :=
  [("durability", .str "confirmed"), ("at_available_end", .bool true),
    ("frames", .arr [frameOf 0 3 0 1 .null, frameOf 3 5 1 2 .null]),
    ("next_after_frame", .num (.int 1)), ("outcome", .null)]

def cutSources : List (Ingestion Unit) :=
  [(Ingestion.sync cutLibrary.utf8 "e" none none 1).bind fun _ => .ret (),
    (Ingestion.syncArtifact "e" "a" none none).bind fun _ => .ret ()]

def cutContents : Contents := fun _ => cutBytes

def cutRead : IndexWorld :=
  (World.boot {} cutContents cutSources).play (ingestion cutLibrary.utf8)
    (serve cutLibrary cutPage cutParts)
    (List.replicate 20 (.step 0) ++ List.replicate 20 (.step 1))

def cutClient : Client where
  log executionId :=
    { provenance := fun _ _ => .error .unavailable
      raw := fun _ start stop =>
        .ok ⟨executionId, start, stop, "confirmed", slice cutBytes start stop⟩ }
  artifact := replyOf cutLibrary cutParts

theorem cutSources_known : ∀ op ∈ cutSources, IndexOp cutLibrary.utf8 op := by
  simp only [cutSources, List.mem_cons, List.not_mem_nil, or_false]
  rintro op (rfl | rfl)
  · exact .sync ..
  · exact .syncArtifact ..

set_option maxRecDepth 100000 in
theorem cutRead_kept : AllKept cutLibrary.utf8 cutContents cutRead.shared.store := by
  have passes : (World.boot {} cutContents cutSources).passes (ingestion cutLibrary.utf8)
      (serve cutLibrary cutPage cutParts) goesOn
      (List.replicate 20 (.step 0) ++ List.replicate 20 (.step 1)) := by decide +kernel
  have first : Reachable (ingestion cutLibrary.utf8) (fun s ev => goesOn s ev)
      (World.boot {} cutContents cutSources) :=
    World.boot_reachable rfl cutSources cutSources_known
  have env : cutRead.shared.env = cutContents := rfl
  rw [← env]
  exact reachable_allKept
    (World.passes_reachable (serve_sound cutPage cutParts) _ first passes)

set_option maxRecDepth 100000 in
theorem cutClient_originals :
    Originals cutLibrary.utf8 cutClient cutContents cutRead.shared.store where
  log executionId n start stop _ := rfl
  artifact s receipt mem received artifact := by
    have all : ∀ s ∈ cutRead.shared.store.sources, ∀ receipt ∈ s.receipt,
        (cutClient.artifact s.key).receipt = .ok receipt := by decide +kernel
    have told := all s mem receipt received
    cases told
    exact ⟨rfl, rfl, rfl, cutParts, rfl, rfl, by decide⟩

set_option maxRecDepth 100000 in
/-- The last character of the text is begun in one frame and completed in the next, which is the one
that is reported. -/
theorem cut_character_reported : ∃ hits,
    cutRead.shared.store.searchAll cutLibrary.utf8 cutClient (fun _ _ => true) {} cutText 1
      (cutRead.shared.store.frames.length + 1) 0 = some (.ok hits) ∧
      ∀ row ∈ cutRead.shared.store.frames, (∃ hit ∈ hits, hit.row = row) ↔ row.rawEnd = 5 := by
  have asks : Asks cutText 1 := ⟨by decide, by decide, by decide, le_rfl, by decide⟩
  obtain ⟨hits, ran, reported, _⟩ := @search_attributes cutLibrary cutText cutClient cutContents
    cutRead.shared.store {} (fun _ _ => true) 1 cutRead_kept cutClient_originals asks
    (fun _ _ _ _ _ => rfl)
  refine ⟨hits, ran, fun row mem => (reported row mem).trans ?_⟩
  have cuts : ∀ row ∈ cutRead.shared.store.frames, row.rawEnd = 3 ∨ row.rawEnd = 5 ∧
      row.rawStart = 3 ∧ (cutRead.shared.store.status row.key).isSome = true := by decide +kernel
  have size : (encode cutText).length = 4 := by decide +kernel
  rw [size]
  constructor
  · rintro ⟨_, position, _, held⟩
    simp only [FrameRow.holds, Bool.and_eq_true, decide_eq_true_eq] at held
    rcases cuts row mem with three | ⟨five, _⟩
    · omega
    · exact five
  · intro five
    rcases cuts row mem with three | ⟨_, three, known⟩
    · omega
    · obtain ⟨s, known⟩ := Option.isSome_iff_exists.mp known
      refine ⟨⟨rfl, s, known, rfl⟩, 0, ?_, ?_⟩
      · show encode cutText <+: cutBytes.drop 0
        decide +kernel
      · simp [FrameRow.holds, three, five]

end SightMesh.Native
