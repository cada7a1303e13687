import SightMesh.Evidence.Stream

/-! The records of a native log do not depend on how it was cut into frames and pages. -/
namespace SightMesh.Native

open Python Framing

/-! ### Parts -/

theorem splitLines_flatten (body : List UInt8) : (splitLines body).flatten = body := by
  induction body using splitLines.induct with
  | case1 => rfl
  | case2 rest ih => simp [splitLines, ih]
  | case3 c rest noPair ends ih => simp [splitLines, ends, ih]
  | case4 c rest noPair inside none ih =>
    simp only [splitLines, inside, none, if_false] at ih ⊢
    simpa using ih
  | case5 c rest noPair inside line more lines ih =>
    simp only [splitLines, inside, lines, if_false] at ih ⊢
    simpa using ih

def OneLine (part : List UInt8) : Prop := ∃ q, (10 : UInt8) ∉ q ∧ (part = q ∨ part = q ++ [10])

theorem oneLine_of_mem_splitLines (body : List UInt8) : ∀ part ∈ splitLines body, OneLine part := by
  induction body using splitLines.induct with
  | case1 => exact fun _ mem => nomatch mem
  | case2 rest ih =>
    rw [splitLines, List.forall_mem_cons]
    exact ⟨⟨[13], by decide, .inr rfl⟩, ih⟩
  | case3 c rest noPair ends ih =>
    have start : OneLine [c] := by
      rcases ends with rfl | rfl
      · exact ⟨[], by decide, .inr rfl⟩
      · exact ⟨[13], by decide, .inl rfl⟩
    simp only [splitLines, ends, if_true]
    exact List.forall_mem_cons.mpr ⟨start, ih⟩
  | case4 c rest noPair inside none ih =>
    simp only [splitLines, inside, none, if_false]
    rw [not_or] at inside
    exact List.forall_mem_singleton.mpr ⟨[c], by simpa using Ne.symm inside.1, .inl rfl⟩
  | case5 c rest noPair inside line more lines ih =>
    simp only [splitLines, inside, if_false, lines] at ih ⊢
    rw [not_or] at inside
    rw [List.forall_mem_cons] at ih
    obtain ⟨⟨q, unmarked, shape⟩, others⟩ := ih
    have longer : (10 : UInt8) ∉ c :: q := by
      rw [List.mem_cons, not_or]
      exact ⟨Ne.symm inside.1, unmarked⟩
    refine List.forall_mem_cons.mpr ⟨⟨c :: q, longer, ?_⟩, others⟩
    rcases shape with rfl | rfl
    · exact .inl rfl
    · exact .inr rfl

/-! ### The machine -/

def byteRule : Rule UInt8 where
  mark := 10
  weight _ := 1
  bound := maxRecordBytes

theorem byteRule_size (bytes : List UInt8) : byteRule.size bytes = bytes.length := by
  simp [Rule.size, byteRule]

variable (decode : Decode)

/-- What was yielded, and what ended it. -/
abbrev Yield := List Json × Option Ending

def Yield.record (y : Yield) (body : List UInt8) : Yield :=
  match Native.record decode body with
  | .ok value => (y.1 ++ [value], none)
  | .error fault => (y.1, some fault.ending)

def Yield.piece (y : Yield) : Piece UInt8 → Yield
  | .line items => if y.2.isSome then y else y.record decode (items ++ [10])
  | .oversize => if y.2.isSome then y else (y.1, some Fault.unavailable.ending)

def Yield.read (now : Yield × Held UInt8) (bytes : List UInt8) : Yield × Held UInt8 :=
  byteRule.feed (Yield.piece decode) now bytes

theorem Yield.foldl_of_error {y : Yield} (stopped : y.2.isSome) (pieces : List (Piece UInt8)) :
    pieces.foldl (Yield.piece decode) y = y := by
  induction pieces with
  | nil => rfl
  | cons piece rest ih =>
    have stays : y.piece decode piece = y := by cases piece <;> exact if_pos stopped
    rw [List.foldl_cons, stays, ih]

structure Agrees (r : Records) (now : Yield × Held UInt8) : Prop where
  yielded : now.1 = (r.yielded, r.ended)
  pending : r.ended = none → now.2 = .pending r.pending
  bounded : r.pending.length ≤ maxRecordBytes

variable {decode} {r : Records} {now : Yield × Held UInt8} {part : List UInt8}

theorem Agrees.stopped (agrees : Agrees r now) (stopped : r.ended.isSome) (bytes : List UInt8) :
    Agrees r (Yield.read decode now bytes) := by
  constructor
  · rw [Yield.read, Rule.feed, Yield.foldl_of_error]
    · exact agrees.yielded
    · rw [agrees.yielded]
      exact stopped
  · intro no
    rw [no] at stopped
    cases stopped
  · exact agrees.bounded

theorem Agrees.raise (agrees : Agrees r now) (fault : Fault) {now' : Yield × Held UInt8}
    (yielded : now'.1 = (r.yielded, some fault.ending)) : Agrees (r.raise fault) now' :=
  ⟨yielded, (fun no => nomatch no), agrees.bounded⟩

theorem Agrees.part_held (agrees : Agrees r now) (going : r.ended = none)
    (unmarked : (10 : UInt8) ∉ part) (fits : r.pending.length + part.length ≤ maxRecordBytes) :
    Agrees { r with pending := r.pending ++ part } (Yield.read decode now part) := by
  have ran := byteRule.run_fits r.pending unmarked
    (by rw [byteRule_size, byteRule_size]; exact fits)
  rw [Yield.read, Rule.feed, agrees.pending going, ran]
  constructor
  · exact agrees.yielded
  · exact fun _ => rfl
  · rw [List.length_append]
    exact fits

theorem Agrees.part_line (agrees : Agrees r now) (going : r.ended = none)
    (unmarked : (10 : UInt8) ∉ part)
    (fits : r.pending.length + (part.length + 1) ≤ maxRecordBytes) :
    Yield.read decode now (part ++ [10]) =
      (Yield.record decode (r.yielded, none) (r.pending ++ (part ++ [10])), .pending []) := by
  have inside : r.pending.length + part.length ≤ maxRecordBytes := by omega
  have ran := byteRule.run_fits r.pending unmarked
    (by rw [byteRule_size, byteRule_size]; exact inside)
  have ends : byteRule.run (.pending (r.pending ++ part)) [10] =
      (.pending [], [.line (r.pending ++ part)]) := by
    apply byteRule.run_mark
    rw [byteRule_size, List.length_append]
    exact (by omega : r.pending.length + part.length + 1 ≤ maxRecordBytes)
  rw [Yield.read, Rule.feed, agrees.pending going, Rule.run_append, ran]
  simp only [ends, List.nil_append, List.foldl_cons, List.foldl_nil, agrees.yielded, going,
    Yield.piece, Option.isSome_none, Bool.false_eq_true, if_false, List.append_assoc]

theorem Agrees.part_over (agrees : Agrees r now) (going : r.ended = none) (one : OneLine part)
    (exceeded : maxRecordBytes < r.pending.length + part.length) :
    (Yield.read decode now part).1 = (r.yielded, some Fault.unavailable.ending) := by
  have held : byteRule.size r.pending ≤ byteRule.bound := by
    rw [byteRule_size]
    exact agrees.bounded
  have told (held' : Held UInt8) (pieces : List (Piece UInt8))
      (ran : byteRule.run (.pending r.pending) part = (held', .oversize :: pieces)) :
      (Yield.read decode now part).1 = (r.yielded, some Fault.unavailable.ending) := by
    rw [Yield.read, Rule.feed, agrees.pending going, ran, List.foldl_cons, Yield.foldl_of_error] <;>
      simp [Yield.piece, agrees.yielded, going]
  obtain ⟨q, unmarked, shape⟩ := one
  rcases shape with rfl | rfl
  · apply told
    apply byteRule.run_exceeds unmarked held
    rw [byteRule_size, byteRule_size]
    exact exceeded
  · by_cases exceeds : maxRecordBytes < r.pending.length + q.length
    · have ran := byteRule.run_exceeds unmarked held
        (by rw [byteRule_size, byteRule_size]; exact exceeds)
      apply told
      rw [Rule.run_append, ran]
      rfl
    · have ran := byteRule.run_fits r.pending unmarked
        (by rw [byteRule_size, byteRule_size]; exact Nat.not_lt.mp exceeds)
      have last : byteRule.run (.pending (r.pending ++ q)) [10] = (.pending [], [.oversize]) := by
        apply byteRule.run_mark_exceeds
        rw [byteRule_size, List.length_append]
        simpa [byteRule, add_assoc] using exceeded
      apply told
      rw [Rule.run_append, ran, last]
      rfl

theorem Agrees.yields (bounded : r.pending.length ≤ maxRecordBytes) (going : r.ended = none)
    (body : List UInt8) :
    Agrees
      (if (r.yield decode body).ended.isSome then r.yield decode body
        else { r.yield decode body with pending := [] })
      (Yield.record decode (r.yielded, none) body, .pending []) := by
  rw [Records.yield, Yield.record]
  cases record decode body with
  | ok value =>
    simp only [going, Option.isSome_none, Bool.false_eq_true, if_false]
    exact ⟨rfl, fun _ => rfl, Nat.zero_le _⟩
  | error fault =>
    simp only [Records.raise, Option.isSome_some, if_true]
    exact ⟨rfl, (fun no => nomatch no), bounded⟩

/-- The body of the loop over parts is the machine on the bytes of the part. -/
theorem Agrees.readPart (agrees : Agrees r now) (one : OneLine part) :
    Agrees (r.readPart decode part) (Yield.read decode now part) := by
  rw [Records.readPart]
  by_cases stopped : r.ended.isSome = true
  · rw [if_pos stopped]
    exact agrees.stopped stopped part
  · have going : r.ended = none := Option.not_isSome_iff_eq_none.mp stopped
    rw [if_neg stopped]
    by_cases exceeded : maxRecordBytes < r.pending.length + part.length
    · rw [if_pos exceeded]
      exact agrees.raise _ (agrees.part_over going one exceeded)
    · rw [if_neg exceeded]
      have fits := Nat.not_lt.mp exceeded
      obtain ⟨q, unmarked, rfl | rfl⟩ := one
      · have inside : part.getLast? ≠ some 10 := fun last => unmarked (List.mem_of_getLast? last)
        rw [if_neg inside]
        exact agrees.part_held going unmarked fits
      · rw [List.length_append] at fits
        rw [if_pos List.getLast?_concat, agrees.part_line going unmarked fits]
        exact Agrees.yields agrees.bounded going _

theorem Agrees.readParts (parts : List (List UInt8)) (agrees : Agrees r now)
    (lines : ∀ part ∈ parts, OneLine part) :
    Agrees (parts.foldl (Records.readPart decode) r) (Yield.read decode now parts.flatten) := by
  induction parts generalizing r now with
  | nil => exact agrees
  | cons part rest ih =>
    rw [List.forall_mem_cons] at lines
    rw [List.foldl_cons, List.flatten_cons, Yield.read, Rule.feed_append]
    exact ih (agrees.readPart lines.1) lines.2

/-! ### Frames and pages -/

theorem take_append_slice (log : List UInt8) {start stop : ℕ} (forward : start ≤ stop) :
    log.take start ++ slice log start stop = log.take stop := by
  rw [slice, ← List.take_add]
  congr 1
  omega

variable (decode) in
def readUpTo (log : List UInt8) (stop : ℕ) : Yield × Held UInt8 :=
  Yield.read decode (([], none), .pending []) (log.take stop)

variable (decode) in
theorem readUpTo_of_le (log : List UInt8) {start stop : ℕ} (forward : start ≤ stop) :
    readUpTo decode log stop =
      Yield.read decode (readUpTo decode log start) (slice log start stop) := by
  rw [readUpTo, readUpTo, Yield.read, Yield.read, Yield.read, ← Rule.feed_append,
    take_append_slice log forward]

variable {lib : PageLibrary} {server : Server} {executionId : String} {log : List UInt8} {n : ℕ}

/-- The serving side answers for the frame with the bytes of the log. -/
def Confirms (server : Server) (executionId : String) (log : List UInt8) (n : ℕ) (frame : Frame) :
    Prop :=
  frame.rawStart < frame.rawEnd → server.raw n frame.rawStart frame.rawEnd =
    .ok ⟨executionId, frame.rawStart, frame.rawEnd, "confirmed",
      slice log frame.rawStart frame.rawEnd⟩

theorem frameBytes_of_confirms {frame : Frame} (confirms : Confirms server executionId log n frame)
    (inside : frame.rawEnd ≤ log.length) :
    frameBytes server executionId n frame = .ok (slice log frame.rawStart frame.rawEnd) := by
  rw [frameBytes]
  by_cases some : frame.rawStart < frame.rawEnd
  · have length : (slice log frame.rawStart frame.rawEnd).length =
        frame.rawEnd - frame.rawStart := by
      rw [slice, List.length_take, List.length_drop]
      omega
    rw [if_pos some, confirmedRange, confirms some]
    simp [bind, Except.bind, require, length]
  · have empty : slice log frame.rawStart frame.rawEnd = [] := by
      rw [slice, Nat.sub_eq_zero_of_le (Nat.not_lt.mp some), List.take_zero]
    rw [if_neg some, empty]

theorem readFrame_stopped (stopped : r.ended.isSome) (frame : Frame) :
    r.readFrame decode server executionId n frame = r := if_pos stopped

theorem Agrees.readFrame {frame : Frame} (agrees : Agrees r (readUpTo decode log frame.rawStart))
    (confirms : Confirms server executionId log n frame)
    (forward : frame.rawStart ≤ frame.rawEnd) (inside : frame.rawEnd ≤ log.length) :
    Agrees (r.readFrame decode server executionId n frame) (readUpTo decode log frame.rawEnd) ∧
      ((r.readFrame decode server executionId n frame).ended = none →
        (r.readFrame decode server executionId n frame).toPosition = frame.position) := by
  rw [readUpTo_of_le decode log forward]
  by_cases stopped : r.ended.isSome = true
  · rw [readFrame_stopped stopped]
    exact ⟨agrees.stopped stopped _, fun going => absurd stopped (by simp [going])⟩
  · let parts := splitLines (slice log frame.rawStart frame.rawEnd)
    have whole : parts.flatten = slice log frame.rawStart frame.rawEnd := splitLines_flatten _
    have parts : Agrees (parts.foldl (Records.readPart decode) r)
        (Yield.read decode (readUpTo decode log frame.rawStart) parts.flatten) :=
      agrees.readParts parts (oneLine_of_mem_splitLines _)
    rw [whole] at parts
    rw [Records.readFrame, if_neg stopped, frameBytes_of_confirms confirms inside]
    dsimp only
    split
    next failed => exact ⟨parts, fun going => absurd failed (by simp [going])⟩
    next => exact ⟨⟨parts.yielded, parts.pending, parts.bounded⟩, fun _ => rfl⟩

theorem Agrees.readFrames {frames : List Frame} {state : Position}
    (agrees : Agrees r (readUpTo decode log state.rawEnd))
    (here : r.ended = none → r.toPosition = state) (chain : Chain state frames)
    (confirms : ∀ frame ∈ frames, Confirms server executionId log n frame)
    (inside : ∀ frame ∈ frames, frame.rawEnd ≤ log.length) :
    let r' := frames.foldl (Records.readFrame decode server executionId n) r
    Agrees r' (readUpTo decode log (state.behind frames).rawEnd) ∧
      (r'.ended = none → r'.toPosition = state.behind frames) := by
  induction frames generalizing r state with
  | nil => exact ⟨agrees, here⟩
  | cons frame rest ih =>
    obtain ⟨_, start, forward, _, _⟩ := Frame.follows_spec chain.1
    rw [List.forall_mem_cons] at confirms inside
    have step := Agrees.readFrame (start ▸ agrees) confirms.1 forward inside.1
    exact ih step.1 step.2 chain.2 confirms.2 inside.2

variable (lib server executionId log) in
/-- The serving side has the log and cuts it into pages that are accepted, from a position on; it
comes to the end, sealed or not, within the budget. -/
def Serves (sealed : Option CaptureOutcome) : Position → ℕ → ℕ → Prop
  | _, _, 0 => False
  | state, n, budget + 1 => ∃ page,
    (server.provenance n state.afterFrame >>= (validatePage lib · state)) = .ok page ∧
    (∀ frame ∈ page.frames, Confirms server executionId log n frame) ∧
    (if page.atAvailableEnd then
      (state.behind page.frames).rawEnd = log.length ∧ (state.behind page.frames).outcome = sealed
    else Serves sealed (state.behind page.frames) (n + 1) budget)

theorem chain_of_answer {state : Position} {page : Page}
    (answer : (server.provenance n state.afterFrame >>= (validatePage lib · state)) = .ok page) :
    Chain state page.frames := by
  obtain ⟨d, _, valid⟩ := bind_eq_ok answer
  exact (validatePage_spec valid).1

variable {sealed : Option CaptureOutcome}

theorem Serves.rawEnd_le {state : Position} {budget : ℕ}
    (serves : Serves lib server executionId log sealed state n budget) :
    state.rawEnd ≤ log.length := by
  induction budget generalizing state n with
  | zero => exact serves.elim
  | succ budget ih =>
    obtain ⟨page, answer, _, goesOn⟩ := serves
    apply le_trans (chain_of_answer answer).rawEnd_le.1
    split at goesOn
    · exact le_of_eq goesOn.1
    · exact ih goesOn

variable (decode) in
/-- What becomes of what is held where the log ends. -/
def Yield.conclude (sealed : Option CaptureOutcome) : Yield × Held UInt8 → Yield
  | (y, .pending rest) =>
    if y.2.isSome || rest.isEmpty then y
    else if sealed.isSome then y.record decode rest
    else (y.1, some (.error "partial_jsonl_record"))
  | (y, .skipping) => y

variable (decode) in
theorem Agrees.finish (agrees : Agrees r now) (going : r.ended = none) :
    ((r.finish decode).yielded, (r.finish decode).ended) =
      Yield.conclude decode r.outcome now := by
  obtain ⟨y, held⟩ := now
  have yielded : y = (r.yielded, r.ended) := agrees.yielded
  have pending : held = .pending r.pending := agrees.pending going
  subst yielded pending
  rw [Records.finish, Yield.conclude]
  by_cases empty : r.pending.isEmpty = true
  · simp only [empty, Bool.or_true, if_true]
  · simp only [going, empty, Option.isSome_none, Bool.or_self, Bool.false_eq_true,
      if_false]
    by_cases closed : r.outcome.isSome = true
    · have last : Agrees _ (Yield.record decode (r.yielded, none) r.pending, .pending []) :=
        Agrees.yields agrees.bounded going r.pending
      rw [if_pos closed, if_pos closed]
      exact last.yielded.symm
    · rw [if_neg closed, if_neg closed]

theorem Agrees.conclude (agrees : Agrees r now) (stopped : r.ended.isSome)
    (sealed : Option CaptureOutcome) : Yield.conclude decode sealed now = (r.yielded, r.ended) := by
  obtain ⟨y, held⟩ := now
  have yielded : y = (r.yielded, r.ended) := agrees.yielded
  subst yielded
  cases held with
  | pending rest => simp [Yield.conclude, stopped]
  | skipping => rfl

theorem Agrees.readPages {budget : ℕ} {state : Position}
    (agrees : Agrees r (readUpTo decode log state.rawEnd)) (here : r.toPosition = state)
    (serves : Serves lib server executionId log sealed state n budget) :
    let r' := r.readPages lib decode server executionId n budget
    (r'.yielded, r'.ended) = Yield.conclude decode sealed (readUpTo decode log log.length) := by
  induction budget generalizing r n state with
  | zero => exact serves.elim
  | succ budget ih =>
    obtain ⟨page, answer, confirms, goesOn⟩ := serves
    subst here
    have chain := chain_of_answer answer
    have inside : (r.toPosition.behind page.frames).rawEnd ≤ log.length := by
      split at goesOn
      · exact le_of_eq goesOn.1
      · exact goesOn.rawEnd_le
    have frames := agrees.readFrames (fun _ => rfl) chain confirms
      fun frame mem => le_trans (chain.rawEnd_le.2 frame mem) inside
    obtain ⟨agrees', position⟩ := frames
    rw [Records.readPages, answer]
    dsimp only
    generalize page.frames.foldl (Records.readFrame decode server executionId n) r = r'
      at agrees' position ⊢
    by_cases stopped : r'.ended.isSome = true
    · rw [if_pos stopped]
      have whole : Agrees r' (readUpTo decode log log.length) := by
        rw [readUpTo_of_le decode log inside]
        exact agrees'.stopped stopped _
      exact (whole.conclude stopped sealed).symm
    · have going := Option.not_isSome_iff_eq_none.mp stopped
      have moved := position going
      have now : Agrees { r' with atAvailableEnd := page.atAvailableEnd }
          (readUpTo decode log (r.behind page.frames).rawEnd) :=
        ⟨agrees'.yielded, agrees'.pending, agrees'.bounded⟩
      rw [if_neg stopped]
      split at goesOn
      next ends =>
        have last := now.finish decode going
        rw [goesOn.1] at last
        have closed : r'.outcome = sealed := by rw [moved, goesOn.2]
        simp only [ends, if_true, closed] at last ⊢
        exact last
      next more =>
        rw [Bool.not_eq_true] at more
        rw [more] at now
        simp only [more, if_neg Bool.false_ne_true]
        exact ih now moved goesOn

/-! ### The log and its records -/

/-- The lines of a log with their ends, and the last one without, if there is one. -/
def logLines (log : List UInt8) : List (List UInt8) :=
  (cut 10 [] log).1.map (· ++ [10]) ++ if (cut 10 [] log).2 = [] then [] else [(cut 10 [] log).2]

theorem readUpTo_length (log : List UInt8) :
    readUpTo decode log log.length =
      ((byteRule.run (.pending []) log).2.foldl (Yield.piece decode) ([], none),
        (byteRule.run (.pending []) log).1) := by
  rw [readUpTo, List.take_length]
  rfl

theorem Yield.error_of_oversize {pieces : List (Piece UInt8)} (exceeded : Piece.oversize ∈ pieces)
    (y : Yield) : (pieces.foldl (Yield.piece decode) y).2.isSome := by
  obtain ⟨before, after, rfl⟩ := List.append_of_mem exceeded
  rw [List.foldl_append, List.foldl_cons]
  have stopped : ((before.foldl (Yield.piece decode) y).piece decode .oversize).2.isSome := by
    rw [Yield.piece]
    split
    next already => exact already
    next => rfl
  rw [Yield.foldl_of_error decode stopped]
  exact stopped

/-- Without an error, every piece was a line that could be read. -/
theorem Yield.foldl_lines {lines : List (List UInt8)} {y y' : Yield} (going : y.2 = none)
    (read : (lines.map Piece.line).foldl (Yield.piece decode) y = y') (error : y'.2 = none) :
    ∃ values, y'.1 = y.1 ++ values ∧
      List.Forall₂ (fun line value => Native.record decode (line ++ [10]) = .ok value) lines
        values := by
  induction lines generalizing y with
  | nil =>
    subst read
    exact ⟨[], (List.append_nil _).symm, .nil⟩
  | cons line rest ih =>
    rw [List.map_cons, List.foldl_cons, Yield.piece, going, Option.isSome_none,
      if_neg Bool.false_ne_true, Yield.record] at read
    cases value : Native.record decode (line ++ [10]) with
    | ok value' =>
      rw [value] at read
      obtain ⟨values, same, all⟩ := ih rfl read
      exact ⟨value' :: values, by rw [same, List.append_assoc]; rfl, .cons value all⟩
    | error fault =>
      rw [value, Yield.foldl_of_error decode rfl] at read
      subst read
      exact nomatch error

/-- Lines that can be read leave no error. -/
theorem Yield.foldl_readable {lines : List (List UInt8)} {y : Yield} (going : y.2 = none)
    (reads : ∀ line ∈ lines, ∃ value, Native.record decode (line ++ [10]) = .ok value) :
    ((lines.map Piece.line).foldl (Yield.piece decode) y).2 = none := by
  induction lines generalizing y with
  | nil => exact going
  | cons line rest ih =>
    rw [List.forall_mem_cons] at reads
    obtain ⟨value, read⟩ := reads.1
    rw [List.map_cons, List.foldl_cons, Yield.piece, going, Option.isSome_none,
      if_neg Bool.false_ne_true, Yield.record, read]
    exact ih rfl reads.2

/-- Where the machine meets no error, every line fits, and it holds the rest. -/
theorem readUpTo_going (going : (readUpTo decode log log.length).1.2 = none) :
    byteRule.run (.pending []) log =
      (.pending (cut 10 [] log).2, (cut 10 [] log).1.map .line) := by
  apply byteRule.run_of_within
  by_contra exceeded
  rw [readUpTo_length] at going
  have stopped := @Yield.error_of_oversize decode _
    (byteRule.oversize_of_not_within (Nat.zero_le _) exceeded) ([], none)
  rw [going] at stopped
  exact nomatch stopped

theorem Yield.going_of_conclude {now : Yield × Held UInt8}
    (error : (Yield.conclude decode sealed now).2 = none) : now.1.2 = none := by
  obtain ⟨y, held⟩ := now
  cases going : y.2 with
  | none => rfl
  | some e =>
    cases held with
    | pending rest =>
      simp only [Yield.conclude, going, Option.isSome_some, Bool.true_or, if_true] at error
      exact nomatch error
    | skipping => exact going.symm.trans error

/-- At a sealed end without an error, what was yielded are the lines of the log. -/
theorem conclude_sealed (closed : sealed.isSome)
    (error : (Yield.conclude decode sealed (readUpTo decode log log.length)).2 = none) :
    List.Forall₂ (fun line value => Native.record decode line = .ok value) (logLines log)
      (Yield.conclude decode sealed (readUpTo decode log log.length)).1 := by
  have going := Yield.going_of_conclude error
  have ran := readUpTo_going going
  rw [readUpTo_length, ran] at going error ⊢
  dsimp only at going error ⊢
  generalize read : ((cut 10 [] log).1.map Piece.line).foldl (Yield.piece decode) ([], none) = y
    at going error ⊢
  obtain ⟨values, same, all⟩ := Yield.foldl_lines rfl read going
  rw [List.nil_append] at same
  have lines : List.Forall₂ (fun line value => Native.record decode line = .ok value)
      ((cut 10 [] log).1.map (· ++ [10])) values := List.forall₂_map_left_iff.mpr all
  rw [Yield.conclude] at error ⊢
  rw [logLines]
  by_cases ends : (cut 10 [] log).2 = []
  · simp only [ends, List.isEmpty_nil, Bool.or_true, if_true, List.append_nil, same]
    exact lines
  · have rest : (cut 10 [] log).2.isEmpty = false := by simpa using ends
    simp only [going, rest, Option.isSome_none, Bool.or_self, Bool.false_eq_true, if_false,
      if_pos closed, if_neg ends, Yield.record] at error ⊢
    cases value : Native.record decode (cut 10 [] log).2 with
    | ok value' =>
      rw [value] at error
      rw [same]
      exact List.rel_append lines (.cons value .nil)
    | error fault =>
      rw [value] at error
      exact nomatch error

variable (decode) in
/-- At an end without a seal, something left over is an error, and the one it should be where
nothing else was. -/
theorem conclude_unsealed (left : (cut 10 [] log).2 ≠ []) :
    (Yield.conclude decode none (readUpTo decode log log.length)).2 ≠ none ∧
      (byteRule.Within [] log →
        (∀ line ∈ (cut 10 [] log).1, ∃ value, Native.record decode (line ++ [10]) = .ok value) →
        (Yield.conclude decode none (readUpTo decode log log.length)).2 =
          some (.error "partial_jsonl_record")) := by
  have rest : (cut 10 [] log).2.isEmpty = false := by simpa using left
  have partialAt (going : (readUpTo decode log log.length).1.2 = none)
      (ran : byteRule.run (.pending []) log =
        (.pending (cut 10 [] log).2, (cut 10 [] log).1.map .line)) :
      (Yield.conclude decode none (readUpTo decode log log.length)).2 =
        some (.error "partial_jsonl_record") := by
    rw [readUpTo_length, ran] at going ⊢
    dsimp only at going ⊢
    rw [Yield.conclude, going, rest]
    rfl
  constructor
  · intro error
    have going := Yield.going_of_conclude error
    rw [partialAt going (readUpTo_going going)] at error
    exact nomatch error
  · intro within reads
    have ran : byteRule.run (.pending []) log =
        (.pending (cut 10 [] log).2, (cut 10 [] log).1.map .line) :=
      byteRule.run_of_within within
    apply partialAt _ ran
    rw [readUpTo_length, ran]
    exact Yield.foldl_readable rfl reads

/-- However a log is cut into frames and pages within the budget, the same records are yielded and
the same error or exception ends them; at a seal without one they are the lines of the log; and bytes
left over at an end without a seal have one, the partial record where no record before had one. -/
theorem nativeRecords_split {lib' : PageLibrary} {server' : Server} {executionId' : String}
    {maxPages maxPages' : ℕ} {r r' : Records}
    (ran : nativeRecords lib decode server executionId maxPages = .ok r)
    (ran' : nativeRecords lib' decode server' executionId' maxPages' = .ok r')
    (serves : Serves lib server executionId log sealed {} 0 maxPages)
    (serves' : Serves lib' server' executionId' log sealed {} 0 maxPages') :
    (r.yielded = r'.yielded ∧ r.error = r'.error ∧ r.raised = r'.raised) ∧
    (sealed.isSome → r.error = none → r.raised = none →
      List.Forall₂ (fun line value => Native.record decode line = .ok value) (logLines log)
        r.yielded) ∧
    (sealed = none → (cut 10 [] log).2 ≠ [] → (r.error ≠ none ∨ r.raised ≠ none) ∧
      (byteRule.Within [] log →
        (∀ line ∈ (cut 10 [] log).1, ∃ value, Native.record decode (line ++ [10]) = .ok value) →
        r.error = some "partial_jsonl_record")) := by
  have reads {lib : PageLibrary} {server : Server} {executionId : String} {maxPages : ℕ}
      {r : Records} (ran : nativeRecords lib decode server executionId maxPages = .ok r)
      (serves : Serves lib server executionId log sealed {} 0 maxPages) :
      (r.yielded, r.ended) = Yield.conclude decode sealed (readUpTo decode log log.length) := by
    rw [nativeRecords] at ran
    split at ran
    · cases ran
      have start : Agrees {} (readUpTo decode log ({} : Position).rawEnd) :=
        ⟨rfl, fun _ => rfl, Nat.zero_le _⟩
      exact start.readPages rfl serves
    · exact nomatch ran
  have here := reads ran serves
  have yielded : r.yielded = (Yield.conclude decode sealed (readUpTo decode log log.length)).1 :=
    congrArg Prod.fst here
  have ended : r.ended = (Yield.conclude decode sealed (readUpTo decode log log.length)).2 :=
    congrArg Prod.snd here
  have same : (r.yielded, r.ended) = (r'.yielded, r'.ended) := here.trans (reads ran' serves').symm
  refine ⟨⟨congrArg Prod.fst same, ?_, ?_⟩, ?_, ?_⟩
  · rw [Records.error, Records.error, (Prod.mk.inj same).2]
  · rw [Records.raised, Records.raised, (Prod.mk.inj same).2]
  · intro closed noError noRaise
    rw [yielded]
    exact conclude_sealed closed (ended ▸ Records.ended_eq_none_iff.mpr ⟨noError, noRaise⟩)
  · rintro rfl left
    obtain ⟨stopped, partialAt⟩ := conclude_unsealed decode left
    constructor
    · by_contra none_
      rw [not_or, not_not, not_not] at none_
      exact stopped (ended ▸ Records.ended_eq_none_iff.mpr none_)
    · intro within reads
      rw [Records.error, ended, partialAt within reads]

/-! ### Two cuts of a log -/

def rangeJson (start stop : ℤ) : Json :=
  .obj [("start", .num (.int start)), ("end", .num (.int stop))]

def frameJson (raw compressed outcome : Json) : Json :=
  .obj [("raw_range", raw), ("compressed_range", compressed), ("captured_at", .null),
    ("control", .bool true), ("outcome", outcome), ("legacy_sql_row", .null)]

def pageJson (frames : List Json) (next : ℤ) (outcome : Json) (atEnd : Bool) : Dict :=
  [("durability", .str "confirmed"), ("at_available_end", .bool atEnd), ("frames", .arr frames),
    ("next_after_frame", .num (.int next)), ("outcome", outcome)]

def plainLibrary : PageLibrary where
  fromisoformat _ := .ok true
  dumpsLength _ := 256

def serverOf (log : List UInt8) (page : ℕ → Dict) : Server where
  provenance n _ := .ok (page n)
  raw _ start stop := .ok ⟨"e", start, stop, "confirmed", slice log start stop⟩

def twoLines : List UInt8 := [123, 125, 13, 10, 34, 82, 101, 97, 100, 121, 34]

def decodeLines : Decode := fun body =>
  if body = [123, 125, 13, 10] then .ok (.obj [])
  else if body = [34, 82, 101, 97, 100, 121, 34] then .ok (.str "Ready")
  else .error (.other "JSONDecodeError")

def wholeServer : Server :=
  serverOf twoLines fun _ =>
    pageJson [frameJson (rangeJson 0 11) (rangeJson 0 1) .null,
      frameJson (rangeJson 11 11) (rangeJson 1 2) (.str "complete")] 1 (.str "complete") true

def cutServer : Server :=
  serverOf twoLines fun
    | 0 => pageJson [frameJson (rangeJson 0 3) (rangeJson 0 1) .null] 0 .null false
    | _ =>
      pageJson [frameJson (rangeJson 3 11) (rangeJson 1 2) .null,
        frameJson (rangeJson 11 11) (rangeJson 2 3) (.str "complete")] 2 (.str "complete") true

theorem wholeServer_serves :
    Serves plainLibrary wholeServer "e" twoLines (some .complete) {} 0 1 :=
  ⟨⟨[⟨0, 11, 0, 1, none⟩, ⟨11, 11, 1, 2, some .complete⟩], true⟩, rfl, fun _ _ _ => rfl, rfl, rfl⟩

theorem cutServer_serves :
    Serves plainLibrary cutServer "e" twoLines (some .complete) {} 0 2 :=
  ⟨⟨[⟨0, 3, 0, 1, none⟩], false⟩, rfl, fun _ _ _ => rfl,
    ⟨[⟨3, 11, 1, 2, none⟩, ⟨11, 11, 2, 3, some .complete⟩], true⟩, rfl, fun _ _ _ => rfl, rfl, rfl⟩

theorem nativeRecords_split_crlf :
    (Records.readPages plainLibrary decodeLines wholeServer "e" {} 0 1).yielded =
      (Records.readPages plainLibrary decodeLines cutServer "e" {} 0 2).yielded :=
  (nativeRecords_split (if_pos (by decide)) (if_pos (by decide)) wholeServer_serves
    cutServer_serves).1.1

def brokenLog : List UInt8 := [120, 10, 123]

def brokenServer : Server :=
  serverOf brokenLog fun _ => pageJson [frameJson (rangeJson 0 3) (rangeJson 0 1) .null] 0 .null true

/-- The error of the line stands where a partial record is left over. -/
theorem brokenLog_not_partial :
    Serves plainLibrary brokenServer "e" brokenLog none {} 0 1 ∧ (cut 10 [] brokenLog).2 = [123] ∧
      (Records.readPages plainLibrary decodeLines brokenServer "e" {} 0 1).error =
        some "JSONDecodeError" :=
  ⟨⟨⟨[⟨0, 3, 0, 1, none⟩], true⟩, rfl, fun _ _ _ => rfl, rfl, rfl⟩, rfl, rfl⟩

end SightMesh.Native
