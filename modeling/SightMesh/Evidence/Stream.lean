import SightMesh.Framing.Lines
import SightMesh.Python.Value

/-! `evidence_stream`: the pages of a native log as they are checked, and the reader of its records.
The serving side is arbitrary; what it answers to the n-th call may depend on anything. -/
namespace SightMesh.Native

open Python Framing

/-! ### Pages -/

/-- The exceptions the readers of a log catch, by the name of their class. -/
inductive Fault where
  | unavailable
  | key
  | type
  | value
  | other (name : String)
  deriving DecidableEq

def Fault.name : Fault → String
  | unavailable => "EvidenceUnavailable"
  | key => "KeyError"
  | type => "TypeError"
  | value => "ValueError"
  | other name => name

/-- The classes outside of those the readers catch, of `json`, `http.client` and `sqlite3`. -/
def escaping : List String :=
  ["RecursionError", "MemoryError", "AssertionError", "IntegrityError", "HTTPException",
    "BadStatusLine", "IncompleteRead", "LineTooLong", "UnknownProtocol", "InvalidURL"]

def Fault.escapes (fault : Fault) : Bool := fault.name ∈ escaping

inductive CaptureOutcome where
  | complete
  | unavailable
  | legacyUnknown
  deriving DecidableEq

def CaptureOutcome.ofText : String → Option CaptureOutcome
  | "complete" => some .complete
  | "unavailable" => some .unavailable
  | "legacy_unknown" => some .legacyUnknown
  | _ => none

structure PageLibrary where
  /-- `datetime.fromisoformat`, and whether the date has a timezone. -/
  fromisoformat : String → Except Fault Bool
  /-- The length of `json.dumps` in bytes. -/
  dumpsLength : Json → ℕ

def maxFrameBytes : ℕ := 64 * 1024

def maxPageFrames : ℕ := 128

def maxRecordBytes : ℕ := 1024 * 1024

def require (condition : Bool) : Except Fault Unit :=
  if condition then .ok () else .error .unavailable

def item (d : Dict) (key : String) : Except Fault Json :=
  match d.lookup key with
  | some value => .ok value
  | none => .error .key

def subscript (value : Json) (key : String) : Except Fault Json :=
  match value with
  | .obj d => item d key
  | _ => .error .type

def integer : Json → Except Fault ℕ
  | .num (.int n) => if 0 ≤ n ∧ n ≤ 2 ^ 63 - 1 then .ok n.toNat else .error .unavailable
  | _ => .error .unavailable

def keysAre (names : List String) (d : Dict) : Bool :=
  d.all (fun field => names.contains field.1) && names.all (Dict.has d)

/-- `hash(value)` raises. -/
def unhashable : Json → Bool
  | .arr _ => true
  | .obj _ => true
  | _ => false

def isRange : Json → Except Fault Bool
  | .obj d => .ok (keysAre ["start", "end"] d)
  | .arr items =>
    if items.any unhashable then .error .type
    else .ok (items.all (fun i => i.isText "start" || i.isText "end") &&
      items.any (·.isText "start") && items.any (·.isText "end"))
  | .str _ => .ok false
  | _ => .error .type

/-- `timestamp`, of which only the refusals are used here. -/
def timestamp (lib : PageLibrary) : Json → Except Fault Unit
  | .null => .ok ()
  | .str text => do
    let zoned ← lib.fromisoformat text
    require zoned
  | _ => .error .unavailable

/-- `value not in {None, "complete", "unavailable", "legacy_unknown"}`. -/
def captureOutcome : Json → Except Fault (Option CaptureOutcome)
  | .null => .ok none
  | .str text =>
    match CaptureOutcome.ofText text with
    | some outcome => .ok (some outcome)
    | none => .error .unavailable
  | .arr _ => .error .type
  | .obj _ => .error .type
  | _ => .error .unavailable

def sqlInteger : Json → Except Fault Unit
  | .num (.int n) => require (-(2 ^ 63) ≤ n && n < 2 ^ 63)
  | _ => .error .unavailable

def legacyRow : Json → Except Fault Unit
  | .null => .ok ()
  | .obj row => do
    require (keysAre ["row_id", "inserted_at", "reported_byte_size", "original_bytes"] row)
    require (match Dict.get row "inserted_at" with | .str _ => true | _ => false)
    sqlInteger (Dict.get row "row_id")
    sqlInteger (Dict.get row "reported_byte_size")
    let _ ← integer (Dict.get row "original_bytes")
  | _ => .error .unavailable

structure Position where
  rawEnd : ℕ := 0
  compressedEnd : ℕ := 0
  afterFrame : Option ℕ := none
  outcome : Option CaptureOutcome := none
  deriving DecidableEq

/-- What the readers use of a frame. -/
structure Frame where
  rawStart : ℕ
  rawEnd : ℕ
  compressedStart : ℕ
  compressedEnd : ℕ
  outcome : Option CaptureOutcome
  deriving DecidableEq

def Frame.position (frame : Frame) : Position where
  rawEnd := frame.rawEnd
  compressedEnd := frame.compressedEnd
  afterFrame := some frame.compressedStart
  outcome := frame.outcome

def Frame.follows (frame : Frame) (state : Position) : Bool :=
  state.outcome.isNone && frame.rawStart = state.rawEnd && frame.rawStart ≤ frame.rawEnd &&
    frame.rawEnd ≤ frame.rawStart + maxFrameBytes && frame.compressedStart = state.compressedEnd &&
    frame.compressedStart < frame.compressedEnd

def boolean : Json → Except Fault Bool
  | .bool b => .ok b
  | _ => .error .unavailable

def frameFields : List String :=
  ["raw_range", "compressed_range", "captured_at", "control", "outcome", "legacy_sql_row"]

def dict : Json → Except Fault Dict
  | .obj d => .ok d
  | _ => .error .unavailable

/-- The two ranges of a frame, which go on from the position. -/
def frameRange (state : Position) (d : Dict) : Except Fault Frame := do
  let raw := Dict.get d "raw_range"
  let compressed := Dict.get d "compressed_range"
  let rawKeys ← isRange raw
  require rawKeys
  let compressedKeys ← isRange compressed
  require compressedKeys
  let start ← subscript raw "start" >>= integer
  let stop ← subscript raw "end" >>= integer
  let first ← subscript compressed "start" >>= integer
  let last ← subscript compressed "end" >>= integer
  let range : Frame := ⟨start, stop, first, last, none⟩
  require (range.follows state)
  .ok range

def validateFrame (lib : PageLibrary) (state : Position) (value : Json) : Except Fault Frame := do
  let d ← dict value
  require (keysAre frameFields d)
  let range ← frameRange state d
  let control ← boolean (Dict.get d "control")
  let outcome ← captureOutcome (Dict.get d "outcome")
  timestamp lib (Dict.get d "captured_at")
  legacyRow (Dict.get d "legacy_sql_row")
  require (outcome.isNone || (control && range.rawStart = range.rawEnd))
  require (lib.dumpsLength value ≤ 8192)
  .ok { range with outcome }

def validateFrames (lib : PageLibrary) (state : Position) : List Json → Except Fault (List Frame)
  | [] => .ok []
  | value :: rest => do
    let frame ← validateFrame lib state value
    let frames ← validateFrames lib frame.position rest
    .ok (frame :: frames)

def Position.behind (state : Position) (frames : List Frame) : Position :=
  frames.foldl (fun _ frame => frame.position) state

def array : Json → Except Fault (List Json)
  | .arr values => .ok values
  | _ => .error .unavailable

def cursorIs (cursor : Option ℕ) : Json → Except Fault Bool
  | .null => .ok cursor.isNone
  | value => do
    let next ← integer value
    .ok (cursor = some next)

def outcomeIs (outcome : Option CaptureOutcome) : Json → Bool
  | .null => outcome.isNone
  | .str text => outcome.isSome && CaptureOutcome.ofText text = outcome
  | _ => false

structure Page where
  frames : List Frame
  atAvailableEnd : Bool
  deriving DecidableEq

def validatePage (lib : PageLibrary) (page : Dict) (state : Position) : Except Fault Page := do
  let durability ← item page "durability"
  require (durability.isText "confirmed")
  let atAvailableEnd ← item page "at_available_end" >>= boolean
  let values ← item page "frames" >>= array
  require (values.length ≤ maxPageFrames)
  let frames ← validateFrames lib state values
  let behind := state.behind frames
  let next ← item page "next_after_frame"
  let cursor ← cursorIs behind.afterFrame next
  require cursor
  let outcome ← item page "outcome"
  require (outcomeIs behind.outcome outcome)
  require (atAvailableEnd || (!frames.isEmpty && behind.outcome.isNone))
  .ok ⟨frames, atAvailableEnd⟩

/-! ### What an accepted page is -/

/-- Each frame goes on from the one before it. -/
def Chain (state : Position) : List Frame → Prop
  | [] => True
  | frame :: rest => frame.follows state = true ∧ Chain frame.position rest

theorem bind_eq_ok {α β : Type} {x : Except Fault α} {f : α → Except Fault β} {b : β}
    (ok : (x >>= f) = .ok b) : ∃ a, x = .ok a ∧ f a = .ok b := by
  cases x with
  | ok a => exact ⟨a, rfl, ok⟩
  | error fault => exact nomatch ok

theorem require_eq_ok {condition : Bool} {u : Unit} (ok : require condition = .ok u) :
    condition = true := by
  cases condition with
  | true => rfl
  | false => exact nomatch ok

theorem frameRange_follows {state : Position} {d : Dict} {frame : Frame}
    (valid : frameRange state d = .ok frame) :
    frame.follows state = true := by
  rw [frameRange] at valid
  obtain ⟨_, _, valid⟩ := bind_eq_ok valid
  obtain ⟨_, _, valid⟩ := bind_eq_ok valid
  obtain ⟨_, _, valid⟩ := bind_eq_ok valid
  obtain ⟨_, _, valid⟩ := bind_eq_ok valid
  obtain ⟨start, _, valid⟩ := bind_eq_ok valid
  obtain ⟨stop, _, valid⟩ := bind_eq_ok valid
  obtain ⟨first, _, valid⟩ := bind_eq_ok valid
  obtain ⟨last, _, valid⟩ := bind_eq_ok valid
  obtain ⟨_, follows, valid⟩ := bind_eq_ok valid
  cases valid
  exact require_eq_ok follows

theorem validateFrame_follows {lib : PageLibrary} {state : Position} {value : Json} {frame : Frame}
    (valid : validateFrame lib state value = .ok frame) : frame.follows state = true := by
  rw [validateFrame] at valid
  obtain ⟨_, _, valid⟩ := bind_eq_ok valid
  obtain ⟨_, _, valid⟩ := bind_eq_ok valid
  obtain ⟨range, ranged, valid⟩ := bind_eq_ok valid
  obtain ⟨_, _, valid⟩ := bind_eq_ok valid
  obtain ⟨_, _, valid⟩ := bind_eq_ok valid
  obtain ⟨_, _, valid⟩ := bind_eq_ok valid
  obtain ⟨_, _, valid⟩ := bind_eq_ok valid
  obtain ⟨_, _, valid⟩ := bind_eq_ok valid
  obtain ⟨_, _, valid⟩ := bind_eq_ok valid
  cases valid
  have follows := frameRange_follows ranged
  exact follows

theorem chain_of_validateFrames {lib : PageLibrary} {values : List Json} {state : Position}
    {frames : List Frame} (valid : validateFrames lib state values = .ok frames) :
    Chain state frames := by
  induction values generalizing state frames with
  | nil =>
    cases valid
    trivial
  | cons value rest ih =>
    rw [validateFrames] at valid
    obtain ⟨frame, here, valid⟩ := bind_eq_ok valid
    obtain ⟨frames', later, valid⟩ := bind_eq_ok valid
    cases valid
    exact ⟨validateFrame_follows here, ih later⟩

/-- What is known of a page that was accepted. -/
theorem validatePage_spec {lib : PageLibrary} {state : Position} {d : Dict} {page : Page}
    (valid : validatePage lib d state = .ok page) :
    Chain state page.frames ∧
      (page.atAvailableEnd = false →
        page.frames ≠ [] ∧ (state.behind page.frames).outcome = none) := by
  rw [validatePage] at valid
  obtain ⟨_, _, valid⟩ := bind_eq_ok valid
  obtain ⟨_, _, valid⟩ := bind_eq_ok valid
  obtain ⟨atAvailableEnd, _, valid⟩ := bind_eq_ok valid
  obtain ⟨values, _, valid⟩ := bind_eq_ok valid
  obtain ⟨_, _, valid⟩ := bind_eq_ok valid
  obtain ⟨frames, framed, valid⟩ := bind_eq_ok valid
  obtain ⟨_, _, valid⟩ := bind_eq_ok valid
  obtain ⟨_, _, valid⟩ := bind_eq_ok valid
  obtain ⟨_, _, valid⟩ := bind_eq_ok valid
  obtain ⟨_, _, valid⟩ := bind_eq_ok valid
  obtain ⟨_, _, valid⟩ := bind_eq_ok valid
  obtain ⟨_, advances, valid⟩ := bind_eq_ok valid
  cases valid
  refine ⟨chain_of_validateFrames framed, fun more => ?_⟩
  dsimp only at more
  have advances := require_eq_ok advances
  rw [more, Bool.false_or, Bool.and_eq_true] at advances
  simpa using advances

/-- A frame goes forward, and in the compressed log it goes on. -/
theorem Frame.follows_spec {frame : Frame} {state : Position} (follows : frame.follows state = true) :
    state.outcome = none ∧ frame.rawStart = state.rawEnd ∧ frame.rawStart ≤ frame.rawEnd ∧
      frame.compressedStart = state.compressedEnd ∧
      frame.compressedStart < frame.compressedEnd := by
  simp only [Frame.follows, Bool.and_eq_true, decide_eq_true_iff, Option.isNone_iff_eq_none] at follows
  obtain ⟨⟨⟨⟨⟨none, start⟩, forward⟩, _⟩, first⟩, last⟩ := follows
  exact ⟨none, start, forward, first, last⟩

@[simp] theorem Position.behind_nil (state : Position) : state.behind [] = state := rfl

@[simp] theorem Position.behind_cons (state : Position) (frame : Frame) (frames : List Frame) :
    state.behind (frame :: frames) = frame.position.behind frames := rfl

/-- Frames go forward, and all of them stay below the end of the last. -/
theorem Chain.rawEnd_le {frames : List Frame} {state : Position} (chain : Chain state frames) :
    state.rawEnd ≤ (state.behind frames).rawEnd ∧
      ∀ frame ∈ frames, frame.rawEnd ≤ (state.behind frames).rawEnd := by
  induction frames generalizing state with
  | nil => exact ⟨le_rfl, fun _ mem => nomatch mem⟩
  | cons frame rest ih =>
    obtain ⟨_, start, forward, _, _⟩ := Frame.follows_spec chain.1
    have later := ih chain.2
    rw [Position.behind_cons]
    refine ⟨?_, List.forall_mem_cons.mpr ⟨later.1, later.2⟩⟩
    calc state.rawEnd = frame.rawStart := start.symm
      _ ≤ frame.rawEnd := forward
      _ ≤ (frame.position.behind rest).rawEnd := later.1

/-- Every frame takes at least a byte of the compressed log. -/
theorem Chain.compressedEnd_add_le {frames : List Frame} {state : Position}
    (chain : Chain state frames) :
    state.compressedEnd + frames.length ≤ (state.behind frames).compressedEnd := by
  induction frames generalizing state with
  | nil => exact le_rfl
  | cons frame rest ih =>
    obtain ⟨_, _, _, first, last⟩ := Frame.follows_spec chain.1
    have later := ih chain.2
    have step : frame.position.compressedEnd = frame.compressedEnd := rfl
    rw [Position.behind_cons, List.length_cons]
    omega

/-! ### Ranges -/

def slice (log : List UInt8) (start stop : ℕ) : List UInt8 := (log.drop start).take (stop - start)

structure RawRange where
  sourceId : String
  start : ℕ
  stop : ℕ
  durability : String
  body : List UInt8
  deriving DecidableEq

/-- What the serving side answers to the n-th request of a page, and to a request of a range of
that page. -/
structure Server where
  provenance : ℕ → Option ℕ → Except Fault Dict
  raw : ℕ → ℕ → ℕ → Except Fault RawRange

def confirmedRange (server : Server) (executionId : String) (n start stop : ℕ) :
    Except Fault (List UInt8) := do
  let result ← server.raw n start stop
  require (result.sourceId = executionId && result.start = start && result.stop = stop &&
    result.body.length = stop - start && result.durability = "confirmed")
  .ok result.body

/-! ### Records -/

abbrev Decode := List UInt8 → Except Fault Json

def record (decode : Decode) (body : List UInt8) : Except Fault Json := do
  let value ← decode body
  match value with
  | .obj _ => .ok value
  | .str text => if text = "Ready" ∨ text = "Finished" then .ok value else .error .unavailable
  | _ => .error .unavailable

/-- Why a reader stopped: the `error` it keeps, or an exception that left it. -/
inductive Ending where
  | error (name : String)
  | raised (fault : Fault)
  deriving DecidableEq

/-- `NativeRecords`: its fields, what it has yielded, and the record it is in the middle of. Once it
has an ending it has stopped. -/
structure Records extends Position where
  atAvailableEnd : Bool := false
  ended : Option Ending := none
  yielded : List Json := []
  pending : List UInt8 := []

def Records.error (r : Records) : Option String :=
  match r.ended with
  | some (.error name) => some name
  | _ => none

def Records.raised (r : Records) : Option Fault :=
  match r.ended with
  | some (.raised fault) => some fault
  | _ => none

theorem Records.ended_eq_none_iff {r : Records} :
    r.ended = none ↔ r.error = none ∧ r.raised = none := by
  rw [Records.error, Records.raised]
  cases r.ended with
  | none => simp
  | some ending => cases ending <;> simp

def Fault.ending (fault : Fault) : Ending :=
  if fault.escapes then .raised fault else .error fault.name

def Records.raise (r : Records) (fault : Fault) : Records := { r with ended := some fault.ending }

def Records.yield (r : Records) (decode : Decode) (body : List UInt8) : Records :=
  match record decode body with
  | .ok value => { r with yielded := r.yielded ++ [value] }
  | .error fault => r.raise fault

def splitLines : List UInt8 → List (List UInt8)
  | [] => []
  | 13 :: 10 :: rest => [13, 10] :: splitLines rest
  | c :: rest =>
    if c = 10 ∨ c = 13 then [c] :: splitLines rest
    else
      match splitLines rest with
      | [] => [[c]]
      | line :: more => (c :: line) :: more

def frameBytes (server : Server) (executionId : String) (n : ℕ) (frame : Frame) :
    Except Fault (List UInt8) :=
  if frame.rawStart < frame.rawEnd then
    confirmedRange server executionId n frame.rawStart frame.rawEnd
  else .ok []

def Records.readPart (decode : Decode) (r : Records) (part : List UInt8) : Records :=
  if r.ended.isSome then r
  else if maxRecordBytes < r.pending.length + part.length then r.raise .unavailable
  else
    let body := r.pending ++ part
    if part.getLast? = some 10 then
      let r := r.yield decode body
      if r.ended.isSome then r else { r with pending := [] }
    else { r with pending := body }

def Records.readFrame (decode : Decode) (server : Server) (executionId : String) (n : ℕ)
    (r : Records) (frame : Frame) : Records :=
  if r.ended.isSome then r
  else
    match frameBytes server executionId n frame with
    | .error fault => r.raise fault
    | .ok chunk =>
      let r := (splitLines chunk).foldl (Records.readPart decode) r
      if r.ended.isSome then r else { r with toPosition := frame.position }

/-- What follows the last page. -/
def Records.finish (decode : Decode) (r : Records) : Records :=
  if r.pending.isEmpty then r
  else if r.outcome.isSome then
    let r := r.yield decode r.pending
    if r.ended.isSome then r else { r with pending := [] }
  else { r with ended := some (.error "partial_jsonl_record") }

/-- The loop over the pages, with what is left of the budget. -/
def Records.readPages (lib : PageLibrary) (decode : Decode) (server : Server)
    (executionId : String) (r : Records) (n : ℕ) : ℕ → Records
  | 0 => { r with ended := some (.error "page_budget_exhausted") }
  | budget + 1 =>
    match server.provenance n r.afterFrame >>= (validatePage lib · r.toPosition) with
    | .error fault => r.raise fault
    | .ok page =>
      let r := page.frames.foldl (Records.readFrame decode server executionId n) r
      if r.ended.isSome then r
      else
        let r := { r with atAvailableEnd := page.atAvailableEnd }
        if r.atAvailableEnd then r.finish decode
        else readPages lib decode server executionId r (n + 1) budget

def nativeRecords (lib : PageLibrary) (decode : Decode) (server : Server) (executionId : String)
    (maxPages : ℕ) : Except Fault Records :=
  if 1 ≤ maxPages ∧ maxPages ≤ 4096 then
    .ok (Records.readPages lib decode server executionId {} 0 maxPages)
  else .error .value

end SightMesh.Native
