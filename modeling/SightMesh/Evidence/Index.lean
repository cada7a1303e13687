import SightMesh.Evidence.Stream

/-! `EvidenceIndex`: the rows of a disposable index, and the calls that read them from a native
source, each as its transactions one after another. -/
namespace SightMesh.Native

open Python

/-! ### Rows -/

/-- A key of `sources`: an execution, and one of its artifacts or its log. -/
structure SourceKey where
  executionId : String
  artifactId : Option String := none
  deriving DecidableEq

structure Receipt where
  id : String
  executionId : String
  attachmentId : String
  originalPath : String
  originalName : Option String
  producerRef : Option String
  publicationKey : Option String
  capturedAt : String
  sha256 : String
  sizeBytes : ℕ
  deriving DecidableEq

/-- `SourceStatus`: a row of `sources`. -/
structure SourceStatus extends Position where
  key : SourceKey
  taskId : Option String
  repo : Option String
  atAvailableEnd : Bool := false
  error : Option String := none
  receipt : Option Receipt := none
  deriving DecidableEq

structure FrameRow where
  key : SourceKey
  frameStart : ℕ
  frameEnd : ℕ
  rawStart : ℕ
  rawEnd : ℕ
  windowStart : ℕ
  windowEnd : ℕ
  sha256 : String
  deriving DecidableEq

structure EvidenceIndex where
  sources : List SourceStatus := []
  frames : List FrameRow := []

/-- What of Python's library a window is made with. -/
structure IndexLibrary extends PageLibrary where
  /-- How many bytes an incremental UTF-8 decoder keeps back at the end, where it does not raise. -/
  keptBack : List UInt8 → Except Fault ℕ
  sha256 : List UInt8 → String

variable (lib : IndexLibrary)

def EvidenceIndex.status (index : EvidenceIndex) (key : SourceKey) : Option SourceStatus :=
  index.sources.find? (·.key = key)

def EvidenceIndex.update (index : EvidenceIndex) (key : SourceKey)
    (change : SourceStatus → SourceStatus) : EvidenceIndex :=
  { index with sources := index.sources.map fun s => if s.key = key then change s else s }

def EvidenceIndex.register (index : EvidenceIndex) (key : SourceKey) (taskId repo : Option String) :
    Except Fault EvidenceIndex :=
  match index.status key with
  | none => .ok { index with sources := index.sources ++ [{ key, taskId, repo }] }
  | some row =>
    if row.taskId = taskId ∧ row.repo = repo then .ok index else .error .unavailable

def EvidenceIndex.markUnavailable (index : EvidenceIndex) (key : SourceKey) (fault : Fault) :
    EvidenceIndex :=
  index.update key fun s => { s with error := some fault.name }

/-! ### Windows -/

def overlapBytes : ℕ := 256 * 4

def isContinuation (byte : UInt8) : Bool := byte &&& 0xC0 = 0x80

/-- `_utf8_window`: where the window starts, and its bytes. -/
def utf8Window (start : ℕ) (body : List UInt8) : Except Fault (ℕ × List UInt8) := do
  let skipped := if start = 0 then 0 else ((body.take 3).takeWhile isContinuation).length
  let kept ← lib.keptBack (body.drop skipped)
  .ok (start + skipped, (body.drop skipped).take (body.length - skipped - kept))

def indexWindow (key : SourceKey) (start : ℕ) (body : List UInt8) (frame : Frame) :
    Except Fault FrameRow := do
  let window ← utf8Window lib start body
  .ok
    { key
      frameStart := frame.compressedStart
      frameEnd := frame.compressedEnd
      rawStart := frame.rawStart
      rawEnd := frame.rawEnd
      windowStart := window.1
      windowEnd := window.1 + window.2.length
      sha256 := lib.sha256 window.2 }

/-! ### Logs -/

def frameWindow (server : Server) (executionId : String) (n : ℕ) (frame : Frame) :
    Except Fault (ℕ × List UInt8) :=
  if frame.rawStart = frame.rawEnd then .ok (frame.rawEnd, [])
  else do
    let start := frame.rawStart - overlapBytes
    let body ← confirmedRange server executionId n start frame.rawEnd
    .ok (start, body)

def SourceStatus.advance (s : SourceStatus) (frame : Frame) : SourceStatus :=
  { s with toPosition := frame.position, atAvailableEnd := false, error := none }

def EvidenceIndex.commitFrame (index : EvidenceIndex) (expected : SourceStatus) (frame : Frame)
    (start : ℕ) (body : List UInt8) : Except Fault EvidenceIndex := do
  require (index.status expected.key = some expected)
  let row ← indexWindow lib expected.key start body frame
  let index := index.update expected.key (·.advance frame)
  .ok { index with frames := index.frames ++ [row] }

variable (server : Server)

/-- The loop over the frames of a page, with the row as it was read last. What was committed stays
when a later frame raises. -/
def EvidenceIndex.syncFrames (n : ℕ) :
    EvidenceIndex → SourceStatus → List Frame → EvidenceIndex × Option Fault
  | index, _, [] => (index, none)
  | index, state, frame :: rest =>
    match frameWindow server state.key.executionId n frame with
    | .error fault => (index, some fault)
    | .ok (start, body) =>
      match index.commitFrame lib state frame start body with
      | .error fault => (index, some fault)
      | .ok index =>
        match index.status state.key with
        | some state => syncFrames n index state rest
        | none => (index, none)

def EvidenceIndex.endPage (index : EvidenceIndex) (key : SourceKey) (cursor : Option ℕ)
    (atAvailableEnd : Bool) : EvidenceIndex :=
  index.update key fun s =>
    if s.afterFrame = cursor then { s with atAvailableEnd, error := none } else s

/-- The body of the loop over pages: whether the end was reached, or what was raised. -/
def EvidenceIndex.syncPage (index : EvidenceIndex) (key : SourceKey) (n : ℕ) :
    EvidenceIndex × Except Fault Bool :=
  match index.status key with
  | none => (index, .ok true)
  | some state =>
    match server.provenance n state.afterFrame >>=
        (validatePage lib.toPageLibrary · state.toPosition) with
    | .error fault => (index, .error fault)
    | .ok page =>
      match index.syncFrames lib server n state page.frames with
      | (index, some fault) => (index, .error fault)
      | (index, none) =>
        (index.endPage key (state.toPosition.behind page.frames).afterFrame page.atAvailableEnd,
          .ok page.atAvailableEnd)

def EvidenceIndex.syncPages (key : SourceKey) : EvidenceIndex → ℕ → ℕ → EvidenceIndex
  | index, _, 0 => index
  | index, n, budget + 1 =>
    match index.syncPage lib server key n with
    | (index, .error fault) => index.markUnavailable key fault
    | (index, .ok true) => index
    | (index, .ok false) => syncPages key index (n + 1) budget

/-- `sync`: the index, and the row that is returned. -/
def EvidenceIndex.sync (index : EvidenceIndex) (executionId : String)
    (taskId repo : Option String) (n maxPages : ℕ) :
    Except Fault (EvidenceIndex × Option SourceStatus) := do
  let key : SourceKey := { executionId }
  let index ← index.register key taskId repo
  let index := index.syncPages lib server key n maxPages
  .ok (index, index.status key)

/-! ### Artifacts -/

/-- What the serving side answers for an artifact: a receipt, and the chunks of its body. -/
structure ArtifactReply where
  receipt : Except Fault Receipt
  chunks : Except Fault (List (List UInt8))

def transferBytes : ℕ := 64 * 1024

/-- The rows of an artifact's chunks; each window has the end of what is before it. -/
def artifactRows (key : SourceKey) : ℕ → List UInt8 → List (List UInt8) →
    Except Fault (List FrameRow)
  | _, _, [] => .ok []
  | offset, tail, chunk :: rest => do
    let frame : Frame := ⟨offset, offset + chunk.length, offset, offset + chunk.length, none⟩
    let row ← indexWindow lib key (offset - tail.length) (tail ++ chunk) frame
    let body := tail ++ chunk
    let rows ←
      artifactRows key (offset + chunk.length) (body.drop (body.length - overlapBytes)) rest
    .ok (row :: rows)

def SourceStatus.cover (s : SourceStatus) (receipt : Receipt) (rawEnd : ℕ) : SourceStatus :=
  { s with
    receipt := some receipt
    rawEnd
    outcome := some .complete
    atAvailableEnd := true
    error := none }

/-- The transaction of `sync_artifact`. Which of several faults comes first is left open. -/
def EvidenceIndex.commitArtifact (index : EvidenceIndex) (key : SourceKey) (reply : ArtifactReply) :
    Except Fault EvidenceIndex := do
  let receipt ← reply.receipt
  match index.status key with
  | none => .error .type
  | some current =>
    if current.receipt.isSome ∧ current.receipt ≠ some receipt then .error .unavailable
    else if current.atAvailableEnd then .ok (index.update key fun s => { s with error := none })
    else do
      let chunks ← reply.chunks
      require (chunks.all fun chunk => 0 < chunk.length && chunk.length ≤ transferBytes)
      let body := chunks.flatten
      require (body.length = receipt.sizeBytes && lib.sha256 body = receipt.sha256)
      let rows ← artifactRows lib key 0 [] chunks
      let kept ← lib.keptBack body
      if kept = 0 then
        let index := index.update key (·.cover receipt body.length)
        .ok { index with frames := index.frames ++ rows }
      else .error (.other "UnicodeDecodeError")

def EvidenceIndex.syncArtifact (index : EvidenceIndex) (key : SourceKey)
    (taskId repo : Option String) (reply : ArtifactReply) :
    Except Fault (EvidenceIndex × Option SourceStatus) := do
  let index ← index.register key taskId repo
  let index :=
    match index.commitArtifact lib key reply with
    | .ok index => index
    | .error fault => index.markUnavailable key fault
  .ok (index, index.status key)

/-! ### Rebuild -/

structure Client where
  log : String → Server
  artifact : SourceKey → ArtifactReply

def SourceStatus.forget (s : SourceStatus) : SourceStatus :=
  { s with toPosition := {}, atAvailableEnd := false, error := none }

def EvidenceIndex.forget (index : EvidenceIndex) : EvidenceIndex where
  sources := index.sources.map SourceStatus.forget
  frames := []

/-- The loop of `rebuild` over the pages of one log, as long as the fuel lasts. -/
def EvidenceIndex.resync (original : SourceStatus) : EvidenceIndex → ℕ → ℕ →
    Option (Except Fault (EvidenceIndex × SourceStatus))
  | _, _, 0 => none
  | index, n, fuel + 1 =>
    match index.sync lib server original.key.executionId original.taskId original.repo n 1 with
    | .error fault => some (.error fault)
    | .ok (_, none) => some (.error .type)
    | .ok (index, some state) =>
      if state.error.isSome ∨ state.atAvailableEnd ∨ original.compressedEnd ≤ state.compressedEnd
      then some (.ok (index, state))
      else resync original index (n + 1) fuel

def EvidenceIndex.rebuildOne (client : Client) (fuel : ℕ) (index : EvidenceIndex)
    (original : SourceStatus) : Option (Except Fault (EvidenceIndex × SourceStatus)) :=
  if original.key.artifactId.isSome then
    match index.syncArtifact lib original.key original.taskId original.repo
        (client.artifact original.key) with
    | .error fault => some (.error fault)
    | .ok (_, none) => some (.error .type)
    | .ok (index, some state) => some (.ok (index, state))
  else
    EvidenceIndex.resync lib (client.log original.key.executionId) original index 0 fuel

def EvidenceIndex.rebuildAll (client : Client) (fuel : ℕ) : EvidenceIndex → List SourceStatus →
    Option (Except Fault (EvidenceIndex × List SourceStatus))
  | index, [] => some (.ok (index, []))
  | index, original :: rest =>
    match index.rebuildOne lib client fuel original with
    | none => none
    | some (.error fault) => some (.error fault)
    | some (.ok (index, state)) =>
      match rebuildAll client fuel index rest with
      | none => none
      | some (.error fault) => some (.error fault)
      | some (.ok (index, states)) => some (.ok (index, state :: states))

/-- `rebuild`, as long as the fuel lasts for each log. -/
def EvidenceIndex.rebuild (index : EvidenceIndex) (client : Client) (fuel : ℕ) :
    Option (Except Fault (EvidenceIndex × List SourceStatus)) :=
  index.forget.rebuildAll lib client fuel index.sources

/-! ### What the calls do to the rows -/

variable {lib} {server} {index : EvidenceIndex} {key : SourceKey} {state : SourceStatus}
  {change : SourceStatus → SourceStatus}

theorem EvidenceIndex.key_of_status (found : index.status key = some state) : state.key = key := by
  simpa using List.find?_some found

theorem EvidenceIndex.status_update (keeps : ∀ s, (change s).key = s.key) (k : SourceKey) :
    (index.update key change).status k =
      (index.status k).map fun s => if s.key = key then change s else s := by
  have same (s : SourceStatus) : (if s.key = key then change s else s).key = s.key := by
    split
    · exact keeps s
    · rfl
  rw [status, update, List.find?_map, status]
  congr 2
  funext s
  exact congrArg (fun k' => decide (k' = k)) (same s)

theorem EvidenceIndex.status_update_self (keeps : ∀ s, (change s).key = s.key)
    (found : index.status key = some state) :
    (index.update key change).status key = some (change state) := by
  rw [status_update keeps, found, Option.map_some, if_pos (key_of_status found)]

theorem EvidenceIndex.status_update_other (keeps : ∀ s, (change s).key = s.key) {k : SourceKey}
    (other : k ≠ key) : (index.update key change).status k = index.status k := by
  rw [status_update keeps]
  cases found : index.status k with
  | none => rfl
  | some s => rw [Option.map_some, if_neg (by rw [key_of_status found]; exact other)]

/-- A call about one source leaves the rows of the others as they are. -/
def EvidenceIndex.Apart (key : SourceKey) (index index' : EvidenceIndex) : Prop :=
  ∀ k, k ≠ key → index'.status k = index.status k

theorem EvidenceIndex.Apart.trans {index' index'' : EvidenceIndex}
    (first : EvidenceIndex.Apart key index index') (second : EvidenceIndex.Apart key index' index'') :
    EvidenceIndex.Apart key index index'' :=
  fun k other => (second k other).trans (first k other)

theorem EvidenceIndex.apart_update (keeps : ∀ s, (change s).key = s.key) :
    EvidenceIndex.Apart key index (index.update key change) :=
  fun _ other => status_update_other keeps other

end SightMesh.Native
