import Mathlib.Data.List.Sort
import SightMesh.Evidence.Index
import SightMesh.Python.Utf8

/-! `EvidenceIndex.search`: the windows the full-text index proposes, each read again from its
original. What the full-text index proposes is a parameter. -/
namespace SightMesh.Native

open Python

/-- An index whose decoder is that of UTF-8. -/
def IndexLibrary.utf8 (lib : IndexLibrary) : IndexLibrary :=
  { lib with
    keptBack := fun bytes =>
      match Decoder.decode {} bytes with
      | some d => .ok d.pending.length
      | none => .error (.other "UnicodeDecodeError") }

/-- `SearchHit`: what it copies of the frame stands in `row`. -/
structure SearchHit where
  row : FrameRow
  taskId : Option String
  repo : Option String
  matchStart : ℕ
  matchEnd : ℕ
  snippet : List Char

structure SearchResult where
  hits : List SearchHit
  sources : List SourceStatus
  nextAfter : Option ℕ
  unchecked : List SourceKey

/-- The conditions of a search. When a frame was captured is not a column of its row here. -/
structure Selection where
  taskId : Option String := none
  repo : Option String := none
  executionId : Option String := none
  captured : FrameRow → Bool := fun _ => true

def Selection.picks (selection : Selection) (s : SourceStatus) : Bool :=
  selection.taskId.all (fun id => s.taskId = some id) &&
    selection.repo.all (fun repo => s.repo = some repo) &&
    selection.executionId.all fun id => s.key.executionId = id

/-! ### Originals -/

/-- The loop of `_artifact_window` over the chunks. -/
def cutChunks (start stop : ℕ) : ℕ → List (List UInt8) → List UInt8
  | _, [] => []
  | offset, chunk :: rest =>
    (chunk.take (min (stop - offset) chunk.length)).drop (start - offset) ++
      cutChunks start stop (offset + chunk.length) rest

variable (lib : IndexLibrary)

def artifactWindow (reply : ArtifactReply) (expected : Receipt) (start stop : ℕ) :
    Except Fault (List UInt8) := do
  let receipt ← reply.receipt
  require (receipt = expected)
  let chunks ← reply.chunks
  require (chunks.all fun chunk => 0 < chunk.length && chunk.length ≤ transferBytes)
  let body := chunks.flatten
  require (body.length = receipt.sizeBytes && lib.sha256 body = receipt.sha256)
  let window := cutChunks start stop 0 chunks
  require (window.length = stop - start)
  .ok window

def originalBytes (client : Client) (n : ℕ) (row : FrameRow) (s : SourceStatus) :
    Except Fault (List UInt8) :=
  match row.key.artifactId with
  | none =>
    confirmedRange (client.log row.key.executionId) row.key.executionId n row.windowStart
      row.windowEnd
  | some _ =>
    match s.receipt with
    | none => .error .type
    | some receipt =>
      artifactWindow lib (client.artifact row.key) receipt row.windowStart row.windowEnd

/-! ### Rows -/

/-- The loop over the occurrences in a window: one that ends in the overlap belongs to an older
frame. -/
def ownMatch (query text : List Char) (row : FrameRow) : ℕ → ℕ → Option ℕ
  | 0, _ => none
  | fuel + 1, start =>
    match find query text start with
    | none => none
    | some position =>
      if row.windowStart + (encode (text.take (position + query.length))).length ≤ row.rawStart then
        ownMatch query text row fuel (position + 1)
      else some position

def rowHit (query text : List Char) (row : FrameRow) (s : SourceStatus) : Option SearchHit :=
  (ownMatch query text row (text.length + 2) 0).map fun position =>
    let start := row.windowStart + (encode (text.take position)).length
    { row
      taskId := s.taskId
      repo := s.repo
      matchStart := start
      matchEnd := start + (encode query).length
      snippet := (text.take (position + query.length + 80)).drop (position - 80) }

/-- What the loop over the rows gathers. -/
structure Gathered where
  index : EvidenceIndex
  checked : List SourceKey := []
  hits : List SearchHit := []

def Gathered.mark (g : Gathered) (key : SourceKey) (fault : Fault) : Except Fault Gathered :=
  if fault = .key ∨ fault = .type then .error fault
  else .ok { g with index := g.index.markUnavailable key fault }

def Gathered.look (client : Client) (query : List Char) (g : Gathered)
    (found : ℕ × FrameRow × SourceStatus) : Except Fault Gathered :=
  let (rowid, row, s) := found
  match originalBytes lib client rowid row s with
  | .error fault => g.mark row.key fault
  | .ok body =>
    if lib.sha256 body ≠ row.sha256 then g.mark row.key .unavailable
    else
      let g := if row.key.artifactId.isSome then { g with checked := g.checked ++ [row.key] } else g
      match decodeText body with
      | none => g.mark row.key (.other "UnicodeDecodeError")
      | some text => .ok { g with hits := g.hits ++ (rowHit query text row s).toList }

/-! ### Pages -/

/-- A row the full-text index proposes, behind a cursor, with that of its source. -/
def EvidenceIndex.candidate (index : EvidenceIndex) (proposed : FrameRow → Bool)
    (selection : Selection) (after : ℕ) (entry : FrameRow × ℕ) :
    Option (ℕ × FrameRow × SourceStatus) :=
  match index.status entry.1.key with
  | none => none
  | some s =>
    if after < entry.2 && proposed entry.1 && selection.captured entry.1 && selection.picks s then
      some (entry.2, entry.1, s)
    else none

/-- The rows in the order of their rowids, which count from 1. -/
def EvidenceIndex.candidates (index : EvidenceIndex) (proposed : FrameRow → Bool)
    (selection : Selection) (after : ℕ) : List (ℕ × FrameRow × SourceStatus) :=
  (index.frames.zipIdx 1).filterMap (index.candidate proposed selection after)

variable (client : Client) (proposed : List Char → FrameRow → Bool) (selection : Selection)
  (query : List Char) (limit : ℕ)

def EvidenceIndex.search (index : EvidenceIndex) (after : ℕ) :
    Except Fault (EvidenceIndex × SearchResult) := do
  if query.length < 3 ∨ 256 < query.length ∨ Char.ofNat 0 ∈ query then throw .value
  if limit < 1 ∨ 100 < limit then throw .value
  let rows := (index.candidates (proposed query) selection after).take (limit + 1)
  let nextAfter := if limit < rows.length then rows[limit - 1]?.map (·.1) else none
  let g ← (rows.take limit).foldlM (Gathered.look lib client query) { index }
  let sources := (g.index.sources.filter selection.picks).insertionSort
    fun a b => a.key.executionId ≤ b.key.executionId
  .ok (g.index,
    { hits := g.hits
      sources
      nextAfter
      unchecked :=
        (sources.filter fun s => !g.checked.contains s.key || s.error.isSome).map (·.key) })

/-- One page after another to the end, as long as the fuel lasts. -/
def EvidenceIndex.searchAll : ℕ → EvidenceIndex → ℕ → Option (Except Fault (List SearchHit))
  | 0, _, _ => none
  | fuel + 1, index, after =>
    match index.search lib client proposed selection query limit after with
    | .error fault => some (.error fault)
    | .ok (index, page) =>
      match page.nextAfter with
      | none => some (.ok page.hits)
      | some next => (searchAll fuel index next).map fun rest => rest.map (page.hits ++ ·)

end SightMesh.Native
