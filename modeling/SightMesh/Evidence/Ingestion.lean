import SightMesh.Concurrency.Pool
import SightMesh.Evidence.Index

/-! The calls of `EvidenceIndex` as processes over one index: every transaction and every request is
a step of its own, and a process may crash before any of them. -/
namespace SightMesh.Native

open Concurrency Python

variable {α β : Type} (lib : IndexLibrary)

/-! ### Transactions -/

inductive IndexTx : Type → Type 1 where
  | register (key : SourceKey) (taskId repo : Option String) : IndexTx (Except Fault Unit)
  | status (key : SourceKey) : IndexTx (Option SourceStatus)
  /-- `_commit_frame`. It does not look at `before`, the frame of the same page that was committed
  before this one. -/
  | commitFrame (expected : SourceStatus) (before : Option Frame) (frame : Frame) (start : ℕ)
      (body : List UInt8) : IndexTx (Except Fault Unit)
  | endPage (key : SourceKey) (cursor : Option ℕ) (atAvailableEnd : Bool) : IndexTx Unit
  | markUnavailable (key : SourceKey) (fault : Fault) : IndexTx Unit
  | commitArtifact (key : SourceKey) (reply : ArtifactReply) : IndexTx (Except Fault Unit)
  | forget : IndexTx (List SourceStatus)

def integrityError : Fault := .other "IntegrityError"

def assertionError : Fault := .other "AssertionError"

def EvidenceIndex.Unique (index : EvidenceIndex) : Prop :=
  (index.frames.map fun row => (row.key, row.frameStart)).Nodup

instance (index : EvidenceIndex) : Decidable index.Unique :=
  inferInstanceAs (Decidable (List.Nodup _))

/-- What a transaction leaves; one that raises is rolled back. -/
def EvidenceIndex.stored (index : EvidenceIndex) :
    Except Fault EvidenceIndex → EvidenceIndex × Except Fault Unit
  | .ok next => if next.Unique then (next, .ok ()) else (index, .error integrityError)
  | .error fault => (index, .error fault)

def IndexTx.exec (tx : IndexTx β) (index : EvidenceIndex) : EvidenceIndex × β :=
  match tx with
  | register key taskId repo => index.stored (index.register key taskId repo)
  | status key => (index, index.status key)
  | commitFrame expected _ frame start body =>
    index.stored (index.commitFrame lib expected frame start body)
  | endPage key cursor atAvailableEnd => (index.endPage key cursor atAvailableEnd, ())
  | markUnavailable key fault => (index.markUnavailable key fault, ())
  | commitArtifact key reply => index.stored (index.commitArtifact lib key reply)
  | forget => (index.forget, index.sources)

/-! ### Requests -/

inductive ClientQuery : Type → Type 1 where
  | provenance (executionId : String) (afterFrame : Option ℕ) : ClientQuery (Except Fault Dict)
  | raw (executionId : String) (start stop : ℕ) : ClientQuery (Except Fault RawRange)
  | artifact (key : SourceKey) : ClientQuery ArtifactReply

abbrev Ingestion := Prog Fault IndexTx ClientQuery Empty

namespace Ingestion

def raising (x : Except Fault α) : Ingestion α :=
  match x with
  | .ok a => .ret a
  | .error fault => .fail fault

def current (key : SourceKey) : Ingestion SourceStatus := do
  match ← Prog.commit' (.status key) with
  | some state => .ret state
  | none => .fail assertionError

/-- What of a call `sync` and `sync_artifact` catch. -/
def caught (key : SourceKey) (p : Ingestion Unit) : Ingestion Unit :=
  Prog.handle p fun fault =>
    if fault.escapes then .fail fault
    else Prog.commit' (.markUnavailable key fault)

def answering (reply : Except Fault RawRange) : Server where
  provenance _ _ := .error .unavailable
  raw _ _ _ := reply

def window (executionId : String) (frame : Frame) : Ingestion (ℕ × List UInt8) :=
  if frame.rawStart = frame.rawEnd then .ret (frame.rawEnd, [])
  else do
    let start := frame.rawStart - overlapBytes
    let reply ← Prog.ask (.raw executionId start frame.rawEnd)
    let body ← raising (confirmedRange (answering reply) executionId 0 start frame.rawEnd)
    return (start, body)

def frames (key : SourceKey) : SourceStatus → Option Frame → List Frame → Ingestion Unit
  | _, _, [] => .ret ()
  | state, before, frame :: rest => do
    let found ← window key.executionId frame
    Prog.run (.commitFrame state before frame found.1 found.2)
    let state ← current key
    frames key state (some frame) rest

def page (key : SourceKey) : Ingestion Bool := do
  let state ← current key
  let reply ← Prog.query (.provenance key.executionId state.afterFrame)
  let page ← raising (validatePage lib.toPageLibrary reply state.toPosition)
  frames key state none page.frames
  Prog.commit'
    (.endPage key (state.toPosition.behind page.frames).afterFrame page.atAvailableEnd)
  return page.atAvailableEnd

def pages (key : SourceKey) : ℕ → Ingestion Unit
  | 0 => .ret ()
  | budget + 1 => do
    if !(← page lib key) then pages key budget

def sync (executionId : String) (taskId repo : Option String) (maxPages : ℕ) :
    Ingestion SourceStatus := do
  let key : SourceKey := { executionId }
  if maxPages < 1 ∨ 128 < maxPages then throw .value
  Prog.run (.register key taskId repo)
  caught key (pages lib key maxPages)
  current key

/-- `sync_artifact`. The chunks are read in the transaction that indexes them; they are the same
when they are read before it. -/
def syncArtifact (executionId artifactId : String) (taskId repo : Option String) :
    Ingestion SourceStatus := do
  let key : SourceKey := ⟨executionId, some artifactId⟩
  Prog.run (.register key taskId repo)
  caught key do
    let reply ← Prog.ask (.artifact key)
    Prog.run (.commitArtifact key reply)
  current key

def resync (original : SourceStatus) : ℕ → Ingestion Unit
  | 0 => .ret ()
  | rounds + 1 => do
    let state ← sync lib original.key.executionId original.taskId original.repo 1
    if !(state.error.isSome || state.atAvailableEnd ||
        original.compressedEnd ≤ state.compressedEnd) then
      resync original rounds

def rebuildEach (rounds : ℕ) : List SourceStatus → Ingestion Unit
  | [] => .ret ()
  | original :: rest => do
    match original.key.artifactId with
    | some artifactId =>
      let _ ← syncArtifact original.key.executionId artifactId original.taskId original.repo
    | none => resync lib original rounds
    rebuildEach rounds rest

def rebuild (rounds : ℕ) : Ingestion Unit := do
  rebuildEach lib rounds (← Prog.commit' .forget)

end Ingestion

/-! ### The system -/

abbrev Contents := SourceKey → List UInt8

/-- Sources are append-only. -/
def Contents.Grows (content content' : Contents) : Prop := ∀ key, content key <+: content' key

/-- The server answers with any pages and frames; its confirmed bytes and its chunks are those of
the source, which may have grown. -/
def answers (content : Contents) (q : ClientQuery β) (b : β) (content' : Contents) : Prop :=
  content.Grows content' ∧
    match q, b with
    | .provenance _ _, _ => True
    | .raw executionId _ _, reply => ∀ range, reply = .ok range → range.durability = "confirmed" →
        range.body = slice (content' { executionId }) range.start range.stop
    | .artifact key, reply => ∀ chunks, reply.chunks = .ok chunks → chunks.flatten <+: content' key

inductive IndexOp : Ingestion Unit → Prop where
  | sync (executionId : String) (taskId repo : Option String) (maxPages : ℕ) :
      IndexOp ((Ingestion.sync lib executionId taskId repo maxPages).bind fun _ => .ret ())
  | syncArtifact (executionId artifactId : String) (taskId repo : Option String) :
      IndexOp ((Ingestion.syncArtifact executionId artifactId taskId repo).bind fun _ => .ret ())
  | rebuild (rounds : ℕ) : IndexOp (Ingestion.rebuild lib rounds)

def ingestion : System Fault IndexTx ClientQuery Empty EvidenceIndex Contents where
  exec := IndexTx.exec lib
  answer := answers
  ops := IndexOp lib
  start index _ := index = {}

abbrev IndexWorld := World Fault IndexTx ClientQuery Empty EvidenceIndex Contents

abbrev IndexShared := Shared IndexTx ClientQuery EvidenceIndex Contents

end SightMesh.Native
