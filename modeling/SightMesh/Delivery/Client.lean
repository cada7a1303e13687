import SightMesh.Concurrency.Remote
import SightMesh.Python.Value

/-! `CdesktopClient.send`: a follow-up put into the command queue of an executor, over a network
that loses requests and answers. -/
namespace SightMesh.Delivery

open Concurrency Python

inductive Fault where
  /-- `CdesktopTransportError` -/
  | transport (message : String)
  /-- `CdesktopDeliveryError` -/
  | delivery (message : String)
  /-- Any other `CdesktopError`. -/
  | cdesktop (message : String)
  /-- `OSError` or `RuntimeError` -/
  | runtime (message : String)
  | other (message : String)
  deriving DecidableEq

def Fault.message : Fault → String
  | .transport message => message
  | .delivery message => message
  | .cdesktop message => message
  | .runtime message => message
  | .other message => message

structure Command where
  dedupeKey : Option String
  prompt : String
  sender : Option String
  deriving DecidableEq

structure FollowUp where
  sessionId : String
  command : Command
  intent : String
  deriving DecidableEq

/-- What is relied on of an executor: a session's commands are kept in the order they came, and a
key is taken once. -/
structure Executor (ρ : Type) where
  commands : ρ → String → List Command
  followUp : FollowUp → ρ → ρ × Except Fault Unit
  setParent : (child parent : String) → ρ → ρ × Except Fault Unit
  distinct : ∀ r session, ((commands r session).filterMap Command.dedupeKey).Nodup
  adds : ∀ f r session, commands (followUp f r).1 session = commands r session ∨
    session = f.sessionId ∧ commands (followUp f r).1 session = commands r session ++ [f.command]
  takes : ∀ f r key, (followUp f r).2 = .ok () → f.command.dedupeKey = some key →
    some key ∈ (commands (followUp f r).1 f.sessionId).map Command.dedupeKey
  keeps : ∀ child parent r, commands (setParent child parent r).1 = commands r

structure Edge where
  child : String
  parent : String
  deriving DecidableEq

structure LegacyDelivery where
  sessionId : String
  prompt : Option String
  idempotencyKey : String
  status : String
  createdAt : ℚ
  deriving DecidableEq

/-- The two databases of the old queue in the state directory, and the copies in `legacy`. -/
structure Disk where
  relationships : Option (List Edge)
  delivery : Option (List LegacyDelivery)
  archivedEdges : List (List Edge)
  archivedDeliveries : List (List LegacyDelivery)
  deriving DecidableEq

structure Site (ρ : Type) where
  runtime : ρ
  disk : Disk

/-! ### Transactions -/

variable {ρ : Type}

inductive SiteTx : Type → Type 1 where
  | followUp (f : FollowUp) : SiteTx (Except Fault Unit)
  | setParent (child parent : String) : SiteTx (Except Fault Unit)
  | sessionCommands (sessionId : String) : SiteTx (Except Fault (List Command))
  | disk : SiteTx Disk
  | backupRelationships : SiteTx (Except Fault Unit)
  | backupDelivery : SiteTx (Except Fault Unit)
  | unlinkRelationships : SiteTx (Except Fault Unit)
  | unlinkDelivery : SiteTx (Except Fault Unit)

def noDatabase : Fault := .other "unable to open database file"

def missingFile : Fault := .runtime "No such file or directory"

def Disk.backupRelationships (disk : Disk) : Disk × Except Fault Unit :=
  match disk.relationships with
  | none => (disk, .error noDatabase)
  | some rows => ({ disk with archivedEdges := disk.archivedEdges ++ [rows] }, .ok ())

def Disk.backupDelivery (disk : Disk) : Disk × Except Fault Unit :=
  match disk.delivery with
  | none => (disk, .error noDatabase)
  | some rows => ({ disk with archivedDeliveries := disk.archivedDeliveries ++ [rows] }, .ok ())

def SiteTx.exec (executor : Executor ρ) {β : Type} : SiteTx β → Site ρ → Site ρ × β
  | .followUp f, site =>
    ({ site with runtime := (executor.followUp f site.runtime).1 },
      (executor.followUp f site.runtime).2)
  | .setParent child parent, site =>
    ({ site with runtime := (executor.setParent child parent site.runtime).1 },
      (executor.setParent child parent site.runtime).2)
  | .sessionCommands sessionId, site => (site, .ok (executor.commands site.runtime sessionId))
  | .disk, site => (site, site.disk)
  | .backupRelationships, site =>
    ({ site with disk := site.disk.backupRelationships.1 }, site.disk.backupRelationships.2)
  | .backupDelivery, site =>
    ({ site with disk := site.disk.backupDelivery.1 }, site.disk.backupDelivery.2)
  | .unlinkRelationships, site =>
    ({ site with disk := { site.disk with relationships := none } },
      if site.disk.relationships.isSome then .ok () else .error missingFile)
  | .unlinkDelivery, site =>
    ({ site with disk := { site.disk with delivery := none } },
      if site.disk.delivery.isSome then .ok () else .error missingFile)

inductive Delivered where
  | injected
  | failed (detail : String)
  deriving DecidableEq

inductive Frame where
  | connect (displayName path : String) (peerId authToken : Option String)
  | status
  | pong
  | error (correlationId : Json) (text : String)
  | deliveryAck (deliveryId : Json) (messageType : Json) (status : Delivered)

/-- What is asked of the world outside. `frame` is sent, and `receive` awaited, on the socket of one
session's bridge; `refusal` is an error of reading a file. -/
inductive SiteQuery : Type → Type 1 where
  | fate : SiteQuery (Fate Fault)
  | sleep (seconds : ℚ) : SiteQuery Unit
  | patience : SiteQuery ℕ
  | refusal : SiteQuery (Option Fault)
  | peerIdentity (sessionId : String) : SiteQuery (Option String)
  | setPeerIdentity (sessionId : String) (peerId : Json) : SiteQuery (Except Fault Unit)
  | clearPeerIdentity (sessionId : String) : SiteQuery (Except Fault Unit)
  | authToken : SiteQuery (Option String)
  | dial (sessionId : String) : SiteQuery (Except Fault Unit)
  | frame (sessionId : String) (frame : Frame) : SiteQuery (Except Fault Unit)
  | receive (sessionId : String) : SiteQuery (Except Fault (Option Dict))

abbrev Net := Prog Fault SiteTx SiteQuery Empty

variable {α : Type}

def ask (q : SiteQuery α) : Net α := Prog.ask q

def query (q : SiteQuery (Except Fault α)) : Net α := Prog.query q

def request (tx : SiteTx (Except Fault α)) : Net α := Prog.remote .fate tx

/-! ### Sending -/

def sendTransportRetries : ℕ := 3

def sendRetryBackoffSeconds : ℚ := 1

inductive Receipt where
  | queued | alreadyQueued
  deriving DecidableEq

/-- Only a failure of the transport is tried again. -/
def transportOnly : Fault → Net (Option String)
  | .transport message => return some message
  | fault => throw fault

/-- The attempts `send` has left after `made` of them; it ends with the last error, if all fail. -/
def postFollowUp (f : FollowUp) : ℕ → ℕ → Option String → Net (Option String)
  | 0, _, lastError => return lastError
  | left + 1, made, _ => do
    let failed ← Prog.handle (do request (.followUp f); return none) transportOnly
    match failed with
    | none => return none
    | some message =>
      if left ≠ 0 then ask (.sleep (sendRetryBackoffSeconds * (made + 1)))
      postFollowUp f left (made + 1) (some message)

def Fault.isCdesktop : Fault → Bool
  | .transport _ => true
  | .delivery _ => true
  | .cdesktop _ => true
  | _ => false

def commandIsQueued (sessionId dedupeKey : String) : Net Bool :=
  Prog.handle
    (do
      let rows ← request (.sessionCommands sessionId)
      return rows.any fun row => row.dedupeKey = some dedupeKey)
    fun fault => if fault.isCdesktop then .ret false else .fail fault

variable (py : Library)

def send (sessionId prompt : String) (senderSession dedupeKey : Option String) (intent : String) :
    Net Receipt := do
  let f : FollowUp :=
    ⟨sessionId, ⟨present dedupeKey, prompt, present senderSession⟩, intent⟩
  let attempts := if (present dedupeKey).isSome then sendTransportRetries else 1
  match ← postFollowUp f attempts 0 none with
  | none => return .queued
  | some lastError =>
    let undelivered : Fault := .delivery ("Follow-up to session " ++ sessionId ++
      " could NOT be confirmed queued after " ++ toString attempts ++ " attempt(s) (" ++
      lastError ++ "). Retry with the same dedupe_key " ++ py.repr (dedupeKey.elim .null .str) ++
      "; it is safe to repeat.")
    match present dedupeKey with
    | none => throw undelivered
    | some key =>
      if ← commandIsQueued sessionId key then return .alreadyQueued
      else throw undelivered

end SightMesh.Delivery
