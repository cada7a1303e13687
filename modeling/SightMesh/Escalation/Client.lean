import SightMesh.Escalation.Redaction
import SightMesh.Escalation.Store

/-! What the bridge asks of the executor, of the host and of its own file system, and how a program
of it is written. -/
namespace SightMesh.Escalation

open Python Concurrency

inductive MailError where
  /-- `EscalationStoreError` -/
  | store (message : String)
  /-- `ExternalRunError` -/
  | externalRun (message : String)
  /-- `StaleExternalRunTransition` -/
  | stale (message : String)
  | cdesktop (failure : CdesktopFailure) (message : String)
  /-- `OSError`; `missing` is a `FileNotFoundError`. -/
  | os (missing : Bool) (message : String)
  /-- `ValueError`, `KeyError`, `TypeError` and every other exception. -/
  | other (message : String)
  deriving DecidableEq

namespace MailError

def isCdesktop : MailError → Bool
  | cdesktop _ _ => true
  | _ => false

def runMessage : MailError → Option String
  | externalRun message | stale message => some message
  | _ => none

def retriesDelivery : MailError → Bool
  | cdesktop _ _ | os _ _ | store _ => true
  | _ => false

end MailError

abbrev Answer (β : Type) := Except MailError β

/-- Who looks at a process: `bind`, or the liveness check of a pass over a run. -/
inductive ObserveSite where
  | bind
  | live (subscriptionId : String)
  deriving DecidableEq

/-- Whose message is sent: that of an external run, of a session, or of `_notify_live_parent`. -/
inductive SendSite where
  | run (subscriptionId : String)
  | session
  | notice
  deriving DecidableEq

/-- The succession table is written by other parts of the system, which may move it between any two
steps; `liveSuccessor` is what `resolve_live_successor` finds in it. -/
inductive MailQuery : Type → Type 1 where
  | clock : MailQuery Time
  | uuid : MailQuery String
  | token : MailQuery String
  | session (id : SessionId) : MailQuery (Answer Json)
  | workspace (id : WorkspaceId) : MailQuery (Answer Json)
  | send (site : SendSite) (sessionId : SessionId) (message : String) (sender : SessionId)
      (key intent : String) : MailQuery (Answer Json)
  | sessionCommands (sessionId : SessionId) : MailQuery (Answer (List Dict))
  | executionProcesses (sessionId : SessionId) : MailQuery (Answer (List Dict))
  | normalizedSnapshot (processId : String) : MailQuery (Answer Json)
  | requeue (sessionId : SessionId) (processId : String) : MailQuery (Answer Unit)
  | stopExecution (processId key : String) : MailQuery (Answer Unit)
  | dispatchQueued (sessionId : SessionId) : MailQuery (Answer Unit)
  | online : MailQuery Bool
  | supportsRecovery : MailQuery (Answer Bool)
  | quarantined (sessionId : SessionId) : MailQuery Bool
  | liveSuccessor (sessionId : SessionId) : MailQuery (Option SessionId)
  | resolveRoot (path : String) : MailQuery (Answer String)
  | prepareRoot (root : String) : MailQuery (Answer Bool)
  | removeRoot (root : String) : MailQuery (Answer Unit)
  | observe (site : ObserveSite) (pid : ℤ) : MailQuery (Option String)
  | readReceipt (path : String) : MailQuery (Answer Bytes)
  | writeFile (path : String) (raw : Bytes) : MailQuery Unit
  | startProcess (pid : ℤ) (fingerprint : String) : MailQuery Unit
  | exitProcess (pid : ℤ) : MailQuery Unit

abbrev Bridge := Prog MailError MailTx MailQuery Empty

def clock : Bridge Time := Prog.ask .clock

def read {β : Type} (view : MailStore → β) : Bridge β := Prog.commit' (.read view)

def query {β : Type} (q : MailQuery (Answer β)) : Bridge β := Prog.query q

def stamped {β : Type} (tx : Time → MailTx β) : Bridge β := clock.bind fun now => Prog.commit' (tx now)

def subscript (value : Json) (name : String) : Bridge Json :=
  match value with
  | .obj fields => if Dict.has fields name then .ret (Dict.get fields name) else .fail (.other name)
  | _ => .fail (.other "not subscriptable")

/-- A value that can be subscripted is a record with the field. -/
theorem subscript_cases (value : Json) (name : String) :
    (∃ fields, value = .obj fields ∧ Dict.has fields name ∧
      subscript value name = .ret (Dict.get fields name)) ∨
    ((∀ fields, value = .obj fields → Dict.has fields name = false) ∧
      ∃ text, subscript value name = .fail (.other text)) := by
  cases value with
  | obj fields =>
    by_cases known : Dict.has fields name
    · exact .inl ⟨fields, rfl, known, by simp [subscript, known]⟩
    · refine .inr ⟨?_, name, by simp [subscript, known]⟩
      rintro other ⟨⟩
      simpa using known
  | _ => exact .inr ⟨fun _ same => (nomatch same), _, rfl⟩

def getField (value : Json) (name : String) : Bridge Json :=
  match value with
  | .obj fields => .ret (Dict.get fields name)
  | _ => .fail (.other "no attribute get")

/-- The libraries the bridge runs on. -/
structure Runtime where
  py : Library
  redactor : Redactor
  /-- A text that begins like no document is a `JSONDecodeError`. -/
  malformed : ∀ text c, text.toList.head? = some c → c ∉ documentOpenings →
    ∃ message, redactor.loads text = .malformed message
  /-- `json.loads(raw.decode())`. -/
  decode : Bytes → Decoded
  /-- `hashlib.sha256(raw).hexdigest()`. -/
  digest : Bytes → String

/-- `redact_credentials` of a text. -/
def Runtime.redact (e : Runtime) (text : String) : Except String String :=
  e.redactor.redactCredentials text

def redacted (e : Runtime) (text : String) : Bridge String :=
  match e.redact text with
  | .ok safe => .ret safe
  | .error message => .fail (.other message)

/-! ### The store -/

def park (e : Runtime) (request : ParkRequest) : Bridge ParkedEscalation := do
  let message ← redacted e request.message
  stamped (.park { request with message })
  match ← read (·.escalation request.dedupeKey) with
  | some row => .ret row
  | none => .fail (.store ("Escalation is missing after park: " ++ request.dedupeKey))

def resolve (escalationId : ℕ) : Bridge ParkedEscalation := do
  let resolved ← stamped (.resolve escalationId)
  if resolved then
    match ← read fun db => db.escalations.rows.find? (·.escalationId = escalationId) with
    | some row => .ret row
    | none => .fail (.store ("Escalation is missing: " ++ toString escalationId))
  else .fail (.store ("Escalation is missing or already resolved: " ++ toString escalationId))

def resolveDedupeKey (key : String) : Bridge (Option ParkedEscalation) := do
  stamped (.resolveDedupeKey key)
  read (·.escalation key)

def acknowledge (e : Runtime) (request : AckRequest) : Bridge DeliveryAck := do
  let message ← redacted e request.message
  stamped (.acknowledge { request with message })
  match ← read (·.acknowledgment request.dedupeKey) with
  | some row => .ret row
  | none => .fail (.store ("Acknowledgment is missing after record: " ++ request.dedupeKey))

def MailStore.hasDedupeKey (db : MailStore) (key : String) : Bool :=
  (db.acknowledgment key).isSome || (db.escalation key).isSome

def MailStore.hasTerminalDedupeKey (db : MailStore) (key : String) : Bool :=
  (db.acknowledgment key).isSome || (db.escalation key).any fun row => row.status = .resolved

/-! ### Escalations -/

def classifyEscalation (py : Library) (message : String) : EscalationClass :=
  let tag := ((py.strip message).toList.takeWhile Char.isAlpha).map Char.toUpper
  if tag = "BLOCKED".toList ∨ tag = "DECISION".toList then .interrupt else .routine

def defaultDedupeKey (py : Library) (child : SessionId) (message : String) : String :=
  "parent-escalation:" ++ child ++ ":" ++ String.ofList ((py.sha256 message).toList.take 16)

inductive Delivery where
  | delivered (kind : EscalationClass) (parent : SessionId) (parentWorkspace : String)
      (ack : DeliveryAck) (followUp : Json)
  | parked (reason : ParkReason) (row : ParkedEscalation)

/-- The lookup of the parent and its workspace; a `CdesktopError` is a reason to park. -/
def lookupParent (py : Library) (parent : SessionId) : Bridge (Except ParkReason Json) :=
  Prog.handle
    (do
      let session ← query (.session parent)
      let workspace ← query (.workspace (py.str (← subscript session "workspace_id")))
      return .ok workspace)
    fun failure => if failure.isCdesktop then .ret (.error .parentUnreachable) else .fail failure

/-- The delivery to a live parent. -/
def deliver (e : Runtime) (site : SendSite) (child parent : SessionId) (message key : String)
    (workspace : Json) : Bridge Delivery := do
  let kind := classifyEscalation e.py message
  let followUp ← query (.send site parent message child key kind.intent)
  let ack ← acknowledge e ⟨child, parent, kind, message, key⟩
  return .delivered kind parent (e.py.str (← subscript workspace "id")) ack followUp

def escalate (e : Runtime) (site : SendSite) (child : SessionId)
    (childWorkspace : Option WorkspaceId) (parent : Option SessionId) (message : String)
    (dedupeKey : Option String) : Bridge Delivery := do
  let key := orText dedupeKey (defaultDedupeKey e.py child message)
  let parked := fun (reason : ParkReason) => do
    let row ← park e ⟨child, childWorkspace, parent, reason, message, key⟩
    return Delivery.parked reason row
  if parent = some child then parked .parentUnreachable
  else match present parent with
    | none => parked .noParent
    | some parent =>
      match ← lookupParent e.py parent with
      | .error reason => parked reason
      | .ok workspace =>
        if (← getField workspace "archived").truthy then parked .parentArchived
        else deliver e site child parent message key workspace

end SightMesh.Escalation
