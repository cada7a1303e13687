import SightMesh.Concurrency.Pool
import SightMesh.Escalation.ExternalRuns
import SightMesh.Escalation.Sessions

/-! The bridge as a system: any number of processes of any of these operations over one escalation
database, each free to crash before any step, in surroundings that may answer as they like. -/
namespace SightMesh.Escalation

open Python Concurrency

/-- How the world outside answers; `γ` is what it remembers. -/
structure Outside (γ : Type) where
  answer : {β : Type} → γ → MailQuery β → β → γ → Prop

def discard {α : Type} (p : Bridge α) : Bridge Unit := p.bind fun _ => .ret ()

def setSignalPolicy (sessionId : SessionId) (conditions : List String) : Bridge Unit :=
  stamped fun now => .setPolicy ⟨sessionId, conditions, now⟩

/-- The runner of an external run: it starts a process, binds it, writes to its output root, its
receipt last, and lets the process exit. -/
def runner (e : Runtime) (id capability : String) (pid : ℤ) (fingerprint path : String)
    (expected : ℕ) (drafts : List Bytes) (receipt : Bytes) : Bridge Unit := do
  Prog.ask (.startProcess pid fingerprint)
  let _ ← bind e id capability pid fingerprint expected
  forEach drafts fun raw => Prog.ask (.writeFile path raw)
  Prog.ask (.writeFile path receipt)
  Prog.ask (.exitProcess pid)

inductive BridgeOp (e : Runtime) : Bridge Unit → Prop where
  | escalate (child : SessionId) (childWorkspace : Option WorkspaceId) (parent : Option SessionId)
      (message : String) (dedupeKey : Option String)
      (own : ∀ key, dedupeKey = some key → isLifecycle key = false) :
      BridgeOp e (discard (escalate e .session child childWorkspace parent message dedupeKey))
  | park (request : ParkRequest) : BridgeOp e (discard (park e request))
  | resolve (escalationId : ℕ) : BridgeOp e (discard (resolve escalationId))
  | setSignalPolicy (sessionId : SessionId) (conditions : List String) :
      BridgeOp e (setSignalPolicy sessionId conditions)
  | clearSignalPolicy (sessionId : SessionId) : BridgeOp e (Prog.commit' (.clearPolicy sessionId))
  | subscribe (runId outputRoot : String) (returnSession : SessionId)
      (returnWorkspace : Option WorkspaceId) :
      BridgeOp e (discard (subscribe e runId outputRoot returnSession returnWorkspace))
  | bind (id capability : String) (pid : ℤ) (fingerprint : String) (expected : ℕ) :
      BridgeOp e (discard (bind e id capability pid fingerprint expected))
  | reconcileOne (id : String) : BridgeOp e (discard (reconcileOne e id))
  | reconcileNamed (value : String) : BridgeOp e (discard (reconcileNamed e value))
  | reconcile : BridgeOp e (discard (reconcile e))
  | reconcileSessions (me : ℕ) (sessions : List Dict) :
      BridgeOp e (reconcileSessions e me sessions)
  | runner (id capability : String) (pid : ℤ) (fingerprint path : String) (expected : ℕ)
      (drafts : List Bytes) (receipt : Bytes) :
      BridgeOp e (runner e id capability pid fingerprint path expected drafts receipt)
  | writeFile (path : String) (raw : Bytes) : BridgeOp e (Prog.ask (.writeFile path raw))
  | exitProcess (pid : ℤ) : BridgeOp e (Prog.ask (.exitProcess pid))

def bridge {γ : Type} (e : Runtime) (x : Outside γ) :
    System MailError MailTx MailQuery Empty MailStore γ where
  exec := MailTx.exec
  answer := x.answer
  ops := BridgeOp e
  start db _ := db = .empty

abbrev MailShared (γ : Type) := Shared MailTx MailQuery MailStore γ

abbrev MailEvent := Event MailTx MailQuery

abbrev BridgeWorld (γ : Type) := World MailError MailTx MailQuery Empty MailStore γ

end SightMesh.Escalation
