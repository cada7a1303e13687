import SightMesh.Concurrency.Solo
import SightMesh.Escalation.System
import SightMesh.Programs.Scripted

/-! A host with files and processes, and the runs a script of the executor makes on it. -/
namespace SightMesh.Escalation

open Python Concurrency

structure Host (γ : Type) where
  files : String → Option Bytes
  processes : ℤ → Option String
  rest : γ

namespace Host

variable {γ β : Type}

def read (h : Host γ) (path : String) : Answer Bytes :=
  match h.files path with
  | some raw => .ok raw
  | none => .error (.os true path)

def write (h : Host γ) (path : String) (raw : Bytes) : Host γ :=
  { h with files := Function.update h.files path (some raw) }

/-- A pid in use is not given away. -/
def start (h : Host γ) (pid : ℤ) (fingerprint : String) : Host γ :=
  if h.processes pid = none then
    { h with processes := Function.update h.processes pid (some fingerprint) }
  else h

def exit (h : Host γ) (pid : ℤ) : Host γ :=
  { h with processes := Function.update h.processes pid none }

/-- How a host answers. A read may fail, `ps` may fail, and the rest of the world answers as it
likes. -/
def answers (y : Outside γ) (h : Host γ) : MailQuery β → β → Host γ → Prop
  | .readReceipt path, b, h' => h' = h ∧ (b = h.read path ∨ ∃ message, b = .error (.os false message))
  | .observe _ pid, b, h' => h' = h ∧ (b = h.processes pid ∨ b = none)
  | .writeFile path raw, _, h' => h' = h.write path raw
  | .startProcess pid fingerprint, _, h' => h' = h.start pid fingerprint
  | .exitProcess pid, _, h' => h' = h.exit pid
  | q, b, h' => h'.files = h.files ∧ h'.processes = h.processes ∧ y.answer h.rest q b h'.rest

/-- A host on which nothing fails, with an oracle for the rest of the world. -/
def oracle (others : {β : Type} → γ → MailQuery β → β × γ) (h : Host γ) : MailQuery β → β × Host γ
  | .readReceipt path => (h.read path, h)
  | .observe _ pid => (h.processes pid, h)
  | .writeFile path raw => ((), h.write path raw)
  | .startProcess pid fingerprint => ((), h.start pid fingerprint)
  | .exitProcess pid => ((), h.exit pid)
  | q => ((others h.rest q).1, { h with rest := (others h.rest q).2 })

theorem oracle_answers {y : Outside γ} {others : {β : Type} → γ → MailQuery β → β × γ}
    (sound : ∀ {β : Type} (c : γ) (q : MailQuery β), y.answer c q (others c q).1 (others c q).2)
    (h : Host γ) (q : MailQuery β) : h.answers y q (h.oracle others q).1 (h.oracle others q).2 := by
  cases q with
  | readReceipt path => exact ⟨rfl, .inl rfl⟩
  | observe site pid => exact ⟨rfl, .inl rfl⟩
  | writeFile path raw => exact rfl
  | startProcess pid fingerprint => exact rfl
  | exitProcess pid => exact rfl
  | _ => exact ⟨rfl, rfl, sound h.rest _⟩

end Host

/-- The surroundings with a host in them. -/
def Outside.hosted {γ : Type} (y : Outside γ) : Outside (Host γ) where
  answer h q b h' := h.answers y q b h'

/-! ### Scripts -/

/-- What a script decides, by the number of questions before; every other question has a fixed
answer. -/
structure MailScript where
  session : ℕ → SessionId → Answer Json
  workspace : WorkspaceId → Answer Json
  send : ℕ → Answer Json
  sessionCommands : SessionId → Answer (List Dict)
  executionProcesses : SessionId → Answer (List Dict)
  liveSuccessor : ℕ → SessionId → Option SessionId

def unreachable {β : Type} : Answer β := .error (.cdesktop .transport "no answer")

def knownSession (id : SessionId) : Answer Json :=
  .ok (.obj [("id", .str id), ("workspace_id", .str "workspace")])

/-- Every session is there, and nothing fails. -/
def MailScript.calm : MailScript where
  session _ id := knownSession id
  workspace id := .ok (.obj [("id", .str id), ("archived", .bool false)])
  send _ := .ok .null
  sessionCommands _ := .ok []
  executionProcesses _ := .ok []
  liveSuccessor _ sessionId := some sessionId

def MailScript.reply (script : MailScript) (calls : ℕ) {β : Type} : MailQuery β → β
  | .clock => calls
  | .uuid => toString calls
  | .token => "token"
  | .session id => script.session calls id
  | .workspace id => script.workspace id
  | .send _ _ _ _ _ _ => script.send calls
  | .sessionCommands sessionId => script.sessionCommands sessionId
  | .executionProcesses sessionId => script.executionProcesses sessionId
  | .normalizedSnapshot _ => .ok (.obj [])
  | .requeue _ _ => .ok ()
  | .stopExecution _ _ => .ok ()
  | .dispatchQueued _ => .ok ()
  | .online => true
  | .supportsRecovery => .ok true
  | .quarantined _ => false
  | .liveSuccessor sessionId => script.liveSuccessor calls sessionId
  | .resolveRoot path => .ok path
  | .prepareRoot _ => .ok true
  | .removeRoot _ => .ok ()
  | .observe _ _ => none
  | .readReceipt path => .error (.os true path)
  | .writeFile _ _ => ()
  | .startProcess _ _ => ()
  | .exitProcess _ => ()

def MailScript.oracle (script : MailScript) {β : Type} (calls : ℕ) (q : MailQuery β) : β × ℕ :=
  (script.reply calls q, calls + 1)

def MailScript.outside (script : MailScript) : Outside ℕ where
  answer calls q b next := (b, next) = script.oracle calls q

def receiptJson (id runId outcome : String) : Json :=
  .obj [("schema_version", .num (.int 1)), ("subscription_id", .str id), ("run_id", .str runId),
    ("terminal_state", .str outcome), ("finished_at", .str "2026-01-01T00:00:00+00:00")]

def textBytes (text : String) : Bytes := text.toUTF8.data.toList

def scriptReceipts : List Json :=
  [receiptJson "1" "run" "completed", receiptJson "1" "run" "failed"]

def scriptRuntime : Runtime where
  py := { asciiLibrary with
    fromisoformat := fun text =>
      if text = "2026-01-01T00:00:00+00:00" then some ⟨1767225600, 1767225600⟩ else none }
  redactor := asciiRedactor
  malformed _ _ _ _ := ⟨_, rfl⟩
  decode raw := match scriptReceipts.find? fun value => textBytes (jsonText value) = raw with
    | some value => .value value
    | none => .malformed "Expecting value"
  digest raw := String.ofList (raw.map fun byte => Char.ofNat byte.toNat)

def quietHost : Host ℕ := ⟨fun _ => none, fun _ => none, 0⟩

namespace MailScript

abbrev bridged (script : MailScript) : System MailError MailTx MailQuery Empty MailStore (Host ℕ) :=
  bridge scriptRuntime script.outside.hosted

/-- The world the operations reach by the schedule. -/
def run (script : MailScript) (ops : List (Bridge Unit)) (schedule : List Turn) :
    BridgeWorld (Host ℕ) :=
  (World.boot MailStore.empty quietHost ops).play script.bridged (Host.oracle script.oracle) schedule

def allows (script : MailScript) (ok : MailShared (Host ℕ) → MailEvent → Bool)
    (ops : List (Bridge Unit)) (schedule : List Turn) : Bool :=
  (World.boot MailStore.empty quietHost ops).passes script.bridged (Host.oracle script.oracle) ok
    schedule

theorem sound (script : MailScript) {β : Type} (h : Host ℕ) (q : MailQuery β) :
    h.answers script.outside q (h.oracle script.oracle q).1 (h.oracle script.oracle q).2 :=
  Host.oracle_answers (fun _ _ => rfl) h q

theorem boot_reachable (script : MailScript) {ok : MailShared (Host ℕ) → MailEvent → Prop}
    {ops : List (Bridge Unit)} (known : ∀ op ∈ ops, BridgeOp scriptRuntime op) :
    Reachable script.bridged ok (World.boot MailStore.empty quietHost ops) :=
  World.boot_reachable (S := script.bridged) rfl ops known

theorem run_reachable (script : MailScript) {ops : List (Bridge Unit)}
    (known : ∀ op ∈ ops, BridgeOp scriptRuntime op) (schedule : List Turn) :
    Reachable script.bridged anyEvent (script.run ops schedule) :=
  World.play_reachable script.sound schedule (script.boot_reachable known)

theorem run_allowed (script : MailScript) {ops : List (Bridge Unit)}
    (known : ∀ op ∈ ops, BridgeOp scriptRuntime op)
    {ok : MailShared (Host ℕ) → MailEvent → Bool} {schedule : List Turn}
    (allowed : script.allows ok ops schedule) :
    Reachable script.bridged (fun s ev => ok s ev) (script.run ops schedule) :=
  World.passes_reachable script.sound schedule (script.boot_reachable known) allowed

def alone {α : Type} (script : MailScript) (p : Bridge α) : Answer α × MailShared (Host ℕ) :=
  p.alone script.bridged (Host.oracle script.oracle) ⟨.empty, quietHost, []⟩

theorem ends_alone {α : Type} (script : MailScript) (p : Bridge α) :
    p.Ends script.bridged anyEvent ⟨.empty, quietHost, []⟩ (script.alone p).1 (script.alone p).2 :=
  Prog.ends_alone script.sound p _

end MailScript

end SightMesh.Escalation
