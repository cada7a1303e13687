import SightMesh.Delivery.Client

/-! `RepowireSessionBridge`: what a peer says to a session becomes a command of the session, and the
peer is told so. -/
namespace SightMesh.Delivery

open Concurrency Python

variable (py : Library)

inductive Kind where
  | ask | notify | broadcast
  deriving DecidableEq

def Kind.name : Kind → String
  | .ask => "ask"
  | .notify => "notify"
  | .broadcast => "broadcast"

def Kind.title : Kind → String
  | .ask => "Ask"
  | .notify => "Notify"
  | .broadcast => "Broadcast"

def kindOf (message : Dict) : Option Kind :=
  [Kind.ask, .notify, .broadcast].find? fun kind => (message.get "type").isText kind.name

/-- `message.get(name, default)`, as an f-string shows it. -/
def shown (message : Dict) (name default : String) : String :=
  if message.has name then py.str (message.get name) else default

/-- What a message is told from others by. -/
def sourceOf (message : Dict) : String :=
  let source := (message.get "delivery_id").orElse' (message.get "correlation_id")
  if source.truthy then py.str source
  else py.sha256 (py.dumps (.obj
    [("from_peer", message.get "from_peer"), ("text", message.get "text")]))

def keyOf (sessionId : String) (kind : Kind) (source : String) : String :=
  "repowire:" ++ sessionId ++ ":" ++ kind.name ++ ":" ++ source

def dedupeKey (sessionId : String) (kind : Kind) (message : Dict) : String :=
  keyOf sessionId kind (sourceOf py message)

def promptFor (assignedName : String) (kind : Kind) (message : Dict) : String :=
  let fromPeer := shown py message "from_peer" "unknown"
  let text := shown py message "text" ""
  match kind with
  | .ask =>
    "## Request from @" ++ fromPeer ++ "\n\n" ++ text ++ "\n\n" ++
      "When complete, send a concise result back with:\n\n" ++
      "sightmesh bridge-reply " ++ py.str (message.get "correlation_id") ++
      " --from-peer " ++ assignedName ++
      (if (message.get "question").truthy then " --question" else "") ++
      " --message 'RESULT'\n\n" ++
      "Do not delegate to hidden or native subagents."
  | kind =>
    "## " ++ kind.title ++ " from @" ++ fromPeer ++ "\n\n" ++ text ++ "\n\n" ++
      "Do not delegate to hidden or native subagents."

/-! ### Messages -/

variable (sessionId : String)

def sendFrame (frame : Frame) : Net Unit := query (.frame sessionId frame)

def sendDeliveryAck (message : Dict) : Net Unit :=
  if (message.get "delivery_id").truthy then
    sendFrame sessionId (.deliveryAck (message.get "delivery_id") (message.get "type") .injected)
  else return ()

def sendDeliveryFailure (message : Dict) (detail : String) : Net Unit := do
  if (message.get "delivery_id").truthy then
    sendFrame sessionId
      (.deliveryAck (message.get "delivery_id") (message.get "type") (.failed detail))
  if (message.get "correlation_id").truthy then
    sendFrame sessionId (.error (message.get "correlation_id") detail)

def undelivered : Fault → Net (Option String)
  | .other message => throw (.other message)
  | fault => return some fault.message

def deliver (assignedName : String) (kind : Kind) (message : Dict) : Net Unit := do
  let failure ← Prog.handle
    (do
      let _ ← send py sessionId (promptFor py assignedName kind message) none
        (some (dedupeKey py sessionId kind message)) "continue"
      return none)
    undelivered
  match failure with
  | none => sendDeliveryAck sessionId message
  | some detail => sendDeliveryFailure sessionId message detail

def ignore (message : Dict) : Net Unit :=
  match message.get "type" with
  | .arr _ | .obj _ => throw (.other "unhashable type")
  | kind =>
    if kind.isText "query" then
      sendFrame sessionId (.error (message.get "correlation_id")
        "Legacy query is unsupported by the cdesktop bridge; use ask")
    else return ()

def handle (assignedName : String) (message : Dict) : Net Unit :=
  if (message.get "type").isText "ping" then sendFrame sessionId .pong
  else match kindOf message with
    | some kind => deliver py sessionId assignedName kind message
    | none => ignore sessionId message

/-! ### Connections -/

/-- `async for raw in ws`, for as many messages as the connection has. -/
def serve (assignedName : String) : ℕ → Net Unit
  | 0 => return ()
  | messages + 1 => do
    match ← query (.receive sessionId) with
    | none => return ()
    | some message =>
      handle py sessionId assignedName message
      serve assignedName messages

/-- `_connection`, up to the name the peer is given. -/
def handshake (assignedName path : String) : Net String := do
  query (.dial sessionId)
  let existing ← ask (.peerIdentity sessionId)
  let token ← ask .authToken
  sendFrame sessionId (.connect assignedName path existing (present token))
  match ← query (.receive sessionId) with
  | none => throw (.other "no close frame received or sent")
  | some connected =>
    if (connected.get "code").isText "peer_retired" ∧ existing.isSome then
      query (.clearPeerIdentity sessionId)
    if ¬ (connected.get "type").isText "connected" then
      throw (.runtime (py.str (.obj connected)))
    if ¬ connected.has "session_id" then throw (.other "'session_id'")
    query (.setPeerIdentity sessionId (connected.get "session_id"))
    return if (connected.get "display_name").truthy then py.str (connected.get "display_name")
      else assignedName

def capture {α : Type} (body : Net α) : Net (Except Fault α) :=
  Prog.handle (do return .ok (← body)) fun fault => .ret (.error fault)

/-- `_connection`: the name the bridge goes by from then on, and how the connection ended. -/
def connection (assignedName path : String) : Net (String × Except Fault Unit) := do
  match ← capture (handshake py sessionId assignedName path) with
  | .error fault => return (assignedName, .error fault)
  | .ok name =>
    let ended ← capture (do
      sendFrame sessionId .status
      serve py sessionId name (← ask .patience))
    return (name, ended)

def run (path : String) : ℕ → String → ℚ → Net Unit
  | 0, _, _ => return ()
  | rounds + 1, assignedName, delay => do
    match ← connection py sessionId assignedName path with
    | (name, .ok ()) => run path rounds name 1
    | (name, .error _) =>
      ask (.sleep delay)
      run path rounds name (min (delay * 2) 15)

end SightMesh.Delivery
