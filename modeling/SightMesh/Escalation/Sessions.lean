import SightMesh.Escalation.Client
import SightMesh.Executor.Processes

/-! The session passes of `DurableExecutionReconciler`: native commands and processes are read, and
what has ended is told to the parent session. `me` names the reconciler object, which remembers what
it has told. -/
namespace SightMesh.Escalation

open Python Concurrency

def forEach {α : Type} : List α → (α → Bridge Unit) → Bridge Unit
  | [], _ => .ret ()
  | x :: xs, body => (body x).bind fun _ => forEach xs body

/-! ### Native commands -/

structure DurableCommand where
  id : String
  sessionId : SessionId
  state : String
  dedupeKey : Json
  executionProcessId : Json

/-- `_command_fields`; the body is read by nobody here. -/
def commandFields (py : Library) (sessionId : SessionId) (row : Dict) : DurableCommand where
  id := py.str (row.get "id")
  sessionId := py.str ((row.get "session_id").orElse' (.str sessionId))
  state := py.str (((row.get "state").orElse' (row.get "status")).orElse' (.str "queued"))
  dedupeKey := row.get "dedupe_key"
  executionProcessId := row.get "execution_process_id"

def commands (e : Runtime) (sessionId : SessionId) : Bridge (List DurableCommand) := do
  let rows ← query (.sessionCommands sessionId)
  if rows.all fun row => row.has "id" then return rows.map (commandFields e.py sessionId)
  throw (.other "id")

def DurableCommand.ended (command : DurableCommand) : Bool := command.state ∈ commandTerminalStates

def lifecycleNotificationKeyPrefixes : List String :=
  ["child-command:", "child-terminal:", "signal-policy:"]

def isLifecycle (key : String) : Bool :=
  lifecycleNotificationKeyPrefixes.any fun start => startsWith start key

theorem isLifecycle_append {text : String}
    (apart : ∀ start ∈ lifecycleNotificationKeyPrefixes,
      startsWith start text = false ∧ startsWith text start = false) (rest : String) :
    isLifecycle (text ++ rest) = false := by
  unfold isLifecycle
  rw [List.any_eq_false]
  intro start mem
  rw [startsWith_append_of_apart (apart start mem).1 (apart start mem).2]
  decide

/-- The command is a lifecycle notification; a key that is no text has no `startswith`. -/
def DurableCommand.isNotification (command : DurableCommand) : Bridge Bool :=
  match command.dedupeKey with
  | .str key => .ret (key ≠ "" && isLifecycle key)
  | key => if key.truthy then .fail (.other "no attribute startswith") else .ret false

/-! ### Telling the parent -/

def rejectInvalidRoute (e : Runtime) (me : ℕ) (child parent : SessionId) (message key : String) :
    Bridge Unit := do
  let parked ← park e ⟨child, none, some parent, .parentUnreachable, message, key⟩
  if parked.status = .parked then let _ ← resolve parked.escalationId
  Prog.commit' (.remember me .notified key)

def notifyLiveParent (e : Runtime) (me : ℕ) (parent child : SessionId) (message key : String) :
    Bridge Unit := do
  if ← Prog.commit' (.recalls me .notified key) then return
  if ← read (·.hasTerminalDedupeKey key) then return
  if parent = child then rejectInvalidRoute e me child parent message key
  else match ← Prog.ask (.liveSuccessor parent) with
    | none => let _ ← park e ⟨child, none, some parent, .parentUnreachable, message, key⟩
    | some destination =>
      if destination = child then rejectInvalidRoute e me child parent message key
      else
        let _ ← query (.send .notice destination message child key "continue")
        Prog.commit' (.remember me .notified key)
        let _ ← resolveDedupeKey key

def childTerminalKey (child : SessionId) (status : String) : String :=
  "child-terminal:" ++ child ++ ":" ++ status

def reconcileChildTerminal (e : Runtime) (me : ℕ) (session : Dict) (status : String) :
    Bridge Unit := do
  if (session.get "parent_session_id").truthy then
    let child := e.py.str (session.get "id")
    notifyLiveParent e me (e.py.str (session.get "parent_session_id")) child
      ("CHILD_TERMINAL: " ++ child ++ " " ++ status) (childTerminalKey child status)

def childCommandKey (id state : String) : String := "child-command:" ++ id ++ ":" ++ state

def wakeParentForTerminalCommands (e : Runtime) (me : ℕ) (session : Dict)
    (commands : List DurableCommand) : Bridge Unit := do
  if (session.get "parent_session_id").truthy then
    let child := e.py.str (session.get "id")
    forEach commands fun command => do
      if ← command.isNotification then return
      if command.ended then
        notifyLiveParent e me (e.py.str (session.get "parent_session_id")) child
          ("CHILD_DELIVERY: " ++ child ++ " " ++ command.id ++ " " ++ command.state)
          (childCommandKey command.id command.state)

/-! ### Signal policies -/

/-- A finite number, as the detectors compute with it. -/
def finiteNumber : Json → Option ℚ
  | .num (.int n) => some n
  | .num (.finite q) => some q
  | .bool b => some (if b then 1 else 0)
  | _ => none

def tokenUsage : Json → Option ℚ
  | .obj wrapped => match Dict.get wrapped "content" with
    | .obj content => match Dict.get content "entry_type" with
      | .obj entry =>
        if (Dict.get entry "type").isText "token_usage_info" then
          match finiteNumber (Dict.get entry "total_tokens"),
            finiteNumber (Dict.get entry "model_context_window") with
          | some used, some window => if window = 0 then none else some (used / window)
          | _, _ => none
        else none
      | _ => none
    | _ => none
  | _ => none

def contextPressure (snapshot : Json) : Option ℚ :=
  match snapshot with
  | .obj fields => match Dict.get fields "entries" with
    | .arr entries => entries.findSome? tokenUsage
    | _ => none
  | _ => none

def pressureOf (e : Runtime) : List Dict → Bridge (Option ℚ)
  | [] => .ret none
  | process :: rest => do
    if !process.has "id" then throw (.other "id")
    let here := contextPressure (← query (.normalizedSnapshot (e.py.str (process.get "id"))))
    let others ← pressureOf e rest
    return match here, others with
      | some a, some b => some (max a b)
      | some a, none => some a
      | none, others => others

def processTime (py : Library) (process : Dict) : Option ℚ :=
  ["updated_at", "started_at", "created_at"].findSome? fun name =>
    match process.get name with
    | .str text => (py.fromisoformat text).map IsoTime.utc
    | value => finiteNumber value

def idleSeconds (py : Library) (processes : List Dict) (now : Time) : Option Time :=
  ((processes.filterMap (processTime py)).max?).map fun last => now - last

/-- `status not in {None, "running"}`; a list or a dict cannot be hashed. -/
def statusEnded : Json → Bridge Bool
  | .null => .ret false
  | .str text => .ret (text ≠ "running")
  | .arr _ | .obj _ => .fail (.other "unhashable type")
  | _ => .ret true

def anyEnded : List Dict → Bridge Bool
  | [] => .ret false
  | process :: rest => do
    if ← statusEnded (process.get "status") then return true
    anyEnded rest

def conditionNumber (py : Library) (start condition : String) : Option ℚ :=
  if startsWith start condition then
    match py.float (.str (String.ofList (condition.toList.drop start.length))) with
    | some (.int n) => some n
    | some (.finite q) => some q
    | _ => none
  else none

def triggered (py : Library) (terminal : Bool) (pressure : Option ℚ) (idle : Option Time)
    (condition : String) : Bool :=
  condition = "terminal" && terminal ||
    (match conditionNumber py "context-pressure:" condition, pressure with
      | some limit, some value => limit ≤ value
      | _, _ => false) ||
    match conditionNumber py "idle:" condition, idle with
      | some limit, some value => limit < value
      | _, _ => false

def signalPolicyKey (sessionId : SessionId) (condition : String) : String :=
  "signal-policy:" ++ sessionId ++ ":" ++ condition

def optionalText (py : Library) (value : Json) : Option String :=
  if value.truthy then some (py.str value) else none

/-- A round of the loop over the conditions of a policy. -/
def signal (e : Runtime) (session : Dict) (condition : String) : Bridge Unit := do
  let sessionId := e.py.str (session.get "id")
  let key := signalPolicyKey sessionId condition
  if ← read (·.hasDedupeKey key) then return
  let _ ← escalate e .session sessionId (present (optionalText e.py (session.get "workspace_id")))
    (optionalText e.py (session.get "parent_session_id"))
    ("STATUS: signal policy triggered: " ++ condition) (some key)

def reconcileSignalPolicy (e : Runtime) (session : Dict) (commands : List DurableCommand)
    (processes : List Dict) : Bridge Unit := do
  let policy ← read (·.policies.get (e.py.str (session.get "id")))
  let conditions := (policy.map SignalPolicy.conditions).getD []
  if conditions.isEmpty then return
  let terminal ← anyEnded processes
  let pressure ← pressureOf e processes
  let idle ← if commands.any fun command => !command.ended then
      (do return idleSeconds e.py processes (← clock))
    else .ret none
  forEach conditions fun condition => do
    if triggered e.py terminal pressure idle condition then signal e session condition

/-! ### The passes -/

def cancelQuarantined (py : Library) (commands : List DurableCommand) : Bridge Unit :=
  forEach commands fun command => do
    if !command.ended && command.executionProcessId.truthy then
      query (.stopExecution (py.str command.executionProcessId) ("quarantine:" ++ command.id))

def interruptAndRequeue (py : Library) (me : ℕ) (command : DurableCommand) : Bridge Unit := do
  if ← Prog.commit' (.recalls me .requeued command.id) then return
  if !command.executionProcessId.truthy then
    throw (.cdesktop .other ("Command " ++ command.id ++ " has no execution to requeue"))
  query (.requeue command.sessionId (py.str command.executionProcessId))
  Prog.commit' (.remember me .requeued command.id)

def processStatus (py : Library) (process : Dict) : String :=
  py.str ((process.get "status").orElse' (.str "terminal"))

/-- A claimed command whose process has ended. -/
def reconcileClaimed (e : Runtime) (me : ℕ) (session : Dict) (processes : List Dict)
    (command : DurableCommand) : Bridge Unit := do
  if command.state = "claimed" then
    match processes.reverse.find? fun process =>
        e.py.str (process.get "id") = e.py.str command.executionProcessId with
    | none => return
    | some process =>
      if (process.get "status").isText "running" then return
      reconcileChildTerminal e me session (processStatus e.py process)
      interruptAndRequeue e.py me command

def reconcileSession (e : Runtime) (me : ℕ) (session : Dict) : Bridge Unit := do
  if !session.has "id" then throw (.other "id")
  let sessionId := e.py.str (session.get "id")
  let rows ← commands e sessionId
  if ← Prog.ask (.quarantined sessionId) then cancelQuarantined e.py rows
  else
    let processes ← query (.executionProcesses sessionId)
    wakeParentForTerminalCommands e me session rows
    reconcileSignalPolicy e session rows processes
    forEach rows (reconcileClaimed e me session processes)
    if ← Prog.ask .online then query (.dispatchQueued sessionId)

def reconcileSessions (e : Runtime) (me : ℕ) (sessions : List Dict) : Bridge Unit := do
  if ← query .supportsRecovery then
    forEach sessions fun session => (reconcileSession e me session).handle fun failure =>
      if failure.isCdesktop then .ret () else .fail failure

end SightMesh.Escalation
