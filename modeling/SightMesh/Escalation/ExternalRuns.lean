import SightMesh.Escalation.Client

/-! The wake subscriptions of external runs: the operations of `ExternalRunStore` and the passes of
`ExternalRunReconciler`. -/
namespace SightMesh.Escalation

open Python Concurrency

structure Receipt where
  outcome : String
  digest : String
  deriving DecidableEq

def terminalOutcomes : List String := ["completed", "failed"]

def isOne : Json → Bool
  | .num (.int n) => n = 1
  | .num (.finite q) => q = 1
  | .bool b => b
  | _ => false

/-- `outcome in TERMINAL_OUTCOMES`; a list or a dict cannot be hashed. -/
def terminalOutcome : Json → Answer String
  | .str text =>
    if text ∈ terminalOutcomes then .ok text
    else .error (.externalRun "terminal receipt outcome is invalid")
  | .arr _ | .obj _ => .error (.other "unhashable type")
  | _ => .error (.externalRun "terminal receipt outcome is invalid")

/-- The checks of `_receipt` on the bytes it has read. -/
def receiptOf (e : Runtime) (run : ExternalRun) (raw : Bytes) : Answer Receipt :=
  match e.decode raw with
  | .malformed message => .error (.externalRun ("invalid terminal receipt: " ++ message))
  | .failed message => .error (.other message)
  | .value (.obj fields) => do
    if !isOne (Dict.get fields "schema_version") then
      throw (.externalRun "terminal receipt schema_version must be 1")
    if !(Dict.get fields "subscription_id").isText run.subscriptionId ||
        !(Dict.get fields "run_id").isText run.runId then
      throw (.externalRun "terminal receipt identifies a different run")
    let outcome ← terminalOutcome (Dict.get fields "terminal_state")
    if (e.py.fromisoformat (e.py.str (Dict.get fields "finished_at"))).isNone then
      throw (.externalRun "terminal receipt finished_at must be RFC3339")
    return ⟨outcome, e.digest raw⟩
  | .value _ => .error (.externalRun "terminal receipt schema_version must be 1")

def receiptAnswer (e : Runtime) (run : ExternalRun) : Answer Bytes → Answer (Option Receipt)
  | .ok raw => (receiptOf e run raw).map some
  | .error (.os true _) => .ok none
  | .error failure => .error failure

def receipt (e : Runtime) (run : ExternalRun) : Bridge (Option Receipt) :=
  Prog.call (.readReceipt run.receiptPath) fun answer =>
    match receiptAnswer e run answer with
    | .ok seen => .ret seen
    | .error failure => .fail failure

/-! ### The store -/

def getRun (id : String) : Bridge ExternalRun := do
  match ← Prog.commit' (.getRun id) with
  | some row => .ret row
  | none => .fail (.externalRun ("unknown external run subscription: " ++ id))

def findRun (value : String) : Bridge ExternalRun := do
  match ← read fun db => db.runs.rows.find? fun row =>
      row.subscriptionId = value || row.runId = value with
  | some row => .ret row
  | none => .fail (.externalRun ("unknown external run: " ++ value))

def runKey (id : String) : String := "external-run:" ++ id

theorem runKey_ne (id : String) : runKey id ≠ "" := append_ne_empty (by decide) id

def receiptPathOf (root : String) : String := root ++ "/terminal-receipt.json"

/-- The row `subscribe` inserts, of the texts that are stored. -/
def subscribedRow (e : Runtime) (id capability root receiptPath runId : String)
    (returnSession : SessionId) (returnWorkspace : Option WorkspaceId) (now : Time) :
    ExternalRun where
  subscriptionId := id
  runId := runId
  outputRoot := root
  returnSessionId := returnSession
  returnWorkspaceId := returnWorkspace
  writerCapabilityDigest := e.py.sha256 capability
  dedupeKey := runKey id
  receiptPath := receiptPath
  createdAt := now
  state := .subscribed
  version := 0
  pid := none
  processFingerprint := none
  receiptDigest := none
  outcome := none
  diagnostic := none
  updatedAt := now

/-- The row of a subscription, whose root is redacted before anything else. -/
def redactedRow (e : Runtime) (id capability root safeRoot runId : String)
    (returnSession : SessionId) (returnWorkspace : Option WorkspaceId) (now : Time) :
    Except String ExternalRun := do
  let safeRun ← e.redact runId
  let safeSession ← e.redact returnSession
  let safeWorkspace ← returnWorkspace.mapM e.redact
  let safePath ← e.redact (receiptPathOf root)
  return subscribedRow e id capability safeRoot safePath safeRun safeSession safeWorkspace now

theorem redactedRow_ok {e : Runtime} {id capability root safeRoot runId : String}
    {returnSession : SessionId} {returnWorkspace : Option WorkspaceId} {now : Time}
    {row : ExternalRun}
    (made : redactedRow e id capability root safeRoot runId returnSession returnWorkspace now =
      .ok row) :
    ∃ safeRun safeSession safeWorkspace safePath, e.redact runId = .ok safeRun ∧
      e.redact returnSession = .ok safeSession ∧
      returnWorkspace.mapM e.redact = .ok safeWorkspace ∧
      e.redact (receiptPathOf root) = .ok safePath ∧
      row = subscribedRow e id capability safeRoot safePath safeRun safeSession safeWorkspace now := by
  unfold redactedRow at made
  cases run : e.redact runId with
  | error message => simp [run, bind, Except.bind] at made
  | ok safeRun =>
    cases session : e.redact returnSession with
    | error message => simp [run, session, bind, Except.bind] at made
    | ok safeSession =>
      cases workspace : returnWorkspace.mapM e.redact with
      | error message => simp [run, session, workspace, bind, Except.bind] at made
      | ok safeWorkspace =>
        cases path : e.redact (receiptPathOf root) with
        | error message => simp [run, session, workspace, path, bind, Except.bind] at made
        | ok safePath =>
          simp only [run, session, workspace, path, bind, Except.bind, pure, Except.pure,
            Except.ok.injEq] at made
          exact ⟨safeRun, safeSession, safeWorkspace, safePath, rfl, rfl, rfl, rfl, made.symm⟩

def subscribe (e : Runtime) (runId outputRoot : String) (returnSession : SessionId)
    (returnWorkspace : Option WorkspaceId) : Bridge (ExternalRun × String) := do
  if runId = "" ∨ returnSession = "" then
    throw (.externalRun "run_id and return_session must not be empty")
  let root ← query (.resolveRoot outputRoot)
  let safeRoot ← redacted e root
  let id ← Prog.ask .uuid
  let capability ← Prog.ask .token
  let now ← clock
  let created ← query (.prepareRoot root)
  let occupied := MailError.externalRun "run ID or output root is already leased"
  match redactedRow e id capability root safeRoot runId returnSession returnWorkspace now with
  | .error message =>
    -- The lease is inserted before the other texts are redacted; its transaction is rolled back.
    let taken ← read (·.leaseTaken id safeRoot)
    if created then query (.removeRoot root)
    throw (if taken then occupied else .other message)
  | .ok row =>
    let inserted ← Prog.commit' (.subscribe row)
    if !inserted then
      if created then query (.removeRoot root)
      throw occupied
    return (← getRun id, capability)

def moveRun (id : String) (move : RunMove) (expected : ℕ) : Bridge ExternalRun := do
  let moved ← stamped (.moveRun id move expected)
  let current ← getRun id
  if moved then return current
  throw (.stale ("stale " ++ move.target.name ++ " transition for " ++ id ++ "; current=" ++
    current.state.name))

def bind (e : Runtime) (id capability : String) (pid : ℤ) (fingerprint : String) (expected : ℕ) :
    Bridge ExternalRun := do
  let notLive := MailError.externalRun "process fingerprint is not live at bind"
  if pid ≤ 0 ∨ fingerprint = "" then throw notLive
  if (← Prog.ask (.observe .bind pid)) ≠ some fingerprint then throw notLive
  let run ← getRun id
  if (← getRun id).writerCapabilityDigest ≠ e.py.sha256 capability then
    throw (.externalRun "writer capability mismatch")
  if run.state = .running ∧ run.pid = some pid ∧ run.processFingerprint = some fingerprint then
    return run
  moveRun id (.bind pid fingerprint) expected

def diagnose (e : Runtime) (run : ExternalRun) (message : String) : Bridge ExternalRun := do
  let safe ← redacted e message
  stamped (.diagnose run.subscriptionId run.version safe)
  getRun run.subscriptionId

def preserveTerminal (e : Runtime) (run : ExternalRun) (receipt : Receipt) : Bridge ExternalRun :=
  match present run.receiptDigest with
  | some digest =>
    if digest ≠ receipt.digest then diagnose e run "duplicate terminal receipt differs"
    else .ret run
  | none => moveRun run.subscriptionId (.terminal receipt.digest receipt.outcome) run.version

def preserveLost (run : ExternalRun) (diagnostic : String) : Bridge ExternalRun :=
  moveRun run.subscriptionId (.lost diagnostic) run.version

def beginDelivery (run : ExternalRun) : Bridge ExternalRun :=
  if run.state = .delivering then .ret run
  else moveRun run.subscriptionId .deliver run.version

def markNotified (run : ExternalRun) : Bridge ExternalRun := do
  let marked ← stamped (.markNotified run.subscriptionId run.version)
  let current ← getRun run.subscriptionId
  if marked ∨ current.state = .notified then return current
  throw (.stale ("stale notified transition for " ++ run.subscriptionId ++ "; current=" ++
    current.state.name))

/-! ### The reconciler -/

def live (run : ExternalRun) : Bridge Bool :=
  match run.pid, present run.processFingerprint with
  | some pid, some fingerprint =>
    if pid = 0 then .ret false
    else do return (← Prog.ask (.observe (.live run.subscriptionId) pid)) = some fingerprint
  | _, _ => .ret false

/-- A running process that has disappeared. -/
def gone (run : ExternalRun) : Bridge Bool := do
  if run.state = .running then return !(← live run)
  return false

def settleRun (e : Runtime) (run : ExternalRun) : Bridge (Option ExternalRun) := do
  let seen ← Prog.handle (do return Except.ok (← receipt e run)) fun failure =>
    match failure.runMessage with
    | some message => .ret (.error message)
    | none => .fail failure
  match seen with
  | .error message =>
    if ← gone run then
      return some (← preserveLost run
        ("receipt unreadable after process disappearance: " ++ message))
    return none
  | .ok (some receipt) => return some (← preserveTerminal e run receipt)
  | .ok none =>
    if ← gone run then
      return some (← preserveLost run
        "process fingerprint disappeared without terminal receipt")
    return some run

def runMessage (run : ExternalRun) : String :=
  "STATUS: external run " ++ run.runId ++ " " ++ run.outcome.getD "None" ++ "; output_root=" ++
    run.outputRoot ++ "; receipt=" ++ run.receiptPath

/-- The delivery of `reconcile_one`; `none` is an exception it leaves to a later pass. -/
def notifyRun (e : Runtime) (run : ExternalRun) : Bridge (Option Delivery) :=
  Prog.handle
    (do return some (← escalate e (.run run.subscriptionId) (runKey run.subscriptionId)
      run.returnWorkspaceId (some run.returnSessionId) (runMessage run) (some run.dedupeKey)))
    fun failure => if failure.retriesDelivery then .ret none else .fail failure

def deliverRun (e : Runtime) (run : ExternalRun) : Bridge ℕ :=
  if run.state ∈ [.terminal, .lost, .delivering] then do
    let run ← beginDelivery run
    match ← notifyRun e run with
    | some (.delivered ..) =>
      let _ ← markNotified run
      return 1
    | _ => return 0
  else .ret 0

def reconcileRun (e : Runtime) (lookUp : Bridge ExternalRun) : Bridge ℕ := do
  match ← settleRun e (← lookUp) with
  | some run => deliverRun e run
  | none => return 0

def reconcileOne (e : Runtime) (id : String) : Bridge ℕ := reconcileRun e (getRun id)

def reconcileNamed (e : Runtime) (value : String) : Bridge ℕ := reconcileRun e (findRun value)

def reconcileEach (e : Runtime) : List ExternalRun → Bridge ℕ
  | [] => .ret 0
  | run :: rest => do
    let here ← reconcileOne e run.subscriptionId
    return here + (← reconcileEach e rest)

def reconcile (e : Runtime) : Bridge ℕ := do
  reconcileEach e (← read (·.pendingRuns))

end SightMesh.Escalation
