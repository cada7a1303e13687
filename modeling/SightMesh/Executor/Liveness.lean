import SightMesh.Executor.Processes

/-! Progress evidence and the stall classifier. The reads are a program, since the executor may
answer or fail each of them; what they amount to is computed. -/
namespace SightMesh

open Python

def idleUnreportedGrace : Time := 120

def defaultApprovalTimeout : Time := 1800

def maxClockSkewSeconds : Time := 300

def implausibleTimestamp : Time := 100000000000

def DetectionPolicy.effectiveApprovalTimeout (policy : DetectionPolicy) : Time :=
  policy.approvalTimeout.getD defaultApprovalTimeout

structure ProgressEvidence where
  lastActivityAt : Option Time
  observed : Bool
  processAlive : Bool
  streamAlive : Option Bool
  outputGrowing : Bool
  outputUnmeasured : Bool
  parked : Bool
  turnEnded : Bool
  lifecycleCalled : Bool
  queuedMail : Bool
  lostReason : Option String
  turns : ℕ
  tokens : ℕ
  outputBytes : Option ℕ
  confidence : String
  sources : List String

/-- The answer of a pass that read nothing. -/
def ProgressEvidence.unread (lastActivityAt : Option Time) (sources : List String) :
    ProgressEvidence where
  lastActivityAt := lastActivityAt
  observed := false
  processAlive := false
  streamAlive := none
  outputGrowing := false
  outputUnmeasured := false
  parked := false
  turnEnded := false
  lifecycleCalled := false
  queuedMail := false
  lostReason := none
  turns := 0
  tokens := 0
  outputBytes := none
  confidence := "degraded"
  sources := sources

def ProgressEvidence.silentFor (evidence : ProgressEvidence) (now : Time) : Option Time :=
  evidence.lastActivityAt.map fun at' => max 0 (now - at')

inductive Classification where
  | lost | parked | live | unknown | idleUnreported | limbo | stalled
  deriving DecidableEq

def Classification.name : Classification → String
  | lost => "lost"
  | parked => "parked"
  | live => "live"
  | unknown => "unknown"
  | idleUnreported => "idle_unreported"
  | limbo => "limbo"
  | stalled => "stalled"

/-- The classifications a task row can carry. -/
def Classification.liveness : Classification → Option Liveness
  | live => some .live
  | parked => some .parked
  | idleUnreported => some .idleUnreported
  | limbo => some .limbo
  | stalled => some .stalled
  | lost | unknown => none

/-- `classify`: the causes in order, the most definitive first. -/
def classify (evidence : ProgressEvidence) (now : Time) (policy : DetectionPolicy) :
    Classification :=
  if evidence.lostReason.any (· ≠ "") && !evidence.processAlive then .lost
  else if evidence.parked then .parked
  else if evidence.outputGrowing then .live
  else match evidence.silentFor now with
    | none => .unknown
    | some silent =>
      if evidence.turnEnded && !evidence.lifecycleCalled && !evidence.queuedMail then
        if silent < idleUnreportedGrace then .live
        else if evidence.observed then .idleUnreported else .unknown
      else if silent < policy.progressTimeout then .live
      else if !evidence.observed || evidence.outputUnmeasured then .unknown
      else if evidence.streamAlive = some false && evidence.processAlive then .limbo
      else .stalled

def overBudget (evidence : ProgressEvidence) (budget : Option Budget) : Bool :=
  match budget with
  | none => false
  | some budget =>
    (match budget.maxTurns with | some ceiling => decide (ceiling ≤ evidence.turns) | none => false) ||
    (match budget.maxTokens with | some ceiling => decide (ceiling ≤ evidence.tokens) | none => false)

structure Finding where
  reason : Classification
  evidence : ProgressEvidence
  now : Time
  overBudget : Bool

def Finding.payload (py : Library) (finding : Finding) : String :=
  let seconds := fun (value : Option Time) => match value with
    | some q => Json.num (.finite q)
    | none => Json.null
  py.dumps (.obj ([
    ("confidence", .str finding.evidence.confidence),
    ("sources", .arr (finding.evidence.sources.map .str)),
    ("silent_for", seconds (finding.evidence.silentFor finding.now)),
    ("observed", .bool finding.evidence.observed),
    ("process_alive", .bool finding.evidence.processAlive),
    ("stream_alive", match finding.evidence.streamAlive with | some b => .bool b | none => .null),
    ("output_growing", .bool finding.evidence.outputGrowing),
    ("turns", .num (.int finding.evidence.turns)),
    ("tokens", .num (.int finding.evidence.tokens)),
    ("cost", .null),
    ("reason", .str finding.reason.name)] ++
    if finding.overBudget then [("over_budget", .bool true)] else []))

/-! ### Reading untrusted values -/

def overflowError : KernelError := .value "int too large to convert to float"

/-- The integers `float` and `math.isfinite` raise `OverflowError` on. -/
def overflows (n : ℤ) : Bool := 2 ^ 1024 - 2 ^ 970 ≤ n.natAbs

/-- `_plausible`: accept a timestamp only if it can be a moment in this run. -/
def plausibleMoment (value : Json) (now : Time) : Answer (Option Time) :=
  let bounded := fun (number : ℚ) =>
    if number ≤ 0 ∨ implausibleTimestamp ≤ number ∨ now + maxClockSkewSeconds < number then none
    else some number
  match value with
  | .num (.int n) => if overflows n then .error overflowError else .ok (bounded n)
  | .num (.finite q) => .ok (bounded q)
  | _ => .ok none

def nonNegativeInt (value : Json) : Answer (Option ℕ) :=
  match value with
  | .num (.int n) =>
    if overflows n then .error overflowError
    else .ok (if n < 0 then none else some n.toNat)
  | .num (.finite q) => .ok (if q < 0 then none else some q.floor.toNat)
  | _ => .ok none

def status (py : Library) (process : Dict) : String :=
  match process.get "status" with
  | .str s => py.lower (py.strip s)
  | _ => ""

/-- `_timestamp`: the first plausible one of four fields. -/
def timestamp (py : Library) (process : Dict) (now : Time) : Answer (Option Time) :=
  let rec first : List String → Answer (Option Time)
    | [] => .ok none
    | name :: names =>
      let value : Option Json := match process.get name with
        | .str raw => (py.fromisoformat (raw.replace "Z" "+00:00")).map
            fun parsed => .num (.finite parsed.utc)
        | value => some value
      match value with
      | none => first names
      | some value =>
        match plausibleMoment value now with
        | .error e => .error e
        | .ok (some checked) => .ok (some checked)
        | .ok none => first names
  first ["completed_at", "updated_at", "started_at", "created_at"]

def eligibleProcesses (rows : List Dict) : List Dict :=
  rows.filter fun p => !(p.get "dropped").truthy && !(p.get "run_reason").isText "devserver"

def runningProcesses (py : Library) (rows : List Dict) : List Dict :=
  rows.filter fun p => status py p = "running"

/-- `_current_execution`: a running row always wins, among equals the newest. -/
def currentExecution (py : Library) (rows : List Dict) (now : Time) : Answer (Option Dict) := do
  let running := runningProcesses py rows
  let candidates := if running.isEmpty then rows else running
  let keyed ← candidates.mapM fun p => do
    let at' ← timestamp py p now
    return ((some (at'.getD 0), py.str ((p.get "id").orElse' (.str ""))), p)
  return (maxBy (fun a b => earlierKey a.1 b.1) keyed).map Prod.snd

def outputBytes (rows : List Dict) : Answer (Option ℕ) :=
  rows.foldlM (fun total p => do
    if p.has "output_bytes" then
      match ← nonNegativeInt (p.get "output_bytes") with
      | none => return total
      | some value => return some (total.getD 0 + value)
    else return total) none

def degradedLoss (py : Library) (process : Dict) : Option String :=
  let killed := if status py process = "killed" then some "killed" else none
  match process.get "exit_reason" with
  | .str reason => if py.strip reason = "" then killed else some (py.strip reason)
  | _ => killed

def snapshotTokens (snapshot : Dict) : Answer ℕ :=
  let rec first : List Json → Answer ℕ
    | [] => .ok 0
    | wrapped :: rest =>
      let entry : Option Dict := match wrapped with
        | .obj fields => match Dict.get fields "content" with
          | .obj content => match Dict.get content "entry_type" with
            | .obj entry => if (Dict.get entry "type").isText "token_usage_info" then some entry
                else none
            | _ => none
          | _ => none
        | _ => none
      match entry with
      | none => first rest
      | some entry =>
        match nonNegativeInt (entry.get "total_tokens") with
        | .error e => .error e
        | .ok (some used) => .ok used
        | .ok none => first rest
  match snapshot.get "entries" with
  | .arr entries => first entries
  | _ => .ok 0

/-- `_queued_mail`, of a status that was read. -/
def queuedMail (status : Dict) : Answer (Option Bool) :=
  let rec first : List String → Answer (Option Bool)
    | [] => .ok none
    | name :: names =>
      match status.get name with
      | .bool b => .ok (some b)
      | .num (.int n) => if overflows n then .error overflowError else .ok (some (0 < n))
      | .num (.finite q) => .ok (some (0 < q))
      | .arr items => .ok (some (!items.isEmpty))
      | _ => first names
  first ["pending", "queued", "depth"]

/-! ### Gathering evidence -/

/-- The typed markers a snapshot offers. -/
def typedMarkers (snapshot : Option Dict) : Dict :=
  match snapshot with
  | none => []
  | some fields => ["turn_ended", "parked", "lifecycle_called", "lost_reason"].filterMap
      fun marker => (fields.lookup marker).map fun value => (marker, value)

/-- The loss attribution of a pass: the typed marker, or else the current row's. -/
def lossAttribution (py : Library) (typed : Dict) (current : Option Dict) : Option String :=
  match typed.get "lost_reason" with
  | .null => (current.bind (degradedLoss py)).filter (· ≠ "")
  | marker => if marker.truthy then some (py.str marker) else none

/-- The timestamps, the checkpoint and the output bytes of a row read. -/
def rowEvidence (py : Library) (now : Time) (checkpointAt : Option Time) (rows : List Dict) :
    Answer (List Time × Option Time × Option ℕ) := do
  let stamps ← rows.mapM fun p => timestamp py p now
  let checkpoint ← match checkpointAt with
    | none => pure none
    | some at' => plausibleMoment (.num (.finite at')) now
  let bytes ← outputBytes rows
  return (stamps.filterMap id ++ checkpoint.toList, checkpoint, bytes)

/-- The token count and the last activity a snapshot reports. -/
def snapshotEvidence (now : Time) (snapshot : Option Dict) : Answer (ℕ × Option Time) := do
  match snapshot with
  | none => return (0, none)
  | some fields =>
    let tokens ← snapshotTokens fields
    let activity ← plausibleMoment (Dict.get fields "last_activity_at") now
    return (tokens, activity)

def streamAlive (snapshot : Option Dict) : Option Bool :=
  match snapshot with
  | none => none
  | some fields => match fields.lookup "stream_alive" with
    | none => some true
    | some (.bool b) => some b
    | some _ => none

/-- `_safe`: a failed read is missing evidence. -/
def safely {β : Type} (q : Query (Answer β)) : Kernel (Option β) :=
  (Concurrency.Prog.ask q).bind fun
    | .ok value => .ret (some value)
    | .error _ => .ret none

def lift {β : Type} : Answer β → Kernel β
  | .ok value => .ret value
  | .error e => .fail e

/-- `_read_snapshot`, where only an object is a snapshot. -/
def readSnapshot (py : Library) (current : Option Dict) : Kernel (Option Dict) :=
  match current with
  | none => return none
  | some process => do
    match ← safely (.normalizedSnapshot (py.str ((process.get "id").orElse' (.str "")))) with
    | some (.obj fields) => return some fields
    | _ => return none

def readQueuedMail (sessionId : SessionId) (typed : Dict) : Kernel (Option Bool) :=
  if (typed.get "turn_ended").truthy then do
    match ← safely (.queueStatus sessionId) with
    | none => return none
    | some status => lift (queuedMail status)
  else return none

def gatherEvidence (py : Library) (sessionId : SessionId) (now : Time) (checkpointAt : Option Time)
    (previousOutputBytes : Option ℕ) : Kernel ProgressEvidence := do
  let rows := eligibleProcesses ((← safely (.executionProcesses sessionId)).getD [])
  if rows.isEmpty then
    let checkpoint ← lift (match checkpointAt with
      | none => .ok none
      | some at' => plausibleMoment (.num (.finite at')) now)
    return .unread checkpoint (if checkpointAt.isSome then ["checkpoint"] else [])
  let (moments, checkpoint, bytes) ← lift (rowEvidence py now checkpointAt rows)
  let current ← lift (currentExecution py rows now)
  let snapshot ← readSnapshot py current
  let (tokens, activity) ← lift (snapshotEvidence now snapshot)
  let typed := typedMarkers snapshot
  let queued ← readQueuedMail sessionId typed
  let degraded : Bool := (match typed.get "lost_reason" with | .null => true | _ => false) &&
    (current.bind (degradedLoss py)).isSome
  return {
    lastActivityAt := maxBy (fun a b => decide (a < b)) (moments ++ activity.toList)
    observed := true
    processAlive := !(runningProcesses py rows).isEmpty
    streamAlive := streamAlive snapshot
    outputGrowing := match previousOutputBytes, bytes with
      | some before, some bytes => decide (before < bytes)
      | _, _ => false
    outputUnmeasured := bytes.isSome && previousOutputBytes.isNone
    parked := (typed.get "parked").truthy
    turnEnded := (typed.get "turn_ended").truthy
    lifecycleCalled := (typed.get "lifecycle_called").truthy
    queuedMail := queued.getD false
    lostReason := lossAttribution py typed current
    turns := (rows.filter fun p => (p.get "run_reason").isText "codingagent").length
    tokens := tokens
    outputBytes := bytes
    confidence := if typed.isEmpty then "degraded" else "typed"
    sources := ["execution_processes"] ++ (if checkpoint.isSome then ["checkpoint"] else []) ++
      (if bytes.isSome then ["output_bytes"] else []) ++
      (if snapshot.isSome then ["normalized_snapshot"] else []) ++
      (if activity.isSome then ["transcript"] else []) ++
      (if queued.isSome then ["queue_status"] else []) ++
      (if degraded then ["process_status"] else []) }

end SightMesh
