import SightMesh.Kernel.Transactions

/-! What the client reads from an executor's process rows and error texts. -/
namespace SightMesh

open Python

def commandTerminalStates : List String := ["done", "failed", "cancelled"]

def processFailureStatuses : List String := ["failed", "killed"]

def eventTime (py : Library) (process : Dict) : Option ℚ :=
  match (((process.get "completed_at").orElse' (process.get "updated_at")).orElse'
      (process.get "started_at")).orElse' (process.get "created_at") with
  | .str raw => (py.fromisoformat raw).map IsoTime.utc
  | _ => none

/-- The order of `(event time, id)` keys, where a missing time comes first. -/
def earlierKey : Option ℚ × String → Option ℚ × String → Bool
  | (none, a), (none, b) => decide (a < b)
  | (none, _), (some _, _) => true
  | (some _, _), (none, _) => false
  | (some s, a), (some t, b) => decide (s < t ∨ s = t ∧ a < b)

def latestExecutionProcess (py : Library) (processes : List Dict) : Option Dict :=
  let order := fun (p : Dict) => (eventTime py p, py.str ((p.get "id").orElse' (.str "")))
  maxBy (fun a b => earlierKey (order a) (order b)) <|
    processes.filter fun p => !(p.get "dropped").truthy && !(p.get "run_reason").isText "devserver"

def processOutcomeClasses : List (String × String) :=
  [("quota_exhausted", "rate_limited"), ("rate_limited_transient", "rate_limited"),
    ("auth_expired", "auth"), ("auth_invalid", "auth")]

def outcomeReset (py : Library) (now : Time) (outcome : Dict) : Option Time :=
  match outcome.get "resets_at" with
  | .str raw => (py.fromisoformat raw).map IsoTime.timestamp
  | _ => match py.float (outcome.get "retry_after_seconds") with
    | some (.finite seconds) => if 0 ≤ seconds then some (now + seconds) else none
    | _ => none

def processProviderOutcome (py : Library) (now : Time) (process : Dict) :
    Option (String × Option Time) :=
  let typed : Option Dict := match process.get "outcome" with
    | .str name => some [("class", .str name)]
    | .obj fields => some fields
    | _ => none
  typed.bind fun outcome =>
    (processOutcomeClasses.lookup (py.str ((outcome.get "class").orElse' (.str "")))).map
      fun routed => (routed, outcomeReset py now outcome)

def processFailureReason (py : Library) (process : Dict) : String :=
  let status := py.str ((process.get "status").orElse' (.str "failed"))
  let detail := match process.get "outcome" with
    | .obj fields => py.str ((Dict.get fields "class").orElse' (.str ""))
    | outcome => py.str (outcome.orElse' (.str ""))
  let exitCode := process.get "exit_code"
  let parts := [String.ofList (detail.toList.take 64),
    if exitCode.truthy then "exit " ++ py.str exitCode else ""].filter (· ≠ "")
  "worker process " ++ status ++
    if parts = [] then "" else " (" ++ String.intercalate ", " parts ++ ")"

def CdesktopFailure.isRejected : CdesktopFailure → Bool
  | rejected _ _ | interrupted | pending => true
  | transport | other => false

def effectNotFoundMessage : String := "Managed task effect not found"

def isEffectNotFound (py : Library) (failure : CdesktopFailure) (text : String) : Bool :=
  (match failure with | .rejected (some 404) _ => true | _ => false) || contains "404" text ||
    contains (py.lower effectNotFoundMessage) (py.lower text)

def countRunning (processes : List Dict) : Answer ℕ :=
  if processes.all fun p => p.has "status" && (p.has "run_reason" || !(p.get "status").isText "running")
  then .ok (processes.filter fun p => (p.get "status").isText "running" &&
    (p.get "run_reason").isText "codingagent").length
  else .error (.taskStore "Malformed running execution-process response")

def rejectionOutcome (status : Option ℕ) : String :=
  match status with
  | some 429 => "rate_limited"
  | some 401 => "auth"
  | some 403 => "auth"
  | some code => "rejected:" ++ toString code
  | none => "rejected:unknown"

/-! ### Typed routing outcomes -/

def rerouteOutcomes : List String := ["rate_limited", "auth", "provider_down"]

def legacyOutcomes : List (String × String) := [("quota", "rate_limited")]

def sweepableOutcomes : List String := rerouteOutcomes ++ legacyOutcomes.map Prod.fst

/-- `routing_outcome`: the reroute outcome a stored value names, if any. -/
def routingOutcome (value : Option String) : Option String :=
  let outcome := value.getD ""
  let routed := (legacyOutcomes.lookup outcome).getD outcome
  if routed ∈ rerouteOutcomes then some routed else none

def freeAuthBinding : String := "free"

def routeClasses : List String := ["standard", "deep"]

def defaultRouteClass : String := "standard"

end SightMesh
