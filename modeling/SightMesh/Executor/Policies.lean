import SightMesh.Executor.Evidence

/-! Detection policies as they are read: from the environment of the reconciler, from the record
stored with a task, and from the settings older rows carry inline. -/
namespace SightMesh

open Python

variable (py : Library)

/-! ### Numbers -/

/-- The exceptions of reading a policy. -/
inductive PolicyFault where
  /-- `DetectionPolicyError`. -/
  | policy (message : String)
  /-- `BudgetError`. -/
  | budget (message : String)
  /-- `OverflowError`. -/
  | overflow
  deriving DecidableEq

abbrev Checked (α : Type) := Except PolicyFault α

def isPositiveNumber : Json → Checked Bool
  | .num (.int n) => if overflows n then .error .overflow else .ok (0 < n)
  | .num (.finite q) => .ok (0 < q)
  | _ => .ok false

def exactNumber : Json → ℚ
  | .num (.int n) => n
  | .num (.finite q) => q
  | _ => 0

/-- `float(n)`: the nearest double, the even one of two. -/
def floatOfInt (n : ℤ) : ℚ :=
  let unit := 2 ^ (n.natAbs.log2 - 52)
  let whole := n.natAbs / unit
  let rest := n.natAbs % unit
  let up := if unit < 2 * rest ∨ unit = 2 * rest ∧ whole % 2 = 1 then 1 else 0
  n.sign * ((whole + up) * unit : ℕ)

def floatNumber : Json → ℚ
  | .num (.int n) => floatOfInt n
  | .num (.finite q) => q
  | _ => 0

/-! ### Budgets -/

def notCeiling (name : String) (value : Json) : PolicyFault :=
  .budget ("Budget " ++ name ++ " must be positive, not " ++ py.repr value)

/-- A ceiling of `Budget.__post_init__`, `None` or a positive number. -/
def ceiling (name : String) (value : Json) : Checked (Option ℚ) :=
  match value with
  | .null => .ok none
  | value => do
    if ← isPositiveNumber value then return some (exactNumber value)
    else throw (notCeiling py name value)

def Budget.make (maxTurns maxTokens maxCost : Json) : Checked Budget := do
  let turns ← ceiling py "max_turns" maxTurns
  let tokens ← ceiling py "max_tokens" maxTokens
  let cost ← ceiling py "max_cost" maxCost
  return ⟨turns, tokens, cost⟩

def Budget.fromDict (value : Json) : Checked (Option Budget) :=
  match value with
  | .obj [] => .ok none
  | .obj fields => do
    let budget ← Budget.make py (Dict.get fields "max_turns") (Dict.get fields "max_tokens")
      (Dict.get fields "max_cost")
    return some budget
  | _ => .ok none

def smaller (left right : Option ℚ) : Option ℚ :=
  match left, right with
  | none, right => right
  | left, none => left
  | some left, some right => some (min left right)

def jsonNumber (value : Option ℚ) : Json :=
  match value with
  | none => .null
  | some q => .num (.finite q)

def Budget.tightest (budget : Budget) (other : Option Budget) : Checked Budget :=
  match other with
  | none => .ok budget
  | some other => Budget.make py (jsonNumber (smaller budget.maxTurns other.maxTurns))
      (jsonNumber (smaller budget.maxTokens other.maxTokens))
      (jsonNumber (smaller budget.maxCost other.maxCost))

def rebadged {α : Type} : Checked α → Checked α
  | .error (.budget message) => .error (.policy message)
  | result => result

/-! ### Policies -/

def notSeconds (name : String) (value : Json) : PolicyFault :=
  .policy (name ++ " must be a positive number of seconds, not " ++ py.repr value)

/-- `DetectionPolicy(progress_timeout, approval_timeout, budget)` of two floats. -/
def DetectionPolicy.make (progressTimeout : ℚ) (approvalTimeout : Option ℚ)
    (budget : Option Budget) : Checked DetectionPolicy :=
  if ¬ 0 < progressTimeout then
    .error (notSeconds py "progress_timeout" (.num (.finite progressTimeout)))
  else if approvalTimeout.any fun q => ¬ 0 < q then
    .error (notSeconds py "approval_timeout" (jsonNumber approvalTimeout))
  else .ok ⟨progressTimeout, approvalTimeout, budget⟩

def requiredPositive (value : Json) (name : String) : Checked ℚ := do
  if ← isPositiveNumber value then return floatNumber value
  else throw (notSeconds py name value)

def typeName : Json → String
  | .null => "NoneType"
  | .bool _ => "bool"
  | .num (.int _) => "int"
  | .num _ => "float"
  | .str _ => "str"
  | .arr _ => "list"
  | .obj _ => "dict"

/-- The budget of a stored policy, which is an object where there is one. -/
def storedBudget (rawBudget : Json) : Checked (Option Budget) := do
  let budget ← rebadged (Budget.fromDict py rawBudget)
  match rawBudget, budget with
  | .null, _ | .obj [], _ | _, some _ => return budget
  | _, none => throw (.policy ("Unreadable budget: " ++ py.repr rawBudget))

/-- `None`, or a positive number of seconds. -/
def optionalPositive (value : Json) (name : String) : Checked (Option ℚ) :=
  match value with
  | .null => .ok none
  | value => (requiredPositive py value name).map some

def DetectionPolicy.fromDict (value : Json) : Checked DetectionPolicy :=
  match value with
  | .obj record => do
    let budget ← storedBudget py (Dict.get record "budget")
    let progressTimeout ← requiredPositive py
      (if Dict.has record "progress_timeout" then Dict.get record "progress_timeout"
        else .num (.finite defaultProgressTimeout)) "progress_timeout"
    let approvalTimeout ← optionalPositive py (Dict.get record "approval_timeout")
      "approval_timeout"
    DetectionPolicy.make py progressTimeout approvalTimeout budget
  | value => .error (.policy ("Detection policy must be an object, not " ++ typeName value))

/-! ### The floor -/

def positiveText (raw : String) : Option ℚ :=
  match py.float (.str raw) with
  | some (.finite q) => if 0 < q then some q else none
  | _ => none

def positiveFloat (raw : Option String) (fallback : ℚ) : ℚ :=
  match raw with
  | none => fallback
  | some raw => (positiveText py raw).getD fallback

def positiveFloatOrNone (raw : Option String) : Option ℚ :=
  match raw with
  | none => none
  | some raw => if py.strip raw = "" then none else positiveText py raw

def positiveIntOrNone (raw : Option String) : Option ℤ :=
  (positiveFloatOrNone py raw).map Rat.floor

def jsonInt (value : Option ℤ) : Json :=
  match value with
  | none => .null
  | some n => .num (.int n)

def trustedBudget (maxTurns maxTokens : Option ℤ) (maxCost : Option ℚ) : Checked (Option Budget) :=
  if maxTurns.any (· ≠ 0) || maxTokens.any (· ≠ 0) || maxCost.any (· ≠ 0) then
    (Budget.make py (jsonInt maxTurns) (jsonInt maxTokens) (jsonNumber maxCost)).map some
  else .ok none

def trustedPolicy (environment : String → Option String) : Checked DetectionPolicy := do
  let maxTurns := positiveIntOrNone py (environment "SIGHTMESH_MAX_TURNS")
  let maxTokens := positiveIntOrNone py (environment "SIGHTMESH_MAX_TOKENS")
  let maxCost := positiveFloatOrNone py (environment "SIGHTMESH_MAX_COST")
  let progressTimeout := positiveFloat py (environment "SIGHTMESH_PROGRESS_TIMEOUT_SECONDS")
    defaultProgressTimeout
  let approvalTimeout := positiveFloat py (environment "SIGHTMESH_APPROVAL_TIMEOUT_SECONDS")
    defaultApprovalTimeout
  let budget ← trustedBudget py maxTurns maxTokens maxCost
  DetectionPolicy.make py progressTimeout (some approvalTimeout) budget

def tightened (budget floor : Option Budget) : Checked (Option Budget) :=
  match budget with
  | some budget => (budget.tightest py floor).map some
  | none => .ok floor

def isNone : Json → Bool
  | .null => true
  | _ => false

def resolvePolicy (progressTimeout approvalTimeout : Json) (budget : Option Budget)
    (floor : DetectionPolicy) : Checked DetectionPolicy := do
  let progressGiven ← isPositiveNumber progressTimeout
  let requestedProgress := if progressGiven then floatNumber progressTimeout
    else floor.progressTimeout
  let approvalGiven ← isPositiveNumber approvalTimeout
  let requestedApproval := if approvalGiven then some (floatNumber approvalTimeout) else none
  if !isNone progressTimeout && !progressGiven then
    throw (notSeconds py "progress_timeout" progressTimeout)
  if !isNone approvalTimeout && !approvalGiven then
    throw (notSeconds py "approval_timeout" approvalTimeout)
  let budget ← tightened py budget floor.budget
  DetectionPolicy.make py (min floor.progressTimeout requestedProgress)
    (smaller floor.approvalTimeout requestedApproval) budget

def detectionPolicy (environment : String → Option String) (spec : Json) :
    Checked DetectionPolicy := do
  let spec := (asObject spec).getD []
  let trusted ← trustedPolicy py environment
  match Dict.get spec "detection" with
  | .null =>
    let budget ← rebadged (Budget.fromDict py (Dict.get spec "budget"))
    resolvePolicy py (Dict.get spec "progress_timeout") (Dict.get spec "approval_timeout") budget
      trusted
  | stored => DetectionPolicy.fromDict py stored

/-! ### Reserved tasks -/

structure ReservedTask where
  taskId : TaskId
  spec : Json
  createdAt : Time

/-- `_scan_reserved`: the reservations that never launched in time. Only an unusable policy is
caught. -/
def scanReserved (environment : String → Option String) (now : Time) :
    List ReservedTask → Checked (List TaskId)
  | [] => .ok []
  | task :: rest => do
    let policy ← match detectionPolicy py environment task.spec with
      | .error (.policy _) => .ok ⟨defaultProgressTimeout, none, none⟩
      | result => result
    let overdue ← scanReserved environment now rest
    return if now - task.createdAt < policy.progressTimeout then overdue
      else task.taskId :: overdue

end SightMesh
