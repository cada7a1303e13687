import Mathlib.Data.Finset.Basic
import SightMesh.Accounts.Selection
import SightMesh.Concurrency.Reading
import SightMesh.Executor.Processes

/-! Execution routing: each route class has one chain of routes, and a selection walks one chain in
order and, for a route that bills an account, the accounts in pool order. The pool is read on the
first route that needs an account. -/
namespace SightMesh

open Python Concurrency

/-! ### Settings -/

inductive MeteredFallback where
  | auto | ask | never
  deriving DecidableEq

inductive Billing where
  | subscription (accountPool : String)
  | metered (account : AccountId)
  | free
  deriving DecidableEq

namespace Billing

def name : Billing → String
  | subscription _ => "subscription"
  | metered _ => "metered"
  | free => "free"

def isMetered : Billing → Bool
  | metered _ => true
  | _ => false

def isFree : Billing → Bool
  | free => true
  | _ => false

end Billing

structure Route where
  id : String
  executor : String
  model : String
  billing : Billing
  deriving DecidableEq

structure RouteChain where
  routeClass : String
  routes : List Route
  known : routeClass ∈ routeClasses
  distinct : (routes.map Route.id).Nodup

/-- `ExecutionRoutingSettings`, of which selection reads these. -/
structure RoutingSettings where
  enabled : Bool
  chains : List RouteChain
  defaultClass : String
  meteredFallback : MeteredFallback
  exposeAccountAlias : Bool
  known : defaultClass ∈ routeClasses
  distinct : (chains.map RouteChain.routeClass).Nodup

namespace RoutingSettings

def chain (settings : RoutingSettings) (routeClass : String) : Option RouteChain :=
  settings.chains.find? fun chain => chain.routeClass = routeClass

def routesFor (settings : RoutingSettings) (routeClass : String) : List Route :=
  match settings.chain routeClass with
  | some chain => chain.routes
  | none => []

def wanted (settings : RoutingSettings) (routeClass : Option String) : String :=
  orText routeClass settings.defaultClass

theorem routesFor_distinct (settings : RoutingSettings) (routeClass : String) :
    ((settings.routesFor routeClass).map Route.id).Nodup := by
  unfold routesFor
  split
  · rename_i chain _
    exact chain.distinct
  · exact List.nodup_nil

end RoutingSettings

/-! ### The pool -/

/-- An entry of the pool. Adding one asks for an id. -/
structure PoolAccount where
  id : AccountId
  provider : String
  kind : String
  disabled : Bool
  /-- Empty where there is none. -/
  codexHome : String
  named : id ≠ ""

inductive RouteQuery : Type → Type 1 where
  | loadPool : RouteQuery (List PoolAccount)
  | loadState : RouteQuery PoolState
  | clock : RouteQuery Time
  /-- Whether the token file of the account exists. -/
  | hasToken (id : AccountId) : RouteQuery Bool
  | quotaCached (account : PoolAccount) : RouteQuery Usage

abbrev Routing := Reader RouteQuery

def hasLaunchCredential (account : PoolAccount) : Routing Bool :=
  if account.provider = "codex" then .ret (account.codexHome ≠ "")
  else Prog.ask (.hasToken account.id)

def routeCoolingUntil (state : PoolState) (id : AccountId) : Routing Time := do
  let deadline := (state.cooldowns.lookup id).getD 0
  return if deadline > (← Prog.ask .clock) then deadline else 0

def accountEligibility (account : PoolAccount) (state : PoolState) (excluded : Finset AccountId) :
    Routing (Bool × String) := do
  if account.id ∈ excluded then return (false, "excluded: prior failed binding")
  else if account.disabled then return (false, "account disabled")
  else if !(← hasLaunchCredential account) then return (false, "no credential stored")
  else
    let deadline ← routeCoolingUntil state account.id
    if deadline ≠ 0 then
      return (false, "cooling " ++ fmtDelta (deadline - (← Prog.ask .clock)))
    else
      let usage ← Prog.ask (.quotaCached account)
      if usage.known ∧ usage.remaining = some 0 then return (false, "zero quota")
      else return (true, "eligible")

def routeCandidates (route : Route) (pool : List PoolAccount) : List PoolAccount :=
  match route.billing with
  | .subscription accountPool => pool.filter fun account =>
      (accountPool = "" || account.provider = accountPool) && account.kind ≠ "apikey"
  | .metered account => (pool.find? fun entry => entry.id = account).toList
  | .free => []

/-! ### Selection -/

structure SelectedTarget where
  routeClass : String
  routeId : String
  executor : String
  model : String
  billingClass : String
  authBindingId : String
  accountAlias : Option String
  deriving DecidableEq

inductive SelectionStatus where
  | resolved | approvalNeeded | blocked
  deriving DecidableEq

structure SelectionResult where
  status : SelectionStatus
  target : Option SelectedTarget
  trace : List String
  reason : Option String

def RoutingSettings.target (settings : RoutingSettings) (route : Route)
    (account : Option PoolAccount) (routeClass : String) : SelectedTarget where
  routeClass := routeClass
  routeId := route.id
  executor := route.executor
  model := route.model
  billingClass := route.billing.name
  authBindingId := orText (account.map PoolAccount.id) freeAuthBinding
  accountAlias := if settings.exposeAccountAlias then account.map PoolAccount.id else none

def RoutingSettings.traceAccount (settings : RoutingSettings) (id : AccountId) : String :=
  if settings.exposeAccountAlias then id else "account"

def firstEligible (settings : RoutingSettings) (route : Route) (state : PoolState)
    (excluded : Finset AccountId) :
    List PoolAccount → List String → Routing (Option PoolAccount × List String)
  | [], trace => return (none, trace)
  | account :: rest, trace => do
    let (ok, note) ← accountEligibility account state excluded
    if ok then
      return (some account, trace ++
        ["route " ++ route.id ++ ": " ++ settings.traceAccount account.id ++ " eligible"])
    else
      firstEligible settings route state excluded rest (trace ++
        ["route " ++ route.id ++ ": skip " ++ settings.traceAccount account.id ++ ": " ++ note])

def poolAndState : Option (List PoolAccount × PoolState) → Routing (List PoolAccount × PoolState)
  | some loaded => return loaded
  | none => do return (← Prog.ask .loadPool, ← Prog.ask .loadState)

structure RouteRequest where
  routeClass : Option String
  preferredModel : Option String
  excludeAccountIds : Finset AccountId
  excludeRouteIds : Finset String

def settleRoute (settings : RoutingSettings) (wanted : String) (route : Route)
    (account : PoolAccount) (trace : List String) : SelectionResult :=
  if route.billing.isMetered && settings.meteredFallback = .ask then
    ⟨.approvalNeeded, some (settings.target route (some account) wanted),
      trace ++ ["route " ++ route.id ++
        ": metered route reached, meteredFallback=ask, approval required"],
      some "approval_needed"⟩
  else
    ⟨.resolved, some (settings.target route (some account) wanted),
      trace ++ ["selected route " ++ route.id], none⟩

def missingAccount (settings : RoutingSettings) (route : Route) (candidates : List PoolAccount) :
    List String :=
  match route.billing with
  | .metered account =>
    if candidates.isEmpty then
      ["route " ++ route.id ++ ": " ++ settings.traceAccount account ++ " not in pool"]
    else []
  | _ => []

def walkRoutes (settings : RoutingSettings) (request : RouteRequest) (wanted : String) :
    List Route → Option (List PoolAccount × PoolState) → List String → Routing SelectionResult
  | [], _, trace => .ret ⟨.blocked, none,
      trace ++ ["class " ++ wanted ++ ": all configured routes exhausted"], some "routes_exhausted"⟩
  | route :: rest, loaded, trace =>
    if route.id ∈ request.excludeRouteIds then
      walkRoutes settings request wanted rest loaded
        (trace ++ ["route " ++ route.id ++ ": skip, excluded by caller"])
    else if (present request.preferredModel).any (· ≠ route.model) then
      walkRoutes settings request wanted rest loaded
        (trace ++ ["route " ++ route.id ++ ": skip, model " ++ route.model ++ " != preferred " ++
          (present request.preferredModel).getD ""])
    else if route.billing.isFree then
      .ret ⟨.resolved, some (settings.target route none wanted),
        trace ++ ["selected route " ++ route.id ++ ": free, no account required"], none⟩
    else if route.billing.isMetered && settings.meteredFallback = .never then
      walkRoutes settings request wanted rest loaded
        (trace ++ ["route " ++ route.id ++ ": skip, metered route blocked by meteredFallback=never"])
    else (poolAndState loaded).bind fun (pool, state) =>
      let candidates := routeCandidates route pool
      (firstEligible settings route state request.excludeAccountIds candidates
          (trace ++ missingAccount settings route candidates)).bind fun
        | (none, trace) => walkRoutes settings request wanted rest (some (pool, state))
            (trace ++ ["route " ++ route.id ++ ": no eligible account"])
        | (some account, trace) => .ret (settleRoute settings wanted route account trace)

def selectRoute (settings : RoutingSettings) (request : RouteRequest) : Routing SelectionResult :=
  let wanted := settings.wanted request.routeClass
  if !settings.enabled then
    return ⟨.blocked, none, ["execution routing disabled"], some "routing_disabled"⟩
  else if wanted ∉ routeClasses then
    return ⟨.blocked, none, ["unknown route class " ++ wanted], some "unknown_route_class"⟩
  else if (settings.routesFor wanted).isEmpty then
    return ⟨.blocked, none, ["class " ++ wanted ++ ": no routes configured"],
      some "routes_exhausted"⟩
  else walkRoutes settings request wanted (settings.routesFor wanted) none []

/-! ### After an outcome -/

/-- `advance_route_after_outcome`; any other outcome raises a `SuccessionError`. -/
def advanceRouteAfterOutcome (settings : RoutingSettings) (outcome : String)
    (routeClass failedBindingId : Option String) : Except String (Routing SelectionResult) :=
  if outcome ∉ rerouteOutcomes then
    .error ("Outcome " ++ outcome ++ " does not advance a route chain")
  else .ok <| selectRoute settings ⟨routeClass, none,
    match present failedBindingId with
    | some id => {id}
    | none => ∅, ∅⟩

end SightMesh
