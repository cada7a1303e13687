import SightMesh.Accounts.Routing
import SightMesh.Python.Raising
import SightMesh.Python.Text

/-! The settings of execution routing: the constructors that check them, their encoded form, and the
file that holds it. A field is a value as decoding delivers it; where a check leaves only texts, it
is a `String`. -/
namespace SightMesh.ExecutionRouting

open Python

inductive Raised where
  /-- `ExecutionRoutingError`. -/
  | routing (message : String)
  | typeError (message : String)
  | attributeError (message : String)

def settingsVersion : ℤ := 2

def readableSettingsVersions : List ℤ := [1, settingsVersion]

def executors : List String := ["CLAUDE_CODE", "CODEX", "OPENCODE"]

def billingClasses : List String := ["subscription", "metered", "free"]

def providers : List String := ["claude", "codex"]

def meteredFallbackValues : List String := ["auto", "ask", "never"]

def allRoutesExhaustedValues : List String := ["block"]

/-! ### Checks -/

def typeName : Json → String
  | .null => "NoneType"
  | .bool _ => "bool"
  | .num (.int _) => "int"
  | .num _ => "float"
  | .str _ => "str"
  | .arr _ => "list"
  | .obj _ => "dict"

def blank (text : String) : Bool := text.toList.all isSpace

def requireText (value : Json) (refusal : String) : Except Raised {text : String // ¬ blank text} :=
  match value with
  | .str text => if empty : blank text then .error (.routing refusal) else .ok ⟨text, empty⟩
  | _ => .error (.attributeError ("'" ++ typeName value ++ "' object has no attribute 'strip'"))

def requireAmong (allowed : List String) (value : Json) (refusal : String) :
    Except Raised {text : String // text ∈ allowed} :=
  match value with
  | .str text => if known : text ∈ allowed then .ok ⟨text, known⟩ else .error (.routing refusal)
  | _ => .error (.routing refusal)

/-- The same where they are a set, which hashes the value. -/
def requireMember (allowed : List String) (value : Json) (refusal : String) :
    Except Raised {text : String // text ∈ allowed} :=
  match value with
  | .arr _ | .obj _ => .error (.typeError ("unhashable type: '" ++ typeName value ++ "'"))
  | _ => requireAmong allowed value refusal

def belowZero : Json → Except Raised Bool
  | .bool _ => .ok false
  | .num (.int n) => .ok (n < 0)
  | .num (.finite q) => .ok (q < 0)
  | .num .nan => .ok false
  | .num (.infinity negative) => .ok negative
  | value => .error (.typeError
      ("'<' not supported between instances of '" ++ typeName value ++ "' and 'int'"))

def Waits (value : Json) : Prop := belowZero value = .ok false

/-- `value[name]`, where the reader of an entry turns the `KeyError` into its own. -/
def field (d : Dict) (name entry : String) : Except Raised Json :=
  match d.lookup name with
  | some value => .ok value
  | none => .error (.routing (entry ++ " missing field: '" ++ name ++ "'"))

def iterate : Json → Except Raised (List Json)
  | .arr items => .ok items
  | .obj fields => .ok (fields.map fun entry => .str entry.1)
  | .str text => .ok (text.toList.map fun c => .str (String.singleton c))
  | value => .error (.typeError ("'" ++ typeName value ++ "' object is not iterable"))

/-! ### Routes -/

def Binds (billingClass : String) (accountPool account : Json) : Bool :=
  if billingClass = "subscription" then
    accountPool.truthy && providers.any accountPool.isText && !account.truthy
  else if billingClass = "metered" then account.truthy && !accountPool.truthy
  else !(account.truthy || accountPool.truthy)

structure Route where
  id : String
  executor : String
  model : String
  billingClass : String
  accountPool : Json
  account : Json
  named : ¬ blank id
  runs : executor ∈ executors
  picks : ¬ blank model
  billed : billingClass ∈ billingClasses
  binds : Binds billingClass accountPool account

def bindingFault (py : Library) (id billingClass : String) (accountPool account : Json) :
    Option String :=
  if billingClass = "subscription" then
    if !accountPool.truthy then
      some ("Route " ++ id ++ " requires accountPool for a subscription route")
    else if !providers.any accountPool.isText then
      some ("Route " ++ id ++ " has an unknown accountPool: " ++ py.str accountPool)
    else if account.truthy then
      some ("Route " ++ id ++ " must not set account for a subscription route")
    else none
  else if billingClass = "metered" then
    if !account.truthy then some ("Route " ++ id ++ " requires account for a metered route")
    else if accountPool.truthy then
      some ("Route " ++ id ++ " must not set accountPool for a metered route")
    else none
  else if account.truthy || accountPool.truthy then
    some ("Route " ++ id ++ " must not name an account or accountPool for a free route")
  else none

theorem bindingFault_eq_none {py : Library} {id billingClass : String} {accountPool account : Json} :
    bindingFault py id billingClass accountPool account = none ↔
      Binds billingClass accountPool account := by
  unfold bindingFault Binds
  cases accountPool.truthy <;> cases account.truthy <;> split_ifs <;> simp_all

def requireBinding (py : Library) (id billingClass : String) (accountPool account : Json) :
    Except Raised (PLift (Binds billingClass accountPool account)) :=
  match fault : bindingFault py id billingClass accountPool account with
  | some message => .error (.routing message)
  | none => .ok ⟨bindingFault_eq_none.mp fault⟩

namespace Route

def make (py : Library) (id executor model billingClass accountPool account : Json) :
    Except Raised Route := do
  let ⟨id, named⟩ ← requireText id "Route id must not be empty"
  let ⟨executor, runs⟩ ← requireMember executors executor
    ("Unsupported executor: " ++ py.str executor)
  let ⟨model, picks⟩ ← requireText model ("Route " ++ id ++ " must specify a model")
  let ⟨billingClass, billed⟩ ← requireMember billingClasses billingClass
    ("Unsupported billing class: " ++ py.str billingClass)
  let ⟨binds⟩ ← requireBinding py id billingClass accountPool account
  return { id, executor, model, billingClass, accountPool, account, named, runs, picks, billed,
           binds }

def toDict (route : Route) : Dict :=
  [("id", .str route.id), ("executor", .str route.executor), ("model", .str route.model),
    ("billingClass", .str route.billingClass)] ++
  (if route.accountPool.truthy then [("accountPool", route.accountPool)] else []) ++
  (if route.account.truthy then [("account", route.account)] else [])

def fromDict (py : Library) (value : Json) : Except Raised Route :=
  match value with
  | .obj d => do
    let id ← field d "id" "Route entry"
    let executor ← field d "executor" "Route entry"
    let model ← field d "model" "Route entry"
    let billingClass ← field d "billingClass" "Route entry"
    make py id executor model billingClass (Dict.get d "accountPool") (Dict.get d "account")
  | _ => .error (.routing "Invalid route entry")

end Route

/-! ### Chains -/

structure RouteChain where
  routeClass : String
  routes : List Route
  known : routeClass ∈ routeClasses
  distinct : (routes.map Route.id).Nodup

namespace RouteChain

def make (py : Library) (routeClass : Json) (routes : List Route) : Except Raised RouteChain := do
  let ⟨routeClass, known⟩ ← requireAmong routeClasses routeClass
    ("Unsupported route class: " ++ py.str routeClass)
  if distinct : (routes.map Route.id).Nodup then
    return { routeClass, routes, known, distinct }
  else .error (.routing ("Route ids must be unique within class " ++ routeClass))

def toDict (chain : RouteChain) : Dict :=
  [("routeClass", .str chain.routeClass),
    ("routes", .arr (chain.routes.map fun route => .obj route.toDict))]

def fromDict (py : Library) (value : Json) : Except Raised RouteChain :=
  match value with
  | .obj d => do
    let routeClass ← field d "routeClass" "Route chain entry"
    let items ← iterate ((d.lookup "routes").getD (.arr []))
    let routes ← items.mapM (Route.fromDict py)
    make py routeClass routes
  | _ => .error (.routing "Invalid route chain entry")

end RouteChain

/-! ### Settings -/

structure Settings where
  enabled : Json
  chains : List RouteChain
  defaultClass : String
  meteredFallback : String
  approvalTimeoutMinutes : Json
  allRoutesExhausted : String
  notifyOnSwap : Json
  exposeAccountAlias : Json
  fallbackOnFreeFailure : Json
  falls : meteredFallback ∈ meteredFallbackValues
  known : defaultClass ∈ routeClasses
  waits : Waits approvalTimeoutMinutes
  exhausts : allRoutesExhausted ∈ allRoutesExhaustedValues
  distinct : (chains.map RouteChain.routeClass).Nodup

def requireWait (value : Json) : Except Raised (PLift (Waits value)) :=
  match waits : belowZero value with
  | .ok false => .ok ⟨waits⟩
  | .ok true => .error (.routing "approvalTimeoutMinutes must be 0 or a positive integer")
  | .error e => .error e

namespace Settings

def make (py : Library) (enabled : Json) (chains : List RouteChain) (defaultClass meteredFallback
    approvalTimeoutMinutes allRoutesExhausted notifyOnSwap exposeAccountAlias
    fallbackOnFreeFailure : Json) : Except Raised Settings := do
  let ⟨meteredFallback, falls⟩ ← requireMember meteredFallbackValues meteredFallback
    ("Unsupported meteredFallback: " ++ py.str meteredFallback)
  let ⟨defaultClass, known⟩ ← requireAmong routeClasses defaultClass
    ("Unsupported defaultClass: " ++ py.str defaultClass)
  let ⟨waits⟩ ← requireWait approvalTimeoutMinutes
  let ⟨allRoutesExhausted, exhausts⟩ ← requireMember allRoutesExhaustedValues allRoutesExhausted
    ("Unsupported allRoutesExhausted: " ++ py.str allRoutesExhausted)
  if distinct : (chains.map RouteChain.routeClass).Nodup then
    return { enabled, chains, defaultClass, meteredFallback, approvalTimeoutMinutes,
             allRoutesExhausted, notifyOnSwap, exposeAccountAlias, fallbackOnFreeFailure,
             falls, known, waits, exhausts, distinct }
  else .error (.routing "Each route class may hold only one chain")

def toDict (settings : Settings) : Dict :=
  [("enabled", settings.enabled),
    ("chains", .arr (settings.chains.map fun chain => .obj chain.toDict)),
    ("defaultClass", .str settings.defaultClass),
    ("meteredFallback", .str settings.meteredFallback),
    ("approvalTimeoutMinutes", settings.approvalTimeoutMinutes),
    ("allRoutesExhausted", .str settings.allRoutesExhausted),
    ("notifyOnSwap", settings.notifyOnSwap),
    ("exposeAccountAlias", settings.exposeAccountAlias),
    ("fallbackOnFreeFailure", settings.fallbackOnFreeFailure)]

end Settings

/-- `_chains_from_dict`: the chains, or the one that a flat list of routes makes. -/
def chainsFromDict (py : Library) (d : Dict) : Except Raised (List RouteChain) :=
  if d.has "chains" then do
    (← iterate ((Dict.get d "chains").orElse' (.arr []))).mapM (RouteChain.fromDict py)
  else do
    let legacy ← (← iterate ((Dict.get d "routes").orElse' (.arr []))).mapM (Route.fromDict py)
    if legacy.isEmpty then return []
    else return [← RouteChain.make py (.str defaultRouteClass) legacy]

def rewording {α : Type} : Except Raised α → Except Raised α
  | .error (.typeError message) => .error (.routing ("Invalid routing settings: " ++ message))
  | outcome => outcome

def fieldOr (d : Dict) (name : String) (default : Json) : Json := (d.lookup name).getD default

def Settings.fromDict (py : Library) (data : Json) : Except Raised Settings :=
  match data with
  | .obj d => rewording do
    let chains ← chainsFromDict py d
    Settings.make py (fieldOr d "enabled" (.bool true)) chains
      (fieldOr d "defaultClass" (.str defaultRouteClass))
      (fieldOr d "meteredFallback" (.str "auto"))
      (fieldOr d "approvalTimeoutMinutes" (.num (.int 0)))
      (fieldOr d "allRoutesExhausted" (.str "block"))
      (fieldOr d "notifyOnSwap" (.bool true))
      (fieldOr d "exposeAccountAlias" (.bool true))
      (fieldOr d "fallbackOnFreeFailure" (.bool false))
  | _ => .error (.routing "Invalid executionRouting settings")

/-! ### The file -/

/-- The file of a store. A document is kept as it is decoded; no reader sees the order of its
keys. -/
inductive SettingsFile where
  | missing
  /-- An `OSError` or a `JSONDecodeError`, and its text. -/
  | unreadable (error : String)
  | holds (payload : Json)

def readableVersion : Json → Bool
  | .bool b => b
  | .num (.int n) => n ∈ readableSettingsVersions
  | .num (.finite q) => readableSettingsVersions.any fun version => q = version
  | _ => false

structure Store where
  path : String
  file : SettingsFile

namespace Store

def read (store : Store) : Except Raised Dict :=
  match store.file with
  | .missing => .ok [("version", .num (.int settingsVersion)), ("executionRouting", .obj [])]
  | .unreadable error =>
    .error (.routing ("Cannot read routing settings " ++ store.path ++ ": " ++ error))
  | .holds (.obj payload) =>
    if readableVersion (Dict.get payload "version") then .ok payload
    else .error (.routing ("Unsupported routing settings version: " ++ store.path))
  | .holds _ => .error (.routing ("Unsupported routing settings version: " ++ store.path))

def load (py : Library) (store : Store) : Except Raised Settings := do
  Settings.fromDict py (fieldOr (← store.read) "executionRouting" (.obj []))

/-- `save`. Its settings are valid already, so that `replace` is no more than a copy. -/
def save (store : Store) (settings : Settings) : Store where
  path := store.path
  file := .holds (.obj [("version", .num (.int settingsVersion)),
    ("executionRouting", .obj settings.toDict)])

end Store

/-! ### What selection reads -/

/-- A text that a route names; no account of a pool has an empty id. -/
def textOf : Json → String
  | .str text => text
  | _ => ""

namespace Route

def billing (route : Route) : Billing :=
  if route.billingClass = "subscription" then .subscription (textOf route.accountPool)
  else if route.billingClass = "metered" then .metered (textOf route.account)
  else .free

def selected (route : Route) : SightMesh.Route :=
  ⟨route.id, route.executor, route.model, route.billing⟩

theorem selected_id (routes : List Route) :
    (routes.map selected).map SightMesh.Route.id = routes.map Route.id := by
  rw [List.map_map]
  rfl

end Route

def RouteChain.selected (chain : RouteChain) : SightMesh.RouteChain where
  routeClass := chain.routeClass
  routes := chain.routes.map Route.selected
  known := chain.known
  distinct := by
    rw [Route.selected_id]
    exact chain.distinct

namespace Settings

def routing (settings : Settings) : RoutingSettings where
  enabled := settings.enabled.truthy
  chains := settings.chains.map RouteChain.selected
  defaultClass := settings.defaultClass
  meteredFallback :=
    if settings.meteredFallback = "ask" then .ask
    else if settings.meteredFallback = "never" then .never
    else .auto
  exposeAccountAlias := settings.exposeAccountAlias.truthy
  known := settings.known
  distinct := by
    have same : (settings.chains.map RouteChain.selected).map SightMesh.RouteChain.routeClass =
        settings.chains.map RouteChain.routeClass := by
      rw [List.map_map]
      rfl
    rw [same]
    exact settings.distinct

end Settings

end SightMesh.ExecutionRouting
