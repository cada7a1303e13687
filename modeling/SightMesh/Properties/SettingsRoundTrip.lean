import Mathlib
import SightMesh.Accounts.Settings
import SightMesh.Programs.Scripted

/-! What a save and a load make of the settings, and what becomes of a flat list of routes. -/
namespace SightMesh.ExecutionRouting

open Python Raising

/-! ### An empty account or pool is left out -/

def dropEmpty (value : Json) : Json := value.orElse' .null

theorem dropEmpty_of_truthy {value : Json} (holds : value.truthy) : dropEmpty value = value := by
  simp [dropEmpty, Json.orElse', holds]

theorem dropEmpty_of_not_truthy {value : Json} (empty : value.truthy = false) :
    dropEmpty value = .null := by
  simp [dropEmpty, Json.orElse', empty]

theorem truthy_dropEmpty (value : Json) : (dropEmpty value).truthy = value.truthy := by
  cases holds : value.truthy with
  | true => rw [dropEmpty_of_truthy holds, holds]
  | false => rw [dropEmpty_of_not_truthy holds, Json.truthy]

theorem dropEmpty_idem (value : Json) : dropEmpty (dropEmpty value) = dropEmpty value := by
  cases holds : value.truthy with
  | true => rw [dropEmpty_of_truthy holds, dropEmpty_of_truthy holds]
  | false => rw [dropEmpty_of_not_truthy holds, dropEmpty_of_not_truthy (by rfl)]

theorem binds_dropEmpty (billingClass : String) (accountPool account : Json) :
    Binds billingClass (dropEmpty accountPool) (dropEmpty account) =
      Binds billingClass accountPool account := by
  simp only [Binds, truthy_dropEmpty]
  cases holds : accountPool.truthy with
  | true => rw [dropEmpty_of_truthy holds]
  | false => simp

def Route.trimmed (route : Route) : Route :=
  { route with
    accountPool := dropEmpty route.accountPool
    account := dropEmpty route.account
    binds := by
      rw [binds_dropEmpty]
      exact route.binds }

def RouteChain.trimmed (chain : RouteChain) : RouteChain :=
  { chain with
    routes := chain.routes.map Route.trimmed
    distinct := by
      rw [List.map_map]
      exact chain.distinct }

def Settings.trimmed (settings : Settings) : Settings :=
  { settings with
    chains := settings.chains.map RouteChain.trimmed
    distinct := by
      rw [List.map_map]
      exact settings.distinct }

/-! ### Each check passes what a valid value holds -/

section
variable {allowed : List String} {text refusal : String}

theorem requireText_str (named : ¬ blank text) :
    requireText (.str text) refusal = .ok ⟨text, named⟩ := by
  simp [requireText, named]

theorem requireAmong_str (known : text ∈ allowed) :
    requireAmong allowed (.str text) refusal = .ok ⟨text, known⟩ := by
  simp [requireAmong, known]

theorem requireMember_str (known : text ∈ allowed) :
    requireMember allowed (.str text) refusal = .ok ⟨text, known⟩ := requireAmong_str known

end

theorem requireBinding_ok {py : Library} {id billingClass : String} {accountPool account : Json}
    (binds : Binds billingClass accountPool account) :
    requireBinding py id billingClass accountPool account = .ok ⟨binds⟩ := by
  unfold requireBinding
  split
  · rename_i message fault
    rw [bindingFault_eq_none.mpr binds] at fault
    cases fault
  · rfl

theorem requireWait_ok {value : Json} (waits : Waits value) :
    requireWait value = .ok ⟨waits⟩ := by
  rw [Waits] at waits
  unfold requireWait
  split
  · rfl
  · rename_i below
    cases below.symm.trans waits
  · rename_i raised
    cases raised.symm.trans waits

section
variable (py : Library)

theorem Route.make_self (route : Route) : Route.make py (.str route.id) (.str route.executor)
    (.str route.model) (.str route.billingClass) route.accountPool route.account = .ok route := by
  simp only [Route.make, requireText_str route.named, requireMember_str route.runs,
    requireText_str route.picks, requireMember_str route.billed, requireBinding_ok route.binds,
    ok_bind]
  rfl

theorem RouteChain.make_self (chain : RouteChain) :
    RouteChain.make py (.str chain.routeClass) chain.routes = .ok chain := by
  simp only [RouteChain.make, requireAmong_str chain.known, ok_bind]
  exact dif_pos chain.distinct

theorem Settings.make_self (settings : Settings) : Settings.make py settings.enabled
    settings.chains (.str settings.defaultClass) (.str settings.meteredFallback)
    settings.approvalTimeoutMinutes (.str settings.allRoutesExhausted) settings.notifyOnSwap
    settings.exposeAccountAlias settings.fallbackOnFreeFailure = .ok settings := by
  simp only [Settings.make, requireMember_str settings.falls, requireAmong_str settings.known,
    requireWait_ok settings.waits, requireMember_str settings.exhausts, ok_bind]
  exact dif_pos settings.distinct

/-! ### Decoding what was encoded -/

theorem Route.get_accountPool (route : Route) :
    Dict.get route.toDict "accountPool" = dropEmpty route.accountPool := by
  cases holds : route.accountPool.truthy <;> cases holds' : route.account.truthy <;>
    simp [Route.toDict, Dict.get, List.lookup, holds, holds', dropEmpty, Json.orElse']

theorem Route.get_account (route : Route) :
    Dict.get route.toDict "account" = dropEmpty route.account := by
  cases holds : route.accountPool.truthy <;> cases holds' : route.account.truthy <;>
    simp [Route.toDict, Dict.get, List.lookup, holds, holds', dropEmpty, Json.orElse']

theorem Route.fromDict_toDict (route : Route) :
    Route.fromDict py (.obj route.toDict) = .ok route.trimmed := by
  have same := route.trimmed.make_self py
  rw [← same]
  simp only [Route.fromDict, Route.get_accountPool, Route.get_account]
  rfl

theorem RouteChain.fromDict_toDict (chain : RouteChain) :
    RouteChain.fromDict py (.obj chain.toDict) = .ok chain.trimmed := by
  have routes : (chain.routes.map fun route => .obj route.toDict).mapM (Route.fromDict py) =
      .ok (chain.routes.map Route.trimmed) :=
    mapM_ok fun route _ => route.fromDict_toDict py
  have same := chain.trimmed.make_self py
  rw [← same]
  show (chain.routes.map fun route => .obj route.toDict).mapM (Route.fromDict py) >>= _ = _
  rw [routes]
  rfl

theorem chainsFromDict_toDict (settings : Settings) :
    chainsFromDict py settings.toDict = .ok (settings.chains.map RouteChain.trimmed) := by
  have chains : (settings.chains.map fun chain => .obj chain.toDict).mapM
      (RouteChain.fromDict py) = .ok (settings.chains.map RouteChain.trimmed) :=
    mapM_ok fun chain _ => chain.fromDict_toDict py
  have items : (Dict.get settings.toDict "chains").orElse' (.arr []) =
      .arr (settings.chains.map fun chain => .obj chain.toDict) := by
    have stored : Dict.get settings.toDict "chains" =
        .arr (settings.chains.map fun chain => .obj chain.toDict) := by rfl
    rw [stored, Json.orElse']
    cases settings.chains <;> rfl
  have present : Dict.has settings.toDict "chains" := by rfl
  simp only [chainsFromDict, present, if_true, items, iterate, ok_bind]
  exact chains

theorem Settings.fromDict_toDict (settings : Settings) :
    Settings.fromDict py (.obj settings.toDict) = .ok settings.trimmed := by
  have same := settings.trimmed.make_self py
  simp only [Settings.fromDict, chainsFromDict_toDict, ok_bind]
  exact congrArg rewording same

theorem Store.load_save (store : Store) (settings : Settings) :
    (store.save settings).load py = .ok settings.trimmed := settings.fromDict_toDict py

end

/-! ### What a trim leaves -/

theorem dropEmpty_eq_self_iff {value : Json} :
    dropEmpty value = value ↔ value.truthy ∨ value = .null := by
  cases holds : value.truthy with
  | true => simp [dropEmpty_of_truthy holds]
  | false => simp [dropEmpty_of_not_truthy holds, eq_comm]

def Route.Tidy (route : Route) : Prop :=
  (route.accountPool.truthy ∨ route.accountPool = .null) ∧
    (route.account.truthy ∨ route.account = .null)

def Settings.Tidy (settings : Settings) : Prop :=
  ∀ chain ∈ settings.chains, ∀ route ∈ chain.routes, route.Tidy

theorem Route.trimmed_eq_self_iff {route : Route} : route.trimmed = route ↔ route.Tidy := by
  rw [Tidy, ← dropEmpty_eq_self_iff, ← dropEmpty_eq_self_iff]
  cases route
  simp [trimmed]

theorem map_eq_self_iff {α : Type} {f : α → α} {xs : List α} :
    xs.map f = xs ↔ ∀ x ∈ xs, f x = x := by
  conv_lhs => rw [← List.map_id xs, List.map_map]
  exact List.map_inj_left

theorem RouteChain.trimmed_eq_self_iff {chain : RouteChain} :
    chain.trimmed = chain ↔ ∀ route ∈ chain.routes, route.Tidy := by
  have routes : chain.trimmed = chain ↔ chain.routes.map Route.trimmed = chain.routes := by
    cases chain
    simp [trimmed]
  simp only [routes, map_eq_self_iff, Route.trimmed_eq_self_iff]

theorem Settings.trimmed_eq_self_iff {settings : Settings} :
    settings.trimmed = settings ↔ settings.Tidy := by
  have chains : settings.trimmed = settings ↔
      settings.chains.map RouteChain.trimmed = settings.chains := by
    cases settings
    simp [trimmed]
  simp only [chains, map_eq_self_iff, RouteChain.trimmed_eq_self_iff, Tidy]

theorem Route.tidy_trimmed (route : Route) : route.trimmed.Tidy :=
  ⟨dropEmpty_eq_self_iff.mp (dropEmpty_idem _), dropEmpty_eq_self_iff.mp (dropEmpty_idem _)⟩

theorem Settings.trimmed_trimmed (settings : Settings) :
    settings.trimmed.trimmed = settings.trimmed := by
  rw [trimmed_eq_self_iff]
  intro chain mem route mem'
  obtain ⟨chain, _, rfl⟩ := List.mem_map.mp mem
  obtain ⟨route, _, rfl⟩ := List.mem_map.mp mem'
  exact route.tidy_trimmed

/-! ### Selection does not see it -/

theorem textOf_dropEmpty (value : Json) : textOf (dropEmpty value) = textOf value := by
  cases holds : value.truthy with
  | true => rw [dropEmpty_of_truthy holds]
  | false =>
    rw [dropEmpty_of_not_truthy holds]
    cases value with
    | str text =>
      obtain rfl : text = "" := by simpa [Json.truthy] using holds
      rfl
    | _ => rfl

theorem Route.selected_trimmed (route : Route) : route.trimmed.selected = route.selected := by
  simp [selected, billing, trimmed, textOf_dropEmpty]

theorem RouteChain.selected_trimmed (chain : RouteChain) :
    chain.trimmed.selected = chain.selected := by
  have routes : (chain.routes.map Route.trimmed).map Route.selected =
      chain.routes.map Route.selected := by
    rw [List.map_map]
    exact List.map_congr_left fun route _ => route.selected_trimmed
  exact (SightMesh.RouteChain.mk.injEq ..).mpr ⟨rfl, routes⟩

theorem Settings.routing_trimmed (settings : Settings) :
    settings.trimmed.routing = settings.routing := by
  have chains : (settings.chains.map RouteChain.trimmed).map RouteChain.selected =
      settings.chains.map RouteChain.selected := by
    rw [List.map_map]
    exact List.map_congr_left fun chain _ => chain.selected_trimmed
  exact (RoutingSettings.mk.injEq ..).mpr ⟨rfl, chains, rfl, rfl, rfl⟩

/-! ### A flat list of routes -/

structure Reads (d : Dict) (route : Route) : Prop where
  id : d.lookup "id" = some (.str route.id)
  executor : d.lookup "executor" = some (.str route.executor)
  model : d.lookup "model" = some (.str route.model)
  billingClass : d.lookup "billingClass" = some (.str route.billingClass)
  accountPool : Dict.get d "accountPool" = route.accountPool
  account : Dict.get d "account" = route.account

section
variable {allowed : List String} {value : Json} {refusal : String}

theorem requireText_eq_ok {text : {text : String // ¬ blank text}}
    (ok : requireText value refusal = .ok text) : value = .str text := by
  cases value with
  | str s =>
    unfold requireText at ok
    dsimp only at ok
    split at ok
    · exact nomatch ok
    · rw [← Except.ok.inj ok]
  | _ => exact nomatch ok

theorem requireAmong_eq_ok {text : {text : String // text ∈ allowed}}
    (ok : requireAmong allowed value refusal = .ok text) : value = .str text := by
  cases value with
  | str s =>
    unfold requireAmong at ok
    dsimp only at ok
    split at ok
    · rw [← Except.ok.inj ok]
    · exact nomatch ok
  | _ => exact nomatch ok

theorem requireMember_eq_ok {text : {text : String // text ∈ allowed}}
    (ok : requireMember allowed value refusal = .ok text) : value = .str text := by
  cases value with
  | arr | obj => exact nomatch ok
  | _ => exact requireAmong_eq_ok ok

end

theorem field_eq_ok {d : Dict} {name entry : String} {value : Json}
    (ok : field d name entry = .ok value) : d.lookup name = some value := by
  unfold field at ok
  split at ok
  · rename_i found
    rw [found, Except.ok.inj ok]
  · exact nomatch ok

theorem Route.make_eq_ok {py : Library} {id executor model billingClass accountPool account : Json}
    {route : Route} (ok : make py id executor model billingClass accountPool account = .ok route) :
    id = .str route.id ∧ executor = .str route.executor ∧ model = .str route.model ∧
      billingClass = .str route.billingClass ∧ accountPool = route.accountPool ∧
      account = route.account := by
  obtain ⟨id', named, ok⟩ := bind_eq_ok ok
  obtain ⟨executor', runs, ok⟩ := bind_eq_ok ok
  obtain ⟨model', picks, ok⟩ := bind_eq_ok ok
  obtain ⟨billingClass', billed, ok⟩ := bind_eq_ok ok
  obtain ⟨binds, _, ok⟩ := bind_eq_ok ok
  obtain rfl := Except.ok.inj ok
  exact ⟨requireText_eq_ok named, requireMember_eq_ok runs, requireText_eq_ok picks,
    requireMember_eq_ok billed, rfl, rfl⟩

theorem Route.fromDict_eq_ok {py : Library} {item : Json} {route : Route}
    (ok : fromDict py item = .ok route) : ∃ d, item = .obj d ∧ Reads d route := by
  cases item with
  | obj d =>
    obtain ⟨id, hasId, ok⟩ := bind_eq_ok ok
    obtain ⟨executor, hasExecutor, ok⟩ := bind_eq_ok ok
    obtain ⟨model, hasModel, ok⟩ := bind_eq_ok ok
    obtain ⟨billingClass, hasBillingClass, ok⟩ := bind_eq_ok ok
    obtain ⟨rfl, rfl, rfl, rfl, pool, account⟩ := make_eq_ok ok
    exact ⟨d, rfl, field_eq_ok hasId, field_eq_ok hasExecutor, field_eq_ok hasModel,
      field_eq_ok hasBillingClass, pool, account⟩
  | _ => exact nomatch ok

theorem RouteChain.make_eq_ok {py : Library} {routeClass : String} {routes : List Route}
    {chain : RouteChain} (ok : make py (.str routeClass) routes = .ok chain) :
    chain.routeClass = routeClass ∧ chain.routes = routes := by
  obtain ⟨⟨_, known⟩, passed, ok⟩ := bind_eq_ok ok
  dsimp only at ok
  split at ok
  · obtain rfl := Except.ok.inj ok
    exact ⟨(Json.str.inj (requireAmong_eq_ok passed)).symm, rfl⟩
  · exact nomatch ok

def Store.Lists (store : Store) (items : List Json) : Prop :=
  ∃ payload d, store.file = .holds (.obj payload) ∧
    payload.lookup "executionRouting" = some (.obj d) ∧ Dict.has d "chains" = false ∧
    d.lookup "routes" = some (.arr items)

/-- The routes of a flat list are one chain, of the standard class and in order. -/
def Migrates (items : List Json) (settings : Settings) : Prop :=
  (items = [] → settings.chains = []) ∧
    (items ≠ [] → ∃ chain, settings.chains = [chain] ∧ chain.routeClass = defaultRouteClass ∧
      List.Forall₂ (fun item route => ∃ d, item = .obj d ∧ Reads d route) items chain.routes)

theorem chainsFromDict_flat {py : Library} {d : Dict} {items : List Json}
    {chains : List RouteChain} (flat : Dict.has d "chains" = false)
    (lists : d.lookup "routes" = some (.arr items)) (ok : chainsFromDict py d = .ok chains) :
    (items = [] → chains = []) ∧
      (items ≠ [] → ∃ chain, chains = [chain] ∧ chain.routeClass = defaultRouteClass ∧
        List.Forall₂ (fun item route => ∃ d, item = .obj d ∧ Reads d route) items
          chain.routes) := by
  have given : (Dict.get d "routes").orElse' (.arr []) = .arr items := by
    rw [Dict.get, lists, Json.orElse']
    cases items <;> rfl
  simp only [chainsFromDict, flat, Bool.false_eq_true, if_false, given, iterate, ok_bind] at ok
  obtain ⟨routes, read, ok⟩ := bind_eq_ok ok
  have reads := forall₂_of_mapM (fun _ _ => Route.fromDict_eq_ok) read
  cases reads with
  | nil =>
    refine ⟨fun _ => (Except.ok.inj ok).symm, fun some => absurd rfl some⟩
  | cons first rest =>
    obtain ⟨chain, made, ok⟩ := bind_eq_ok ok
    obtain ⟨routeClass, routes⟩ := RouteChain.make_eq_ok made
    refine ⟨nofun, fun _ => ⟨chain, (Except.ok.inj ok).symm, routeClass, ?_⟩⟩
    rw [routes]
    exact .cons first rest

theorem Settings.make_chains {py : Library} {enabled defaultClass meteredFallback
    approvalTimeoutMinutes allRoutesExhausted notifyOnSwap exposeAccountAlias
    fallbackOnFreeFailure : Json} {chains : List RouteChain} {settings : Settings}
    (ok : make py enabled chains defaultClass meteredFallback approvalTimeoutMinutes
      allRoutesExhausted notifyOnSwap exposeAccountAlias fallbackOnFreeFailure = .ok settings) :
    settings.chains = chains := by
  obtain ⟨_, _, ok⟩ := bind_eq_ok ok
  obtain ⟨_, _, ok⟩ := bind_eq_ok ok
  obtain ⟨_, _, ok⟩ := bind_eq_ok ok
  obtain ⟨⟨_, _⟩, _, ok⟩ := bind_eq_ok ok
  dsimp only at ok
  split at ok
  · rw [← Except.ok.inj ok]
  · exact nomatch ok

theorem rewording_eq_ok {α : Type} {outcome : Except Raised α} {a : α}
    (ok : rewording outcome = .ok a) : outcome = .ok a := by
  unfold rewording at ok
  split at ok
  · exact nomatch ok
  · exact ok

theorem Store.migrates {py : Library} {store : Store} {items : List Json} {settings : Settings}
    (lists : store.Lists items) (ok : store.load py = .ok settings) :
    Migrates items settings := by
  obtain ⟨payload, d, file, section', flat, routes⟩ := lists
  obtain ⟨payload', read, ok⟩ := bind_eq_ok ok
  have same : payload' = payload := by
    unfold Store.read at read
    rw [file] at read
    dsimp only at read
    split at read
    · exact (Except.ok.inj read).symm
    · exact nomatch read
  rw [same, fieldOr, section'] at ok
  obtain ⟨chains, decoded, made⟩ := bind_eq_ok (rewording_eq_ok ok)
  have kept := Settings.make_chains made
  rw [Migrates, kept]
  exact chainsFromDict_flat flat routes decoded

/-- **Saving and loading.** Settings come back without the empty accounts and pools of their routes
and otherwise as they were, and a selection walks them the same; a flat list of routes becomes the
standard chain, and stays it. -/
theorem settings_round_trip (py : Library) :
    (∀ (store : Store) (settings : Settings),
      Settings.fromDict py (.obj settings.toDict) = .ok settings.trimmed ∧
        (store.save settings).load py = .ok settings.trimmed ∧
        (settings.trimmed = settings ↔ settings.Tidy) ∧
        ∀ request : RouteRequest,
          selectRoute settings.trimmed.routing request = selectRoute settings.routing request) ∧
    ∀ (store : Store) (items : List Json) (settings : Settings), store.Lists items →
      store.load py = .ok settings → Migrates items settings ∧
        (store.save settings).load py = .ok settings.trimmed ∧
        (store.save settings.trimmed).load py = .ok settings.trimmed := by
  constructor
  · intro store settings
    refine ⟨settings.fromDict_toDict py, store.load_save py settings,
      Settings.trimmed_eq_self_iff, fun request => ?_⟩
    rw [settings.routing_trimmed]
  · intro store items settings lists ok
    refine ⟨Store.migrates lists ok, store.load_save py settings, ?_⟩
    rw [store.load_save, settings.trimmed_trimmed]

/-! ### Two files of the first version -/

def flatStore (items : List Json) : Store where
  path := "execution_routing.json"
  file := .holds (.obj [("version", .num (.int 1)),
    ("executionRouting", .obj [("routes", .arr items), ("meteredFallback", .str "ask")])])

theorem flatStore_lists (items : List Json) : (flatStore items).Lists items :=
  ⟨_, _, rfl, rfl, rfl, rfl⟩

def subscriptionItem : Json := .obj [("id", .str "codex-subs"), ("executor", .str "CODEX"),
  ("model", .str "gpt-5.6-luna"), ("billingClass", .str "subscription"),
  ("accountPool", .str "codex")]

def secondItem : Json := .obj [("id", .str "claude-subs"), ("executor", .str "CLAUDE_CODE"),
  ("model", .str "opus"), ("billingClass", .str "subscription"), ("accountPool", .str "claude")]

theorem flatStore_migrates : ∃ settings,
    (flatStore [subscriptionItem, secondItem]).load asciiLibrary = .ok settings ∧
      Migrates [subscriptionItem, secondItem] settings ∧
      settings.chains.map (fun chain => chain.routes.map (·.id)) =
        [["codex-subs", "claude-subs"]] := by
  have accepted : ((flatStore [subscriptionItem, secondItem]).load asciiLibrary).toOption.any
      fun settings => settings.chains.map (fun chain => chain.routes.map (·.id)) =
        [["codex-subs", "claude-subs"]] := by decide +kernel
  cases loaded : (flatStore [subscriptionItem, secondItem]).load asciiLibrary with
  | error e => simp [loaded, Except.toOption] at accepted
  | ok settings =>
    refine ⟨settings, rfl, ?_, ?_⟩
    · exact ((settings_round_trip asciiLibrary).2 _ _ settings (flatStore_lists _) loaded).1
    · simpa [loaded, Except.toOption] using accepted

def emptiedRoute : Route where
  id := "codex-subs"
  executor := "CODEX"
  model := "gpt-5.6-luna"
  billingClass := "subscription"
  accountPool := .str "codex"
  account := .str ""
  named := by decide
  runs := by decide
  picks := by decide
  billed := by decide
  binds := by decide

theorem standard_known : "standard" ∈ routeClasses := by decide

def emptiedSettings : Settings where
  enabled := .bool true
  chains := [⟨"standard", [emptiedRoute], standard_known, by decide⟩]
  defaultClass := "standard"
  meteredFallback := "auto"
  approvalTimeoutMinutes := .num (.int 0)
  allRoutesExhausted := "block"
  notifyOnSwap := .bool true
  exposeAccountAlias := .bool true
  fallbackOnFreeFailure := .bool false
  falls := by decide
  known := standard_known
  waits := by rfl
  exhausts := by decide
  distinct := by decide

/-- An empty account comes back absent, and an empty list of routes makes no chain. -/
theorem settings_not_kept :
    Settings.fromDict asciiLibrary (.obj emptiedSettings.toDict) ≠ .ok emptiedSettings ∧
      ∃ settings, (flatStore []).load asciiLibrary = .ok settings ∧ settings.chains = [] := by
  constructor
  · rw [Settings.fromDict_toDict]
    intro same
    have tidy := Settings.trimmed_eq_self_iff.mp (Except.ok.inj same)
    have given := tidy _ (List.mem_singleton_self _) emptiedRoute (List.mem_singleton_self _)
    simp [Route.Tidy, emptiedRoute, Json.truthy] at given
  · have accepted : ((flatStore []).load asciiLibrary).isOk := by decide +kernel
    cases loaded : (flatStore []).load asciiLibrary with
    | error e => simp [loaded, Except.isOk, Except.toBool] at accepted
    | ok settings => exact ⟨settings, rfl, (Store.migrates (flatStore_lists []) loaded).1 rfl⟩

end SightMesh.ExecutionRouting
