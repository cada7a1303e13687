import SightMesh.Accounts.Routing

/-! A selection is a plain search along one chain. -/
namespace SightMesh

open Python Concurrency

structure PoolView where
  pool : List PoolAccount
  state : PoolState
  now : Time
  hasToken : AccountId → Bool
  quota : PoolAccount → Usage

namespace PoolView

variable {β : Type} (view : PoolView)

def answer : RouteQuery β → β
  | .loadPool => view.pool
  | .loadState => view.state
  | .clock => view.now
  | .hasToken id => view.hasToken id
  | .quotaCached account => view.quota account

def hasCredential (account : PoolAccount) : Bool :=
  if account.provider = "codex" then account.codexHome ≠ "" else view.hasToken account.id

def cools (id : AccountId) : Bool :=
  let deadline := (view.state.cooldowns.lookup id).getD 0
  deadline > view.now && deadline ≠ 0

def spent (account : PoolAccount) : Bool :=
  (view.quota account).known && (view.quota account).remaining = some 0

/-- The account may be bound: it is not excluded, enabled, has a credential, does not cool and has
quota left. -/
def eligible (excluded : Finset AccountId) (account : PoolAccount) : Bool :=
  account.id ∉ excluded && !account.disabled && view.hasCredential account &&
    !view.cools account.id && !view.spent account

variable {view}

theorem value_hasLaunchCredential (account : PoolAccount) :
    (hasLaunchCredential account).value view.answer = view.hasCredential account := by
  unfold hasLaunchCredential hasCredential
  split
  · rfl
  · rfl

theorem value_routeCoolingUntil (id : AccountId) :
    ((routeCoolingUntil view.state id).value view.answer ≠ 0) ↔ view.cools id := by
  simp only [routeCoolingUntil, cools, Prog.bind_eq, Prog.value_bind, Prog.value_ask, answer]
  by_cases later : (view.state.cooldowns.lookup id).getD 0 > view.now
  · simp [later]
  · simp [later]

theorem value_accountEligibility (account : PoolAccount) (excluded : Finset AccountId) :
    ((accountEligibility account view.state excluded).value view.answer).1 =
      view.eligible excluded account := by
  unfold accountEligibility eligible
  by_cases known : account.id ∈ excluded
  · simp [known]
  rw [if_neg known]
  by_cases disabled : account.disabled
  · simp [disabled]
  rw [if_neg disabled]
  simp only [Prog.bind_eq, Prog.value_bind, value_hasLaunchCredential]
  by_cases credential : view.hasCredential account
  · by_cases cools : view.cools account.id
    · have cooling := (value_routeCoolingUntil account.id).mpr cools
      simp [credential, cools, cooling]
    · have cooling := mt (value_routeCoolingUntil account.id).mp cools
      have quota : view.answer (.quotaCached account) = view.quota account := rfl
      have last : ((view.quota account).known ∧ (view.quota account).remaining = some 0) ↔
          view.spent account := by
        simp [PoolView.spent]
      rw [not_not] at cooling
      simp only [credential, Bool.not_true, Bool.false_eq_true, if_false, Prog.value_bind, cooling,
        ne_eq, not_true_eq_false, Prog.value_ask, quota]
      by_cases spent : view.spent account
      · rw [if_pos (last.mpr spent)]
        simp [spent]
      · rw [if_neg (mt last.mp spent)]
        simp [known, disabled, cools, spent]
  · simp [credential]

theorem value_firstEligible (view : PoolView) (settings : RoutingSettings) (route : Route)
    (excluded : Finset AccountId) (accounts : List PoolAccount) (trace : List String) :
    ((firstEligible settings route view.state excluded accounts trace).value view.answer).1 =
      accounts.find? (view.eligible excluded) := by
  induction accounts generalizing trace with
  | nil => rfl
  | cons account rest ih =>
    simp only [firstEligible, Prog.bind_eq, Prog.value_bind, value_accountEligibility]
    by_cases fit : view.eligible excluded account
    · simp [fit]
    · simp [fit, ih]

theorem value_poolAndState {loaded : Option (List PoolAccount × PoolState)}
    (own : loaded = none ∨ loaded = some (view.pool, view.state)) :
    (poolAndState loaded).value view.answer = (view.pool, view.state) := by
  obtain rfl | rfl := own
  · rfl
  · rfl

end PoolView

/-! ### The plain search -/

def RoutingSettings.allows (settings : RoutingSettings) (request : RouteRequest) (route : Route) :
    Bool :=
  route.id ∉ request.excludeRouteIds &&
    (present request.preferredModel).all (· = route.model) &&
    !(route.billing.isMetered && settings.meteredFallback = .never)

/-- What a route is taken with, if it is: nothing if it is free, else its first eligible account. -/
def PoolView.taken (view : PoolView) (excluded : Finset AccountId) (route : Route) :
    Option (Route × Option PoolAccount) :=
  if route.billing.isFree then some (route, none)
  else ((routeCandidates route view.pool).find? (view.eligible excluded)).map
    fun account => (route, some account)

def PoolView.search (view : PoolView) (settings : RoutingSettings) (request : RouteRequest)
    (routes : List Route) : Option (Route × Option PoolAccount) :=
  (routes.filter (settings.allows request)).findSome? (view.taken request.excludeAccountIds)

/-- The outcome of a selection is its status, its target and its reason. -/
structure RouteOutcome where
  status : SelectionStatus
  target : Option SelectedTarget
  reason : Option String
  deriving DecidableEq

def SelectionResult.outcome (result : SelectionResult) : RouteOutcome :=
  ⟨result.status, result.target, result.reason⟩

def RoutingSettings.settled (settings : RoutingSettings) (wanted : String) :
    Option (Route × Option PoolAccount) → RouteOutcome
  | none => ⟨.blocked, none, some "routes_exhausted"⟩
  | some (route, account) =>
    let target := some (settings.target route account wanted)
    if route.billing.isMetered && settings.meteredFallback = .ask then
      ⟨.approvalNeeded, target, some "approval_needed"⟩
    else ⟨.resolved, target, none⟩

def PoolView.reference (view : PoolView) (settings : RoutingSettings) (request : RouteRequest) :
    RouteOutcome :=
  let wanted := settings.wanted request.routeClass
  if !settings.enabled then ⟨.blocked, none, some "routing_disabled"⟩
  else if wanted ∉ routeClasses then ⟨.blocked, none, some "unknown_route_class"⟩
  else settings.settled wanted (view.search settings request (settings.routesFor wanted))

theorem Billing.free_not_metered {billing : Billing} (free : billing.isFree) :
    billing.isMetered = false := by
  cases billing
  all_goals simp_all [Billing.isFree, Billing.isMetered]

theorem settleRoute_outcome (settings : RoutingSettings) (wanted : String) (route : Route)
    (account : PoolAccount) (trace : List String) :
    (settleRoute settings wanted route account trace).outcome =
      settings.settled wanted (some (route, some account)) := by
  unfold settleRoute RoutingSettings.settled
  dsimp only
  split
  · rfl
  · rfl

section Walk

variable {settings : RoutingSettings} {request : RouteRequest} {wanted : String} {view : PoolView}
  {route : Route} {rest : List Route}

theorem search_skip (barred : settings.allows request route = false) :
    view.search settings request (route :: rest) = view.search settings request rest := by
  simp [PoolView.search, barred]

theorem search_take (allowed : settings.allows request route) :
    view.search settings request (route :: rest) =
      (view.taken request.excludeAccountIds route).or (view.search settings request rest) := by
  simp only [PoolView.search, List.filter_cons, allowed, if_true, List.findSome?_cons]
  cases view.taken request.excludeAccountIds route
  · rfl
  · rfl

theorem allows_iff : settings.allows request route ↔
    route.id ∉ request.excludeRouteIds ∧
      (present request.preferredModel).any (· ≠ route.model) = false ∧
      (route.billing.isMetered && settings.meteredFallback = .never) = false := by
  unfold RoutingSettings.allows
  cases present request.preferredModel
  · simp [imp_iff_not_or]
  · simp [imp_iff_not_or, and_assoc]

variable {loaded : Option (List PoolAccount × PoolState)} {trace : List String}

theorem walkRoutes_barred (barred : settings.allows request route = false) :
    ∃ note, walkRoutes settings request wanted (route :: rest) loaded trace =
      walkRoutes settings request wanted rest loaded (trace ++ [note]) := by
  rw [walkRoutes]
  by_cases excluded : route.id ∈ request.excludeRouteIds
  · exact ⟨_, if_pos excluded⟩
  rw [if_neg excluded]
  by_cases other : (present request.preferredModel).any (· ≠ route.model)
  · exact ⟨_, if_pos other⟩
  rw [if_neg other]
  have price : route.billing.isMetered && settings.meteredFallback = .never := by
    by_contra allowed
    have : settings.allows request route :=
      allows_iff.mpr ⟨excluded, by simpa using other, by simpa using allowed⟩
    simp [this] at barred
  have charged : ¬route.billing.isFree := by
    intro free
    simp [Billing.free_not_metered free] at price
  rw [if_neg charged, if_pos price]
  exact ⟨_, rfl⟩

theorem walkRoutes_free (allowed : settings.allows request route) (free : route.billing.isFree) :
    walkRoutes settings request wanted (route :: rest) loaded trace =
      .ret ⟨.resolved, some (settings.target route none wanted),
        trace ++ ["selected route " ++ route.id ++ ": free, no account required"], none⟩ := by
  obtain ⟨excluded, same, _⟩ := allows_iff.mp allowed
  rw [walkRoutes, if_neg excluded, same, if_neg (by decide), if_pos free]

theorem walkRoutes_billed (allowed : settings.allows request route)
    (charged : ¬route.billing.isFree) :
    walkRoutes settings request wanted (route :: rest) loaded trace =
      (poolAndState loaded).bind fun (pool, state) =>
        (firstEligible settings route state request.excludeAccountIds (routeCandidates route pool)
            (trace ++ missingAccount settings route (routeCandidates route pool))).bind fun
          | (none, trace) => walkRoutes settings request wanted rest (some (pool, state))
              (trace ++ ["route " ++ route.id ++ ": no eligible account"])
          | (some account, trace) => .ret (settleRoute settings wanted route account trace) := by
  obtain ⟨excluded, same, price⟩ := allows_iff.mp allowed
  rw [walkRoutes, if_neg excluded, same, if_neg (by decide), if_neg charged, price]
  exact if_neg (by decide)

/-- The walk comes to what the search finds, whether or not the pool has been read. -/
theorem value_walkRoutes (routes : List Route)
    (own : loaded = none ∨ loaded = some (view.pool, view.state)) (trace : List String) :
    ((walkRoutes settings request wanted routes loaded trace).value view.answer).outcome =
      settings.settled wanted (view.search settings request routes) := by
  induction routes generalizing loaded trace with
  | nil => rfl
  | cons route rest ih =>
    cases allowed : settings.allows request route
    case false =>
      obtain ⟨note, passed⟩ : ∃ note, walkRoutes settings request wanted (route :: rest) loaded
          trace = walkRoutes settings request wanted rest loaded (trace ++ [note]) :=
        walkRoutes_barred allowed
      rw [passed, search_skip allowed]
      exact ih own _
    case true =>
      rw [search_take allowed]
      by_cases free : route.billing.isFree
      · rw [walkRoutes_free allowed free]
        simp [PoolView.taken, free, RoutingSettings.settled, Billing.free_not_metered free,
          SelectionResult.outcome]
      rw [walkRoutes_billed allowed free, Prog.value_bind, PoolView.value_poolAndState own,
        Prog.value_bind]
      have found := view.value_firstEligible settings route
        request.excludeAccountIds (routeCandidates route view.pool)
        (trace ++ missingAccount settings route (routeCandidates route view.pool))
      revert found
      generalize (firstEligible settings route view.state request.excludeAccountIds
        (routeCandidates route view.pool) _).value view.answer = looked
      obtain ⟨account, after⟩ := looked
      intro found
      have taken : view.taken request.excludeAccountIds route =
          account.map fun account => (route, some account) := by
        rw [PoolView.taken, if_neg free, ← found]
      rw [taken]
      cases account with
      | none => exact ih (.inr rfl) _
      | some account => exact settleRoute_outcome _ _ _ _ _

/-- A walk whose first allowed route is free asks for nothing. -/
theorem immediate_walkRoutes (routes : List Route) (trace : List String)
    (free : (routes.filter (settings.allows request)).head?.all (·.billing.isFree)) :
    (walkRoutes settings request wanted routes loaded trace).Immediate := by
  induction routes generalizing trace with
  | nil => exact ⟨_, rfl⟩
  | cons route rest ih =>
    cases allowed : settings.allows request route
    case false =>
      obtain ⟨note, passed⟩ : ∃ note, walkRoutes settings request wanted (route :: rest) loaded
          trace = walkRoutes settings request wanted rest loaded (trace ++ [note]) :=
        walkRoutes_barred allowed
      rw [List.filter_cons_of_neg (by simp [allowed])] at free
      rw [passed]
      exact ih _ free
    case true =>
      rw [List.filter_cons_of_pos allowed] at free
      exact ⟨_, walkRoutes_free allowed free⟩

theorem search_mem {routes : List Route} {found : Route × Option PoolAccount}
    (here : view.search settings request routes = some found) :
    found.1 ∈ routes ∧ settings.allows request found.1 ∧
      view.taken request.excludeAccountIds found.1 = some found := by
  obtain ⟨route, member, taken⟩ := List.exists_of_findSome?_eq_some here
  obtain ⟨chained, allowed⟩ := List.mem_filter.mp member
  have same : found.1 = route := by
    unfold PoolView.taken at taken
    split at taken
    · cases taken
      rfl
    · obtain ⟨account, _, rfl⟩ := Option.map_eq_some_iff.mp taken
      rfl
  exact ⟨same ▸ chained, same ▸ allowed, same ▸ taken⟩

end Walk

/-- A route is taken without an account, where it is free, or with an account that may be bound. -/
theorem PoolView.taken_some {view : PoolView} {excluded : Finset AccountId} {route : Route}
    {account : Option PoolAccount} (taken : view.taken excluded route = some (route, account)) :
    (route.billing.isFree ∧ account = none) ∨
      ¬route.billing.isFree ∧ ∃ bound ∈ routeCandidates route view.pool,
        account = some bound ∧ view.eligible excluded bound := by
  unfold PoolView.taken at taken
  split at taken
  case isTrue free =>
    cases taken
    exact .inl ⟨free, rfl⟩
  case isFalse charged =>
    obtain ⟨bound, found, same⟩ := Option.map_eq_some_iff.mp taken
    cases same
    exact .inr ⟨charged, bound, List.mem_of_find?_eq_some found, rfl,
      List.find?_some found⟩

theorem routeCandidates_sub {route : Route} {pool : List PoolAccount} {account : PoolAccount}
    (candidate : account ∈ routeCandidates route pool) : account ∈ pool := by
  unfold routeCandidates at candidate
  split at candidate
  · exact List.mem_of_mem_filter candidate
  · exact List.mem_of_find?_eq_some (Option.mem_toList.mp candidate)
  · exact absurd candidate List.not_mem_nil

theorem PoolView.eligible_not_excluded {view : PoolView} {excluded : Finset AccountId}
    {account : PoolAccount} (fit : view.eligible excluded account) : account.id ∉ excluded := by
  simp only [PoolView.eligible, Bool.and_eq_true, decide_eq_true_eq] at fit
  exact fit.1.1.1.1

theorem selectRoute_outcome (settings : RoutingSettings) (request : RouteRequest)
    (view : PoolView) :
    ((selectRoute settings request).value view.answer).outcome =
      view.reference settings request := by
  unfold selectRoute PoolView.reference
  dsimp only
  split
  · rfl
  split
  · rfl
  split
  · rename_i empty
    rw [List.isEmpty_iff.mp empty]
    rfl
  · exact value_walkRoutes _ (.inl rfl) _

theorem reference_target {settings : RoutingSettings} {request : RouteRequest} {view : PoolView}
    {target : SelectedTarget}
    (chosen : (view.reference settings request).target = some target) :
    settings.enabled ∧ settings.wanted request.routeClass ∈ routeClasses ∧
      ∃ found : Route × Option PoolAccount,
        view.search settings request
            (settings.routesFor (settings.wanted request.routeClass)) = some found ∧
          target = settings.target found.1 found.2 (settings.wanted request.routeClass) ∧
          view.reference settings request =
            settings.settled (settings.wanted request.routeClass) (some found) := by
  unfold PoolView.reference at chosen ⊢
  dsimp only at chosen ⊢
  split at chosen
  · cases chosen
  rename_i enabled
  split at chosen
  · cases chosen
  rename_i known
  rw [if_neg enabled, if_neg known]
  cases search : view.search settings request
      (settings.routesFor (settings.wanted request.routeClass))
  case none =>
    rw [search] at chosen
    cases chosen
  case some found =>
    rw [search] at chosen
    refine ⟨by simpa using enabled, not_not.mp known, found, rfl, ?_, rfl⟩
    unfold RoutingSettings.settled at chosen
    dsimp only at chosen
    split at chosen
    · cases chosen
      rfl
    · cases chosen
      rfl

theorem Billing.metered_of_name {billing : Billing} (named : billing.name = "metered") :
    billing.isMetered := by
  cases billing
  case metered => rfl
  all_goals simp [Billing.name] at named

theorem settled_auto {settings : RoutingSettings} {request : RouteRequest} {wanted : String}
    {route : Route} {account : Option PoolAccount} (allowed : settings.allows request route)
    (resolved : (settings.settled wanted (some (route, account))).status = .resolved)
    (metered : route.billing.isMetered) : settings.meteredFallback = .auto := by
  obtain ⟨_, _, price⟩ := allows_iff.mp allowed
  cases fallback : settings.meteredFallback
  · rfl
  · simp [RoutingSettings.settled, metered, fallback] at resolved
  · simp [metered, fallback] at price

theorem orText_some {id other : String} (named : id ≠ "") : orText (some id) other = id := by
  simp [orText, named]

/-- What a selection returns is what the plain search along the chain of the class finds; where the
first route that may be tried is free, no question is asked; and the target has a route of the class
that is not excluded, an account of the pool that is not excluded if the route bills one, and no
metered account unless the policy is `auto`. -/
theorem selectRoute_searches (settings : RoutingSettings) (request : RouteRequest)
    (view : PoolView) :
    let wanted := settings.wanted request.routeClass
    let result := (selectRoute settings request).value view.answer
    result.outcome = view.reference settings request ∧
      (((settings.routesFor wanted).filter (settings.allows request)).head?.all
          (·.billing.isFree) → (selectRoute settings request).Immediate) ∧
      ∀ target, result.target = some target →
        target.routeClass = wanted ∧
        (∃ route ∈ settings.routesFor wanted, target.routeId = route.id ∧
          route.id ∉ request.excludeRouteIds ∧ target.billingClass = route.billing.name ∧
          (route.billing.isFree ∨ ∃ account ∈ view.pool, target.authBindingId = account.id ∧
            account.id ∉ request.excludeAccountIds)) ∧
        (result.status = .resolved → target.billingClass = "metered" →
          settings.meteredFallback = .auto) := by
  intro wanted result
  have same : result.outcome = view.reference settings request := selectRoute_outcome _ _ _
  refine ⟨same, ?_, ?_⟩
  · intro free
    unfold selectRoute
    dsimp only
    split
    · exact ⟨_, rfl⟩
    split
    · exact ⟨_, rfl⟩
    split
    · exact ⟨_, rfl⟩
    · exact immediate_walkRoutes _ _ free
  · intro target chosen
    have chosen : (view.reference settings request).target = some target := by
      rw [← same]
      exact chosen
    obtain ⟨_, _, ⟨route, account⟩, search, rfl, settled⟩ := reference_target chosen
    obtain ⟨chained, allowed, taken⟩ := search_mem search
    refine ⟨rfl, ⟨route, chained, rfl, (allows_iff.mp allowed).1, rfl, ?_⟩, ?_⟩
    · obtain ⟨free, _⟩ | ⟨_, bound, candidate, rfl, fit⟩ := PoolView.taken_some taken
      · exact .inl free
      · exact .inr ⟨bound, routeCandidates_sub candidate, orText_some bound.named,
          PoolView.eligible_not_excluded fit⟩
    · intro resolved metered
      have status : result.status = result.outcome.status := rfl
      rw [status, same, settled] at resolved
      exact settled_auto allowed resolved (Billing.metered_of_name metered)

end SightMesh
