import Mathlib.Data.List.TakeWhile
import SightMesh.Properties.Routing

/-! After an outcome that refuses a binding, the chain of the class is walked again without that
binding. All free routes share one binding, so this passes no free route. -/
namespace SightMesh

open Python Concurrency

def RoutingSettings.tries (settings : RoutingSettings) (route : Route) : Bool :=
  !(route.billing.isMetered && settings.meteredFallback = .never)

/-- The chain has no further route, or the next target has another route or another account. -/
def SelectedTarget.Left (failed : SelectedTarget) (result : SelectionResult) : Prop :=
  result.outcome = ⟨.blocked, none, some "routes_exhausted"⟩ ∨
    ∃ next, result.target = some next ∧
      (next.routeId ≠ failed.routeId ∨ next.authBindingId ≠ failed.authBindingId)

/-- What `advance_route_after_outcome` asks for. -/
def SelectedTarget.retry (failed : SelectedTarget) : RouteRequest :=
  ⟨some failed.routeClass, none, {failed.authBindingId}, ∅⟩

/-- A route before that of the failed target can be taken. -/
def PoolView.EarlierTaken (view : PoolView) (settings : RoutingSettings)
    (failed : SelectedTarget) : Prop :=
  ∃ route ∈ (settings.routesFor failed.routeClass).takeWhile (·.id ≠ failed.routeId),
    settings.tries route ∧ (route.billing.isFree ∨
      ∃ account ∈ routeCandidates route view.pool, view.eligible {failed.authBindingId} account)

theorem allows_retry (settings : RoutingSettings) (failed : SelectedTarget) (route : Route) :
    settings.allows failed.retry route = settings.tries route := by
  simp [RoutingSettings.allows, RoutingSettings.tries, SelectedTarget.retry, present]

theorem chain_split {routes : List Route} (distinct : (routes.map Route.id).Nodup) {route : Route}
    (member : route ∈ routes) :
    ∃ after, routes = routes.takeWhile (·.id ≠ route.id) ++ route :: after := by
  induction routes with
  | nil => exact absurd member List.not_mem_nil
  | cons first rest ih =>
    obtain ⟨fresh, distinct⟩ := List.nodup_cons.mp distinct
    by_cases same : first.id = route.id
    · obtain rfl | later := List.mem_cons.mp member
      · exact ⟨rest, by simp⟩
      · exact absurd (same ▸ List.mem_map_of_mem later) fresh
    · obtain rfl | later := List.mem_cons.mp member
      · exact absurd rfl same
      · obtain ⟨after, split⟩ := ih distinct later
        refine ⟨after, ?_⟩
        rw [List.takeWhile_cons_of_pos (by simpa using same), List.cons_append, ← split]

theorem route_unique {routes : List Route} (distinct : (routes.map Route.id).Nodup)
    {route other : Route} (member : route ∈ routes) (elsewhere : other ∈ routes)
    (same : route.id = other.id) : route = other :=
  List.inj_on_of_nodup_map distinct member elsewhere same

section Search

variable {settings : RoutingSettings} {request : RouteRequest} {view : PoolView}

theorem search_append (front back : List Route) :
    view.search settings request (front ++ back) =
      (view.search settings request front).or (view.search settings request back) := by
  simp [PoolView.search, List.filter_append, List.findSome?_append]

theorem search_none {routes : List Route} : view.search settings request routes = none ↔
    ∀ route ∈ routes, settings.allows request route →
      view.taken request.excludeAccountIds route = none := by
  simp [PoolView.search]

end Search

theorem taken_none {view : PoolView} {excluded : Finset AccountId} {route : Route} :
    view.taken excluded route = none ↔ ¬(route.billing.isFree ∨
      ∃ account ∈ routeCandidates route view.pool, view.eligible excluded account) := by
  unfold PoolView.taken
  split
  · simp_all
  · simp_all

theorem selected_stands {settings : RoutingSettings} {request : RouteRequest} {view : PoolView}
    {failed : SelectedTarget}
    (chosen : ((selectRoute settings request).value view.answer).target = some failed) :
    settings.enabled ∧ failed.routeClass ∈ routeClasses ∧
      ∃ route ∈ settings.routesFor failed.routeClass, settings.tries route ∧
        failed.routeId = route.id ∧ failed.billingClass = route.billing.name ∧
        failed.authBindingId ≠ "" ∧
        (route.billing.isFree → failed = settings.target route none failed.routeClass) := by
  have chosen : (view.reference settings request).target = some failed := by
    rw [← selectRoute_outcome]
    exact chosen
  obtain ⟨enabled, known, ⟨route, account⟩, search, rfl, _⟩ := reference_target chosen
  obtain ⟨chained, allowed, taken⟩ := search_mem search
  have tried : settings.tries route := by
    simp [RoutingSettings.tries, (allows_iff.mp allowed).2.2]
  refine ⟨enabled, known, route, chained, tried, rfl, rfl, ?_⟩
  obtain ⟨_, rfl⟩ | ⟨charged, bound, _, rfl, _⟩ := PoolView.taken_some taken
  · exact ⟨(by decide : freeAuthBinding ≠ ""), fun _ => rfl⟩
  · constructor
    · show orText (some bound.id) freeAuthBinding ≠ ""
      rw [orText_some bound.named]
      exact bound.named
    · intro free
      exact absurd free charged

theorem retry_reference {settings : RoutingSettings} {view : PoolView} {failed : SelectedTarget}
    (enabled : settings.enabled) (known : failed.routeClass ∈ routeClasses) :
    view.reference settings failed.retry = settings.settled failed.routeClass
      (view.search settings failed.retry (settings.routesFor failed.routeClass)) := by
  have wanted : settings.wanted failed.retry.routeClass = failed.routeClass := by
    apply orText_some
    rintro empty
    rw [empty] at known
    exact absurd known (by decide)
  unfold PoolView.reference
  rw [wanted]
  simp [enabled, known]

theorem settled_target (settings : RoutingSettings) (wanted : String)
    (found : Route × Option PoolAccount) :
    (settings.settled wanted (some found)).target =
      some (settings.target found.1 found.2 wanted) := by
  unfold RoutingSettings.settled
  dsimp only
  split
  · rfl
  · rfl

theorem Billing.free_of_name {billing : Billing} : billing.name = "free" ↔ billing.isFree := by
  cases billing
  all_goals simp [Billing.name, Billing.isFree]

theorem left_of_reference {settings : RoutingSettings} {view : PoolView} {failed : SelectedTarget}
    (enabled : settings.enabled) (known : failed.routeClass ∈ routeClasses) :
    failed.Left ((selectRoute settings failed.retry).value view.answer) ↔
      ∀ found, view.search settings failed.retry (settings.routesFor failed.routeClass) =
          some found →
        found.1.id ≠ failed.routeId ∨
          (settings.target found.1 found.2 failed.routeClass).authBindingId ≠
            failed.authBindingId := by
  have outcome := selectRoute_outcome settings failed.retry view
  rw [retry_reference enabled known] at outcome
  have next : ((selectRoute settings failed.retry).value view.answer).target =
      (settings.settled failed.routeClass
        (view.search settings failed.retry (settings.routesFor failed.routeClass))).target := by
    rw [← outcome]
    rfl
  unfold SelectedTarget.Left
  rw [outcome, next]
  cases view.search settings failed.retry (settings.routesFor failed.routeClass)
  case none => simp [RoutingSettings.settled]
  case some found =>
    have some_target := settled_target settings failed.routeClass found
    constructor
    · rintro (blocked | ⟨target, chosen, moved⟩) found' same
      · rw [blocked] at some_target
        cases some_target
      · cases same
        rw [some_target] at chosen
        cases chosen
        exact moved
    · intro moved
      exact .inr ⟨_, some_target, moved found rfl⟩

section Again

variable {settings : RoutingSettings} {view : PoolView} {failed : SelectedTarget} {route : Route}

theorem billed_left (chained : route ∈ settings.routesFor failed.routeClass)
    (charged : ¬route.billing.isFree) (own : failed.routeId = route.id)
    (found : Route × Option PoolAccount)
    (search : view.search settings failed.retry (settings.routesFor failed.routeClass) =
      some found) :
    found.1.id ≠ failed.routeId ∨
      (settings.target found.1 found.2 failed.routeClass).authBindingId ≠
        failed.authBindingId := by
  obtain ⟨next, account⟩ := found
  obtain ⟨member, _, taken⟩ := search_mem search
  by_cases same : next.id = failed.routeId
  · obtain rfl : next = route :=
      route_unique (settings.routesFor_distinct _) member chained (same.trans own)
    obtain ⟨free, _⟩ | ⟨_, bound, _, rfl, fit⟩ := PoolView.taken_some taken
    · exact absurd free charged
    · have fresh : bound.id ≠ failed.authBindingId := by
        simpa [SelectedTarget.retry] using PoolView.eligible_not_excluded fit
      right
      show orText (some bound.id) freeAuthBinding ≠ _
      rwa [orText_some bound.named]
  · exact .inl same

/-- A free route is taken again, unless a route before it is. -/
theorem free_left_iff (chained : route ∈ settings.routesFor failed.routeClass)
    (tried : settings.tries route) (free : route.billing.isFree)
    (whole : failed = settings.target route none failed.routeClass) :
    (∀ found, view.search settings failed.retry (settings.routesFor failed.routeClass) =
        some found → found.1.id ≠ failed.routeId ∨
          (settings.target found.1 found.2 failed.routeClass).authBindingId ≠
            failed.authBindingId) ↔ view.EarlierTaken settings failed := by
  have own : failed.routeId = route.id := by
    rw [whole]
    rfl
  have binding : failed.authBindingId = freeAuthBinding := by
    rw [whole]
    rfl
  obtain ⟨back, split⟩ := chain_split (settings.routesFor_distinct failed.routeClass) chained
  rw [← own] at split
  have again : view.search settings failed.retry (route :: back) = some (route, none) := by
    rw [search_take (by rwa [allows_retry])]
    simp [PoolView.taken, free]
  have search : view.search settings failed.retry (settings.routesFor failed.routeClass) =
      (view.search settings failed.retry ((settings.routesFor failed.routeClass).takeWhile
        (·.id ≠ failed.routeId))).or (some (route, none)) := by
    conv_lhs => rw [split]
    rw [search_append, again]
  rw [search]
  cases front : view.search settings failed.retry
      ((settings.routesFor failed.routeClass).takeWhile (·.id ≠ failed.routeId))
  case none =>
    have none_taken : ¬view.EarlierTaken settings failed := by
      rintro ⟨earlier, before, allowed, taken⟩
      have free_slot := search_none.mp front earlier before (by rwa [allows_retry])
      exact taken_none.mp free_slot taken
    constructor
    · intro moved
      obtain other | other := moved _ rfl
      · exact absurd own.symm other
      · exact absurd binding.symm other
    · intro taken
      exact absurd taken none_taken
  case some found =>
    obtain ⟨before, allowed, taken⟩ := search_mem front
    constructor
    · intro _
      rw [allows_retry] at allowed
      refine ⟨found.1, before, allowed, not_not.mp (mt taken_none.mpr ?_)⟩
      rw [show failed.retry.excludeAccountIds = {failed.authBindingId} from rfl] at taken
      simp [taken]
    · rintro _ found' same
      cases same
      left
      simpa using List.mem_takeWhile_imp before

end Again

/-- After an outcome that reroutes, the chain is exhausted or the next target has another route or
another account, if and only if the failed target is not free or a route before its own can be
taken. -/
theorem advance_leaves_iff (settings : RoutingSettings) (request : RouteRequest)
    (before after : PoolView) (failed : SelectedTarget) (outcome : String)
    (chosen : ((selectRoute settings request).value before.answer).target = some failed)
    (reroutes : outcome ∈ rerouteOutcomes) :
    (∃ program, advanceRouteAfterOutcome settings outcome (some failed.routeClass)
        (some failed.authBindingId) = .ok program ∧ failed.Left (program.value after.answer)) ↔
      failed.billingClass ≠ "free" ∨ after.EarlierTaken settings failed := by
  obtain ⟨enabled, known, route, chained, tried, id, billing, bound, whole⟩ := selected_stands chosen
  have program : advanceRouteAfterOutcome settings outcome (some failed.routeClass)
      (some failed.authBindingId) = .ok (selectRoute settings failed.retry) := by
    unfold advanceRouteAfterOutcome
    rw [if_neg (not_not.mpr reroutes), present_of_ne bound]
    rfl
  simp only [program, Except.ok.injEq, exists_eq_left', left_of_reference enabled known]
  have named : failed.billingClass = "free" ↔ route.billing.isFree := by
    rw [billing]
    exact Billing.free_of_name
  by_cases free : route.billing.isFree
  · rw [free_left_iff chained tried free (whole free)]
    simp [named, free]
  · constructor
    · intro _
      exact .inl (mt named.mp free)
    · intro _
      exact billed_left chained free id

def oneRoute (billing : Billing) : RoutingSettings where
  enabled := true
  chains := [⟨"standard", [⟨"only", "codex", "a model", billing⟩], by decide,
    List.nodup_singleton _⟩]
  defaultClass := "standard"
  meteredFallback := .ask
  exposeAccountAlias := false
  known := by decide
  distinct := List.nodup_singleton _

def twoAccounts : PoolView where
  pool := [⟨"first", "codex", "chatgpt", false, "/home/first", by decide⟩,
    ⟨"second", "codex", "chatgpt", false, "/home/second", by decide⟩]
  state := ⟨∅, ∅, ∅⟩
  now := 1
  hasToken _ := false
  quota _ := ⟨false, none, none⟩

theorem second_account_next :
    ((selectRoute (oneRoute (.subscription "codex")) ⟨none, none, ∅, ∅⟩).value
        twoAccounts.answer).target =
      some ⟨"standard", "only", "codex", "a model", "subscription", "first", none⟩ ∧
    ∃ program, advanceRouteAfterOutcome (oneRoute (.subscription "codex")) "auth"
        (some "standard") (some "first") = .ok program ∧
      SelectedTarget.Left ⟨"standard", "only", "codex", "a model", "subscription", "first", none⟩
        (program.value twoAccounts.answer) :=
  have chosen : ((selectRoute (oneRoute (.subscription "codex")) ⟨none, none, ∅, ∅⟩).value
      twoAccounts.answer).target =
        some ⟨"standard", "only", "codex", "a model", "subscription", "first", none⟩ := by
    decide +kernel
  ⟨chosen, (advance_leaves_iff (oneRoute (.subscription "codex")) ⟨none, none, ∅, ∅⟩ twoAccounts
    twoAccounts ⟨"standard", "only", "codex", "a model", "subscription", "first", none⟩ "auth"
    chosen (by decide)).mpr (.inl (by decide))⟩

/-- A chain of one free route has that route next, again. -/
theorem free_route_again :
    ¬∀ (settings : RoutingSettings) (request : RouteRequest) (before after : PoolView)
      (failed : SelectedTarget) (outcome : String),
      ((selectRoute settings request).value before.answer).target = some failed →
      outcome ∈ rerouteOutcomes →
      ∃ program, advanceRouteAfterOutcome settings outcome (some failed.routeClass)
          (some failed.authBindingId) = .ok program ∧
        failed.Left (program.value after.answer) := by
  intro claim
  obtain ⟨program, same, left⟩ := claim (oneRoute .free) ⟨none, none, ∅, ∅⟩ twoAccounts twoAccounts
    ⟨"standard", "only", "codex", "a model", "free", "free", none⟩ "provider_down"
    (by decide +kernel) (by decide)
  cases same
  obtain blocked | ⟨next, chosen, moved⟩ := left
  · revert blocked
    decide +kernel
  · have again : some next =
        some ⟨"standard", "only", "codex", "a model", "free", "free", none⟩ := by
      rw [← chosen]
      decide +kernel
    cases again
    simp at moved

end SightMesh
