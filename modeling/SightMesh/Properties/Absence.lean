import SightMesh.Properties.ExpirySweep

/-! What the sweep over expired reservations takes for proof that a launch is absent. -/
namespace SightMesh

open Concurrency Database Python

variable {γ : Type} {py : Library} {x : Executor γ}
  {ok : Shared Tx Query Store γ → Event Tx Query → Prop} {s s' : Shared Tx Query Store γ}

/-- The exchange proves that the executor knows no such effect. -/
def Exchange.provesAbsence (py : Library) (baseUrl : String) (t : TaskId) (n : ℕ) :
    Exchange → Bool
  | .refused code detail _ => code = 404 || code = 400 && contains effectNotFoundMessage detail
  | .answered body => match lookupEffect py baseUrl t n (.answered body) with
    | .ok native => native.state ∈ absentStates
    | .error _ => false
  | .unreachable _ | .broken _ => false

/-- The exchange proves nothing of the kind, and the sweep takes it for absence: by the text of a
failure, or by a body that reports neither absence nor a live session. -/
def Exchange.misread (py : Library) (baseUrl : String) (t : TaskId) (n : ℕ) : Exchange → Bool
  | .refused code detail _ => code ≠ 404 && !(code = 400 && contains effectNotFoundMessage detail) &&
    readsAsAbsence py (refusalText "GET" (effectPath t n) code detail)
  | .unreachable reason => readsAsAbsence py (unreachableText baseUrl reason)
  | .answered body => match lookupEffect py baseUrl t n (.answered body) with
    | .ok native => native.state ∉ absentStates && !native.live
    | .error (.cdesktop _ text) => readsAsAbsence py text
    | .error _ => false
  | .broken _ => false

/-- The reservation is given up on proof of absence only; without it a live session is adopted, and
everything else leaves the reservation and the row of its task alone. -/
def Exchange.Respected (py : Library) (baseUrl : String) (t : TaskId) (n : ℕ) (exchange : Exchange)
    (a b : Store) : Prop :=
  exchange.provesAbsence py baseUrl t n ∨
    (∃ native effect, lookupEffect py baseUrl t n exchange = .ok native ∧ native.live ∧
      b.effect t n = some effect ∧ effect.state = .launched ∧
      effect.workspaceId = some native.workspaceId ∧ effect.sessionId = some native.sessionId) ∨
    b.effect t n = a.effect t n ∧ b.task t = a.task t

theorem lookupEffect_untyped {baseUrl : String} {t : TaskId} {n : ℕ} {body : Option Json}
    {failure : CdesktopFailure} {text : String} (retryAt : Option Time)
    (failed : lookupEffect py baseUrl t n (.answered body) = .error (.cdesktop failure text)) :
    failure ≠ .rejected (some 404) retryAt := by
  unfold lookupEffect at failed
  split at failed
  · rename_i e refused
    cases failed
    unfold clientRequest at refused
    split at refused
    · rename_i unsent
      exact nomatch unsent
    · rename_i unsent
      exact nomatch unsent
    · exact nomatch refused
    · exact nomatch refused
    · split at refused
      · cases refused
        exact fun same => nomatch same
      · split at refused
        · exact nomatch refused
        · exact nomatch refused
    · exact nomatch refused
  · exact nomatch failed
  · cases failed
    exact fun same => nomatch same

theorem readEffect_failed {failure : CdesktopFailure} {text : String}
    (untyped : ∀ retryAt, failure ≠ .rejected (some 404) retryAt) :
    readEffect py (.error (.cdesktop failure text)) =
      if readsAsAbsence py text then .ok none else .error (.unknowable text) := by
  rw [← isEffectNotFound_untyped py text untyped]
  rfl

theorem misread_of_error {baseUrl : String} {t : TaskId} {n : ℕ} {exchange : Exchange}
    {e : KernelError} (reads : readEffect py (lookupEffect py baseUrl t n exchange) = .error e) :
    exchange.misread py baseUrl t n = false := by
  have unread {failure : CdesktopFailure} {text : String}
      (untyped : ∀ retryAt, failure ≠ .rejected (some 404) retryAt)
      (reads : readEffect py (.error (.cdesktop failure text)) = .error e) :
      readsAsAbsence py text = false := by
    rw [readEffect_failed untyped] at reads
    by_contra absent
    rw [if_pos (Bool.not_eq_false _ ▸ absent)] at reads
    exact nomatch reads
  cases exchange with
  | refused code detail retryAt =>
    have untyped := rejectionType_untyped code retryAt
    simp [Exchange.misread, unread untyped reads]
  | unreachable reason =>
    have untyped (retryAt : Option Time) : CdesktopFailure.transport ≠ .rejected (some 404) retryAt := by
      simp
    exact unread untyped reads
  | broken message => rfl
  | answered body =>
    cases looked : lookupEffect py baseUrl t n (.answered body) with
    | ok native =>
      rw [looked] at reads
      exact nomatch reads
    | error failed =>
      simp only [Exchange.misread, looked]
      cases failed with
      | cdesktop failure text =>
        have untyped := fun retryAt => lookupEffect_untyped retryAt looked
        rw [looked] at reads
        exact unread untyped reads
      | _ => rfl

theorem misread_of_live {baseUrl : String} {t : TaskId} {n : ℕ} {exchange : Exchange}
    {native : Native}
    (reads : readEffect py (lookupEffect py baseUrl t n exchange) = .ok (some native))
    (live : native.live) :
    lookupEffect py baseUrl t n exchange = .ok native ∧ exchange.misread py baseUrl t n = false := by
  have looked : lookupEffect py baseUrl t n exchange = .ok native := by
    cases looked : lookupEffect py baseUrl t n exchange with
    | ok native' =>
      rw [looked, readEffect] at reads
      split at reads
      · exact nomatch reads
      · cases reads
        rfl
    | error e =>
      rw [looked] at reads
      cases e with
      | cdesktop failure text =>
        rw [readEffect] at reads
        split at reads
        · exact nomatch reads
        · exact nomatch reads
      | _ => exact nomatch reads
  refine ⟨looked, ?_⟩
  cases exchange with
  | answered body => simp [Exchange.misread, looked, live]
  | _ => exact nomatch looked

theorem misread_of_dead {baseUrl : String} {t : TaskId} {n : ℕ} {exchange : Exchange}
    {found : Option Native}
    (reads : readEffect py (lookupEffect py baseUrl t n exchange) = .ok found)
    (dead : ∀ native ∈ found, native.live = false) :
    exchange.misread py baseUrl t n = !exchange.provesAbsence py baseUrl t n := by
  have absent {failure : CdesktopFailure} {text : String}
      (untyped : ∀ retryAt, failure ≠ .rejected (some 404) retryAt)
      (reads : readEffect py (.error (.cdesktop failure text)) = .ok found) :
      readsAsAbsence py text = true := by
    rw [readEffect_failed untyped] at reads
    by_contra present
    rw [if_neg present] at reads
    cases reads
  cases exchange with
  | refused code detail retryAt =>
    have untyped := rejectionType_untyped code retryAt
    simp [Exchange.misread, Exchange.provesAbsence, absent untyped reads]
  | unreachable reason =>
    have untyped (retryAt : Option Time) : CdesktopFailure.transport ≠ .rejected (some 404) retryAt :=
      fun same => nomatch same
    have text := absent untyped reads
    simp [Exchange.misread, Exchange.provesAbsence, text]
  | broken message => cases reads
  | answered body =>
    cases looked : lookupEffect py baseUrl t n (.answered body) with
    | ok native =>
      simp only [Exchange.misread, Exchange.provesAbsence, looked]
      rw [looked, readEffect] at reads
      split at reads
      · rename_i listed
        simp [listed]
      · rename_i unlisted
        cases reads
        simp [unlisted, dead native rfl]
    | error failed =>
      simp only [Exchange.misread, Exchange.provesAbsence, looked]
      cases failed with
      | cdesktop failure text =>
        have untyped := fun retryAt => lookupEffect_untyped retryAt looked
        rw [looked] at reads
        simp [absent untyped reads]
      | _ =>
        rw [looked] at reads
        cases reads

/-- The sweep gives up a reservation on proof of absence only, except when it misreads the answer to
its lookup, or finds no row to look up for. -/
theorem retired_on_proof_iff {t : TaskId} {n : ℕ} {moment : Time} {baseUrl : String}
    {exchange : Exchange} {r : Answer Unit} (due : (t, n) ∈ s.store.expiredReservations moment)
    (heard : ∀ env answer env', x.answer env (.managedEffect t n) answer env' →
      answer = lookupEffect py baseUrl t n exchange)
    (run : (expireReservation py moment (t, n)).Ends (kernel py x) ok s r s') :
    exchange.Respected py baseUrl t n s.store s'.store ↔
      match s.store.task t with
      | none => exchange.provesAbsence py baseUrl t n = true
      | some row => row.epoch = n → exchange.misread py baseUrl t n = false := by
  obtain ⟨effect, known, reserved, expired⟩ := mem_expiredReservations.mp due
  obtain ⟨swept, _, _⟩ := expireReservation_ends run
  have given_up {db : Store} {next : Effect} (left : db.effect t n = some next)
      (ended : next.state = .terminal) :
      exchange.Respected py baseUrl t n s.store db ↔ exchange.provesAbsence py baseUrl t n := by
    constructor
    · rintro (proved | ⟨native, other, _, _, there, launched, _⟩ | ⟨same, _⟩)
      · exact proved
      · cases Option.some.inj (left.symm.trans there)
        exact nomatch ended.symm.trans launched
      · cases Option.some.inj (left.symm.trans (same.trans known))
        exact nomatch ended.symm.trans reserved
    · exact .inl
  have looked {answer : Answer Native} (asked : Asked x ok t n answer) :
      answer = lookupEffect py baseUrl t n exchange := by
    obtain ⟨_, env, answered, _⟩ := asked
    exact heard _ _ _ answered
  generalize s'.store = left at swept
  cases swept with
  | unowned absent =>
    rw [absent]
    exact given_up (retireReservation_due known reserved expired) rfl
  | skipped there other =>
    rw [there]
    exact ⟨fun _ same => absurd same other, fun _ => .inr (.inr ⟨rfl, rfl⟩)⟩
  | unknown there current asked reads =>
    rw [looked asked] at reads
    rw [there]
    exact ⟨fun _ _ => misread_of_error reads, fun _ => .inr (.inr ⟨rfl, rfl⟩)⟩
  | @adopted row answer native now now' there current asked reads live =>
    have named : row.taskId = t := Store.taskId_of_task there
    rw [looked asked] at reads
    obtain ⟨found, right⟩ := misread_of_live reads live
    rw [there]
    refine ⟨fun _ _ => right, fun _ => .inr (.inl ⟨native, ?_⟩)⟩
    subst named
    obtain ⟨next, left, launched, ids⟩ :=
      adopted_effect row.toTaskRecord native now now' known reserved
    exact ⟨next, found, live, left, launched, ids⟩
  | @retired row answer found now there current asked reads dead =>
    have named : row.taskId = t := Store.taskId_of_task there
    rw [looked asked] at reads
    have wrong := misread_of_dead reads dead
    rw [there]
    subst named
    rw [given_up (retired_effect row.toTaskRecord now known reserved expired) rfl, wrong]
    simp [current]

def lookupScript (baseUrl : String) (exchange : Exchange) : Script :=
  { Script.calm with
    launch := fun _ _ => noAnswer
    effect := fun taskId epoch => lookupEffect asciiLibrary baseUrl taskId epoch exchange }

theorem lookupScript_heard {baseUrl : String} {exchange : Exchange} {t : TaskId} {n : ℕ}
    {env : ℕ} {answer : Answer Native} {env' : ℕ}
    (answered : (lookupScript baseUrl exchange).executor.answer env (.managedEffect t n) answer
      env') : answer = lookupEffect asciiLibrary baseUrl t n exchange :=
  congrArg Prod.fst answered

def unansweredWorld (script : Script) : ScriptWorld := script.run [startWorker] (steps 0 100)

def sweepingWorld (script : Script) : ScriptWorld :=
  ((unansweredWorld script).put 1 (expireReservation asciiLibrary 3600 (workerId, 1))).play
    (kernel asciiLibrary script.executor) script.oracle (steps 1 40)

/-- The executor cannot be reached at its port. -/
def downScript (baseUrl : String) : Script := lookupScript baseUrl (.unreachable "refused")

set_option maxRecDepth 100000 in
theorem unreachable_executor_respected :
    (Exchange.unreachable "refused").Respected asciiLibrary "http://127.0.0.1:14141" workerId 1
      (unansweredWorld (downScript "http://127.0.0.1:14141")).shared.store
      (sweepingWorld (downScript "http://127.0.0.1:14141")).shared.store := by
  have due : (workerId, 1) ∈ (unansweredWorld
      (downScript "http://127.0.0.1:14141")).shared.store.expiredReservations 3600 := by
    decide +kernel
  have ended : (sweepingWorld (downScript "http://127.0.0.1:14141")).finished 1 := by
    decide +kernel
  refine (retired_on_proof_iff due (fun env answer env' => lookupScript_heard)
    ((downScript _).ends_alone ended)).mpr ?_
  have read : (Exchange.unreachable "refused").misread asciiLibrary "http://127.0.0.1:14141"
      workerId 1 = false := by decide +kernel
  split
  · rename_i absent
    have known : ((unansweredWorld
      (downScript "http://127.0.0.1:14141")).shared.store.task workerId).isSome := by decide +kernel
    rw [absent] at known
    exact nomatch known
  · exact fun _ => read

set_option maxRecDepth 100000 in
/-- The digits of a port prove that a launch is absent. -/
theorem unreachable_executor_retires :
    ¬ ∀ (baseUrl : String) (exchange : Exchange) (s s' : Shared Tx Query Store ℕ),
      (workerId, 1) ∈ s.store.expiredReservations 3600 →
      (expireReservation asciiLibrary 3600 (workerId, 1)).Ends
        (kernel asciiLibrary (lookupScript baseUrl exchange).executor) anyEvent s (.ok ()) s' →
      exchange.Respected asciiLibrary baseUrl workerId 1 s.store s'.store := by
  intro all
  have due : (workerId, 1) ∈ (unansweredWorld
      (downScript "http://127.0.0.1:14041")).shared.store.expiredReservations 3600 := by
    decide +kernel
  have ended : (sweepingWorld (downScript "http://127.0.0.1:14041")).finished 1 := by
    decide +kernel
  rcases all "http://127.0.0.1:14041" (.unreachable "refused") _ _ due ((downScript _).ends_alone ended) with
    proved | ⟨native, effect, looked, _⟩ | ⟨same, _⟩
  · exact nomatch proved
  · exact nomatch looked
  · have changed : (sweepingWorld (downScript "http://127.0.0.1:14041")).shared.store.effect
        workerId 1 ≠ (unansweredWorld
          (downScript "http://127.0.0.1:14041")).shared.store.effect workerId 1 := by decide +kernel
    exact changed same

end SightMesh
