import SightMesh.Properties.EndedEffects

/-! Who holds the reservation of a launch, and what it was granted for. -/
namespace SightMesh

open Database

/-! ### What a reservation is answered -/

theorem reserveEffect_terminal {t : TaskId} {n : ℕ} {db : Store} {row : Effect}
    (known : db.effect t n = some row) (ended : row.state = .terminal) (request : Launch)
    (owner : String) (ttl now : Time) :
    ∃ m, reserveEffect t n request owner ttl now db = .error (.effectTerminal m) := by
  simp only [reserveEffect, get_bind_run, known, ended]
  exact ⟨_, rfl⟩

theorem reserveEffect_launched {t : TaskId} {n : ℕ} {db : Store} {row : Effect}
    (known : db.effect t n = some row) (launched : row.state = .launched) (request : Launch)
    (owner : String) (ttl now : Time) :
    reserveEffect t n request owner ttl now db = .ok ((row, false), db) := by
  simp only [reserveEffect, get_bind_run, known, launched]
  rfl

theorem reserveEffect_absent {t : TaskId} {n : ℕ} {db : Store} (absent : db.effect t n = none)
    (request : Launch) (owner : String) (ttl now : Time) :
    ∃ row, reserveEffect t n request owner ttl now db = .ok ((row, false), db.putEffect row) ∧
      row.key = (t, n) ∧ row.state = .reserved ∧ row.ownerInstance = owner ∧
      row.requestHash = request ∧ row.leaseExpiresAt = now + ttl := by
  simp only [reserveEffect, get_bind_run, absent]
  exact ⟨_, rfl, rfl, rfl, rfl, rfl, rfl⟩

theorem reserveEffect_granted {t : TaskId} {n : ℕ} {db : Store} {row : Effect}
    (known : db.effect t n = some row) (reserved : row.state = .reserved) {request : Launch}
    {owner : String} (now : Time)
    (free : now < row.leaseExpiresAt → row.ownerInstance = owner ∧ row.requestHash = request)
    (ttl : Time) :
    reserveEffect t n request owner ttl now db =
      .ok (({ row with ownerInstance := owner, leaseExpiresAt := now + ttl, updatedAt := now },
        decide (row.leaseExpiresAt ≤ now)),
        db.putEffect { row with
          ownerInstance := owner, leaseExpiresAt := now + ttl, updatedAt := now }) := by
  simp only [reserveEffect, get_bind_run, known, reserved]
  by_cases live : now < row.leaseExpiresAt
  · obtain ⟨mine, same⟩ := free live
    simp only [gt_iff_lt, live, mine, same, if_true, ne_eq, not_true_eq_false, if_false]
    rfl
  · simp only [gt_iff_lt, live, if_false]
    rfl

theorem reserveEffect_busy {t : TaskId} {n : ℕ} {db : Store} {row : Effect}
    (known : db.effect t n = some row) (reserved : row.state = .reserved) {owner : String}
    {now : Time} (live : now < row.leaseExpiresAt) (other : row.ownerInstance ≠ owner)
    (request : Launch) (ttl : Time) :
    ∃ m, reserveEffect t n request owner ttl now db = .error (.effectBusy m) := by
  simp only [reserveEffect, get_bind_run, known, reserved, gt_iff_lt, live, if_true, ne_eq, other,
    not_false_eq_true]
  exact ⟨_, rfl⟩

theorem reserveEffect_conflict {t : TaskId} {n : ℕ} {db : Store} {row : Effect}
    (known : db.effect t n = some row) (reserved : row.state = .reserved) {request : Launch}
    {now : Time} (live : now < row.leaseExpiresAt) (other : row.requestHash ≠ request)
    (ttl : Time) :
    ∃ m, reserveEffect t n request row.ownerInstance ttl now db = .error (.effectConflict m) := by
  simp only [reserveEffect, get_bind_run, known, reserved, gt_iff_lt, live, if_true, ne_eq, other,
    not_true_eq_false, if_false, not_false_eq_true]
  exact ⟨_, rfl⟩

theorem advanceEffect_moved {t : TaskId} {n : ℕ} {db : Store} {row : Effect}
    (known : db.effect t n = some row) (assign : Effect → Effect) {expectStates : List EffectState}
    (expected : row.state ∈ expectStates) (now : Time) :
    advanceEffect t n assign expectStates now db =
      .ok ({ assign row with taskId := row.taskId, epoch := row.epoch, updatedAt := now },
        db.putEffect { assign row with
          taskId := row.taskId, epoch := row.epoch, updatedAt := now }) := by
  simp only [advanceEffect, get_bind_run, known, expected, if_true]
  rfl

theorem advanceEffect_refused {t : TaskId} {n : ℕ} {db : Store} {expectStates : List EffectState}
    (refused : ∀ row ∈ db.effect t n, row.state ∉ expectStates) (assign : Effect → Effect)
    (now : Time) :
    ∃ e, advanceEffect t n assign expectStates now db = .error e := by
  cases known : db.effect t n with
  | none =>
    simp only [advanceEffect, get_bind_run, known]
    exact ⟨_, rfl⟩
  | some row =>
    simp only [advanceEffect, get_bind_run, known, refused row known, if_false]
    exact ⟨_, rfl⟩

/-! ### Calls by any owners -/

inductive ReservationCall where
  | reserve (request : Launch) (owner : String) (ttl now : Time)
  | markLaunched (workspaceId : WorkspaceId) (sessionId : SessionId) (now : Time)
  | markTerminal (outcome : String) (retryAt : Option Time) (now : Time)

/-- Who was granted the reservation, and for which request. -/
structure Grant where
  owner : String
  request : Launch
  deriving DecidableEq

/-- The request that was launched first, and its ids. -/
structure Bound where
  request : Launch
  workspaceId : WorkspaceId
  sessionId : SessionId
  deriving DecidableEq

/-- The journal, the last grant it gave, and the launch it was told of. -/
structure Reserving where
  db : Store
  granted : Option Grant
  bound : Option Bound

def grantOf (owner : String) (request : Launch) : Answer (Effect × Bool) → Option Grant
  | .ok (effect, _) => if effect.state = .reserved then some ⟨owner, request⟩ else none
  | .error _ => none

def boundOf (granted : Option Grant) (workspaceId : WorkspaceId) (sessionId : SessionId) :
    Answer Effect → Option Bound
  | .ok _ => granted.map fun g => ⟨g.request, workspaceId, sessionId⟩
  | .error _ => none

def Reserving.exec (t : TaskId) (n : ℕ) (s : Reserving) : ReservationCall → Reserving
  | .reserve request owner ttl now =>
    let r := atomically (reserveEffect t n request owner ttl now) s.db
    { s with db := r.1, granted := (grantOf owner request r.2).or s.granted }
  | .markLaunched workspaceId sessionId now =>
    let r := atomically (markLaunched t n workspaceId sessionId now) s.db
    { s with db := r.1, bound := s.bound.or (boundOf s.granted workspaceId sessionId r.2) }
  | .markTerminal outcome retryAt now =>
    { s with db := (atomically (markTerminal t n outcome retryAt now) s.db).1 }

def Store.Holds (db : Store) (t : TaskId) (n : ℕ) (owner : String) (moment : Time) : Prop :=
  ∃ e, db.effect t n = some e ∧ e.state = .reserved ∧ e.ownerInstance = owner ∧
    moment < e.leaseExpiresAt

/-- Owner, lease, request and ids say the same. -/
structure Reserving.Consistent (t : TaskId) (n : ℕ) (s : Reserving) : Prop where
  exclusive : ∀ moment a b, s.db.Holds t n a moment → s.db.Holds t n b moment → a = b
  busy : ∀ now a, s.db.Holds t n a now → ∀ b ≠ a, ∀ request ttl,
    ∃ m, reserveEffect t n request b ttl now s.db = .error (.effectBusy m)
  /-- The holder is granted its own request again, and no other. -/
  granted : ∀ now a, s.db.Holds t n a now → ∃ request, s.granted = some ⟨a, request⟩ ∧
    (∃ e, s.db.effect t n = some e ∧ e.requestHash = request) ∧
    (∀ ttl, ∃ e db, reserveEffect t n request a ttl now s.db = .ok ((e, false), db) ∧
      e.state = .reserved ∧ e.ownerInstance = a ∧ e.requestHash = request ∧
      e.leaseExpiresAt = now + ttl) ∧
    ∀ other ≠ request, ∀ ttl,
      ∃ m, reserveEffect t n other a ttl now s.db = .error (.effectConflict m)
  launched : ∀ e, s.db.effect t n = some e → e.state = .launched →
    (∃ l, s.bound = some l ∧ e.requestHash = l.request ∧ e.workspaceId = some l.workspaceId ∧
      e.sessionId = some l.sessionId) ∧
    ∀ request owner ttl now,
      reserveEffect t n request owner ttl now s.db = .ok ((e, false), s.db)
  terminal : ∀ e, s.db.effect t n = some e → e.state = .terminal → ∀ request owner ttl now,
    ∃ m, reserveEffect t n request owner ttl now s.db = .error (.effectTerminal m)

/-- The call takes an expired reservation over for another request than the stored one, or gives a
launch other ids. -/
def ReservationCall.drifts (t : TaskId) (n : ℕ) (db : Store) : ReservationCall → Bool
  | .reserve request _ _ now => (db.effect t n).any fun e =>
      e.state = .reserved && decide (e.leaseExpiresAt ≤ now) && e.requestHash ≠ request
  | .markLaunched workspaceId sessionId _ => (db.effect t n).any fun e =>
      e.state = .launched && (e.workspaceId, e.sessionId) ≠ (some workspaceId, some sessionId)
  | .markTerminal .. => false

/-- What carries the consistency over the calls. -/
structure Reserving.Traced (t : TaskId) (n : ℕ) (s : Reserving) : Prop where
  absent : s.db.effect t n = none → s.bound = none
  reserved : ∀ e, s.db.effect t n = some e → e.state = .reserved →
    s.granted = some ⟨e.ownerInstance, e.requestHash⟩ ∧ s.bound = none
  launched : ∀ e, s.db.effect t n = some e → e.state = .launched →
    ∃ l, s.bound = some l ∧ e.requestHash = l.request ∧ e.workspaceId = some l.workspaceId ∧
      e.sessionId = some l.sessionId

theorem Reserving.Traced.consistent {t : TaskId} {n : ℕ} {s : Reserving} (h : s.Traced t n) :
    s.Consistent t n where
  exclusive := by
    rintro moment a b ⟨e, known, _, rfl, _⟩ ⟨e', known', _, rfl, _⟩
    cases Option.some.inj (known.symm.trans known')
    rfl
  busy := by
    rintro now a ⟨e, known, reserved, rfl, live⟩ b other request ttl
    exact reserveEffect_busy known reserved live (fun same => other same.symm) request ttl
  granted := by
    rintro now a ⟨e, known, reserved, rfl, live⟩
    have fresh : decide (e.leaseExpiresAt ≤ now) = false := by simpa using live
    refine ⟨e.requestHash, (h.reserved e known reserved).1, ⟨e, known, rfl⟩, ?_, ?_⟩
    · intro ttl
      have ran := reserveEffect_granted known reserved now (fun _ => ⟨rfl, rfl⟩) ttl
      rw [fresh] at ran
      exact ⟨_, _, ran, reserved, rfl, rfl, rfl⟩
    · intro other drifted ttl
      exact reserveEffect_conflict known reserved live (fun same => drifted same.symm) ttl
  launched e known launched :=
    ⟨h.launched e known launched, fun request owner ttl now =>
      reserveEffect_launched known launched request owner ttl now⟩
  terminal e known ended := fun request owner ttl now =>
    reserveEffect_terminal known ended request owner ttl now

theorem Reserving.Traced.put {t : TaskId} {n : ℕ} {db : Store} {row : Effect}
    {granted : Option Grant} {bound : Option Bound} (named : row.key = (t, n))
    (reserved : row.state = .reserved →
      granted = some ⟨row.ownerInstance, row.requestHash⟩ ∧ bound = none)
    (launched : row.state = .launched → ∃ l, bound = some l ∧ row.requestHash = l.request ∧
      row.workspaceId = some l.workspaceId ∧ row.sessionId = some l.sessionId) :
    Reserving.Traced t n ⟨db.putEffect row, granted, bound⟩ := by
  have known : (db.putEffect row).effect t n = some row := by
    rw [Store.effect_putEffect, if_pos named.symm]
  constructor
  · intro absent
    exact nomatch absent.symm.trans known
  · intro e found
    cases Option.some.inj (known.symm.trans found)
    exact reserved
  · intro e found
    cases Option.some.inj (known.symm.trans found)
    exact launched

theorem Reserving.Traced.reserve {t : TaskId} {n : ℕ} {s : Reserving} (h : s.Traced t n)
    {request : Launch} {owner : String} {ttl now : Time}
    (steady : (ReservationCall.reserve request owner ttl now).drifts t n s.db = false) :
    (s.exec t n (.reserve request owner ttl now)).Traced t n := by
  have refused {e : KernelError} (ran : reserveEffect t n request owner ttl now s.db = .error e) :
      s.exec t n (.reserve request owner ttl now) = s := by
    simp [exec, atomically, ran, grantOf]
  cases known : s.db.effect t n with
  | none =>
    obtain ⟨row, ran, named, reserved, mine, same, _⟩ :=
      reserveEffect_absent known request owner ttl now
    simp only [exec, atomically, ran, grantOf, reserved, if_true, Option.some_or]
    apply Traced.put named
    · intro _
      exact ⟨by rw [mine, same], h.absent known⟩
    · intro launched
      cases reserved.symm.trans launched
  | some row =>
    cases reserved : row.state with
    | terminal =>
      obtain ⟨m, ran⟩ := reserveEffect_terminal known reserved request owner ttl now
      rw [refused ran]
      exact h
    | launched =>
      have ran := reserveEffect_launched known reserved request owner ttl now
      have left : s.exec t n (.reserve request owner ttl now) = s := by
        simp [exec, atomically, ran, grantOf, reserved]
      rw [left]
      exact h
    | reserved =>
      by_cases busy : now < row.leaseExpiresAt ∧ row.ownerInstance ≠ owner
      · obtain ⟨m, ran⟩ := reserveEffect_busy known reserved busy.1 busy.2 request ttl
        rw [refused ran]
        exact h
      by_cases conflict : now < row.leaseExpiresAt ∧ row.requestHash ≠ request
      · have mine : row.ownerInstance = owner := by
          by_contra other
          exact busy ⟨conflict.1, other⟩
        obtain ⟨m, ran⟩ := reserveEffect_conflict known reserved conflict.1 conflict.2 ttl
        rw [mine] at ran
        rw [refused ran]
        exact h
      · have same : row.requestHash = request := by
          by_contra other
          have expired : row.leaseExpiresAt ≤ now := by
            by_contra live
            exact conflict ⟨lt_of_not_ge live, other⟩
          simp [ReservationCall.drifts, known, reserved, expired, other] at steady
        have ran := reserveEffect_granted known reserved now
          (fun live => ⟨by_contra fun other => busy ⟨live, other⟩, same⟩) ttl
        simp only [exec, atomically, ran, grantOf, reserved, if_true, Option.some_or]
        have key := Store.key_of_effect known
        apply Traced.put
        · exact key
        · intro _
          exact ⟨by rw [same], (h.reserved row known reserved).2⟩
        · simp

theorem Reserving.Traced.markLaunched {t : TaskId} {n : ℕ} {s : Reserving} (h : s.Traced t n)
    {workspaceId : WorkspaceId} {sessionId : SessionId} {now : Time}
    (steady : (ReservationCall.markLaunched workspaceId sessionId now).drifts t n s.db = false) :
    (s.exec t n (.markLaunched workspaceId sessionId now)).Traced t n := by
  by_cases open_ : ∃ row, s.db.effect t n = some row ∧ row.state ≠ .terminal
  · obtain ⟨row, known, open_⟩ := open_
    have expected : row.state ∈ [EffectState.reserved, .launched] := by
      cases state : row.state with
      | reserved | launched => simp
      | terminal => exact absurd state open_
    have ran := advanceEffect_moved known (fun e => { e with
      state := .launched, workspaceId := workspaceId, sessionId := sessionId }) expected now
    simp only [exec, SightMesh.markLaunched, atomically, ran, boundOf]
    have key := Store.key_of_effect known
    apply Traced.put
    · exact key
    · simp
    · intro _
      cases state : row.state with
      | terminal => exact absurd state open_
      | reserved =>
        obtain ⟨granted, unbound⟩ := h.reserved row known state
        rw [unbound, granted]
        exact ⟨_, rfl, rfl, rfl, rfl⟩
      | launched =>
        obtain ⟨l, bound, same, placed, held⟩ := h.launched row known state
        simp only [ReservationCall.drifts, known, Option.any_some, state, decide_true,
          Bool.true_and, decide_eq_false_iff_not, ne_eq, not_not, placed, held, Prod.mk.injEq,
          Option.some.injEq] at steady
        rw [bound]
        exact ⟨l, rfl, same, by rw [steady.1], by rw [steady.2]⟩
  · have refused : ∀ row ∈ s.db.effect t n, row.state ∉ [EffectState.reserved, .launched] := by
      intro row known expected
      apply open_
      exact ⟨row, known, fun ended => by simp [ended] at expected⟩
    obtain ⟨e, ran⟩ := advanceEffect_refused refused (fun e => { e with
      state := .launched, workspaceId := workspaceId, sessionId := sessionId }) now
    have left : s.exec t n (.markLaunched workspaceId sessionId now) = s := by
      simp [exec, SightMesh.markLaunched, atomically, ran, boundOf]
    rw [left]
    exact h

theorem Reserving.Traced.markTerminal {t : TaskId} {n : ℕ} {s : Reserving} (h : s.Traced t n)
    (outcome : String) (retryAt : Option Time) (now : Time) :
    (s.exec t n (.markTerminal outcome retryAt now)).Traced t n := by
  rw [exec]
  cases ran : SightMesh.markTerminal t n outcome retryAt now s.db with
  | error e =>
    rw [atomically, ran]
    exact h
  | ok r =>
    obtain ⟨row, known, _, left, put⟩ := advanceEffect_ok ran
    rw [atomically, ran]
    obtain ⟨effect, db⟩ := r
    subst left
    simp only at put
    rw [put]
    have key := Store.key_of_effect known
    apply Traced.put
    · exact key
    · simp
    · simp

theorem Reserving.Traced.exec {t : TaskId} {n : ℕ} {s : Reserving} (h : s.Traced t n)
    (call : ReservationCall) (steady : call.drifts t n s.db = false) :
    (s.exec t n call).Traced t n := by
  cases call with
  | reserve request owner ttl now => exact h.reserve steady
  | markLaunched workspaceId sessionId now => exact h.markLaunched steady
  | markTerminal outcome retryAt now => exact h.markTerminal outcome retryAt now

/-- After a call that drifts, the row says another thing than the grant or the launch. -/
theorem Reserving.Consistent.steady {t : TaskId} {n : ℕ} {s : Reserving} (h : s.Consistent t n)
    (call : ReservationCall) (after : (s.exec t n call).Consistent t n) :
    call.drifts t n s.db = false := by
  by_contra drifts
  rw [Bool.not_eq_false] at drifts
  cases call with
  | markTerminal => exact nomatch drifts
  | reserve request owner ttl now =>
    obtain ⟨row, known, drifts⟩ := (Option.any_eq_true ..).mp drifts
    simp only [Bool.and_eq_true, decide_eq_true_eq] at drifts
    obtain ⟨⟨reserved, expired⟩, other⟩ := drifts
    have ran : reserveEffect t n request owner ttl now s.db = _ :=
      reserveEffect_granted known reserved now (fun live => absurd expired (not_le_of_gt live)) ttl
    simp only [Reserving.exec, atomically, ran, grantOf, reserved, if_true, Option.some_or] at after
    have key : (t, n) = row.key := (Store.key_of_effect known).symm
    have taken : (s.db.putEffect { row with
        state := .reserved, ownerInstance := owner, leaseExpiresAt := now + ttl,
        updatedAt := now }).effect t n = some { row with
          state := .reserved, ownerInstance := owner, leaseExpiresAt := now + ttl,
          updatedAt := now } := by
      rw [Store.effect_putEffect, if_pos]
      exact key
    obtain ⟨same, granted, ⟨e, found, stored⟩, _⟩ :=
      after.granted (now + ttl - 1) owner ⟨_, taken, rfl, rfl, by simp⟩
    cases granted
    cases Option.some.inj (taken.symm.trans found)
    exact other stored
  | markLaunched workspaceId sessionId now =>
    obtain ⟨row, known, drifts⟩ := (Option.any_eq_true ..).mp drifts
    simp only [Bool.and_eq_true, decide_eq_true_eq] at drifts
    obtain ⟨launched, other⟩ := drifts
    obtain ⟨⟨l, bound, _, placed, held⟩, _⟩ := h.launched row known launched
    have expected : row.state ∈ [EffectState.reserved, .launched] := by simp [launched]
    have ran := advanceEffect_moved known (fun e => { e with
      state := .launched, workspaceId := workspaceId, sessionId := sessionId }) expected now
    simp only [Reserving.exec, SightMesh.markLaunched, atomically, ran, boundOf, bound,
      Option.some_or] at after
    have key : (t, n) = row.key := (Store.key_of_effect known).symm
    obtain ⟨⟨l', same, _, placed', held'⟩, _⟩ := after.launched { row with
      state := .launched, workspaceId := workspaceId, sessionId := sessionId, updatedAt := now }
      (by rw [Store.effect_putEffect, if_pos]; exact key) rfl
    cases same
    exact other (Prod.ext (placed.trans placed'.symm) (held.trans held'.symm))

/-- In every run of calls on the reservation of a launch, by any owners, for any requests and at any
times, the journal is consistent throughout if and only if no expired reservation is taken over for
another request than the stored one, and no launch is given other ids. -/
theorem reservations_consistent_iff {db : Store} {t : TaskId} {n : ℕ}
    (absent : db.effect t n = none) (calls : List ReservationCall) :
    Throughout (Reserving.exec t n) (Reserving.Consistent t n) ⟨db, none, none⟩ calls ↔
      Passes (Reserving.exec t n) (fun s call => call.drifts t n s.db = false) ⟨db, none, none⟩
        calls := by
  constructor
  · intro consistent
    exact consistent.passes fun s call here after => here.steady call after
  · intro steady
    have start : Reserving.Traced t n ⟨db, none, none⟩ := by
      constructor
      · intro _
        rfl
      · intro e known
        exact nomatch absent.symm.trans known
      · intro e known
        exact nomatch absent.symm.trans known
    have traced := throughout_of_step start (fun s call h steady => h.exec call steady) steady
    intro before after split
    exact (traced before after split).consistent

def takeoverCalls (prompt : String) : List ReservationCall :=
  [.reserve (sampleLaunch "do the work") "first" 120 0, .reserve (sampleLaunch prompt) "second" 120 130,
    .reserve (sampleLaunch prompt) "second" 120 140, .markLaunched "workspace" "session" 150]

theorem same_request_taken_over :
    Throughout (Reserving.exec "worker" 1) (Reserving.Consistent "worker" 1)
      ⟨.initial true, none, none⟩ (takeoverCalls "do the work") := by
  rw [reservations_consistent_iff rfl]
  decide +kernel

theorem other_request_taken_over :
    ¬ ∀ (db : Store) (t : TaskId) (n : ℕ) (calls : List ReservationCall), db.effect t n = none →
      Throughout (Reserving.exec t n) (Reserving.Consistent t n) ⟨db, none, none⟩ calls := by
  intro all
  have consistent := all (.initial true) "worker" 1 (takeoverCalls "do other work") rfl
    ((takeoverCalls "do other work").take 2) ((takeoverCalls "do other work").drop 2) rfl
  have held : ((play (Reserving.exec "worker" 1) ⟨.initial true, none, none⟩
      ((takeoverCalls "do other work").take 2)).db.effect "worker" 1).any fun e =>
        e.state = .reserved && e.ownerInstance = "second" && decide (140 < e.leaseExpiresAt) := by
    decide +kernel
  obtain ⟨row, found, held⟩ := (Option.any_eq_true ..).mp held
  simp only [Bool.and_eq_true, decide_eq_true_eq] at held
  obtain ⟨request, granted, ⟨e, known, stored⟩, _⟩ :=
    consistent.granted 140 "second" ⟨row, found, held.1.1, held.1.2, held.2⟩
  have drifted : (play (Reserving.exec "worker" 1) ⟨.initial true, none, none⟩
      ((takeoverCalls "do other work").take 2)).granted.map Grant.request ≠
    ((play (Reserving.exec "worker" 1) ⟨.initial true, none, none⟩
      ((takeoverCalls "do other work").take 2)).db.effect "worker" 1).map Effect.requestHash := by
    decide +kernel
  rw [granted, known] at drifted
  exact drifted (congrArg some stored.symm)

end SightMesh
