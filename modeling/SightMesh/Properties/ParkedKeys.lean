import SightMesh.Concurrency.Monitor
import SightMesh.Escalation.Hosts
import SightMesh.Escalation.Notices

/-! Acknowledged and parked keys, over every run of the bridge. -/
namespace SightMesh.Escalation

open Concurrency Python Prog

variable {γ α β : Type} {e : Runtime} {x : Outside γ}

/-- No key is acknowledged and in the parked set at once. -/
def MailStore.Exclusive (db : MailStore) : Prop := ∀ key, ¬ (db.acked key ∧ db.isOpen key)

/-- What nobody looked for: a parked row of its key before a message of `escalate` was taken, or a
message that was taken before a new row was parked. -/
def unchecked (s : MailShared γ) : MailEvent → Bool
  | .call (.send site _ _ _ key _) (.ok _) => site ≠ .notice && s.store.isOpen key
  | .commit (.park request _) _ =>
    taken s.trace request.dedupeKey && (s.store.escalation request.dedupeKey).isNone
  | _ => false

/-- A step of a run in which all of that was looked for. -/
abbrev CheckedStep (e : Runtime) (x : Outside γ) : BridgeWorld γ → BridgeWorld γ → Prop :=
  Step (bridge e x) fun s ev => unchecked s ev = false

/-! ### Rows -/

theorem MailTx.isOpen_exec {tx : MailTx β} {db : MailStore} {key : String}
    (opened : (tx.exec db).1.isOpen key) :
    db.isOpen key ∨ db.escalation key = none ∧ tx.parks = some key := by
  obtain ⟨row, known, parked, _⟩ | parked := ((mailed tx db).opened key).mp opened
  · exact .inl (isOpen_iff.mpr ⟨row, known, parked⟩)
  · exact .inr parked

theorem isResolved_iff {db : MailStore} {key : String} :
    db.isResolved key ↔ (db.escalation key).isSome ∧ ¬ db.isOpen key := by
  unfold MailStore.isResolved MailStore.isOpen
  cases db.escalation key with
  | none => simp
  | some row => cases status : row.status <;> simp [status]

theorem MailTx.isResolved_exec {db : MailStore} {key : String} (tx : MailTx β)
    (resolved : db.isResolved key) : (tx.exec db).1.isResolved key := by
  obtain ⟨known, closed⟩ := isResolved_iff.mp resolved
  refine isResolved_iff.mpr ⟨(mailed tx db).rows key known, fun opened => ?_⟩
  obtain still | ⟨fresh, _⟩ := MailTx.isOpen_exec opened
  · exact closed still
  · simp [fresh] at known

theorem resolveDedupeKey_closes (db : MailStore) (key : String) (now : Time) :
    ¬ ((MailTx.resolveDedupeKey key now).exec db).1.isOpen key := by
  intro opened
  obtain ⟨row, known, _, other⟩ | ⟨_, parks⟩ := ((mailed _ db).opened _).mp opened
  · have named := MailStore.key_of_escalation known
    simp [MailTx.resolves, named] at other
  · cases parks

/-! ### Messages that were taken -/

theorem taken_closed_commit {s : MailShared γ} {tx : MailTx β} {b : β} {key : String}
    (checked : unchecked s (.commit tx b) = false) (was : taken s.trace key)
    (closed : ¬ s.store.isOpen key) : ¬ (tx.exec s.store).1.isOpen key := by
  intro opened
  obtain still | ⟨fresh, parks⟩ := MailTx.isOpen_exec opened
  · exact closed still
  · cases tx with
    | park request now =>
      cases parks
      simp [unchecked, was, fresh] at checked
    | _ => exact nomatch parks

theorem taken_closed_call {s : MailShared γ} {q : MailQuery β} {b : β} {key : String}
    (checked : unchecked s (.call q b) = false) (now : takes key (.call q b)) :
    ¬ s.store.isOpen key := by
  intro opened
  cases q with
  | send site sessionId message sender sent intent =>
    cases b with
    | ok followUp =>
      simp only [takes, Bool.and_eq_true, decide_eq_true_eq] at now
      obtain ⟨other, rfl⟩ := now
      simp [unchecked, other, opened] at checked
    | error failure => exact absurd now Bool.false_ne_true
  | _ => exact absurd now Bool.false_ne_true

/-- In a checked run no message stands in the parked set that the executor has taken. -/
theorem taken_closed {w : BridgeWorld γ}
    (reached : Reachable (bridge e x) (fun s ev => unchecked s ev = false) w) {key : String}
    (was : taken w.shared.trace key) : ¬ w.shared.store.isOpen key := by
  refine reached.invariant
    (fun s => ∀ key, taken s.trace key → ¬ s.store.isOpen key) ?_ ?_ ?_ key was
  · rintro db c rfl key was
    exact nomatch was
  · intro w p β tx k _ _ checked closed key was
    have before : taken w.shared.trace key := by
      simpa [taken, takes, Shared.commit] using was
    exact taken_closed_commit checked before (closed key before)
  · intro w p β q k b env _ _ _ checked closed key was
    have split : takes key (.call q b) ∨ taken w.shared.trace key := by
      simpa [taken, Shared.call] using was
    obtain now | before := split
    · exact taken_closed_call (s := w.shared) checked now
    · exact closed key before

theorem taken_of_acked {w : BridgeWorld γ}
    (reached : Reachable (bridge e x) (fun s ev => unchecked s ev = false) w) {key : String}
    (acked : w.shared.store.acked key) : taken w.shared.trace key :=
  (sane (reached.mono fun _ _ _ => trivial)).acks key acked

/-! ### Notifications -/

/-- The key of a notification that was taken, until its row is resolved. -/
def telling : Monitor MailTx MailQuery (Option String) where
  next pending
    | .call (.send .notice _ _ _ key _) (.ok _) => some key
    | .commit (.resolveDedupeKey key _) _ => if pending = some key then none else pending
    | _ => pending
  allows _ _ := True

/-- No message is sent, and no row is resolved by its key. -/
def Unheeded : MailEvent → Prop
  | .call (.send ..) _ => False
  | .commit (.resolveDedupeKey ..) _ => False
  | _ => True

theorem telling_unheeded {pending : Option String} (ev : MailEvent) (unheeded : Unheeded ev) :
    telling.allows pending ev ∧ telling.next pending ev = pending := by
  refine ⟨trivial, ?_⟩
  cases ev with
  | commit tx b =>
    cases tx with
    | resolveDedupeKey => exact unheeded.elim
    | _ => rfl
  | call q b =>
    cases q with
    | send => exact unheeded.elim
    | _ => rfl

theorem emits_redacted (text : String) : (redacted e text).Emits Unheeded := by
  unfold redacted
  split
  · trivial
  · trivial

theorem emits_park (request : ParkRequest) : (park e request).Emits Unheeded := by
  refine Emits.bind (emits_redacted _) fun safe => ?_
  refine fun now => ⟨trivial, fun _ => ⟨trivial, fun known => ⟨trivial, ?_⟩⟩⟩
  cases known with
  | none => trivial
  | some row => trivial

theorem emits_resolve (escalationId : ℕ) : (resolve escalationId).Emits Unheeded := by
  refine fun now => ⟨trivial, fun resolved => ⟨trivial, ?_⟩⟩
  cases resolved with
  | false => trivial
  | true =>
    refine fun known => ⟨trivial, ?_⟩
    cases known with
    | none => trivial
    | some row => trivial

theorem emits_rejectInvalidRoute (me : ℕ) (child parent : SessionId) (message key : String) :
    (rejectInvalidRoute e me child parent message key).Emits Unheeded := by
  have remembers : (commit' (.remember me .notified key) : Bridge Unit).Emits Unheeded :=
    fun _ => ⟨trivial, trivial⟩
  refine Emits.bind (emits_park _) fun parked => ?_
  split
  · exact Emits.bind (emits_resolve _) fun _ => remembers
  · exact remembers

theorem watched_of_unheeded {p : Bridge α} (quiet : p.Emits Unheeded) :
    p.Watched telling (fun _ pending => pending = none) none :=
  .of_emits quiet (fun ev unheeded => telling_unheeded ev unheeded) fun _ => rfl

/-- However it is answered, and whatever others do meanwhile: a notification that is taken ends, or
raises, with the row of its key resolved. -/
theorem notifyLiveParent_tells (me : ℕ) (parent child : SessionId) (message key : String) :
    (notifyLiveParent e me parent child message key).Watched telling
      (fun _ pending => pending = none) none := by
  have rejected := watched_of_unheeded (emits_rejectInvalidRoute (e := e) me child parent message key)
  refine watched_bind.mpr fun recalled => ⟨trivial, ?_⟩
  cases recalled with
  | true => exact rfl
  | false =>
    refine watched_bind.mpr fun settled => ⟨trivial, ?_⟩
    cases settled with
    | true => exact rfl
    | false =>
      change Watched telling (if parent = child then _ else _) _ none
      split
      · exact rejected
      · refine watched_bind.mpr fun found => ⟨trivial, ?_⟩
        cases found with
        | none =>
          exact watched_of_unheeded (Emits.bind (emits_park _) fun _ => trivial)
        | some destination =>
          change Watched telling (if destination = child then _ else _) _ none
          split
          · exact rejected
          · refine watched_bind.mpr (watched_query.mpr fun answer => ⟨trivial, ?_⟩)
            cases answer with
            | error failure => exact rfl
            | ok followUp =>
              -- What is sent is remembered, then its row is resolved and read.
              refine fun _ => ⟨trivial, fun now => ⟨trivial, fun _ => ⟨trivial, fun _ => ⟨trivial, ?_⟩⟩⟩⟩
              simp [telling]

/-! ### Runs -/

/-- What a run promises of its keys, once it has come to a world. -/
structure KeptApart (e : Runtime) (x : Outside γ) (w : BridgeWorld γ) : Prop where
  apart : w.shared.store.Exclusive
  /-- A key that is acknowledged, or whose message `escalate` had taken, is never parked. -/
  never_parked : ∀ w', Relation.ReflTransGen (CheckedStep e x) w w' → ∀ key,
    w.shared.store.acked key ∨ taken w.shared.trace key → ¬ w'.shared.store.isOpen key
  /-- A row that is resolved stays resolved. -/
  stays_resolved : ∀ w', Relation.ReflTransGen (CheckedStep e x) w w' → ∀ key,
    w.shared.store.isResolved key → w'.shared.store.isResolved key
  /-- A notification that is taken goes on to resolve the row of its key. -/
  tells : ∀ me parent child message key,
    (notifyLiveParent e me parent child message key).Watched telling
      (fun _ pending => pending = none) none
  /-- Then the row is not parked, and a row that was is resolved. -/
  closes : ∀ key now, ¬ ((MailTx.resolveDedupeKey key now).exec w.shared.store).1.isOpen key ∧
    (w.shared.store.isOpen key →
      ((MailTx.resolveDedupeKey key now).exec w.shared.store).1.isResolved key)

section
variable {w w' : BridgeWorld γ}
  (reached : Reachable (bridge e x) (fun s ev => unchecked s ev = false) w)
  (later : Relation.ReflTransGen (CheckedStep e x) w w')
include reached later

theorem checked_later : Reachable (bridge e x) (fun s ev => unchecked s ev = false) w' := by
  induction later with
  | refl => exact reached
  | tail _ step ih => exact ih.step step

omit reached in
theorem taken_persists {key : String} (was : taken w.shared.trace key) :
    taken w'.shared.trace key := by
  induction later with
  | refl => exact was
  | tail _ step ih =>
    cases step with
    | commit => exact taken_later ih (List.subset_cons_self _ _)
    | call => exact taken_later ih (List.subset_cons_self _ _)
    | _ => exact ih

omit reached in
theorem resolved_persists {key : String} (resolved : w.shared.store.isResolved key) :
    w'.shared.store.isResolved key := by
  induction later with
  | refl => exact resolved
  | tail _ step ih =>
    cases step with
    | commit => exact MailTx.isResolved_exec _ ih
    | _ => exact ih

end

/-- Where every message of `escalate` is taken with no parked row of its key, and no row is parked
under a key whose message was taken, acknowledged and parked keys are apart in every state, what is
delivered is never parked, and a notification closes what was. -/
theorem checked_keys_apart {w : BridgeWorld γ}
    (reached : Reachable (bridge e x) (fun s ev => unchecked s ev = false) w) :
    KeptApart e x w := by
  constructor
  · rintro key ⟨acked, opened⟩
    exact taken_closed reached (taken_of_acked reached acked) opened
  · intro w' later key delivered
    have was : taken w.shared.trace key := delivered.elim (taken_of_acked reached) id
    exact taken_closed (checked_later reached later) (taken_persists later was)
  · exact fun w' later key => resolved_persists later
  · exact notifyLiveParent_tells
  · intro key now
    have closed := resolveDedupeKey_closes w.shared.store key now
    refine ⟨closed, fun opened => isResolved_iff.mpr ⟨?_, closed⟩⟩
    obtain ⟨row, known, _⟩ := isOpen_iff.mp opened
    exact (mailed _ _).rows key (by simp [known])

/-! ### Runs of two calls -/

def noticeScript : MailScript :=
  { MailScript.calm with
    sessionCommands := fun _ => .ok [[("id", .str "c"), ("state", .str "done")]]
    liveSuccessor := fun calls id => if calls < 12 then none else some id }

def noticedSession : Dict := [("id", .str "child"), ("parent_session_id", .str "parent")]

/-- One message that is delivered and one that is parked, then a notification that is parked, and
told by another reconciler. -/
def checkedOps : List (Bridge Unit) :=
  [discard (escalate scriptRuntime .session "child" none (some "parent") "STATUS: done" (some "a")),
    discard (escalate scriptRuntime .session "child" none none "STATUS: lost" (some "b")),
    reconcileSessions scriptRuntime 0 [noticedSession],
    reconcileSessions scriptRuntime 1 [noticedSession]]

theorem checkedOps_known : ∀ op ∈ checkedOps, BridgeOp scriptRuntime op := by
  intro op mem
  simp only [checkedOps, List.mem_cons, List.not_mem_nil, or_false] at mem
  rcases mem with rfl | rfl | rfl | rfl
  · exact .escalate _ _ _ _ _ (by rintro _ ⟨⟩; decide)
  · exact .escalate _ _ _ _ _ (by rintro _ ⟨⟩; decide)
  · exact .reconcileSessions ..
  · exact .reconcileSessions ..

def checkedTurns : List Turn := steps 0 10 ++ steps 1 10 ++ steps 2 20 ++ steps 3 30

set_option maxRecDepth 100000 in
theorem checked_keys_kept :
    KeptApart scriptRuntime noticeScript.outside.hosted (noticeScript.run checkedOps checkedTurns) ∧
      (noticeScript.run checkedOps checkedTurns).shared.store.acked "a" ∧
      (noticeScript.run checkedOps checkedTurns).shared.store.isOpen "b" ∧
      (noticeScript.run checkedOps checkedTurns).shared.store.isResolved "child-command:c:done" := by
  have checked : noticeScript.allows (fun s ev => !unchecked s ev) checkedOps checkedTurns := by
    decide +kernel
  have reached := noticeScript.run_allowed checkedOps_known checked
  refine ⟨checked_keys_apart (reached.mono fun _ _ fine => by simpa using fine), ?_⟩
  decide +kernel

def absentScript : MailScript :=
  { MailScript.calm with
    session := fun calls id => if calls = 0 then unreachable else knownSession id }

def repeatedEscalations : List (Bridge Unit) :=
  List.replicate 2
    (discard (escalate scriptRuntime .session "child" none (some "parent") "STATUS: done" none))

def deliveredLate : BridgeWorld (Host ℕ) :=
  absentScript.run repeatedEscalations (steps 0 10 ++ steps 1 10)

theorem repeatedEscalations_known : ∀ op ∈ repeatedEscalations, BridgeOp scriptRuntime op := by
  intro op mem
  obtain rfl := List.eq_of_mem_replicate mem
  exact .escalate _ _ _ _ _ fun key given => nomatch given

set_option maxRecDepth 100000 in
theorem delivered_key_stays_parked : ¬ ∀ w : BridgeWorld (Host ℕ),
    Reachable absentScript.bridged anyEvent w → w.shared.store.Exclusive := by
  intro all
  have reached := absentScript.run_reachable repeatedEscalations_known (steps 0 10 ++ steps 1 10)
  have both : deliveredLate.shared.store.acked
        (defaultDedupeKey scriptRuntime.py "child" "STATUS: done") ∧
      deliveredLate.shared.store.isOpen
        (defaultDedupeKey scriptRuntime.py "child" "STATUS: done") := by
    decide +kernel
  exact all _ reached _ both

end SightMesh.Escalation
