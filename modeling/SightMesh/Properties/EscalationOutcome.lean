import SightMesh.Escalation.Changes
import SightMesh.Escalation.Hosts

/-! What a call to `escalate` leaves behind, however the executor answers. -/
namespace SightMesh.Escalation

open Concurrency Python Prog

variable {γ α β : Type} {e : Runtime} {x : Outside γ} {ok : MailShared γ → MailEvent → Prop}
  {s s' : MailShared γ}

/-- The message is acknowledged, or stands in the parked set. -/
def MailStore.remembers (db : MailStore) (key : String) : Bool := db.acked key || db.isOpen key

/-- An answer of the executor that `escalate` has no way out for: an error of the send, an error of
a lookup that is no `CdesktopError`, or a lookup that answers no record. -/
def loses : MailEvent → Bool
  | .call (.send _ _ _ _ _ _) (.error _) => true
  | .call (.session _) (.error failure) | .call (.workspace _) (.error failure) =>
    !failure.isCdesktop
  | .call (.session _) (.ok (.obj fields)) => !Dict.has fields "workspace_id"
  | .call (.session _) (.ok _) => true
  | .call (.workspace _) (.ok (.obj _)) => false
  | .call (.workspace _) (.ok _) => true
  | _ => false

abbrev Unharmed (s s' : MailShared γ) : Prop := s.Heard (fun ev => loses ev = false) s'

/-- `json.loads` reads the message, or raises a `JSONDecodeError`; and a structure that it reads can
be written again. -/
def Runtime.Stores (e : Runtime) (message : String) : Prop :=
  match e.redactor.loads message with
  | .malformed _ => True
  | .failed _ => False
  | .value payload => IsStructure payload →
    (e.redactor.dumps (e.redactor.redactStructured none payload)).isOk

theorem redact_cases (e : Runtime) (text : String) :
    (e.Stores text ∧ ∃ safe, e.redact text = .ok safe) ∨
      ¬ e.Stores text ∧ ∃ fault, e.redact text = .error fault := by
  unfold Runtime.Stores Runtime.redact Redactor.redactCredentials
  have structure_ (payload : Json) (structured : IsStructure payload) :
      let written := e.redactor.dumps (e.redactor.redactStructured none payload)
      ((IsStructure payload → written.isOk) ∧ ∃ safe, written = .ok safe) ∨
        ¬ (IsStructure payload → written.isOk) ∧ ∃ fault, written = .error fault := by
    cases e.redactor.dumps (e.redactor.redactStructured none payload) with
    | ok safe => exact .inl ⟨fun _ => rfl, safe, rfl⟩
    | error fault => exact .inr ⟨fun ok => (nomatch ok structured), fault, rfl⟩
  cases e.redactor.loads text with
  | failed fault => exact .inr ⟨id, fault, rfl⟩
  | malformed message => exact .inl ⟨trivial, _, rfl⟩
  | value payload =>
    cases payload with
    | obj fields => exact structure_ (.obj fields) trivial
    | arr items => exact structure_ (.arr items) trivial
    | _ => exact .inl ⟨False.elim, ⟨_, rfl⟩⟩

theorem stores_of_opening {text : String} {c : Char} (opens : text.toList.head? = some c)
    (other : c ∉ documentOpenings) : e.Stores text := by
  obtain ⟨message, same⟩ := e.malformed text c opens other
  rw [Runtime.Stores, same]
  trivial

/-! ### The store -/

theorem ends_stamped {tx : Time → MailTx β} {r : Answer β} :
    (stamped tx).Ends (bridge e x) anyEvent s r s' ↔
      ∃ now env, x.answer s.env .clock now env ∧ r = .ok ((tx now).exec s.store).2 ∧
        s' = (s.call .clock now env).commit (bridge e x) (tx now) := by
  simp [stamped, clock, ends_ask_bind, ends_commit', bridge]
  rfl

theorem isOpen_after_park {db : MailStore} (request : ParkRequest) (now : Time)
    (unresolved : db.isResolved request.dedupeKey = false) :
    (db.park request now).isOpen request.dedupeKey := by
  refine ((mailed (.park request now) db).opened _).mpr ?_
  cases known : db.escalation request.dedupeKey with
  | none => exact .inr ⟨rfl, rfl⟩
  | some row =>
    cases status : row.status with
    | parked => exact .inl ⟨row, rfl, status, rfl⟩
    | resolved => simp [MailStore.isResolved, known, status] at unresolved

theorem acked_after_acknowledge (db : MailStore) (request : AckRequest) (now : Time) :
    (db.acknowledge request now).acked request.dedupeKey :=
  ((mailed (.acknowledge request now) db).acks _).mpr (.inr rfl)

/-! ### The parts of a call -/

theorem stamped_ends {tx : Time → MailTx β} {f : β → Bridge α} {r : Answer α}
    (quiet : ∀ now, ∀ b, loses (.commit (tx now) b) = false)
    (ended : ((stamped tx).bind f).Ends (bridge e x) anyEvent s r s') :
    ∃ now mid, mid.store = ((tx now).exec s.store).1 ∧ Unharmed s mid ∧
      (f ((tx now).exec s.store).2).Ends (bridge e x) anyEvent mid r s' := by
  obtain ⟨_, mid, stamp, rest⟩ | ⟨_, stamp, _⟩ := ends_bind.mp ended
  · obtain ⟨now, env, _, told, rfl⟩ := ends_stamped.mp stamp
    cases told
    have asked : Unharmed s (s.call .clock now env) := .call rfl
    exact ⟨now, _, rfl, asked.trans (.commit (quiet now _)), rest⟩
  · obtain ⟨_, _, _, wrong, _⟩ := ends_stamped.mp stamp
    exact nomatch wrong

theorem redacted_ends {text : String} {f : String → Bridge α} {r : Answer α}
    (ended : ((redacted e text).bind f).Ends (bridge e x) anyEvent s r s') :
    (e.Stores text ∧ ∃ safe, e.redact text = .ok safe ∧ (f safe).Ends (bridge e x) anyEvent s r s') ∨
      ¬ e.Stores text ∧ (∃ failure, r = .error failure) ∧ s' = s := by
  obtain ⟨stores, safe, made⟩ | ⟨unstored, fault, raised⟩ := redact_cases e text
  · rw [redacted, made] at ended
    exact .inl ⟨stores, safe, made, ended⟩
  · rw [redacted, raised] at ended
    exact .inr ⟨unstored, ⟨_, ended.1⟩, ended.2⟩

theorem park_ends {request : ParkRequest} {r : Answer ParkedEscalation}
    (ended : (park e request).Ends (bridge e x) anyEvent s r s') :
    (e.Stores request.message ∧ Unharmed s s' ∧
      ∃ safe now, s'.store = s.store.park { request with message := safe } now) ∨
      ¬ e.Stores request.message ∧ s' = s := by
  obtain ⟨stores, safe, _, ended⟩ | ⟨unstored, _, same⟩ := redacted_ends ended
  swap
  · exact .inr ⟨unstored, same⟩
  refine .inl ⟨stores, ?_⟩
  obtain ⟨now, mid, left, quiet, rest⟩ := stamped_ends (fun _ _ => rfl) ended
  obtain ⟨_, rest⟩ := ends_commit_bind.mp rest
  have read : Unharmed mid (mid.commit (bridge e x) (.read (·.escalation request.dedupeKey))) :=
    .commit rfl
  split at rest
  · obtain ⟨_, rfl⟩ := rest
    exact ⟨quiet.trans read, safe, now, left⟩
  · obtain ⟨_, rfl⟩ := rest
    exact ⟨quiet.trans read, safe, now, left⟩

theorem acknowledge_ends {request : AckRequest} {r : Answer DeliveryAck}
    (ended : (acknowledge e request).Ends (bridge e x) anyEvent s r s') :
    (e.Stores request.message ∧ Unharmed s s' ∧
      ∃ safe now, s'.store = s.store.acknowledge { request with message := safe } now) ∨
      ¬ e.Stores request.message ∧ (∃ failure, r = .error failure) ∧ s' = s := by
  obtain ⟨stores, safe, _, ended⟩ | unstored := redacted_ends ended
  swap
  · exact .inr unstored
  refine .inl ⟨stores, ?_⟩
  obtain ⟨now, mid, left, quiet, rest⟩ := stamped_ends (fun _ _ => rfl) ended
  obtain ⟨_, rest⟩ := ends_commit_bind.mp rest
  have read : Unharmed mid (mid.commit (bridge e x) (.read (·.acknowledgment request.dedupeKey))) :=
    .commit rfl
  split at rest
  · obtain ⟨_, rfl⟩ := rest
    exact ⟨quiet.trans read, safe, now, left⟩
  · obtain ⟨_, rfl⟩ := rest
    exact ⟨quiet.trans read, safe, now, left⟩

/-- What the lookup of the parent answers, where it raises no exception of its own. -/
def lookupBody (py : Library) (parent : SessionId) : Bridge (Except ParkReason Json) :=
  (query (.session parent)).bind fun session => (subscript session "workspace_id").bind fun id =>
    (query (.workspace (py.str id))).bind fun workspace => .ret (.ok workspace)

theorem lookupParent_eq (py : Library) (parent : SessionId) :
    lookupParent py parent = (lookupBody py parent).handle fun failure =>
      if failure.isCdesktop then .ret (.error .parentUnreachable) else .fail failure := rfl

def lookedUp : Answer (Except ParkReason Json) → Bool
  | .ok (.ok (.obj _)) | .ok (.error _) => true
  | _ => false

theorem lookupBody_ends {py : Library} {parent : SessionId} {r : Answer (Except ParkReason Json)}
    (ended : (lookupBody py parent).Ends (bridge e x) anyEvent s r s') :
    s'.store = s.store ∧ (∀ a, r = .ok a → (Unharmed s s' ↔ lookedUp r)) ∧
      ∀ failure, r = .error failure → (Unharmed s s' ↔ failure.isCdesktop) := by
  obtain ⟨session, mid, asked, rest⟩ | ⟨failure, asked, rfl⟩ := ends_bind.mp ended
  · obtain ⟨env, _, _, rfl⟩ := ends_query.mp asked
    obtain ⟨fields, rfl, known, subscripted⟩ | ⟨missing, text, subscripted⟩ :=
      subscript_cases session "workspace_id"
    · have quiet : Unharmed s (s.call (.session parent) (.ok (.obj fields)) env) :=
        .call (by simp [loses, known])
      have rest : ((query (.workspace (py.str (Dict.get fields "workspace_id")))).bind
          fun workspace => Prog.ret (Except.ok workspace)).Ends (bridge e x) anyEvent
          (s.call (.session parent) (.ok (.obj fields)) env) r s' := by
        rw [subscripted] at rest
        exact rest
      obtain ⟨workspace, last, asked, rfl, rfl⟩ | ⟨failure, asked, rfl⟩ := ends_bind.mp rest
      · obtain ⟨env', _, _, rfl⟩ := ends_query.mp asked
        refine ⟨rfl, fun _ _ => (Shared.Heard.call_iff quiet).trans ?_, fun _ same => nomatch same⟩
        cases workspace with
        | obj => simp [loses, lookedUp]
        | _ => simp [loses, lookedUp]
      · obtain ⟨env', _, _, rfl⟩ := ends_query.mp asked
        refine ⟨rfl, fun _ same => (nomatch same), fun _ same => ?_⟩
        cases same
        exact (Shared.Heard.call_iff quiet).trans (by simp [loses])
    · rw [subscripted] at rest
      obtain ⟨rfl, rfl⟩ := rest
      refine ⟨rfl, fun _ same => (nomatch same), fun failure same => ?_⟩
      cases same
      refine (Shared.Heard.call_iff (.refl s)).trans ?_
      cases session with
      | obj fields => simp [loses, missing fields rfl, MailError.isCdesktop]
      | _ => simp [loses, MailError.isCdesktop]
  · obtain ⟨env, _, _, rfl⟩ := ends_query.mp asked
    refine ⟨rfl, fun _ same => (nomatch same), fun _ same => ?_⟩
    cases same
    exact (Shared.Heard.call_iff (.refl s)).trans (by simp [loses])

/-- The lookup writes nothing; it ends with a record or a reason to park if and only if nothing was
lost. -/
theorem lookupParent_ends {py : Library} {parent : SessionId}
    {r : Answer (Except ParkReason Json)}
    (ended : (lookupParent py parent).Ends (bridge e x) anyEvent s r s') :
    s'.store = s.store ∧ (Unharmed s s' ↔ lookedUp r) := by
  rw [lookupParent_eq] at ended
  obtain ⟨found, body, rfl⟩ | ⟨failure, mid, body, rest⟩ := ends_handle.mp ended
  · obtain ⟨store, quiet, _⟩ := lookupBody_ends body
    exact ⟨store, quiet found rfl⟩
  · obtain ⟨store, _, quiet⟩ := lookupBody_ends body
    have quiet := quiet failure rfl
    split at rest
    · rename_i parks
      obtain ⟨rfl, rfl⟩ := rest
      exact ⟨store, quiet.trans (by simp [parks, lookedUp])⟩
    · rename_i escapes
      obtain ⟨rfl, rfl⟩ := rest
      exact ⟨store, quiet.trans (by simp [escapes, lookedUp])⟩

/-- A delivery is acknowledged if and only if its send is answered and its message can be stored. -/
theorem deliver_ends {site : SendSite} {child parent : SessionId} {message key : String}
    {workspace : Json} {r : Answer Delivery}
    (ended : (deliver e site child parent message key workspace).Ends (bridge e x) anyEvent s r s') :
    (Unharmed s s' ∧ e.Stores message) ∧ s'.store.acked key ∨
      ¬ (Unharmed s s' ∧ e.Stores message) ∧ s'.store = s.store := by
  obtain ⟨followUp, mid, sent, rest⟩ | ⟨failure, sent, rfl⟩ := ends_bind.mp ended
  · obtain ⟨env, _, _, rfl⟩ := ends_query.mp sent
    have quiet : Unharmed s (s.call (.send site parent message child key
        (classifyEscalation e.py message).intent) (.ok followUp) env) := .call rfl
    obtain ⟨ack, last, recorded, rest⟩ | ⟨failure, recorded, rfl⟩ := ends_bind.mp rest
    · obtain ⟨stores, silent, safe, now, left⟩ | ⟨_, ⟨_, raised⟩, _⟩ := acknowledge_ends recorded
      swap
      · cases raised
      have acked : last.store.acked key := by
        rw [left]
        exact acked_after_acknowledge _ ⟨child, parent, classifyEscalation e.py message, safe, key⟩
          now
      have same : s' = last := by
        obtain ⟨fields, _, _, subscripted⟩ | ⟨_, text, subscripted⟩ := subscript_cases workspace "id"
        · rw [subscripted] at rest
          exact rest.2
        · rw [subscripted] at rest
          exact rest.2
      exact .inl ⟨⟨same ▸ quiet.trans silent, stores⟩, same ▸ acked⟩
    · obtain ⟨stores, silent, safe, now, left⟩ | ⟨unstored, _, rfl⟩ := acknowledge_ends recorded
      · refine .inl ⟨⟨quiet.trans silent, stores⟩, ?_⟩
        rw [left]
        exact acked_after_acknowledge _ ⟨child, parent, classifyEscalation e.py message, safe, key⟩
          now
      · exact .inr ⟨fun fine => unstored fine.2, rfl⟩
  · obtain ⟨env, _, _, rfl⟩ := ends_query.mp sent
    refine .inr ⟨fun ⟨quiet, _⟩ => ?_, rfl⟩
    have fine := (Shared.Heard.call_iff (.refl s)).mp quiet
    exact nomatch fine

/-! ### The whole call -/

/-- How a call ends: something was lost, or the message cannot be stored, and nothing is written; or
the message is remembered. -/
def Settled (e : Runtime) (message : String) (s s' : MailShared γ) (key : String) : Prop :=
  (Unharmed s s' ∧ e.Stores message) ∧ s'.store.remembers key ∨
    ¬ (Unharmed s s' ∧ e.Stores message) ∧ s'.store = s.store

theorem parking_settles {child : SessionId} {childWorkspace : Option WorkspaceId}
    {parent : Option SessionId} {reason : ParkReason} {message key : String} {r : Answer Delivery}
    (unresolved : s.store.isResolved key = false)
    (ended : ((park e ⟨child, childWorkspace, parent, reason, message, key⟩).bind fun row =>
      Prog.ret (Delivery.parked reason row)).Ends (bridge e x) anyEvent s r s') :
    Settled e message s s' key := by
  obtain ⟨result, parked, _⟩ := ends_bind_ret.mp ended
  obtain ⟨stores, quiet, safe, now, left⟩ | ⟨unstored, same⟩ := park_ends parked
  swap
  · exact .inr ⟨fun fine => unstored fine.2, by rw [same]⟩
  refine .inl ⟨⟨quiet, stores⟩, ?_⟩
  have opened := isOpen_after_park ⟨child, childWorkspace, parent, reason, safe, key⟩ now unresolved
  rw [left, MailStore.remembers, Bool.or_eq_true]
  exact .inr opened

theorem Settled.after {mid : MailShared γ} {key message : String} (quiet : Unharmed s mid)
    (kept : mid.store = s.store) {p : Bridge α} {r : Answer α}
    (ran : p.Ends (bridge e x) anyEvent mid r s') (rest : Settled e message mid s' key) :
    Settled e message s s' key := by
  obtain ⟨⟨silent, stores⟩, remembered⟩ | ⟨lost, left⟩ := rest
  · exact .inl ⟨⟨quiet.trans silent, stores⟩, remembered⟩
  · obtain ⟨events, first, _⟩ := quiet
    obtain ⟨later, second⟩ := ran.extends
    exact .inr ⟨fun ⟨all, stores⟩ => lost ⟨all.rest first second, stores⟩, left.trans kept⟩

theorem Settled.of_lost {mid : MailShared γ} {key message : String} (lost : ¬ Unharmed s mid)
    (kept : mid.store = s.store) (same : s' = mid) : Settled e message s s' key :=
  .inr ⟨fun fine => lost (same ▸ fine.1), same ▸ kept⟩

theorem escalate_settles {site : SendSite} {child : SessionId} {childWorkspace : Option WorkspaceId}
    {parent : Option SessionId} {message : String} {dedupeKey : Option String}
    {r : Answer Delivery}
    (unresolved : s.store.isResolved
      (orText dedupeKey (defaultDedupeKey e.py child message)) = false)
    (ended : (escalate e site child childWorkspace parent message dedupeKey).Ends (bridge e x)
      anyEvent s r s') :
    Settled e message s s' (orText dedupeKey (defaultDedupeKey e.py child message)) := by
  unfold escalate at ended
  dsimp only at ended
  split at ended
  · exact parking_settles unresolved ended
  · split at ended
    · exact parking_settles unresolved ended
    · rename_i parent known
      obtain ⟨found, mid, looked, rest⟩ | ⟨failure, looked, _⟩ := ends_bind.mp ended
      · obtain ⟨kept, quiet⟩ := lookupParent_ends looked
        have unresolved' := unresolved
        rw [← kept] at unresolved'
        cases found with
        | error reason =>
          have silent : Unharmed s mid := quiet.mpr rfl
          exact .after silent kept rest (parking_settles unresolved' rest)
        | ok record =>
          cases record with
          | obj fields =>
            have silent : Unharmed s mid := quiet.mpr rfl
            have rest : (if (Dict.get fields "archived").truthy then _ else _ : Bridge Delivery).Ends
              (bridge e x) anyEvent mid r s' := rest
            split at rest
            · exact .after silent kept rest (parking_settles unresolved' rest)
            · refine .after silent kept rest ?_
              obtain ⟨fine, acked⟩ | lost := deliver_ends rest
              · exact .inl ⟨fine, by rw [MailStore.remembers, acked, Bool.true_or]⟩
              · exact .inr lost
          | _ =>
            have lost : ¬ Unharmed s mid := fun all => Bool.false_ne_true (quiet.mp all)
            exact .of_lost lost kept rest.2
      · obtain ⟨kept, quiet⟩ := lookupParent_ends looked
        exact .inr ⟨fun all => Bool.false_ne_true (quiet.mp all.1), kept⟩

def statusEscalation : Bridge Delivery :=
  escalate scriptRuntime .session "child" none (some "parent") "STATUS: done" (some "key")

def lostParentScript : MailScript := { MailScript.calm with session := fun _ _ => unreachable }

def lostSendScript : MailScript := { MailScript.calm with send := fun _ => unreachable }

end SightMesh.Escalation
