import SightMesh.Escalation.Bookkeeping

/-! Every operation of the bridge keeps its protocol, and with it every interleaving of them. -/
namespace SightMesh.Escalation

open Concurrency Python Protocol

variable {γ α β : Type} {e : Runtime} {x : Outside γ} {H : Set Empty} {s s' : MailShared γ}
  {row run : ExternalRun} {id : String}

/-! ### Operations without conditions -/

/-- A transaction that may be issued anywhere. -/
def MailTx.free : MailTx β → Bool
  | .subscribe _ | .moveRun _ _ _ _ | .acknowledge _ _ => false
  | _ => true

theorem MailTx.issued_of_free {tx : MailTx β} (free : tx.free) (s : MailShared γ) :
    Issued e s tx := by
  cases tx with
  | subscribe | moveRun | acknowledge => exact nomatch free
  | _ => exact trivial

def MailQuery.free : MailQuery β → Bool
  | .send _ _ _ _ _ _ => false
  | .observe (.live _) _ => false
  | _ => true

theorem MailQuery.asks_of_free {q : MailQuery β} (free : q.free) (s : MailShared γ) :
    Asks e s q := by
  cases q with
  | send => exact nomatch free
  | observe site =>
    cases site with
    | bind => exact trivial
    | live id => exact nomatch free
  | _ => exact trivial

theorem plain_ret (a : α) : (bookkeeping e x).Plain (.ret a : Bridge α) := trivial

theorem plain_fail (failure : MailError) :
    (bookkeeping e x).Plain (.fail failure : Bridge α) := trivial

theorem plain_commit {tx : MailTx β} (free : tx.free) :
    (bookkeeping e x).Plain (Prog.commit' tx : Bridge β) :=
  ⟨fun _ s _ => MailTx.issued_of_free free s, fun _ => trivial⟩

theorem plain_ask {q : MailQuery β} (free : q.free) :
    (bookkeeping e x).Plain (Prog.ask q : Bridge β) :=
  ⟨fun _ s _ => MailQuery.asks_of_free free s, fun _ => trivial⟩

theorem plain_query {q : MailQuery (Answer β)} (free : q.free) :
    (bookkeeping e x).Plain (query q) := by
  refine ⟨fun _ s _ => MailQuery.asks_of_free free s, fun b => ?_⟩
  cases b with
  | ok b => exact trivial
  | error failure => exact trivial

theorem plain_stamped {tx : Time → MailTx β} (free : ∀ now, (tx now).free) :
    (bookkeeping e x).Plain (stamped tx) :=
  (plain_ask (q := .clock) rfl).bind fun now => plain_commit (free now)

theorem plain_redacted (text : String) : (bookkeeping e x).Plain (redacted e text) := by
  unfold redacted
  split
  · exact plain_ret _
  · exact plain_fail _

theorem plain_park (request : ParkRequest) : (bookkeeping e x).Plain (park e request) := by
  refine (plain_redacted _).bind fun _ => (plain_stamped fun _ => rfl).bind fun _ =>
    (plain_commit rfl).bind fun known => ?_
  cases known with
  | none => exact trivial
  | some row => exact trivial

theorem plain_resolve (escalationId : ℕ) : (bookkeeping e x).Plain (resolve escalationId) := by
  refine (plain_stamped fun _ => rfl).bind fun resolved => ?_
  cases resolved with
  | false => exact trivial
  | true =>
    refine (plain_commit rfl).bind fun known => ?_
    cases known with
    | none => exact trivial
    | some row => exact trivial

theorem plain_resolveDedupeKey (key : String) :
    (bookkeeping e x).Plain (resolveDedupeKey key) :=
  (plain_stamped fun _ => rfl).bind fun _ => plain_commit rfl

theorem plain_subscript (value : Json) (name : String) :
    (bookkeeping e x).Plain (subscript value name) := by
  obtain ⟨fields, _, _, same⟩ | ⟨_, text, same⟩ := subscript_cases value name
  · rw [same]
    exact trivial
  · rw [same]
    exact trivial

theorem plain_getField (value : Json) (name : String) :
    (bookkeeping e x).Plain (getField value name) := by
  cases value with
  | _ => exact trivial

theorem plain_lookupParent (py : Library) (parent : SessionId) :
    (bookkeeping e x).Plain (lookupParent py parent) := by
  refine Plain.handle ?_ fun failure => ?_
  · exact (plain_query rfl).bind fun session => (plain_subscript _ _).bind fun id =>
      (plain_query rfl).bind fun workspace => plain_ret _
  · split
    · exact plain_ret _
    · exact plain_fail _

theorem keeps_of_plain {p : Bridge α} (plain : (bookkeeping e x).Plain p) :
    (bookkeeping e x).Keeps H s p fun _ _ => True := (plain.keeps H s).trivially

theorem forEach_keeps {xs : List α} {body : α → Bridge Unit}
    (round : ∀ a ∈ xs, ∀ s', Evolves s s' →
      (bookkeeping e x).Keeps H s' (body a) fun _ _ => True) :
    (bookkeeping e x).Keeps H s (forEach xs body) fun _ _ => True := by
  induction xs generalizing s with
  | nil => exact .ret trivial
  | cons a xs ih =>
    refine (round a (by simp) s (.refl s)).bind fun _ s' later _ => ih fun b mem s'' after => ?_
    exact round b (List.mem_cons_of_mem _ mem) s'' (.trans later after)

/-! ### Escalations -/

theorem park_keeps (request : ParkRequest) {f : ParkedEscalation → α} :
    (bookkeeping e x).Keeps H s ((park e request).bind fun row => Prog.ret (f row))
      fun _ _ => True :=
  keeps_of_plain ((plain_park request).bind fun row => plain_ret (f row))

theorem acknowledge_keeps (request : AckRequest) (sent : taken s.trace request.dedupeKey) :
    (bookkeeping e x).Keeps H s (acknowledge e request) fun _ _ => True := by
  refine (keeps_of_plain (plain_redacted _)).bind fun safe s₁ first _ => ?_
  refine Keeps.bind (m := fun _ _ => True) ?_ fun _ _ _ _ => ?_
  · refine (keeps_of_plain (plain_ask (q := MailQuery.clock) rfl)).bind fun now s₂ second _ => ?_
    refine .commit fun s₃ rely _ => ⟨?_, trivial⟩
    exact taken_later sent ((first.trans second).trans rely.1).grows.subset
  · refine (keeps_of_plain (plain_commit rfl)).bind fun known _ _ _ => ?_
    cases known with
    | none => exact .fail
    | some row => exact .ret trivial

theorem deliver_keeps {site : SendSite} {child parent : SessionId} {message key : String}
    (workspace : Json) (escalates : site ≠ .notice) (told : Told e s message child key site) :
    (bookkeeping e x).Keeps H s (deliver e site child parent message key workspace)
      fun _ _ => True := by
  refine Keeps.bind (m := fun _ s' => taken s'.trace key) ?_ fun followUp s' _ sent => ?_
  · refine .query (fun s' rely _ => told.later rely.1) fun _ _ _ _ _ _ => ?_
    exact taken_of_sent escalates List.mem_cons_self
  · refine (acknowledge_keeps _ sent).bind fun ack _ _ _ => ?_
    exact keeps_of_plain ((plain_subscript _ _).bind fun _ => plain_ret _)

theorem escalate_keeps {site : SendSite} {child : SessionId} {childWorkspace : Option WorkspaceId}
    {parent : Option SessionId} {message : String} {dedupeKey : Option String}
    (escalates : site ≠ .notice)
    (told : Told e s message child (orText dedupeKey (defaultDedupeKey e.py child message)) site) :
    (bookkeeping e x).Keeps H s
      (escalate e site child childWorkspace parent message dedupeKey) fun _ _ => True := by
  unfold escalate
  dsimp only
  split
  · exact park_keeps _
  · split
    · exact park_keeps _
    · refine (keeps_of_plain (plain_lookupParent e.py _)).bind fun found s' later _ => ?_
      split
      · exact park_keeps _
      · refine (keeps_of_plain (plain_getField _ _)).bind fun archived s'' after _ => ?_
        split
        · exact park_keeps _
        · exact deliver_keeps _ escalates (told.later (.trans later after))

/-! ### External runs -/

/-- A row that was read: what it says has evidence, and the row under its id is the same or a later
one. -/
def Seen (e : Runtime) (row : ExternalRun) (s : MailShared γ) : Prop :=
  row.Valid e s.trace ∧ ∃ next, s.store.run row.subscriptionId = some next ∧ row.Before next

theorem ExternalRun.Valid.mono {trace longer : MailHistory} (valid : row.Valid e trace)
    (grows : trace ⊆ longer) : row.Valid e longer :=
  valid.later grows rfl ⟨rfl, rfl⟩ ⟨rfl, rfl⟩ Iff.rfl (fun here => here) (fun here => here)

theorem Seen.later (seen : Seen e row s) (later : Evolves s s') : Seen e row s' := by
  obtain ⟨valid, next, known, before⟩ := seen
  obtain ⟨last, there, after⟩ := later.rows _ next known
  exact ⟨valid.mono later.grows.subset, last, there, before.trans after⟩

theorem seen_of_known (sane : Sane e s) (known : s.store.run id = some row) : Seen e row s := by
  have named : row.subscriptionId = id := MailStore.key_of_run known
  exact ⟨sane.rows id row known, row, by rw [named]; exact known, .refl row⟩

theorem Seen.before (seen : Seen e row s) {next : ExternalRun}
    (known : s.store.run row.subscriptionId = some next) : row.Before next := by
  obtain ⟨_, there, found, before⟩ := seen
  cases Option.some.inj (found.symm.trans known)
  exact before

/-- The row under an id, wherever its life has come to since `state`. -/
def Reached (id : String) (state : RunState) (s : MailShared γ) : Prop :=
  ∃ row, s.store.run id = some row ∧ state.Reaches row.state

theorem Reached.later {state : RunState} (reached : Reached id state s) (later : Evolves s s') :
    Reached id state s' := by
  obtain ⟨row, known, path⟩ := reached
  obtain ⟨next, there, before⟩ := later.rows id row known
  exact ⟨next, there, path.trans before.order⟩

theorem getRun_keeps (id : String) :
    (bookkeeping e x).Keeps H s (getRun id) fun row s' => Seen e row s' ∧ row.subscriptionId = id ∧
      ∀ state, Reached id state s → state.Reaches row.state := by
  refine Keeps.bind (m := fun known s' => ∀ row, known = some row → Seen e row s' ∧
    row.subscriptionId = id ∧ ∀ state, Reached id state s → state.Reaches row.state) ?_ ?_
  · refine .commit fun s' rely sane => ⟨trivial, fun row known => ?_⟩
    have read : Evolves s' (MailShared.after s' (.getRun id)) := evolves_after sane trivial
    refine ⟨(seen_of_known sane known).later read, MailStore.key_of_run known,
      fun state reached => ?_⟩
    obtain ⟨there, found, path⟩ := reached.later rely.1
    cases Option.some.inj (found.symm.trans known)
    exact path
  · intro known s' _ told
    cases known with
    | none => exact .fail
    | some row => exact .ret (told row rfl)

theorem findRun_keeps (value : String) :
    (bookkeeping e x).Keeps H s (findRun value) fun row s' => Seen e row s' := by
  refine Keeps.bind (m := fun known s' => ∀ row, known = some row → Seen e row s') ?_ ?_
  · refine .commit fun s' rely sane => ⟨trivial, fun row known => ?_⟩
    have mem : row ∈ s'.store.runs.rows := List.mem_of_find?_eq_some known
    have read : Evolves s' (MailShared.after s' (.read fun db => db.runs.rows.find? fun row =>
        row.subscriptionId = value || row.runId = value)) := evolves_after sane trivial
    exact (seen_of_known sane (Database.Table.get_of_mem mem)).later read
  · intro known s' _ told
    cases known with
    | none => exact .fail
    | some row => exact .ret (told row rfl)

theorem moveRun_keeps (move : RunMove) (expected : ℕ)
    (moves : ∀ s', Evolves s s' → ∀ row, s'.store.run id = some row → Moves e s'.trace row move) :
    (bookkeeping e x).Keeps H s (moveRun id move expected) fun row s' => Seen e row s' ∧
      row.subscriptionId = id ∧ move.target.Reaches row.state := by
  refine Keeps.bind (m := fun moved s' => moved = true → Reached id move.target s') ?_ ?_
  · refine (keeps_of_plain (plain_ask (q := MailQuery.clock) rfl)).bind fun now s' later _ => ?_
    refine .commit fun s'' rely sane =>
      ⟨fun row known => moves s'' (.trans later rely.1) row known, fun moved => ?_⟩
    obtain ⟨row, known, _, _, left⟩ | left := s''.store.moveRun_cases id move expected now
    · refine ⟨row.moved move now, ?_, .refl⟩
      have named := MailStore.key_of_run known
      have written : (MailTx.moveRun id move expected now).exec s''.store = _ := left
      simp only [bridge, Shared.commit, written, MailStore.run, Database.Table.get_put,
        ExternalRun.moved_identity, named, if_true]
    · have refused : ((MailTx.moveRun id move expected now).exec s''.store).2 = false := by
        rw [MailTx.exec, left]
      cases refused.symm.trans moved
  · intro moved s' _ reached
    refine (getRun_keeps id).bind fun row s'' _ known => ?_
    cases moved with
    | true => exact .ret ⟨known.1, known.2.1, known.2.2 _ (reached rfl)⟩
    | false => exact .fail

theorem getRun_seen (id : String) :
    (bookkeeping e x).Keeps H s (getRun id) fun row s' => Seen e row s' :=
  (getRun_keeps id).mono fun _ _ _ known => known.1

theorem redactedRow_starts {capability root safeRoot runId : String} {returnSession : SessionId}
    {returnWorkspace : Option WorkspaceId} {now : Time}
    (made : redactedRow e id capability root safeRoot runId returnSession returnWorkspace now =
      .ok row) : row.Starts := by
  obtain ⟨safeRun, safeSession, safeWorkspace, safePath, _, _, _, _, rfl⟩ := redactedRow_ok made
  exact ⟨rfl, rfl, rfl, rfl, rfl⟩

theorem subscribe_keeps (runId outputRoot : String) (returnSession : SessionId)
    (returnWorkspace : Option WorkspaceId) :
    (bookkeeping e x).Keeps H s (subscribe e runId outputRoot returnSession returnWorkspace)
      fun _ _ => True := by
  unfold subscribe
  split
  · exact .fail
  · refine (keeps_of_plain (plain_query rfl)).bind fun root _ _ _ => ?_
    refine (keeps_of_plain (plain_redacted root)).bind fun safeRoot _ _ _ => ?_
    refine (keeps_of_plain (plain_ask rfl)).bind fun id _ _ _ => ?_
    refine (keeps_of_plain (plain_ask rfl)).bind fun capability _ _ _ => ?_
    refine (keeps_of_plain (plain_ask rfl)).bind fun now _ _ _ => ?_
    refine (keeps_of_plain (plain_query rfl)).bind fun created s₁ _ _ => ?_
    dsimp only
    split
    · refine (keeps_of_plain (plain_commit rfl)).bind fun taken _ _ _ => ?_
      split
      · exact (keeps_of_plain (plain_query rfl)).bind fun _ _ _ _ => .fail
      · exact .fail
    · rename_i row made
      refine Keeps.bind (m := fun _ _ => True) ?_ fun inserted s₂ _ _ => ?_
      · exact .commit fun _ _ _ => ⟨redactedRow_starts made, trivial⟩
      · split
        · split
          · exact (keeps_of_plain (plain_query rfl)).bind fun _ _ _ _ => .fail
          · exact .fail
        · exact (getRun_seen id).bind fun _ _ _ _ => .ret trivial

theorem bind_keeps (id capability : String) (pid : ℤ) (fingerprint : String) (expected : ℕ) :
    (bookkeeping e x).Keeps H s (bind e id capability pid fingerprint expected) fun _ _ => True := by
  unfold bind
  dsimp only
  split
  · exact .fail
  · rename_i named
    simp only [not_or, not_le] at named
    refine Keeps.bind (m := fun seen s' => .call (.observe .bind pid) seen ∈ s'.trace) ?_ ?_
    · exact .ask (fun _ _ _ => trivial) fun _ _ _ _ _ _ => List.mem_cons_self
    · intro seen s₁ _ looked
      split
      · exact .fail
      · rename_i found
        rw [not_not.mp found] at looked
        refine (getRun_seen id).bind fun run s₂ second _ => ?_
        refine (getRun_seen id).bind fun again s₃ third _ => ?_
        split
        · exact .fail
        · split
          · exact .ret trivial
          · refine (moveRun_keeps (.bind pid fingerprint) expected ?_).trivially
            intro s₄ later row _
            exact ⟨named.1, named.2, ((second.trans third).trans later).grows.subset looked⟩

/-! ### Passes over a run -/

theorem receiptAnswer_some {answer : Answer Bytes} {receipt : Receipt}
    (known : receiptAnswer e run answer = .ok (some receipt)) :
    ∃ raw, answer = .ok raw ∧ receiptOf e run raw = .ok receipt := by
  cases answer with
  | ok raw =>
    refine ⟨raw, rfl, ?_⟩
    simp only [receiptAnswer] at known
    cases valid : receiptOf e run raw with
    | ok other =>
      rw [valid] at known
      cases known
      rfl
    | error failure =>
      rw [valid] at known
      exact nomatch known
  | error failure =>
    cases failure with
    | os missing message =>
      cases missing with
      | true => exact nomatch known
      | false => exact nomatch known
    | _ => exact nomatch known

theorem receipt_keeps (run : ExternalRun) :
    (bookkeeping e x).Keeps H s (receipt e run) fun seen s' => ∀ receipt, seen = some receipt →
      Receipted e s'.trace run receipt.digest receipt.outcome := by
  refine .of_safe fun s' _ _ => ⟨trivial, fun answer env _ => ?_⟩
  dsimp only
  cases known : receiptAnswer e run answer with
  | error failure => exact rfl
  | ok seen =>
    refine ⟨rfl, ?_⟩
    rintro receipt rfl
    obtain ⟨raw, rfl, valid⟩ := receiptAnswer_some known
    exact ⟨raw, List.mem_cons_self, valid⟩

theorem live_keeps (seen : Seen e run s) (running : run.state = .running) :
    (bookkeeping e x).Keeps H s (live run) fun alive s' => alive = false →
      Vanished s'.trace run := by
  obtain ⟨pid, known⟩ := Option.isSome_iff_exists.mp (seen.1.running running)
  obtain ⟨positive, fingerprint, named, there, _⟩ := seen.1.bound pid known
  have nonempty : present run.processFingerprint = some fingerprint := by
    rw [there, present_of_ne named]
  have started : run.state ≠ .subscribed := by rw [running]; decide
  unfold live
  rw [known, nonempty]
  dsimp only
  rw [if_neg positive.ne']
  refine Keeps.bind (m := fun found s' =>
    .call (.observe (.live run.subscriptionId) pid) found ∈ s'.trace) (.ask ?_ ?_) ?_
  · intro s' rely _
    obtain ⟨_, next, there, before⟩ := seen.later rely.1
    exact ⟨next, there, (before.bound started).1.trans known, before.order.binds started⟩
  · exact fun _ _ _ _ _ _ => List.mem_cons_self
  · intro found s' _ looked
    refine .ret fun gone => ⟨pid, fingerprint, found, known, there, looked, ?_⟩
    simpa using gone

theorem gone_keeps (seen : Seen e run s) :
    (bookkeeping e x).Keeps H s (gone run) fun gone s' => gone = true →
      run.state = .running ∧ Vanished s'.trace run := by
  unfold gone
  split
  · rename_i running
    refine (live_keeps seen running).bind fun alive s' _ vanished => .ret fun gone => ?_
    exact ⟨running, vanished (by simpa using gone)⟩
  · exact .ret fun gone => nomatch gone

theorem diagnose_keeps (run : ExternalRun) (message : String) :
    (bookkeeping e x).Keeps H s (diagnose e run message) fun row s' => Seen e row s' :=
  (keeps_of_plain (plain_redacted _)).bind fun _ _ _ _ =>
    (keeps_of_plain (plain_stamped fun _ => rfl)).bind fun _ _ _ _ => getRun_seen _

theorem preserveTerminal_keeps {receipt : Receipt} (seen : Seen e run s)
    (receipted : Receipted e s.trace run receipt.digest receipt.outcome) :
    (bookkeeping e x).Keeps H s (preserveTerminal e run receipt) fun row s' => Seen e row s' := by
  unfold preserveTerminal
  split
  · split
    · exact diagnose_keeps run _
    · exact .ret seen
  · refine (moveRun_keeps _ run.version fun s' later row known => ?_).mono fun _ _ _ known => known.1
    exact receipted.later later.grows.subset ((seen.later later).before known).identity

theorem preserveLost_keeps (seen : Seen e run s) (running : run.state = .running)
    (vanished : Vanished s.trace run) (diagnostic : String) :
    (bookkeeping e x).Keeps H s (preserveLost run diagnostic) fun row s' => Seen e row s' := by
  have started : run.state ≠ .subscribed := by rw [running]; decide
  refine (moveRun_keeps _ run.version fun s' later row known => ?_).mono fun _ _ _ known => known.1
  have before := (seen.later later).before known
  exact vanished.later later.grows.subset before.identity (before.bound started)

theorem settleRun_keeps (seen : Seen e run s) :
    (bookkeeping e x).Keeps H s (settleRun e run) fun settled s' => ∀ row, settled = some row →
      Seen e row s' := by
  unfold settleRun
  refine Keeps.bind (m := fun found s' => ∀ receipt, found = .ok (some receipt) →
    Receipted e s'.trace run receipt.digest receipt.outcome) (.handle ?_ ?_) ?_
  · refine (receipt_keeps run).bind fun found s' _ told => .ret ?_
    rintro receipt ⟨⟩
    exact told receipt rfl
  · intro failure s' _
    split
    · exact .ret fun _ same => nomatch same
    · exact .fail
  · intro found s₁ first told
    split
    · refine (gone_keeps (seen.later first)).bind fun gone s₂ second vanished => ?_
      split
      · rename_i isGone
        refine (preserveLost_keeps (seen.later (first.trans second)) (vanished isGone).1
          (vanished isGone).2 _).bind fun row s₃ _ known => .ret ?_
        rintro _ ⟨⟩
        exact known
      · exact .ret fun _ same => nomatch same
    · rename_i receipt
      refine (preserveTerminal_keeps (seen.later first) (told receipt rfl)).bind
        fun row s₂ _ known => .ret ?_
      rintro _ ⟨⟩
      exact known
    · refine (gone_keeps (seen.later first)).bind fun gone s₂ second vanished => ?_
      split
      · rename_i isGone
        refine (preserveLost_keeps (seen.later (first.trans second)) (vanished isGone).1
          (vanished isGone).2 _).bind fun row s₃ _ known => .ret ?_
        rintro _ ⟨⟩
        exact known
      · refine .ret ?_
        rintro _ ⟨⟩
        exact seen.later (first.trans second)

theorem beginDelivery_keeps (seen : Seen e run s) :
    (bookkeeping e x).Keeps H s (beginDelivery run) fun row s' =>
      Seen e row s' ∧ row.state ∉ openStates := by
  unfold beginDelivery
  split
  · rename_i delivering
    exact .ret ⟨seen, by rw [delivering]; decide⟩
  · refine (moveRun_keeps .deliver run.version fun _ _ _ _ => trivial).mono
      fun row s' _ known => ?_
    exact ⟨known.1, known.2.2.closes (by decide)⟩

theorem notifyRun_keeps (seen : Seen e run s) (closed : run.state ∉ openStates) :
    (bookkeeping e x).Keeps H s (notifyRun e run) fun _ _ => True := by
  refine .handle ((escalate_keeps (by simp) ?_).bind fun _ _ _ _ => .ret trivial) fun failure s' _ => ?_
  · obtain ⟨valid, next, known, before⟩ := seen
    have dedupeKey : next.dedupeKey = run.dedupeKey :=
      congrArg RunIdentity.dedupeKey before.identity
    refine ⟨rfl, next, known, before.order.closes closed, ?_, (before.message closed).symm⟩
    rw [dedupeKey, orText_of_ne]
    rw [valid.key]
    exact runKey_ne _
  · split
    · exact .ret trivial
    · exact .fail

theorem markNotified_keeps (run : ExternalRun) :
    (bookkeeping e x).Keeps H s (markNotified run) fun _ _ => True := by
  refine (keeps_of_plain (plain_stamped fun _ => rfl)).bind fun marked _ _ _ => ?_
  refine (getRun_seen _).bind fun current _ _ _ => ?_
  split
  · exact .ret trivial
  · exact .fail

theorem deliverRun_keeps (seen : Seen e run s) :
    (bookkeeping e x).Keeps H s (deliverRun e run) fun _ _ => True := by
  unfold deliverRun
  split
  · refine (beginDelivery_keeps seen).bind fun row s₁ _ known => ?_
    refine (notifyRun_keeps known.1 known.2).bind fun delivery s₂ _ _ => ?_
    split
    · exact (markNotified_keeps row).bind fun _ _ _ _ => .ret trivial
    · exact .ret trivial
  · exact .ret trivial

theorem reconcileRun_keeps {lookUp : Bridge ExternalRun}
    (found : (bookkeeping e x).Keeps H s lookUp fun row s' => Seen e row s') :
    (bookkeeping e x).Keeps H s (reconcileRun e lookUp) fun _ _ => True := by
  refine found.bind fun run s₁ _ seen => ?_
  refine (settleRun_keeps seen).bind fun settled s₂ _ known => ?_
  cases settled with
  | none => exact .ret trivial
  | some row => exact deliverRun_keeps (known row rfl)

theorem reconcileEach_keeps (runs : List ExternalRun) :
    (bookkeeping e x).Keeps H s (reconcileEach e runs) fun _ _ => True := by
  induction runs generalizing s with
  | nil => exact .ret trivial
  | cons run rest ih =>
    refine (reconcileRun_keeps (getRun_seen _)).bind fun here _ _ _ => ?_
    exact ih.bind fun _ _ _ _ => .ret trivial

theorem reconcile_keeps : (bookkeeping e x).Keeps H s (reconcile e) fun _ _ => True :=
  (keeps_of_plain (plain_commit rfl)).bind fun runs _ _ _ => reconcileEach_keeps runs

end SightMesh.Escalation
