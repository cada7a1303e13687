import SightMesh.Escalation.Hosts
import SightMesh.Escalation.Notices
import SightMesh.Properties.EscalationOutcome
import SightMesh.Properties.JsonRedaction

/-! What the store keeps of the identifiers and paths of a subscription, over every run of the
bridge. -/
namespace SightMesh.Escalation

open Concurrency Python Prog

variable {γ β : Type} {lib : Redactor} {e : Runtime} {x : Outside γ} {w w' : BridgeWorld γ}

/-! ### Texts that the redaction leaves -/

/-- `json.loads` reads what `json.dumps` writes of a structure. -/
def Redactor.Faithful (lib : Redactor) : Prop :=
  ∀ text payload out, lib.loads text = .value payload → IsStructure payload →
    lib.dumps (lib.redactStructured none payload) = .ok out →
      lib.loads out = .value (lib.redactStructured none payload)

/-- No credential stands in the text; if it is a structure, it is written as `json.dumps` writes
it. -/
def Redactor.Plain (lib : Redactor) (text : String) : Prop :=
  match lib.loads text with
  | .value (.obj fields) => lib.dumps (.obj fields) = .ok text ∧ lib.Clean (.obj fields)
  | .value (.arr items) => lib.dumps (.arr items) = .ok text ∧ lib.Clean (.arr items)
  | _ => Untouched lib.proseRedactions text

theorem dumps_redactStructured_eq_iff (faithful : lib.Faithful) {text out : String}
    {payload : Json} (loaded : lib.loads text = .value payload) (structured : IsStructure payload)
    (written : lib.dumps (lib.redactStructured none payload) = .ok out) :
    out = text ↔ lib.dumps payload = .ok text ∧ lib.Clean payload := by
  have clean : lib.redactStructured none payload = payload ↔ lib.Clean payload :=
    redactStructured_eq_iff rfl payload
  constructor
  · rintro rfl
    have read := faithful out payload out loaded structured written
    rw [loaded] at read
    have stays : payload = lib.redactStructured none payload := Decoded.value.inj read
    exact ⟨by rw [stays, written], clean.mp stays.symm⟩
  · rintro ⟨same, cleaned⟩
    rw [clean.mpr cleaned, same] at written
    exact (Except.ok.inj written).symm

theorem redactCredentials_eq_iff (faithful : lib.Faithful) {text out : String}
    (redacted : lib.redactCredentials text = .ok out) : out = text ↔ lib.Plain text := by
  rw [Redactor.redactCredentials] at redacted
  rw [Redactor.Plain]
  have prose (same : lib.redactProse text = out) :
      out = text ↔ Untouched lib.proseRedactions text := by
    rw [← same]
    exact redactProse_eq_iff text
  cases loaded : lib.loads text with
  | failed message => simp [loaded] at redacted
  | malformed message =>
    simp only [loaded] at redacted
    exact prose (Except.ok.inj redacted)
  | value payload =>
    cases payload with
    | obj fields =>
      simp only [loaded] at redacted
      exact dumps_redactStructured_eq_iff faithful loaded trivial redacted
    | arr items =>
      simp only [loaded] at redacted
      exact dumps_redactStructured_eq_iff faithful loaded trivial redacted
    | _ =>
      simp only [loaded] at redacted
      exact prose (Except.ok.inj redacted)

/-! ### Rows of subscriptions -/

/-- The arguments of a call of `subscribe`, with what it draws. -/
structure Subscription where
  id : String
  capability : String
  root : String
  runId : String
  returnSession : SessionId
  returnWorkspace : Option WorkspaceId
  now : Time

namespace Subscription

variable (a b : Subscription)

def row (e : Runtime) : Except String ExternalRun := do
  let safeRoot ← e.redact a.root
  redactedRow e a.id a.capability a.root safeRoot a.runId a.returnSession a.returnWorkspace a.now

def receiptPath : String := receiptPathOf a.root

/-- The identifiers and paths that are stored. -/
def texts : List String :=
  [a.runId, a.root, a.receiptPath, a.returnSession] ++ a.returnWorkspace.toList

def Accepted (e : Runtime) (w : BridgeWorld γ) : Prop :=
  ∃ row, a.row e = .ok row ∧ .commit (.subscribe row) true ∈ w.shared.trace

/-- The row has what was given. -/
structure Exact (row : ExternalRun) : Prop where
  runId : row.runId = a.runId
  outputRoot : row.outputRoot = a.root
  receiptPath : row.receiptPath = a.receiptPath
  returnSession : row.returnSessionId = a.returnSession
  returnWorkspace : row.returnWorkspaceId = a.returnWorkspace

/-- A valid receipt that names the subscription and the run. -/
def Names (e : Runtime) (raw : Bytes) (outcome : String) : Prop :=
  ∃ fields, e.decode raw = .value (.obj fields) ∧ isOne (Dict.get fields "schema_version") ∧
    Dict.get fields "subscription_id" = .str a.id ∧ Dict.get fields "run_id" = .str a.runId ∧
    Dict.get fields "terminal_state" = .str outcome ∧ outcome ∈ terminalOutcomes ∧
    (e.py.fromisoformat (e.py.str (Dict.get fields "finished_at"))).isSome

/-- Where such a receipt is what the file under the root holds, a pass makes the open run
terminal. -/
def Settles (e : Runtime) (x : Outside γ) (s : MailShared γ) (row : ExternalRun) : Prop :=
  ∀ raw outcome, a.Names e raw outcome →
    (∀ answer env, x.answer s.env (.readReceipt a.receiptPath) answer env → answer = .ok raw) →
    row.state ∈ openStates → ∀ r s', (settleRun e row).Ends (bridge e x) anyEvent s r s' →
      ∃ next, r = .ok (some next) ∧ next.state = .terminal ∧ next.outcome = some outcome ∧
        s'.store.run a.id = some next

/-- The row is found, has what was given, and is settled by its receipt. -/
def Kept (e : Runtime) (x : Outside γ) (s : MailShared γ) : Prop :=
  ∃ row, s.store.run a.id = some row ∧ a.Exact row ∧ a.Settles e x s row

/-- Different roots and different run ids are stored as different ones. -/
def KeptApart (s : MailShared γ) : Prop :=
  ∀ ra rb, s.store.run a.id = some ra → s.store.run b.id = some rb →
    (a.root ≠ b.root → ra.outputRoot ≠ rb.outputRoot) ∧ (a.runId ≠ b.runId → ra.runId ≠ rb.runId)

end Subscription

variable {a b : Subscription}

theorem Subscription.row_ok {row : ExternalRun} (made : a.row e = .ok row) :
    ∃ safeRoot safeRun safeSession safeWorkspace safePath, e.redact a.root = .ok safeRoot ∧
      e.redact a.runId = .ok safeRun ∧ e.redact a.returnSession = .ok safeSession ∧
      a.returnWorkspace.mapM e.redact = .ok safeWorkspace ∧
      e.redact a.receiptPath = .ok safePath ∧ row = subscribedRow e a.id a.capability safeRoot
        safePath safeRun safeSession safeWorkspace a.now := by
  unfold Subscription.row at made
  cases root : e.redact a.root with
  | error message => simp [root, Bind.bind, Except.bind] at made
  | ok safeRoot =>
    simp only [root, Bind.bind, Except.bind] at made
    obtain ⟨safeRun, safeSession, safeWorkspace, safePath, run, session, workspace, path, rfl⟩ :=
      redactedRow_ok made
    exact ⟨safeRoot, safeRun, safeSession, safeWorkspace, safePath, rfl, run, session, workspace,
      path, rfl⟩

theorem redact_workspace_iff (faithful : e.redactor.Faithful) {workspace safe : Option String}
    (redacted : workspace.mapM e.redact = .ok safe) :
    safe = workspace ↔ ∀ text ∈ workspace, e.redactor.Plain text := by
  cases workspace with
  | none =>
    obtain rfl : none = safe := Except.ok.inj redacted
    simp
  | some text =>
    cases made : e.redact text with
    | error message => simp [made, Functor.map, Except.map] at redacted
    | ok out =>
      obtain rfl : some out = safe := by
        simpa [made, Functor.map, Except.map] using redacted
      simp only [Option.some.injEq, Option.mem_def, forall_eq']
      exact redactCredentials_eq_iff faithful made

theorem Subscription.exact_iff (faithful : e.redactor.Faithful) {row : ExternalRun}
    (made : a.row e = .ok row) : a.Exact row ↔ ∀ text ∈ a.texts, e.redactor.Plain text := by
  obtain ⟨safeRoot, safeRun, safeSession, safeWorkspace, safePath, root, run, session, workspace,
    path, rfl⟩ := Subscription.row_ok made
  have plain {text safe : String} (redacted : e.redact text = .ok safe) :
      safe = text ↔ e.redactor.Plain text := redactCredentials_eq_iff faithful redacted
  have listed : (∀ text ∈ a.texts, e.redactor.Plain text) ↔
      e.redactor.Plain a.runId ∧ e.redactor.Plain a.root ∧ e.redactor.Plain a.receiptPath ∧
        e.redactor.Plain a.returnSession ∧ ∀ text ∈ a.returnWorkspace, e.redactor.Plain text := by
    simp [Subscription.texts, or_imp, forall_and]
  rw [listed, ← redact_workspace_iff faithful workspace, ← plain run, ← plain root, ← plain path,
    ← plain session]
  constructor
  · rintro ⟨runId, root, path, session, workspace⟩
    exact ⟨runId, root, path, session, workspace⟩
  · rintro ⟨runId, root, path, session, workspace⟩
    exact ⟨runId, root, path, session, workspace⟩

theorem Subscription.Exact.congr {row next : ExternalRun}
    (same : next.toRunIdentity = row.toRunIdentity) : a.Exact next ↔ a.Exact row := by
  have fields (f : RunIdentity → String) : f next.toRunIdentity = f row.toRunIdentity := by rw [same]
  have workspace : next.returnWorkspaceId = row.returnWorkspaceId :=
    congrArg RunIdentity.returnWorkspaceId same
  constructor
  · rintro ⟨runId, root, path, session, there⟩
    exact ⟨(fields RunIdentity.runId).symm.trans runId,
      (fields RunIdentity.outputRoot).symm.trans root,
      (fields RunIdentity.receiptPath).symm.trans path,
      (fields RunIdentity.returnSessionId).symm.trans session, workspace.symm.trans there⟩
  · rintro ⟨runId, root, path, session, there⟩
    exact ⟨(fields RunIdentity.runId).trans runId, (fields RunIdentity.outputRoot).trans root,
      (fields RunIdentity.receiptPath).trans path,
      (fields RunIdentity.returnSessionId).trans session, workspace.trans there⟩

/-! ### Rows over a run of the bridge -/

theorem evolves_step (h : Reachable (bridge e x) anyEvent w)
    (step : Step (bridge e x) anyEvent w w') : Evolves w.shared w'.shared := by
  cases step with
  | commit at_tx _ => exact evolves_after (sane h) ((bookkept h).pending_commit at_tx)
  | call _ _ _ => exact ⟨fun _ row known => ⟨row, known, .refl row⟩, List.suffix_cons _ _⟩
  | spawn _ _ _ => exact .refl _
  | lock _ _ => exact .refl _
  | unlock _ _ => exact .refl _
  | stop => exact .refl _

theorem subscribed_identity (h : Reachable (bridge e x) anyEvent w) {row : ExternalRun}
    (stored : .commit (.subscribe row) true ∈ w.shared.trace) :
    ∃ next, w.shared.store.run row.subscriptionId = some next ∧
      next.toRunIdentity = row.toRunIdentity := by
  induction h with
  | start _ => exact nomatch stored
  | @step w w' h step ih =>
    have before (stored : .commit (.subscribe row) true ∈ w.shared.trace) :
        ∃ next, w'.shared.store.run row.subscriptionId = some next ∧
          next.toRunIdentity = row.toRunIdentity := by
      obtain ⟨next, known, same⟩ := ih stored
      obtain ⟨later, there, after⟩ := (evolves_step h step).rows _ next known
      exact ⟨later, there, after.identity.trans same⟩
    cases step with
    | @commit p β tx k at_tx _ =>
      rcases List.mem_cons.mp stored with new | old
      · have exec : (bridge e x).exec tx w.shared.store = tx.exec w.shared.store := rfl
        rw [exec] at new
        generalize made : tx.exec w.shared.store = left at new
        obtain ⟨db, answer⟩ := left
        cases new
        obtain refused | ⟨_, _, inserted⟩ := w.shared.store.subscribe_cases row
        · exact nomatch (congrArg Prod.snd made).symm.trans (congrArg Prod.snd refused)
        · refine ⟨row, ?_, rfl⟩
          change MailStore.run (w.shared.store.subscribe row).1 row.subscriptionId = some row
          rw [inserted]
          exact w.shared.store.runs.get_put_self row
      · exact before old
    | call _ _ _ =>
      rcases List.mem_cons.mp stored with new | old
      · exact nomatch new
      · exact before old
    | spawn _ _ _ => exact before stored
    | lock _ _ => exact before stored
    | unlock _ _ => exact before stored
    | stop => exact before stored

/-! ### The receipt of a subscription -/

theorem receiptOf_names {row : ExternalRun} {raw : Bytes} {outcome : String}
    (names : a.Names e raw outcome) (id : row.subscriptionId = a.id) (runId : row.runId = a.runId) :
    receiptOf e row raw = .ok ⟨outcome, e.digest raw⟩ := by
  obtain ⟨fields, decoded, schema, subscription, run, state, terminal, finished⟩ := names
  have dated : (e.py.fromisoformat (e.py.str (Dict.get fields "finished_at"))).isNone = false := by
    rw [Option.isNone_eq_false_iff]
    exact finished
  simp [receiptOf, decoded, schema, subscription, run, state, id, runId, terminalOutcome, terminal,
    Json.isText, dated]

/-! ### A pass over the run -/

section
variable {s s' : MailShared γ} {row : ExternalRun}

theorem getRun_ends {id : String} {r : Answer ExternalRun} (known : s.store.run id = some row)
    (ends : (getRun id).Ends (bridge e x) anyEvent s r s') :
    r = .ok row ∧ s'.store = s.store := by
  change ((commit' (MailTx.getRun id)).bind _).Ends _ _ _ _ _ at ends
  obtain ⟨_, ends⟩ := ends_commit_bind.mp ends
  have answer : ((bridge e x).exec (.getRun id) s.store).2 = some row := known
  rw [answer] at ends
  exact ⟨ends.1, by rw [ends.2]; rfl⟩

theorem moveRun_ends {move : RunMove} {r : Answer ExternalRun}
    (known : s.store.run row.subscriptionId = some row) (guard : row.state ∈ move.states)
    (ends : (moveRun row.subscriptionId move row.version).Ends (bridge e x) anyEvent s r s') :
    ∃ now, r = .ok (row.moved move now) ∧
      s'.store.run row.subscriptionId = some (row.moved move now) := by
  have written (now : Time) : s.store.moveRun row.subscriptionId move row.version now =
      ({ s.store with runs := s.store.runs.put (row.moved move now) }, true) := by
    simp [MailStore.moveRun, known, guard]
  have stored (now : Time) :
      (s.store.moveRun row.subscriptionId move row.version now).1.run row.subscriptionId =
        some (row.moved move now) := by
    rw [written, MailStore.run, MailStore.run_put, ExternalRun.moved_identity, if_pos rfl]
  change ((stamped (.moveRun row.subscriptionId move row.version)).bind _).Ends _ _ _ _ _ at ends
  rw [ends_bind] at ends
  rcases ends with ⟨moved, mid, first, rest⟩ | ⟨failure, first, _⟩
  · obtain ⟨now, env, _, answer, rfl⟩ := ends_stamped.mp first
    obtain rfl : moved = true := (Except.ok.inj answer).trans (congrArg Prod.snd (written now))
    change ((getRun row.subscriptionId).bind _).Ends _ _ _ _ _ at rest
    rw [ends_bind] at rest
    rcases rest with ⟨current, later, second, rest⟩ | ⟨failure, second, _⟩
    · obtain ⟨same, unchanged⟩ := getRun_ends (stored now) second
      obtain rfl := Except.ok.inj same
      obtain ⟨rfl, rfl⟩ := ends_ret.mp rest
      exact ⟨now, rfl, by rw [unchanged]; exact stored now⟩
    · cases (getRun_ends (stored now) second).1
  · obtain ⟨_, _, _, answer, _⟩ := ends_stamped.mp first
    cases answer

/-- A run that a valid receipt names is settled by the pass that finds it. -/
theorem Subscription.settles (h : Reachable (bridge e x) anyEvent w)
    (known : w.shared.store.run a.id = some row) (exact : a.Exact row) :
    a.Settles e x w.shared row := by
  intro raw outcome names found opened r s' ends
  have id : row.subscriptionId = a.id := MailStore.key_of_run known
  have undigested : row.receiptDigest = none := (((sane h).rows a.id row known).opened opened).2
  have reads : receiptAnswer e row (.ok raw) = .ok (some ⟨outcome, e.digest raw⟩) := by
    rw [receiptAnswer, receiptOf_names names id exact.runId]
    rfl
  have seen (result : Answer (Option Receipt)) (mid : MailShared γ)
      (ends : (receipt e row).Ends (bridge e x) anyEvent w.shared result mid) :
      result = .ok (some ⟨outcome, e.digest raw⟩) ∧ mid.store = w.shared.store := by
    obtain ⟨answer, env, answered, _, ends⟩ := ends
    rw [exact.receiptPath] at answered
    rw [found answer env answered] at ends
    dsimp only at ends
    rw [reads] at ends
    exact ⟨ends.1, by rw [ends.2]; rfl⟩
  change ((handle ((receipt e row).bind fun seen =>
    ret (Except.ok seen : Except String (Option Receipt))) _).bind _).Ends _ _ _ _ _ at ends
  rw [ends_bind] at ends
  simp only [ends_handle, ends_bind_ret] at ends
  rcases ends with ⟨checked, mid, first, rest⟩ | ⟨failure, first, _⟩
  · obtain ⟨kept, result⟩ : mid.store = w.shared.store ∧
        checked = .ok (some ⟨outcome, e.digest raw⟩) := by
      rcases first with ⟨checked', ⟨answer, read, made⟩, same⟩ | ⟨_, _, ⟨answer, read, made⟩, _⟩
      · obtain ⟨rfl, kept⟩ := seen answer mid read
        rw [Except.ok.inj same, Except.ok.inj made]
        exact ⟨kept, rfl⟩
      · obtain ⟨rfl, _⟩ := seen answer _ read
        cases made
    subst result
    change ((preserveTerminal e row ⟨outcome, e.digest raw⟩).bind fun next =>
      ret (some next)).Ends _ _ _ _ _ at rest
    rw [ends_bind_ret] at rest
    obtain ⟨result, moved, rfl⟩ := rest
    rw [preserveTerminal, undigested] at moved
    have there : mid.store.run row.subscriptionId = some row := by rw [kept, id, known]
    obtain ⟨now, rfl, stored⟩ := moveRun_ends there
      (show row.state ∈ (RunMove.terminal (e.digest raw) outcome).states from opened) moved
    exact ⟨_, rfl, rfl, rfl, id ▸ stored⟩
  · rcases first with ⟨_, ⟨_, _⟩, same⟩ | ⟨_, _, ⟨answer, read, made⟩, _⟩
    · cases same
    · obtain ⟨rfl, _⟩ := seen answer _ read
      cases made

end

/-! ### What is stored -/

theorem Subscription.Accepted.known (taken : a.Accepted e w)
    (h : Reachable (bridge e x) anyEvent w) :
    ∃ given row, a.row e = .ok given ∧ w.shared.store.run a.id = some row ∧
      row.toRunIdentity = given.toRunIdentity := by
  obtain ⟨given, made, stored⟩ := taken
  obtain ⟨row, known, same⟩ := subscribed_identity h stored
  have named : given.subscriptionId = a.id := by
    obtain ⟨_, _, _, _, _, _, _, _, _, _, rfl⟩ := Subscription.row_ok made
    rfl
  exact ⟨given, row, made, named ▸ known, same⟩

theorem Subscription.kept_iff (faithful : e.redactor.Faithful)
    (h : Reachable (bridge e x) anyEvent w) (taken : a.Accepted e w) :
    a.Kept e x w.shared ↔ ∀ text ∈ a.texts, e.redactor.Plain text := by
  obtain ⟨given, row, made, known, same⟩ := taken.known h
  rw [← Subscription.exact_iff faithful made, ← Exact.congr same]
  constructor
  · rintro ⟨row', known', exact, _⟩
    obtain rfl : row = row' := Option.some.inj (known.symm.trans known')
    exact exact
  · exact fun exact => ⟨row, known, exact, a.settles h known exact⟩

/-- **External runs.** In every run of the bridge, two subscriptions that were taken are found under
what was given, settled by their receipts and apart from each other, just when none of their
identifiers and paths holds anything that redaction replaces. -/
theorem subscriptions_kept_iff (faithful : e.redactor.Faithful)
    (h : Reachable (bridge e x) anyEvent w) (taken : a.Accepted e w) (taken' : b.Accepted e w) :
    (a.Kept e x w.shared ∧ b.Kept e x w.shared ∧ a.KeptApart b w.shared) ↔
      (∀ text ∈ a.texts, e.redactor.Plain text) ∧ ∀ text ∈ b.texts, e.redactor.Plain text := by
  rw [← a.kept_iff faithful h taken, ← b.kept_iff faithful h taken']
  constructor
  · exact fun ⟨kept, kept', _⟩ => ⟨kept, kept'⟩
  · rintro ⟨⟨ra, known, exact, settles⟩, rb, known', exact', settles'⟩
    refine ⟨⟨ra, known, exact, settles⟩, ⟨rb, known', exact', settles'⟩, ?_⟩
    intro ra' rb' there there'
    obtain rfl : ra = ra' := Option.some.inj (known.symm.trans there)
    obtain rfl : rb = rb' := Option.some.inj (known'.symm.trans there')
    rw [exact.outputRoot, exact'.outputRoot, exact.runId, exact'.runId]
    exact ⟨id, id⟩

/-! ### Two output roots -/

def subscriptionAt (root : String) : Subscription :=
  ⟨"1", "token", root, "run", "parent", none, 3⟩

def subscribedWorld (root : String) : BridgeWorld (Host ℕ) :=
  MailScript.calm.run [discard (subscribe scriptRuntime "run" root "parent" none)] (steps 0 10)

theorem subscribedWorld_reachable (root : String) :
    Reachable MailScript.calm.bridged anyEvent (subscribedWorld root) := by
  refine MailScript.calm.run_reachable ?_ _
  rintro op mem
  obtain rfl := List.mem_singleton.mp mem
  exact .subscribe ..

theorem asciiRedactor_faithful : asciiRedactor.Faithful := fun _ _ _ loaded => nomatch loaded

set_option maxRecDepth 100000 in
theorem output_kept : (subscriptionAt "/output").Kept scriptRuntime
    MailScript.calm.outside.hosted (subscribedWorld "/output").shared := by
  have taken : (subscriptionAt "/output").Accepted scriptRuntime (subscribedWorld "/output") :=
    ⟨_, rfl, List.mem_of_getElem? (i := 1) rfl⟩
  have plain : ∀ text ∈ (subscriptionAt "/output").texts, asciiRedactor.Plain text := by
    have same : (subscriptionAt "/output").texts.all fun text =>
        asciiRedactor.redactProse text == text := by decide +kernel
    intro text listed
    have same' : asciiRedactor.redactProse text = text := by
      simpa using List.all_eq_true.mp same text listed
    exact (redactCredentials_eq_iff asciiRedactor_faithful rfl).mp same'
  exact ((subscriptions_kept_iff asciiRedactor_faithful
    (subscribedWorld_reachable "/output") taken taken).mpr ⟨plain, plain⟩).1

set_option maxRecDepth 100000 in
theorem npm_root_not_kept :
    (subscriptionAt "/runs/npm-audit").Accepted scriptRuntime
        (subscribedWorld "/runs/npm-audit") ∧
      Reachable MailScript.calm.bridged anyEvent (subscribedWorld "/runs/npm-audit") ∧
      ¬ (subscriptionAt "/runs/npm-audit").Kept scriptRuntime MailScript.calm.outside.hosted
        (subscribedWorld "/runs/npm-audit").shared := by
  refine ⟨⟨_, rfl, List.mem_of_getElem? (i := 1) rfl⟩, subscribedWorld_reachable _, ?_⟩
  rintro ⟨row, known, exact, _⟩
  have stored : ((subscribedWorld "/runs/npm-audit").shared.store.run "1").map
      (fun row => row.outputRoot) = some "/runs/[REDACTED]" := by decide +kernel
  have there : (subscribedWorld "/runs/npm-audit").shared.store.run "1" = some row := known
  rw [there] at stored
  exact absurd (exact.outputRoot.symm.trans (Option.some.inj stored)) (by decide)

end SightMesh.Escalation
