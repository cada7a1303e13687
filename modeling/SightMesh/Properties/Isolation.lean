import SightMesh.Properties.RunReceipts
import SightMesh.Properties.Subscriptions

/-! A pass over several external runs. `reconcile` handles one run after the other and catches
nothing in between. -/
namespace SightMesh.Escalation

open Concurrency Python Prog

variable {γ α β : Type} {e : Runtime} {x : Outside γ} {s s' : MailShared γ} {row : ExternalRun}

/-! ### What a pass is told -/

def field (value : Json) (name : String) : Answer Json :=
  match value with
  | .obj fields => if Dict.has fields name then .ok (Dict.get fields name) else .error (.other name)
  | _ => .error (.other "not subscriptable")

def record : Json → Answer Dict
  | .obj fields => .ok fields
  | _ => .error (.other "no attribute get")

abbrev tellingStates : List RunState := [.terminal, .lost, .delivering]

/-- The answers of one pass: the run directories, the processes, and the executor, which may answer
the message of each run differently. -/
structure Replies where
  file : String → Answer Bytes
  process : String → ℤ → Option String
  session : SessionId → Answer Json
  workspace : WorkspaceId → Answer Json
  send : String → Answer Json

namespace Replies

variable (o : Replies)

def Tells : MailEvent → Prop
  | .call (.readReceipt path) answer => answer = o.file path
  | .call (.observe (.live id) pid) answer => answer = o.process id pid
  | .call (.session id) answer => answer = o.session id
  | .call (.workspace id) answer => answer = o.workspace id
  | .call (.send (.run id) _ _ _ _ _) answer => answer = o.send id
  | _ => True

def receipt (e : Runtime) (run : ExternalRun) : Answer (Option Receipt) :=
  receiptAnswer e run (o.file run.receiptPath)

def live (run : ExternalRun) : Bool :=
  match run.pid, present run.processFingerprint with
  | some pid, some fingerprint => pid ≠ 0 && o.process run.subscriptionId pid = some fingerprint
  | _, _ => false

def gone (run : ExternalRun) : Bool := run.state = .running && !o.live run

def due (e : Runtime) (run : ExternalRun) : Prop :=
  match o.receipt e run with
  | .error _ => o.gone run
  | .ok none => o.gone run ∨ run.state ∈ tellingStates
  | .ok (some _) => run.state ∈ tellingStates ∨
      run.state ∈ openStates ∧ present run.receiptDigest = none

def parent (py : Library) (run : ExternalRun) : Answer Json := do
  let session ← o.session run.returnSessionId
  let id ← field session "workspace_id"
  o.workspace (py.str id)

/-- What the replies of the executor come to for the message of a run. -/
def delivery (py : Library) (run : ExternalRun) : Answer Unit := do
  let workspace ← o.parent py run
  let fields ← record workspace
  if !(Dict.get fields "archived").truthy then
    let _ ← o.send run.subscriptionId
    let _ ← field workspace "id"

end Replies

variable {o : Replies}

/-- Handling the run raises before anything is delivered: its receipt cannot be read for a reason
that `_receipt` does not name, or comes after the run was settled without one. -/
inductive Unsettled (e : Runtime) (o : Replies) (run : ExternalRun) : Prop where
  | unread {failure : MailError} : o.receipt e run = .error failure → failure.runMessage = none →
      Unsettled e o run
  | late {receipt : Receipt} : o.receipt e run = .ok (some receipt) →
      present run.receiptDigest = none → run.state ∉ openStates → Unsettled e o run

/-- An exception that `reconcile_one` does not leave to a later pass. -/
def Escapes (r : Answer α) : Prop := ∃ failure, r = .error failure ∧ failure.retriesDelivery = false

/-- The message of the run raises what `reconcile_one` does not leave to a later pass. -/
structure Unsendable (e : Runtime) (o : Replies) (run : ExternalRun) : Prop where
  named : run.returnSessionId ≠ ""
  apart : run.returnSessionId ≠ runKey run.subscriptionId
  escapes : Escapes (o.delivery e.py run)

def Raises (e : Runtime) (o : Replies) (run : ExternalRun) : Prop :=
  Unsettled e o run ∨ o.due e run ∧ Unsendable e o run

/-- The pass looks the run up. -/
def Examined (s s' : MailShared γ) (run : ExternalRun) : Prop :=
  ∃ events, s'.trace = events ++ s.trace ∧
    .commit (.getRun run.subscriptionId) (some run) ∈ events

/-! ### What belongs to one run -/

def MailTx.own (id : String) : MailTx β → Prop
  | .subscribe _ => False
  | .getRun other | .moveRun other _ _ _ | .diagnose other _ _ _ | .markNotified other _ _ =>
    other = id
  | _ => True

def Owns (id : String) : MailEvent → Prop
  | .commit tx _ => tx.own id
  | .call _ _ => True

theorem MailTx.own_run {id other : String} (apart : other ≠ id) (tx : MailTx β) (db : MailStore)
    (own : tx.own id) : (tx.exec db).1.run other = db.run other := by
  have put (next : ExternalRun) (named : next.subscriptionId = id) :
      (db.runs.put next).get other = db.run other := by
    rw [MailStore.run_put, if_neg (named ▸ apart)]
  cases tx with
  | subscribe row => exact own.elim
  | moveRun moved move expected now =>
    obtain rfl : moved = id := own
    obtain ⟨row, known, _, _, left⟩ | left := db.moveRun_cases moved move expected now
    · rw [MailTx.exec, left]
      exact put _ ((congrArg RunIdentity.subscriptionId (row.moved_identity move now)).trans
        (MailStore.key_of_run known))
    · rw [MailTx.exec, left]
  | diagnose moved expected message now =>
    obtain rfl : moved = id := own
    obtain ⟨row, known, _, left⟩ | left := db.diagnose_cases moved expected message now
    · have named := MailStore.key_of_run known
      rw [MailTx.exec, left]
      exact put _ named
    · rw [MailTx.exec, left]
  | markNotified moved expected now =>
    obtain rfl : moved = id := own
    obtain ⟨row, known, _, _, left⟩ | left := db.markNotified_cases moved expected now
    · have named := MailStore.key_of_run known
      rw [MailTx.exec, left]
      exact put _ named
    · rw [MailTx.exec, left]
  | _ => rfl

/-- What happens between two states concerns one run alone. -/
structure Within (id : String) (s s' : MailShared γ) : Prop where
  others : ∀ other, other ≠ id → s'.store.run other = s.store.run other
  heard : s.Heard (Owns id) s'

theorem Within.refl (id : String) (s : MailShared γ) : Within id s s :=
  ⟨fun _ _ => rfl, .refl s⟩

theorem Within.trans {id : String} {mid : MailShared γ} (first : Within id s mid)
    (second : Within id mid s') : Within id s s' where
  others other apart := (second.others other apart).trans (first.others other apart)
  heard := first.heard.trans second.heard

abbrev OwnProg (id : String) (p : Bridge α) : Prop := p.Issues fun tx => tx.own id

theorem within_ends {id : String} {p : Bridge α} (own : OwnProg id p) {r : Answer α}
    (ends : p.Ends (bridge e x) anyEvent s r s') : Within id s s' := by
  induction p generalizing s with
  | ret a =>
    rw [ends.2]
    exact .refl id s
  | fail failure =>
    rw [ends.2]
    exact .refl id s
  | commit tx k ih =>
    have step : Within id s (s.commit (bridge e x) tx) :=
      ⟨fun other apart => tx.own_run apart s.store own.1, .commit own.1⟩
    exact step.trans (ih _ (own.2 _) ends.2)
  | call q k ih =>
    obtain ⟨answer, env, _, _, rest⟩ := ends
    have step : Within id s (s.call q answer env) := ⟨fun _ _ => rfl, .call trivial⟩
    exact step.trans (ih answer (own answer) rest)
  | lock l k => exact l.elim
  | unlock l k => exact l.elim

theorem own_stamped {id : String} {tx : Time → MailTx β} (own : ∀ now, (tx now).own id) :
    OwnProg id (stamped tx) := fun now => ⟨own now, fun _ => trivial⟩

theorem own_getRun (id : String) : OwnProg id (getRun id) := by
  refine Issues.bind (.commit (show id = id from rfl)) fun found => ?_
  cases found with
  | none => exact trivial
  | some row => exact trivial

theorem own_moveRun (id : String) (move : RunMove) (expected : ℕ) :
    OwnProg id (moveRun id move expected) := by
  refine Issues.bind (own_stamped fun _ => rfl) fun moved => ?_
  refine Issues.bind (own_getRun id) fun current => ?_
  cases moved with
  | true => exact trivial
  | false => exact trivial

theorem own_subscript {id : String} (value : Json) (name : String) :
    OwnProg id (subscript value name) := by
  obtain ⟨_, _, _, same⟩ | ⟨_, _, same⟩ := subscript_cases value name
  · rw [same]
    exact trivial
  · rw [same]
    exact trivial

theorem own_redacted {id : String} (text : String) : OwnProg id (redacted e text) := by
  unfold redacted
  split
  · exact trivial
  · exact trivial

theorem own_park {id : String} (request : ParkRequest) : OwnProg id (park e request) := by
  refine Issues.bind (own_redacted _) fun _ => Issues.bind (own_stamped fun _ => trivial) fun _ =>
    Issues.bind (.commit trivial) ?_
  intro found
  cases found with
  | none => exact trivial
  | some row => exact trivial

theorem own_acknowledge {id : String} (request : AckRequest) :
    OwnProg id (acknowledge e request) := by
  refine Issues.bind (own_redacted _) fun _ => Issues.bind (own_stamped fun _ => trivial) fun _ =>
    Issues.bind (.commit trivial) ?_
  intro found
  cases found with
  | none => exact trivial
  | some row => exact trivial

theorem own_escalate {id : String} (site : SendSite) (child : SessionId)
    (childWorkspace : Option WorkspaceId) (parent : Option SessionId) (message : String)
    (dedupeKey : Option String) :
    OwnProg id (escalate e site child childWorkspace parent message dedupeKey) := by
  have parked (request : ParkRequest) (reason : ParkReason) :
      OwnProg id ((park e request).bind fun row => .ret (Delivery.parked reason row)) :=
    (own_park request).bind fun _ => trivial
  unfold escalate
  dsimp only
  split
  · exact parked _ _
  · split
    · exact parked _ _
    · refine Issues.bind ?_ fun found => ?_
      · refine Issues.handle ?_ fun failure => ?_
        · refine Issues.bind (.query _) fun session => Issues.bind (own_subscript _ _) fun id => ?_
          exact Issues.bind (.query _) fun _ => trivial
        · split
          · exact trivial
          · exact trivial
      · cases found with
        | error reason => exact parked _ _
        | ok workspace =>
          refine Issues.bind ?_ fun archived => ?_
          · cases workspace with
            | obj fields => exact trivial
            | _ => exact trivial
          · split
            · exact parked _ _
            · refine Issues.bind (.query _) fun _ => Issues.bind (own_acknowledge _) fun _ => ?_
              exact Issues.bind (own_subscript _ _) fun _ => trivial

/-! ### The first half of a round -/

theorem own_receipt {id : String} : OwnProg id (receipt e row) := by
  intro answer
  dsimp only
  split
  · exact trivial
  · exact trivial

theorem own_live {id : String} : OwnProg id (live row) := by
  unfold live
  split
  · split
    · exact trivial
    · exact Issues.bind (.ask _) fun _ => trivial
  · exact trivial

theorem own_gone {id : String} : OwnProg id (gone row) := by
  unfold gone
  split
  · exact own_live.bind fun _ => trivial
  · exact trivial

theorem own_preserveTerminal (receipt : Receipt) :
    OwnProg row.subscriptionId (preserveTerminal e row receipt) := by
  unfold preserveTerminal
  split
  · split
    · exact Issues.bind (own_redacted _) fun _ =>
        Issues.bind (own_stamped fun _ => rfl) fun _ => own_getRun _
    · exact trivial
  · exact own_moveRun _ _ _

theorem own_settleRun : OwnProg row.subscriptionId (settleRun e row) := by
  refine Issues.bind (Issues.handle (own_receipt.bind fun _ => trivial) fun failure => ?_) ?_
  · cases failure.runMessage with
    | some message => exact trivial
    | none => exact trivial
  · intro seen
    split
    · refine own_gone.bind fun gone => ?_
      split
      · exact (own_moveRun _ _ _).bind fun _ => trivial
      · exact trivial
    · exact (own_preserveTerminal _).bind fun _ => trivial
    · refine own_gone.bind fun gone => ?_
      split
      · exact (own_moveRun _ _ _).bind fun _ => trivial
      · exact trivial

theorem receipt_ends {r : Answer (Option Receipt)}
    (ends : (receipt e row).Ends (bridge e x) (fun _ ev => o.Tells ev) s r s') :
    r = o.receipt e row ∧ s'.store = s.store := by
  obtain ⟨answer, env, _, told, rest⟩ := ends
  obtain rfl : answer = o.file row.receiptPath := told
  unfold Replies.receipt
  dsimp only at rest
  split at rest
  · rename_i seen same
    rw [rest.1, rest.2, same]
    exact ⟨rfl, rfl⟩
  · rename_i failure same
    rw [rest.1, rest.2, same]
    exact ⟨rfl, rfl⟩

theorem live_ends {r : Answer Bool}
    (ends : (live row).Ends (bridge e x) (fun _ ev => o.Tells ev) s r s') :
    r = .ok (o.live row) ∧ s'.store = s.store := by
  unfold live at ends
  unfold Replies.live
  cases bound : row.pid with
  | none =>
    rw [bound] at ends
    rw [ends.1, ends.2]
    exact ⟨rfl, rfl⟩
  | some pid =>
    rw [bound] at ends
    cases named : present row.processFingerprint with
    | none =>
      rw [named] at ends
      rw [ends.1, ends.2]
      exact ⟨rfl, rfl⟩
    | some fingerprint =>
      rw [named] at ends
      dsimp only at ends ⊢
      split at ends
      · rename_i zero
        rw [ends.1, ends.2]
        simp [zero]
      · rename_i nonzero
        obtain ⟨answer, env, _, told, rest⟩ := ends_ask_bind.mp ends
        obtain rfl : answer = o.process row.subscriptionId pid := told
        rw [rest.1, rest.2]
        simp [nonzero]
        rfl

theorem gone_ends {r : Answer Bool}
    (ends : (gone row).Ends (bridge e x) (fun _ ev => o.Tells ev) s r s') :
    r = .ok (o.gone row) ∧ s'.store = s.store := by
  unfold gone at ends
  unfold Replies.gone
  split at ends
  · rename_i running
    obtain ⟨result, looked, rfl⟩ := ends_bind_ret.mp ends
    obtain ⟨rfl, kept⟩ := live_ends looked
    simp [running, kept, Except.map]
  · rename_i other
    rw [ends.1, ends.2]
    simp [other]

/-- What `settleRun` makes of the reading of the receipt. -/
def checked : Answer (Option Receipt) → Answer (Except String (Option Receipt))
  | .ok seen => .ok (.ok seen)
  | .error failure =>
    match failure.runMessage with
    | some message => .ok (.error message)
    | none => .error failure

theorem checked_ends {r : Answer (Except String (Option Receipt))}
    (ends : (handle ((receipt e row).bind fun seen => ret (Except.ok seen)) fun failure =>
      match failure.runMessage with
      | some message => .ret (.error message)
      | none => .fail failure).Ends (bridge e x) (fun _ ev => o.Tells ev) s r s') :
    r = checked (o.receipt e row) ∧ s'.store = s.store := by
  rw [ends_handle] at ends
  simp only [ends_bind_ret] at ends
  rcases ends with ⟨a, ⟨result, read, same⟩, rfl⟩ | ⟨failure, mid, ⟨result, read, same⟩, rest⟩
  · obtain ⟨rfl, kept⟩ := receipt_ends read
    cases found : o.receipt e row with
    | error failure =>
      rw [found] at same
      cases same
    | ok seen =>
      rw [found] at same
      cases same
      exact ⟨rfl, kept⟩
  · obtain ⟨rfl, kept⟩ := receipt_ends read
    cases found : o.receipt e row with
    | ok seen =>
      rw [found] at same
      cases same
    | error other =>
      rw [found] at same
      cases same
      unfold checked
      dsimp only
      split at rest
      · rw [rest.1, rest.2]
        exact ⟨rfl, kept⟩
      · rw [rest.1, rest.2]
        exact ⟨rfl, kept⟩

/-- What the first half of a round comes to. -/
inductive Settles (e : Runtime) (o : Replies) (row : ExternalRun) (db : MailStore) :
    Answer (Option ExternalRun) → Prop where
  | raised {failure : MailError} : Unsettled e o row → Settles e o row db (.error failure)
  | quiet : ¬ Unsettled e o row → ¬ o.due e row → Settles e o row db (.ok none)
  | settled {next : ExternalRun} : ¬ Unsettled e o row →
      next.toRunIdentity = row.toRunIdentity → db.run row.subscriptionId = some next →
      (next.state ∈ tellingStates ↔ o.due e row) → Settles e o row db (.ok (some next))

theorem not_unsettled_of_error {failure : MailError} {message : String}
    (found : o.receipt e row = .error failure) (named : failure.runMessage = some message) :
    ¬ Unsettled e o row := by
  rintro (⟨other, unnamed⟩ | ⟨other, _, _⟩)
  · cases found.symm.trans other
    simp [named] at unnamed
  · cases found.symm.trans other

theorem not_unsettled_of_none (found : o.receipt e row = .ok none) : ¬ Unsettled e o row := by
  rintro (⟨other, _⟩ | ⟨other, _, _⟩)
  · cases found.symm.trans other
  · cases found.symm.trans other

theorem preserveLost_ends {diagnostic : String} {r : Answer ExternalRun}
    (known : s.store.run row.subscriptionId = some row) (gone : o.gone row = true)
    (ends : (preserveLost row diagnostic).Ends (bridge e x) anyEvent s r s') :
    ∃ next, r = .ok next ∧ next.toRunIdentity = row.toRunIdentity ∧
      s'.store.run row.subscriptionId = some next ∧ next.state = .lost := by
  have running : row.state = .running := by
    simp only [Replies.gone, Bool.and_eq_true, decide_eq_true_eq] at gone
    exact gone.1
  have guard : row.state ∈ openStates := by
    rw [running]
    decide
  obtain ⟨now, rfl, stored⟩ :=
    moveRun_ends known (show row.state ∈ (RunMove.lost diagnostic).states from guard) ends
  exact ⟨_, rfl, row.moved_identity _ now, stored, rfl⟩

theorem diagnose_ends {message : String} {r : Answer ExternalRun} (stores : e.Stores message)
    (known : s.store.run row.subscriptionId = some row)
    (ends : (diagnose e row message).Ends (bridge e x) anyEvent s r s') :
    ∃ next, r = .ok next ∧ next.toRunIdentity = row.toRunIdentity ∧
      s'.store.run row.subscriptionId = some next ∧ next.state = row.state := by
  obtain ⟨_, safe, _, ends⟩ | ⟨unstored, _⟩ := redacted_ends ends
  swap
  · exact absurd stores unstored
  rcases ends_bind.mp ends with ⟨_, mid, first, rest⟩ | ⟨_, first, _⟩
  · obtain ⟨now, env, _, _, rfl⟩ := ends_stamped.mp first
    have stored : (s.store.diagnose row.subscriptionId row.version safe now).run
        row.subscriptionId = some { row with diagnostic := some safe, updatedAt := now } := by
      simp only [MailStore.diagnose, known, if_true]
      exact s.store.runs.get_put_self _
    obtain ⟨rfl, kept⟩ := getRun_ends stored rest
    exact ⟨_, rfl, rfl, by rw [kept]; exact stored, rfl⟩
  · obtain ⟨_, _, _, same, _⟩ := ends_stamped.mp first
    cases same

theorem moveRun_refused {move : RunMove} {expected : ℕ} {r : Answer ExternalRun}
    (known : s.store.run row.subscriptionId = some row) (guard : row.state ∉ move.states)
    (ends : (moveRun row.subscriptionId move expected).Ends (bridge e x) anyEvent s r s') :
    ∃ failure, r = .error failure := by
  have refused (now : Time) : s.store.moveRun row.subscriptionId move expected now =
      (s.store, false) := by
    simp [MailStore.moveRun, known, guard]
  rcases ends_bind.mp ends with ⟨moved, mid, first, rest⟩ | ⟨failure, _, rfl⟩
  · obtain ⟨now, env, _, answer, rfl⟩ := ends_stamped.mp first
    obtain rfl : moved = false := (Except.ok.inj answer).trans (congrArg Prod.snd (refused now))
    rcases ends_bind.mp rest with ⟨current, later, _, rest⟩ | ⟨failure, _, rfl⟩
    · exact ⟨_, rest.1⟩
    · exact ⟨failure, rfl⟩
  · exact ⟨failure, rfl⟩

theorem preserveTerminal_ends {found : Receipt} {r : Answer ExternalRun}
    (known : s.store.run row.subscriptionId = some row)
    (seen : o.receipt e row = .ok (some found))
    (ends : (preserveTerminal e row found).Ends (bridge e x) anyEvent s r s') :
    Settles e o row s'.store (r.map some) := by
  have due : o.due e row ↔ row.state ∈ tellingStates ∨
      row.state ∈ openStates ∧ present row.receiptDigest = none := by
    rw [Replies.due, seen]
  unfold preserveTerminal at ends
  split at ends
  · rename_i digest digested
    have timely : ¬ Unsettled e o row := by
      rintro (⟨other, _⟩ | ⟨_, undigested, _⟩)
      · cases seen.symm.trans other
      · cases digested.symm.trans undigested
    have kept (next : ExternalRun) (same : next.state = row.state) :
        next.state ∈ tellingStates ↔ o.due e row := by
      rw [due, same, digested]
      simp
    split at ends
    · obtain ⟨next, rfl, identity, stored, same⟩ := diagnose_ends (stores_of_opening (c := 'd') rfl (by decide)) known ends
      exact .settled timely identity stored (kept next same)
    · obtain ⟨rfl, rfl⟩ := ends
      exact .settled timely rfl known (kept row rfl)
  · rename_i undigested
    by_cases opened : row.state ∈ openStates
    · have timely : ¬ Unsettled e o row := by
        rintro (⟨other, _⟩ | ⟨_, _, settled⟩)
        · cases seen.symm.trans other
        · exact settled opened
      have starts : row.state ∈ (RunMove.terminal found.digest found.outcome).states := opened
      obtain ⟨now, rfl, stored⟩ := moveRun_ends known starts ends
      refine .settled timely (row.moved_identity _ now) stored ?_
      rw [due]
      exact iff_of_true (List.mem_cons_self ..) (.inr ⟨opened, undigested⟩)
    · have refused : row.state ∉ (RunMove.terminal found.digest found.outcome).states := opened
      obtain ⟨failure, rfl⟩ := moveRun_refused known refused ends
      exact .raised (.late seen undigested opened)

/-- A process that is not there is a loss, and one that is there, or was never bound, leaves the
run as it is. -/
theorem settleRun_ends {r : Answer (Option ExternalRun)}
    (known : s.store.run row.subscriptionId = some row)
    (ends : (settleRun e row).Ends (bridge e x) (fun _ ev => o.Tells ev) s r s') :
    Settles e o row s'.store r := by
  have free {p : Bridge ExternalRun} {a b : MailShared γ} {r : Answer ExternalRun}
      (ends : p.Ends (bridge e x) (fun _ ev => o.Tells ev) a r b) :
      p.Ends (bridge e x) anyEvent a r b := ends.mono fun _ _ _ => trivial
  have lost {mid : MailShared γ} {diagnostic : String} {result : Answer ExternalRun}
      (known : mid.store.run row.subscriptionId = some row) (gone : o.gone row = true)
      (timely : ¬ Unsettled e o row) (due : o.due e row)
      (ends : (preserveLost row diagnostic).Ends (bridge e x) (fun _ ev => o.Tells ev) mid result s') :
      Settles e o row s'.store (result.map some) := by
    obtain ⟨next, rfl, identity, stored, lost⟩ := preserveLost_ends known gone (free ends)
    refine .settled timely identity stored (iff_of_true ?_ due)
    rw [lost]
    decide
  rcases ends_bind.mp ends with ⟨seen, mid, first, rest⟩ | ⟨failure, first, rfl⟩
  · obtain ⟨same, kept⟩ := checked_ends first
    have known : mid.store.run row.subscriptionId = some row := by rw [kept, known]
    unfold checked at same
    cases found : o.receipt e row with
    | error failure =>
      simp only [found] at same
      cases named : failure.runMessage with
      | none => simp [named] at same
      | some message =>
        simp only [named] at same
        cases same
        have timely := not_unsettled_of_error found named
        have due : o.due e row ↔ o.gone row = true := by rw [Replies.due, found]
        dsimp only at rest
        rcases ends_bind.mp rest with ⟨gone, later, looked, rest⟩ | ⟨failure, looked, _⟩
        · obtain ⟨told, kept⟩ := gone_ends looked
          cases told
          split at rest
          · rename_i gone
            obtain ⟨result, moved, rfl⟩ := ends_bind_ret.mp rest
            exact lost (by rw [kept, known]) gone timely (due.mpr gone) moved
          · rename_i there
            rw [rest.1]
            exact .quiet timely fun is_due => there (due.mp is_due)
        · cases (gone_ends looked).1
    | ok seen =>
      simp only [found] at same
      cases same
      cases seen with
      | none =>
        have timely := not_unsettled_of_none found
        have due : o.due e row ↔ o.gone row = true ∨ row.state ∈ tellingStates := by
          rw [Replies.due, found]
        dsimp only at rest
        rcases ends_bind.mp rest with ⟨gone, later, looked, rest⟩ | ⟨failure, looked, _⟩
        · obtain ⟨told, kept⟩ := gone_ends looked
          cases told
          split at rest
          · rename_i gone
            obtain ⟨result, moved, rfl⟩ := ends_bind_ret.mp rest
            exact lost (by rw [kept, known]) gone timely (due.mpr (.inl gone)) moved
          · rename_i there
            obtain ⟨rfl, rfl⟩ := rest
            exact .settled timely rfl (by rw [kept, known]) (by rw [due]; simp [there])
        · cases (gone_ends looked).1
      | some receipt =>
        dsimp only at rest
        obtain ⟨result, preserved, rfl⟩ := ends_bind_ret.mp rest
        exact preserveTerminal_ends known found (free preserved)
  · obtain ⟨same, kept⟩ := checked_ends first
    unfold checked at same
    cases found : o.receipt e row with
    | ok seen => simp [found] at same
    | error other =>
      simp only [found] at same
      cases named : other.runMessage with
      | some message => simp [named] at same
      | none => exact .raised (.unread found named)

/-! ### The second half of a round -/

theorem subscript_ends {value : Json} {name : String} {r : Answer Json}
    (ends : (subscript value name).Ends (bridge e x) (fun _ ev => o.Tells ev) s r s') :
    r = field value name ∧ s' = s := by
  cases value with
  | obj fields =>
    unfold subscript at ends
    unfold field
    dsimp only at ends ⊢
    split at ends
    · rename_i there
      rw [if_pos there]
      exact ends
    · rename_i missing
      rw [if_neg missing]
      exact ends
  | _ => exact ends

theorem getField_ends {value : Json} {name : String} {r : Answer Json}
    (ends : (getField value name).Ends (bridge e x) (fun _ ev => o.Tells ev) s r s') :
    r = (record value).map (Dict.get · name) ∧ s' = s := by
  cases value with
  | obj fields => exact ends
  | _ => exact ends

theorem not_escapes_ok (a : α) : ¬ Escapes (.ok a : Answer α) := by
  rintro ⟨failure, same, _⟩
  cases same

theorem escapes_error {failure : MailError} :
    Escapes (.error failure : Answer α) ↔ failure.retriesDelivery = false := by
  constructor
  · rintro ⟨other, same, escapes⟩
    cases same
    exact escapes
  · exact fun escapes => ⟨failure, rfl, escapes⟩

theorem parked_stays {request : ParkRequest} {reason : ParkReason} {r : Answer Delivery}
    (stores : e.Stores request.message)
    (ends : ((park e request).bind fun row => .ret (Delivery.parked reason row)).Ends (bridge e x)
      anyEvent s r s') : ¬ Escapes r := by
  obtain ⟨result, parked, rfl⟩ := ends_bind_ret.mp ends
  obtain ⟨_, safe, _, parked⟩ | ⟨unstored, _⟩ := redacted_ends parked
  swap
  · exact absurd stores unstored
  obtain ⟨now, mid, _, _, rest⟩ := stamped_ends (fun _ _ => rfl) parked
  obtain ⟨_, rest⟩ := ends_commit_bind.mp rest
  split at rest
  · rw [rest.1]
    exact not_escapes_ok _
  · rw [rest.1]
    exact fun escapes => absurd (escapes_error.mp escapes) (by simp [MailError.retriesDelivery])

theorem acknowledge_answers {request : AckRequest} {r : Answer DeliveryAck}
    (stores : e.Stores request.message)
    (ends : (acknowledge e request).Ends (bridge e x) anyEvent s r s') : ∃ ack, r = .ok ack := by
  obtain ⟨_, safe, _, ends⟩ | ⟨unstored, _⟩ := redacted_ends ends
  swap
  · exact absurd stores unstored
  obtain ⟨now, mid, left, _, rest⟩ := stamped_ends (fun _ _ => rfl) ends
  obtain ⟨_, rest⟩ := ends_commit_bind.mp rest
  have acked := acked_after_acknowledge s.store { request with message := safe } now
  split at rest
  · exact ⟨_, rest.1⟩
  · rename_i missing
    have left : mid.store = s.store.acknowledge { request with message := safe } now := left
    have missing : mid.store.acknowledgment request.dedupeKey = none := missing
    rw [left] at missing
    simp [MailStore.acked, missing] at acked

theorem lookupParent_told {r : Answer (Except ParkReason Json)}
    (ends : (lookupParent e.py row.returnSessionId).Ends (bridge e x) (fun _ ev => o.Tells ev)
      s r s') :
    s'.store = s.store ∧ r = match o.parent e.py row with
      | .ok workspace => .ok (.ok workspace)
      | .error failure =>
        if failure.isCdesktop then .ok (.error .parentUnreachable) else .error failure := by
  have body {r : Answer (Except ParkReason Json)} {s' : MailShared γ}
      (ends : (lookupBody e.py row.returnSessionId).Ends (bridge e x) (fun _ ev => o.Tells ev)
        s r s') : s'.store = s.store ∧ r = (o.parent e.py row).map .ok := by
    unfold Replies.parent
    rcases ends_bind.mp ends with ⟨session, mid, asked, rest⟩ | ⟨failure, asked, rfl⟩
    · obtain ⟨env, _, told, rfl⟩ := ends_query.mp asked
      have told : .ok session = o.session row.returnSessionId := told
      rw [← told]
      rcases ends_bind.mp rest with ⟨id, later, subscripted, rest⟩ | ⟨failure, subscripted, rfl⟩
      · obtain ⟨same, rfl⟩ := subscript_ends subscripted
        obtain ⟨result, asked, rfl⟩ := ends_bind_ret.mp rest
        obtain ⟨env', _, told', rfl⟩ := ends_query.mp asked
        have told' : result = o.workspace (e.py.str id) := told'
        rw [told']
        refine ⟨rfl, ?_⟩
        change _ = Except.map _ ((field session "workspace_id").bind _)
        rw [← same]
        rfl
      · obtain ⟨same, rfl⟩ := subscript_ends subscripted
        refine ⟨rfl, ?_⟩
        change _ = Except.map _ ((field session "workspace_id").bind _)
        rw [← same]
        rfl
    · obtain ⟨env, _, told, rfl⟩ := ends_query.mp asked
      have told : .error failure = o.session row.returnSessionId := told
      rw [← told]
      exact ⟨rfl, rfl⟩
  rw [lookupParent_eq] at ends
  rcases ends_handle.mp ends with ⟨found, looked, rfl⟩ | ⟨failure, mid, looked, rest⟩
  · obtain ⟨kept, same⟩ := body looked
    cases parent : o.parent e.py row with
    | ok workspace =>
      rw [parent] at same
      cases same
      exact ⟨kept, rfl⟩
    | error failure =>
      rw [parent] at same
      cases same
  · obtain ⟨kept, same⟩ := body looked
    cases parent : o.parent e.py row with
    | ok workspace =>
      rw [parent] at same
      cases same
    | error other =>
      rw [parent] at same
      cases same
      dsimp only
      split at rest
      · rename_i parks
        rw [rest.1, rest.2, if_pos parks]
        exact ⟨kept, rfl⟩
      · rename_i escapes
        rw [rest.1, rest.2, if_neg escapes]
        exact ⟨kept, rfl⟩

theorem deliver_escapes {child parent : SessionId} {message key : String} {fields : Dict}
    {r : Answer Delivery} (stores : e.Stores message)
    (unarchived : (Dict.get fields "archived").truthy = false)
    (reached : o.parent e.py row = .ok (.obj fields))
    (ends : (deliver e (.run row.subscriptionId) child parent message key (.obj fields)).Ends
      (bridge e x) (fun _ ev => o.Tells ev) s r s') :
    Escapes r ↔ Escapes (o.delivery e.py row) := by
  have delivery : o.delivery e.py row =
      (o.send row.subscriptionId).bind fun _ => (field (.obj fields) "id").map fun _ => () := by
    unfold Replies.delivery
    rw [reached]
    change (if !(Dict.get fields "archived").truthy then _ else _) = _
    rw [if_pos (by simp [unarchived])]
    rfl
  rw [delivery]
  rcases ends_bind.mp ends with ⟨followUp, mid, sent, rest⟩ | ⟨failure, sent, rfl⟩
  · obtain ⟨env, _, told, rfl⟩ := ends_query.mp sent
    have told : .ok followUp = o.send row.subscriptionId := told
    rw [← told]
    rcases ends_bind.mp rest with ⟨ack, later, _, rest⟩ | ⟨failure, recorded, _⟩
    · rcases ends_bind.mp rest with ⟨id, last, subscripted, rest⟩ | ⟨failure, subscripted, rfl⟩
      · obtain ⟨same, _⟩ := subscript_ends subscripted
        rw [← same, rest.1]
        exact iff_of_false (not_escapes_ok _) (not_escapes_ok _)
      · obtain ⟨same, _⟩ := subscript_ends subscripted
        rw [← same]
        exact escapes_error.trans escapes_error.symm
    · obtain ⟨ack, same⟩ := acknowledge_answers stores (recorded.mono fun _ _ _ => trivial)
      cases same
  · obtain ⟨env, _, told, rfl⟩ := ends_query.mp sent
    have told : .error failure = o.send row.subscriptionId := told
    rw [← told]
    exact escapes_error.trans escapes_error.symm

theorem escalate_escapes {message : String} {r : Answer Delivery}
    {childWorkspace : Option WorkspaceId} {dedupeKey : Option String} (stores : e.Stores message)
    (ends : (escalate e (.run row.subscriptionId) (runKey row.subscriptionId) childWorkspace
      (some row.returnSessionId) message dedupeKey).Ends (bridge e x) (fun _ ev => o.Tells ev)
      s r s') :
    Escapes r ↔ Unsendable e o row := by
  have parks {reason why : ParkReason} {child : SessionId} {parent : Option SessionId}
      {key : String} {a b : MailShared γ}
      (ends : ((park e ⟨child, childWorkspace, parent, why, message, key⟩).bind fun row =>
        .ret (Delivery.parked reason row)).Ends (bridge e x) (fun _ ev => o.Tells ev) a r b) :
      ¬ Escapes r :=
    parked_stays stores (ends.mono fun _ _ _ => trivial)
  unfold escalate at ends
  dsimp only at ends
  split at ends
  · rename_i own
    have own : row.returnSessionId = runKey row.subscriptionId := Option.some.inj own
    exact iff_of_false (parks ends) fun told => told.apart own
  · rename_i apart
    have apart : row.returnSessionId ≠ runKey row.subscriptionId := fun same =>
      apart (congrArg some same)
    split at ends
    · rename_i unnamed
      refine iff_of_false (parks ends) fun told => ?_
      rw [present_of_ne told.named] at unnamed
      cases unnamed
    · rename_i parent named
      obtain rfl : row.returnSessionId = parent := Option.some.inj (eq_some_of_present named)
      have nonempty : row.returnSessionId ≠ "" := by
        intro empty
        simp [empty, present] at named
      have reduced : Unsendable e o row ↔ Escapes (o.delivery e.py row) :=
        ⟨fun told => told.escapes, fun escapes => ⟨nonempty, apart, escapes⟩⟩
      rw [reduced]
      rcases ends_bind.mp ends with ⟨found, mid, looked, rest⟩ | ⟨failure, looked, rfl⟩
      · obtain ⟨_, same⟩ := lookupParent_told looked
        cases reached : o.parent e.py row with
        | error failure =>
          simp only [reached] at same
          split at same
          · rename_i parked
            cases same
            have stays : ¬ Escapes (o.delivery e.py row) := by
              unfold Replies.delivery
              rw [reached]
              refine fun escapes => absurd (escapes_error.mp escapes) ?_
              cases failure with
              | cdesktop kind text => simp [MailError.retriesDelivery]
              | _ => simp [MailError.isCdesktop] at parked
            exact iff_of_false (parks rest) stays
          · cases same
        | ok workspace =>
          simp only [reached] at same
          cases same
          rcases ends_bind.mp rest with ⟨archived, later, got, rest⟩ | ⟨failure, got, rfl⟩
          · obtain ⟨told, rfl⟩ := getField_ends got
            cases workspace with
            | obj fields =>
              cases told
              split at rest
              · rename_i archived
                refine iff_of_false (parks rest) ?_
                unfold Replies.delivery
                rw [reached]
                change ¬ Escapes (if !(Dict.get fields "archived").truthy then _ else _)
                rw [if_neg (by simp [archived])]
                exact not_escapes_ok _
              · rename_i unarchived
                exact deliver_escapes stores (by simpa using unarchived) reached rest
            | _ => cases told
          · obtain ⟨told, rfl⟩ := getField_ends got
            cases workspace with
            | obj fields => cases told
            | _ =>
              cases told
              unfold Replies.delivery
              rw [reached]
              exact escapes_error.trans escapes_error.symm
      · obtain ⟨_, same⟩ := lookupParent_told looked
        cases reached : o.parent e.py row with
        | error other =>
          simp only [reached] at same
          split at same
          · cases same
          · cases same
            unfold Replies.delivery
            rw [reached]
            exact escapes_error.trans escapes_error.symm
        | ok workspace =>
          simp only [reached] at same
          cases same

theorem stores_runMessage (run : ExternalRun) : e.Stores (runMessage run) := by
  refine stores_of_opening (c := 'S') ?_ (by decide)
  unfold runMessage
  simp only [String.append_assoc, String.toList_append]
  rfl

theorem notifyRun_raises {r : Answer (Option Delivery)}
    (ends : (notifyRun e row).Ends (bridge e x) (fun _ ev => o.Tells ev) s r s') :
    (∃ failure, r = .error failure) ↔ Unsendable e o row := by
  have stores := stores_runMessage (e := e) row
  rcases ends_handle.mp ends with ⟨sent, told, rfl⟩ | ⟨failure, mid, told, rest⟩
  · obtain ⟨result, called, same⟩ := ends_bind_ret.mp told
    rw [← escalate_escapes stores called]
    cases result with
    | ok delivery =>
      refine iff_of_false ?_ (not_escapes_ok _)
      rintro ⟨failure, other⟩
      cases other
    | error failure => cases same
  · obtain ⟨result, called, same⟩ := ends_bind_ret.mp told
    rw [← escalate_escapes stores called]
    cases result with
    | ok delivery => cases same
    | error other =>
      cases same
      rw [escapes_error]
      split at rest
      · rename_i retries
        rw [rest.1]
        refine iff_of_false ?_ (by simp [retries])
        rintro ⟨failure, other⟩
        cases other
      · rename_i escapes
        exact iff_of_true ⟨failure, rest.1⟩ (by simpa using escapes)

theorem own_notifyRun {id : String} : OwnProg id (notifyRun e row) := by
  refine Issues.handle ((own_escalate ..).bind fun _ => trivial) fun failure => ?_
  split
  · exact trivial
  · exact trivial

theorem own_markNotified : OwnProg row.subscriptionId (markNotified row) := by
  refine Issues.bind (own_stamped fun _ => rfl) fun marked => ?_
  refine Issues.bind (own_getRun _) fun current => ?_
  split
  · exact trivial
  · exact trivial

theorem own_beginDelivery : OwnProg row.subscriptionId (beginDelivery row) := by
  unfold beginDelivery
  split
  · exact trivial
  · exact own_moveRun _ _ _

theorem markNotified_ends {r : Answer ExternalRun}
    (known : s.store.run row.subscriptionId = some row) (delivering : row.state = .delivering)
    (ends : (markNotified row).Ends (bridge e x) anyEvent s r s') : ∃ next, r = .ok next := by
  have marked (now : Time) : (s.store.markNotified row.subscriptionId row.version now).2 = true := by
    simp [MailStore.markNotified, known, delivering]
  have stored (now : Time) :
      ∃ next, (s.store.markNotified row.subscriptionId row.version now).1.run row.subscriptionId =
        some next := by
    simp only [MailStore.markNotified, known, delivering, and_self, if_true]
    exact ⟨_, s.store.runs.get_put_self _⟩
  rcases ends_bind.mp ends with ⟨done, mid, first, rest⟩ | ⟨failure, first, _⟩
  · obtain ⟨now, env, _, answer, rfl⟩ := ends_stamped.mp first
    obtain rfl : done = true := (Except.ok.inj answer).trans (marked now)
    obtain ⟨next, there⟩ := stored now
    rcases ends_bind.mp rest with ⟨current, later, _, rest⟩ | ⟨failure, got, _⟩
    · exact ⟨_, rest.1⟩
    · cases (getRun_ends there got).1
  · obtain ⟨_, _, _, same, _⟩ := ends_stamped.mp first
    cases same

theorem beginDelivery_ends {r : Answer ExternalRun}
    (known : s.store.run row.subscriptionId = some row) (telling : row.state ∈ tellingStates)
    (ends : (beginDelivery row).Ends (bridge e x) anyEvent s r s') :
    ∃ next, r = .ok next ∧ next.toRunIdentity = row.toRunIdentity ∧
      s'.store.run row.subscriptionId = some next ∧ next.state = .delivering := by
  unfold beginDelivery at ends
  split at ends
  · rename_i delivering
    rw [ends.1, ends.2]
    exact ⟨row, rfl, rfl, known, delivering⟩
  · rename_i other
    have guard : row.state ∈ RunMove.deliver.states := by
      simpa [tellingStates, RunMove.states, other] using telling
    obtain ⟨now, rfl, stored⟩ := moveRun_ends known guard ends
    exact ⟨_, rfl, row.moved_identity _ now, stored, rfl⟩

theorem Unsendable.congr {next : ExternalRun} (same : next.toRunIdentity = row.toRunIdentity) :
    Unsendable e o next ↔ Unsendable e o row := by
  have delivery : o.delivery e.py next = o.delivery e.py row := by
    unfold Replies.delivery Replies.parent
    rw [same]
  have session : next.returnSessionId = row.returnSessionId :=
    congrArg RunIdentity.returnSessionId same
  have id : next.subscriptionId = row.subscriptionId := congrArg RunIdentity.subscriptionId same
  constructor
  · rintro ⟨named, apart, escapes⟩
    exact ⟨session ▸ named, session ▸ id ▸ apart, delivery ▸ escapes⟩
  · rintro ⟨named, apart, escapes⟩
    exact ⟨session ▸ named, session ▸ id ▸ apart, delivery ▸ escapes⟩

theorem runs_kept {p : Bridge α} (own : ∀ id, OwnProg id p) {r : Answer α}
    (ends : p.Ends (bridge e x) anyEvent s r s') (id : String) :
    s'.store.run id = s.store.run id := by
  obtain ⟨other, apart⟩ := exists_ne id
  exact (within_ends (own other) ends).others id apart.symm

theorem deliverRun_ends {r : Answer ℕ} (known : s.store.run row.subscriptionId = some row)
    (ends : (deliverRun e row).Ends (bridge e x) (fun _ ev => o.Tells ev) s r s') :
    ((∃ failure, r = .error failure) ↔ row.state ∈ tellingStates ∧ Unsendable e o row) ∧
      Within row.subscriptionId s s' := by
  have free {α : Type} {p : Bridge α} {a b : MailShared γ} {r : Answer α}
      (ends : p.Ends (bridge e x) (fun _ ev => o.Tells ev) a r b) :
      p.Ends (bridge e x) anyEvent a r b := ends.mono fun _ _ _ => trivial
  have fine (n : ℕ) : ¬ ∃ failure, (.ok n : Answer ℕ) = .error failure := by
    rintro ⟨failure, same⟩
    cases same
  unfold deliverRun at ends
  split at ends
  · rename_i telling
    rw [and_iff_right telling]
    rcases ends_bind.mp ends with ⟨next, mid, first, rest⟩ | ⟨failure, first, _⟩
    · obtain ⟨next', same, identity, stored, delivering⟩ :=
        beginDelivery_ends known telling (free first)
      cases same
      have id : next.subscriptionId = row.subscriptionId :=
        congrArg RunIdentity.subscriptionId identity
      rw [← Unsendable.congr identity]
      have began := within_ends own_beginDelivery (free first)
      rcases ends_bind.mp rest with ⟨sent, later, notified, rest⟩ | ⟨failure, notified, rfl⟩
      · have sends := notifyRun_raises notified
        have told := began.trans (within_ends own_notifyRun (free notified))
        have calm : ¬ Unsendable e o next := by
          rw [← sends]
          rintro ⟨failure, same⟩
          cases same
        split at rest
        · have there : later.store.run next.subscriptionId = some next := by
            rw [runs_kept (fun _ => own_notifyRun) (free notified), id, stored]
          obtain ⟨result, marked, rfl⟩ := ends_bind_ret.mp rest
          obtain ⟨last, rfl⟩ := markNotified_ends there delivering (free marked)
          exact ⟨iff_of_false (fine 1) calm,
            told.trans (id ▸ within_ends own_markNotified (free marked))⟩
        · rw [rest.1, rest.2]
          exact ⟨iff_of_false (fine 0) calm, told⟩
      · refine ⟨iff_of_true ⟨failure, rfl⟩ ((notifyRun_raises notified).mp ⟨failure, rfl⟩), ?_⟩
        exact began.trans (within_ends own_notifyRun (free notified))
    · obtain ⟨_, same, _⟩ := beginDelivery_ends known telling (free first)
      cases same
  · rename_i quiet
    rw [ends.1, ends.2]
    exact ⟨iff_of_false (fine 0) fun told => quiet told.1, .refl _ s⟩

/-! ### A round -/

theorem Examined.mono {a b : MailShared γ} (seen : Examined a b row)
    (before : ∃ events, a.trace = events ++ s.trace)
    (after : ∃ events, s'.trace = events ++ b.trace) : Examined s s' row := by
  obtain ⟨events, left, mem⟩ := seen
  obtain ⟨earlier, first⟩ := before
  obtain ⟨later, last⟩ := after
  refine ⟨later ++ (events ++ earlier), by simp [last, left, first], ?_⟩
  simp [mem]

theorem Examined.of_within {mid : MailShared γ} {id : String} (first : Within id s mid)
    (rest : ∃ events, s'.trace = events ++ mid.trace) (apart : row.subscriptionId ≠ id)
    (seen : Examined s s' row) : Examined mid s' row := by
  obtain ⟨events, left, mem⟩ := seen
  obtain ⟨earlier, before, own⟩ := first.heard
  obtain ⟨later, last⟩ := rest
  have same : events ++ s.trace = (later ++ earlier) ++ s.trace := by
    rw [← left, last, before, List.append_assoc]
  obtain rfl := List.append_cancel_right same
  refine ⟨later, last, (List.mem_append.mp mem).resolve_right fun old => ?_⟩
  exact apart (own _ old)

theorem Within.unexamined {id : String} (within : Within id s s') (apart : row.subscriptionId ≠ id) :
    ¬ Examined s s' row := by
  intro seen
  obtain ⟨events, left, mem⟩ := seen.of_within within ⟨[], rfl⟩ apart
  have none : events = [] := by simpa using left
  simp [none] at mem

/-- A round looks its run up, raises just when the answers make it, and leaves the others alone. -/
theorem reconcileOne_ends {r : Answer ℕ} (known : s.store.run row.subscriptionId = some row)
    (ends : (reconcileOne e row.subscriptionId).Ends (bridge e x) (fun _ ev => o.Tells ev) s r s') :
    ((∃ failure, r = .error failure) ↔ Raises e o row) ∧ Within row.subscriptionId s s' ∧
      Examined s s' row := by
  have free {α : Type} {p : Bridge α} {a b : MailShared γ} {r : Answer α}
      (ends : p.Ends (bridge e x) (fun _ ev => o.Tells ev) a r b) :
      p.Ends (bridge e x) anyEvent a r b := ends.mono fun _ _ _ => trivial
  rcases ends_bind.mp ends with ⟨found, mid, first, rest⟩ | ⟨failure, first, _⟩
  · obtain ⟨same, kept⟩ := getRun_ends known (free first)
    cases same
    have looked := within_ends (own_getRun _) (free first)
    have known : mid.store.run row.subscriptionId = some row := by rw [kept, known]
    have seen : Examined s mid row := by
      obtain ⟨_, got⟩ := ends_commit_bind.mp first
      have answer : ((bridge e x).exec (.getRun row.subscriptionId) s.store).2 = some row := by
        rw [← kept]
        exact known
      rw [answer] at got
      obtain ⟨_, rfl⟩ := got
      refine ⟨[.commit (.getRun row.subscriptionId) (some row)], ?_, by simp⟩
      rw [← answer]
      rfl
    refine and_assoc.mp ⟨?_, seen.mono ⟨[], rfl⟩ (free rest).extends⟩
    rcases ends_bind.mp rest with ⟨settled, later, settling, rest⟩ | ⟨failure, settling, rfl⟩
    · have before := looked.trans (within_ends own_settleRun (free settling))
      cases settleRun_ends known settling with
      | quiet timely quiet =>
        obtain ⟨rfl, rfl⟩ := rest
        refine ⟨iff_of_false ?_ ?_, before⟩
        · rintro ⟨failure, same⟩
          cases same
        · rintro (untimely | ⟨due, _⟩)
          · exact timely untimely
          · exact quiet due
      | @settled next timely identity stored telling =>
        have id : next.subscriptionId = row.subscriptionId :=
          congrArg RunIdentity.subscriptionId identity
        rw [← id] at stored
        obtain ⟨raises, within⟩ := deliverRun_ends stored rest
        rw [telling, Unsendable.congr identity] at raises
        refine ⟨raises.trans ?_, before.trans (id ▸ within)⟩
        exact ⟨.inr, fun raised => raised.resolve_left timely⟩
    · have before := looked.trans (within_ends own_settleRun (free settling))
      cases settleRun_ends known settling with
      | raised untimely => exact ⟨iff_of_true ⟨failure, rfl⟩ (.inl untimely), before⟩
  · cases (getRun_ends known (free first)).1

/-! ### The whole pass -/

theorem reconcileEach_ends {runs : List ExternalRun} {r : Answer ℕ}
    (known : ∀ run ∈ runs, s.store.run run.subscriptionId = some run)
    (apart : (runs.map fun run => run.subscriptionId).Nodup)
    (ends : (reconcileEach e runs).Ends (bridge e x) (fun _ ev => o.Tells ev) s r s') :
    (∀ run ∈ runs, Examined s s' run) ↔ ∀ run ∈ runs.dropLast, ¬ Raises e o run := by
  induction runs generalizing s r with
  | nil => simp
  | cons run rest ih =>
    rw [List.map_cons, List.nodup_cons] at apart
    have others : ∀ other ∈ rest, other.subscriptionId ≠ run.subscriptionId := by
      intro other mem same
      exact apart.1 (List.mem_map.mpr ⟨other, mem, same⟩)
    rcases ends_bind.mp ends with ⟨here, mid, first, later⟩ | ⟨failure, first, _⟩
    · obtain ⟨raises, within, seen⟩ := reconcileOne_ends (known run (by simp)) first
      have calm : ¬ Raises e o run := by
        rw [← raises]
        rintro ⟨failure, same⟩
        cases same
      obtain ⟨result, ended, _⟩ := ends_bind_ret.mp later
      have extended := ended.extends
      have still : ∀ other ∈ rest, mid.store.run other.subscriptionId = some other := by
        intro other mem
        rw [within.others _ (others other mem)]
        exact known other (List.mem_cons_of_mem _ mem)
      have split : (∀ other ∈ rest, Examined s s' other) ↔ ∀ other ∈ rest, Examined mid s' other := by
        obtain ⟨events, started⟩ := within.heard
        refine forall₂_congr fun other mem => ⟨?_, ?_⟩
        · exact fun found => found.of_within within extended (others other mem)
        · exact fun found => found.mono ⟨events, started.1⟩ ⟨[], rfl⟩
      have whole : Examined s s' run := seen.mono ⟨[], rfl⟩ extended
      rw [List.forall_mem_cons, and_iff_right whole, split, ih still apart.2 ended]
      cases rest with
      | nil => simp
      | cons next rest => simp [calm]
    · obtain ⟨raises, within, seen⟩ := reconcileOne_ends (known run (by simp)) first
      have raised : Raises e o run := raises.mp ⟨failure, rfl⟩
      cases rest with
      | nil => simpa using seen
      | cons next rest =>
        refine iff_of_false (fun all => ?_) fun calm => calm run (by simp) raised
        exact within.unexamined (others next (by simp)) (all next (by simp))

/-- A pass examines every pending run just when none of them but the last raises. -/
theorem pass_examines_all_iff {r : Answer ℕ}
    (ends : (reconcile e).Ends (bridge e x) (fun _ ev => o.Tells ev) s r s') :
    (∀ run ∈ s.store.pendingRuns, Examined s s' run) ↔
      ∀ run ∈ s.store.pendingRuns.dropLast, ¬ Raises e o run := by
  have listed : s.store.pendingRuns.Perm (s.store.runs.rows.filter fun row => row.state ≠ .notified) :=
    List.perm_insertionSort _ _
  have known : ∀ run ∈ s.store.pendingRuns, s.store.run run.subscriptionId = some run := by
    intro run mem
    exact Database.Table.get_of_mem (List.mem_of_mem_filter (listed.mem_iff.mp mem))
  have apart : (s.store.pendingRuns.map fun run => run.subscriptionId).Nodup :=
    ((listed.map _).nodup_iff).mpr (s.store.runs.unique.sublist (List.filter_sublist.map _))
  obtain ⟨_, rest⟩ := ends_commit_bind.mp ends
  have same := reconcileEach_ends (s := s.commit (bridge e x) (.read (·.pendingRuns))) known apart rest
  rw [← same]
  have extended := rest.extends
  refine forall₂_congr fun run mem => ⟨fun found => ?_, fun found => ?_⟩
  · obtain ⟨other, other_ne⟩ := exists_ne run.subscriptionId
    have read : Within other s (s.commit (bridge e x) (.read (·.pendingRuns))) :=
      ⟨fun _ _ => rfl, .commit trivial⟩
    exact found.of_within read extended other_ne.symm
  · exact found.mono ⟨[_], rfl⟩ ⟨[], rfl⟩

/-! ### Two runs -/

def twoSubscribed : MailStore :=
  ((MailStore.empty.subscribe (subscribedRow scriptRuntime "1" "token" "/output"
    (receiptPathOf "/output") "run" "parent" none 3)).1.subscribe (subscribedRow scriptRuntime "2"
      "token" "/second" (receiptPathOf "/second") "later" "parent" none 4)).1

def twoSubscribedStart : MailShared ℕ := ⟨twoSubscribed, 0, []⟩

def calmReplies : Replies where
  file path := .error (.os true path)
  process _ _ := none
  session id := knownSession id
  workspace id := .ok (.obj [("id", .str id), ("archived", .bool false)])
  send _ := .ok .null

abbrev calmBridge : System MailError MailTx MailQuery Empty MailStore ℕ :=
  bridge scriptRuntime MailScript.calm.outside

def calmPass : Answer ℕ × MailShared ℕ :=
  (reconcile scriptRuntime).alone calmBridge MailScript.calm.oracle twoSubscribedStart

theorem calmPass_ends : (reconcile scriptRuntime).Ends calmBridge
    (fun _ ev => calmReplies.Tells ev) twoSubscribedStart calmPass.1 calmPass.2 := by
  have ends : (reconcile scriptRuntime).Ends calmBridge anyEvent twoSubscribedStart calmPass.1
      calmPass.2 := Prog.ends_alone (fun _ _ => rfl) _ _
  refine (ends.heard (P := calmReplies.Tells) (fun _ _ => trivial) ?_).mono fun _ _ told => told.2
  intro β calls q answer next answered
  obtain ⟨rfl, rfl⟩ := Prod.mk.inj (show (answer, next) = MailScript.calm.oracle calls q from answered)
  cases q with
  | observe site pid =>
    cases site with
    | bind => exact trivial
    | live id => exact rfl
  | send site sessionId message sender key intent =>
    cases site with
    | session | notice => exact trivial
    | run id => exact rfl
  | readReceipt path => exact rfl
  | session id => exact rfl
  | workspace id => exact rfl
  | _ => exact trivial

theorem two_runs_examined : twoSubscribed.pendingRuns.length = 2 ∧
    ∀ run ∈ twoSubscribed.pendingRuns, Examined twoSubscribedStart calmPass.2 run := by
  have opened : ∀ run ∈ twoSubscribed.pendingRuns, run.state = .subscribed := by decide +kernel
  refine ⟨by decide +kernel, (pass_examines_all_iff calmPass_ends).mpr fun run mem raised => ?_⟩
  have unread : calmReplies.receipt scriptRuntime run = .ok none := rfl
  rcases raised with untimely | ⟨due, _⟩
  · exact not_unsettled_of_none unread untimely
  · simp [Replies.due, unread, Replies.gone, opened run (List.mem_of_mem_dropLast mem)] at due

def looksUp (id : String) : MailEvent → Bool
  | .commit (.getRun other) _ => other = id
  | _ => false

theorem Examined.looked (seen : Examined s s' row) :
    ∃ ev ∈ s'.trace.take (s'.trace.length - s.trace.length), looksUp row.subscriptionId ev := by
  obtain ⟨events, left, mem⟩ := seen
  have fresh : s'.trace.take (s'.trace.length - s.trace.length) = events := by simp [left]
  exact ⟨_, fresh ▸ mem, by simp [looksUp]⟩

def starvedRuns : List (Bridge Unit) :=
  boundRun ++ [discard (subscribe scriptRuntime "later" "/second" "parent" none)]

theorem starvedRuns_known : ∀ op ∈ starvedRuns, BridgeOp scriptRuntime op := by
  intro op mem
  rcases List.mem_append.mp mem with mem | mem
  · exact boundRun_known op mem
  · obtain rfl := List.mem_singleton.mp mem
    exact .subscribe ..

def starvedWorld : BridgeWorld (Host ℕ) :=
  MailScript.calm.run starvedRuns (overtakenPass ++ steps 3 20)

def starvedPass : Answer ℕ × MailShared (Host ℕ) :=
  (reconcile scriptRuntime).alone MailScript.calm.bridged (Host.oracle MailScript.calm.oracle)
    starvedWorld.shared

set_option maxRecDepth 100000 in
theorem late_receipt_starves : ¬ ∀ (w : BridgeWorld (Host ℕ)) (r : Answer ℕ)
    (s' : MailShared (Host ℕ)), Reachable MailScript.calm.bridged anyEvent w →
      (reconcile scriptRuntime).Ends MailScript.calm.bridged anyEvent w.shared r s' →
        ∀ run ∈ w.shared.store.pendingRuns, Examined w.shared s' run := by
  intro all
  have reached : Reachable MailScript.calm.bridged anyEvent starvedWorld :=
    MailScript.calm.run_reachable starvedRuns_known _
  have ended := Prog.ends_alone (S := MailScript.calm.bridged) MailScript.calm.sound
    (reconcile scriptRuntime) starvedWorld.shared
  have starved : (starvedWorld.shared.store.pendingRuns.any fun run =>
      (starvedPass.2.trace.take (starvedPass.2.trace.length - starvedWorld.shared.trace.length)).all
        fun ev => !looksUp run.subscriptionId ev) = true := by decide +kernel
  obtain ⟨run, mem, unlooked⟩ := List.any_eq_true.mp starved
  obtain ⟨ev, listed, looked⟩ := (all starvedWorld _ _ reached ended run mem).looked
  have missed := List.all_eq_true.mp unlooked ev listed
  simp [looked] at missed

end SightMesh.Escalation
