import SightMesh.Concurrency.Monitor
import SightMesh.Properties.Decisions

/-! One batch of responses: checked as a whole before anything of it is sent, then sent in order,
each once. -/
namespace SightMesh.Approvals

open Concurrency Database Python

variable {py : Library} {caller : Caller} {decoded : Except String Json} {α : Type}
  {others : Audit → Audit → Prop} {db db' : Audit} {events : List (Event AuditTx DeskQuery)}

def responseTo : Event AuditTx DeskQuery → Option String
  | .call (.respondToApproval approvalId _ _ _) _ => some approvalId
  | .call (.respondToQuestion approvalId _ _) _ => some approvalId
  | _ => none

def acceptedTo : Event AuditTx DeskQuery → Option String
  | .call (.respondToApproval approvalId _ _ _) (.ok _) => some approvalId
  | .call (.respondToQuestion approvalId _ _) (.ok _) => some approvalId
  | _ => none

/-- Orders are called met with the last event of a batch only. -/
def meetsOrders : Event AuditTx DeskQuery → Bool
  | .call (.satisfyOrders _) _ => true
  | _ => false

def Preparing (e : Event AuditTx DeskQuery) : Prop := responseTo e = none ∧ meetsOrders e = false

/-! ### The checks -/

theorem emits_ask {q : DeskQuery α} (quiet : ∀ b, Preparing (.call q b)) :
    (ask q).Emits Preparing := fun b => ⟨quiet b, trivial⟩

theorem emits_query {q : DeskQuery (Except Fault α)} (quiet : ∀ b, Preparing (.call q b)) :
    (query q).Emits Preparing := Prog.Emits.query quiet

theorem emits_raising {result : Except Fault α} : (raising result).Emits Preparing := by
  cases result <;> trivial

theorem snapshotWithRetry_emits {process : String} {attempts : ℕ} {best : Snapshot} :
    (snapshotWithRetry process attempts best).Emits Preparing := by
  induction attempts generalizing best with
  | zero => trivial
  | succ attempts ih =>
    refine Prog.Emits.bind (emits_query fun _ => ⟨rfl, rfl⟩) fun candidate => ?_
    split
    · trivial
    · exact ih

theorem approvalDetails_emits {approval : Pending} :
    (approvalDetails py approval).Emits Preparing := by
  refine Prog.Emits.bind (emits_query fun _ => ⟨rfl, rfl⟩) fun sessionId => ?_
  refine Prog.Emits.bind (emits_query fun _ => ⟨rfl, rfl⟩) fun workspaceId => ?_
  refine Prog.Emits.bind (emits_query fun _ => ⟨rfl, rfl⟩) fun _ => ?_
  refine Prog.Emits.bind (Prog.Emits.handle ?_ fun fault => ?_) fun _ => trivial
  · exact Prog.Emits.bind snapshotWithRetry_emits fun _ => trivial
  · cases fault <;> trivial

theorem approvalDetailsBatch_emits {approvals : List Pending} :
    (approvalDetailsBatch py approvals).Emits Preparing := by
  induction approvals with
  | nil => trivial
  | cons approval rest ih =>
    exact Prog.Emits.bind approvalDetails_emits fun _ => Prog.Emits.bind ih fun _ => trivial

theorem approvalReviewer_emits {target : String} :
    (approvalReviewer caller target).Emits Preparing := by
  unfold approvalReviewer
  cases caller.session with
  | none => exact Prog.Emits.bind (emits_ask fun _ => ⟨rfl, rfl⟩) fun _ => trivial
  | some reviewer =>
    show Prog.Emits Preparing (if reviewer = target then _ else _)
    split
    · trivial
    · refine Prog.Emits.bind (emits_query fun _ => ⟨rfl, rfl⟩) fun workspace => ?_
      refine Prog.Emits.bind (emits_query fun _ => ⟨rfl, rfl⟩) fun sessions => ?_
      split <;> trivial

theorem prepareItems_emits {pending : List Details} {seen : List String} {items : List Dict} :
    (prepareItems py pending caller seen items).Emits Preparing := by
  induction items generalizing seen with
  | nil => trivial
  | cons item items ih =>
    unfold prepareItems
    show Prog.Emits Preparing (if itemId py item = "" ∨ itemId py item ∈ seen then _ else _)
    split
    · trivial
    cases pending.reverse.find? fun approval => approval.approvalId = itemId py item with
    | none => trivial
    | some approval =>
      refine Prog.Emits.bind approvalReviewer_emits fun reviewer => ?_
      exact Prog.Emits.bind emits_raising fun reply => Prog.Emits.bind ih fun _ => trivial

def Checked (py : Library) (item : Dict) (p : Prepared) : Prop :=
  p.approval.approvalId = itemId py item ∧ itemReply py p.approval item = .ok p.reply

theorem Checked.ids {items : List Dict} {prepared : List Prepared}
    (checked : List.Forall₂ (Checked py) items prepared) :
    (prepared.map fun p => p.approval.approvalId) = items.map (itemId py) := by
  induction checked with
  | nil => rfl
  | cons one _ ih => rw [List.map_cons, List.map_cons, one.1, ih]

theorem prepareItems_checked {pending : List Details} {seen : List String} {items : List Dict}
    {prepared : List Prepared}
    (run : (prepareItems py pending caller seen items).Attempt AuditTx.exec others db events
      (some (.ok prepared)) db') (refl : ∀ db, others db db) :
    List.Forall₂ (Checked py) items prepared ∧ (items.map (itemId py)).Nodup ∧
      ∀ id ∈ items.map (itemId py), id ∉ seen := by
  induction items generalizing seen db db' events prepared with
  | nil =>
    obtain ⟨_, _, ended | ended⟩ := run
    · obtain rfl := Except.ok.inj (Option.some.inj ended)
      exact ⟨.nil, List.nodup_nil, by simp⟩
    · exact nomatch ended
  | cons item items ih =>
    unfold prepareItems at run
    by_cases again : itemId py item = "" ∨ itemId py item ∈ seen
    · simp only [again, if_true] at run
      obtain ⟨_, _, ended | ended⟩ := run <;> simp at ended
    simp only [again, if_false] at run
    cases found : pending.reverse.find? fun approval => approval.approvalId = itemId py item with
    | none =>
      simp only [found] at run
      obtain ⟨_, _, ended | ended⟩ := run <;> simp at ended
    | some approval =>
      simp only [found] at run
      obtain ⟨stop, _, ended⟩ | ⟨reviewer, mid, _, _, _, _, run⟩ := Prog.Attempt.bind refl run
      · cases stop <;> simp at ended
      cases read : itemReply py approval item with
      | error fault =>
        rw [read] at run
        obtain ⟨_, _, ended | ended⟩ := run <;> simp at ended
      | ok reply =>
        rw [read] at run
        have run : ((prepareItems py pending caller (itemId py item :: seen) items).bind fun rest =>
          .ret (⟨approval, reply, reviewer⟩ :: rest)).Attempt _ _ _ _ _ _ := run
        obtain ⟨stop, _, ended⟩ | ⟨rest, mid', _, _, _, more, run⟩ := Prog.Attempt.bind refl run
        · cases stop <;> simp at ended
        obtain ⟨_, _, ended | ended⟩ := run
        · obtain rfl := Except.ok.inj (Option.some.inj ended)
          obtain ⟨checked, distinct, unseen⟩ := ih more
          have named : approval.approvalId = itemId py item := by
            simpa using List.find?_some found
          refine ⟨.cons ⟨named, read⟩ checked, ?_, ?_⟩
          · rw [List.map_cons, List.nodup_cons]
            exact ⟨fun mem => unseen _ mem List.mem_cons_self, distinct⟩
          · rw [List.map_cons, List.forall_mem_cons]
            refine ⟨fun mem => again (.inr mem), fun id mem known => ?_⟩
            exact unseen id mem (List.mem_cons_of_mem _ known)
        · simp at ended

/-! ### The responses -/

/-- One response to one request at most; the state is whether it was sent, and taken. -/
def once (approvalId : String) : Monitor AuditTx DeskQuery (Bool × Bool) where
  next s e := if (responseTo e).isSome then (true, (acceptedTo e).isSome) else s
  allows s e := meetsOrders e = false ∧ ∀ id, responseTo e = some id → id = approvalId ∧ s.1 = false

variable {approvalId : String} {s : Bool × Bool}

theorem responseTo_of_acceptedTo {e : Event AuditTx DeskQuery}
    (taken : acceptedTo e = some approvalId) : responseTo e = some approvalId := by
  unfold acceptedTo at taken
  split at taken
  · exact taken
  · exact taken
  · exact nomatch taken

theorem acceptedTo_of_silent {e : Event AuditTx DeskQuery} (silent : responseTo e = none) :
    acceptedTo e = none := by
  by_contra taken
  obtain ⟨id, taken⟩ := Option.ne_none_iff_exists'.mp taken
  exact nomatch silent.symm.trans (responseTo_of_acceptedTo taken)

theorem filterMap_acceptedTo (silent : ∀ e ∈ events, responseTo e = none) :
    events.filterMap acceptedTo = [] :=
  List.filterMap_eq_nil_iff.mpr fun e mem => acceptedTo_of_silent (silent e mem)

theorem once_quiet {e : Event AuditTx DeskQuery} (quiet : Preparing e) :
    (once approvalId).allows s e ∧ (once approvalId).next s e = s := by
  refine ⟨⟨quiet.2, fun id sent => ?_⟩, ?_⟩
  · simp [quiet.1] at sent
  · simp [once, quiet.1]

theorem once_after (silent : ∀ e ∈ events, responseTo e = none) :
    (once approvalId).after s events = s := by
  induction events with
  | nil => rfl
  | cons e rest ih =>
    rw [List.forall_mem_cons] at silent
    have same : (once approvalId).next s e = s := by simp [once, silent.1]
    show (once approvalId).after ((once approvalId).next s e) rest = s
    rw [same]
    exact ih silent.2

theorem once_accepts (accepts : (once approvalId).Accepts s events) :
    (events.filterMap responseTo).Sublist (if s.1 then [] else [approvalId]) ∧
      (∀ e ∈ events, meetsOrders e = false) ∧
      (s.2 = false → ((once approvalId).after s events).2 = true →
        events.filterMap acceptedTo = [approvalId]) := by
  induction events generalizing s with
  | nil => exact ⟨List.nil_sublist _, by simp, fun off on => absurd (off.symm.trans on) (by simp)⟩
  | cons e rest ih =>
    obtain ⟨⟨orders, mine⟩, accepts⟩ := accepts
    obtain ⟨sent, quiet, taken⟩ := ih accepts
    rw [List.forall_mem_cons]
    cases response : responseTo e with
    | none =>
      have untaken := acceptedTo_of_silent response
      have same : (once approvalId).next s e = s := by simp [once, response]
      rw [same] at sent taken
      refine ⟨by simpa [List.filterMap_cons, response] using sent, ⟨orders, quiet⟩, ?_⟩
      intro off on
      rw [List.filterMap_cons, untaken]
      exact taken off (by simpa [Monitor.after, same] using on)
    | some id =>
      obtain ⟨rfl, unsent⟩ := mine id response
      have next : (once id).next s e = (true, (acceptedTo e).isSome) := by simp [once, response]
      rw [next] at sent
      have silent : ∀ e ∈ rest, responseTo e = none := by simpa using sent
      have rest_ : rest.filterMap responseTo = [] := List.filterMap_eq_nil_iff.mpr silent
      refine ⟨by simp [response, rest_, unsent], ⟨orders, quiet⟩, fun _ on => ?_⟩
      have after : ((once id).after s (e :: rest)) = (true, (acceptedTo e).isSome) := by
        show (once id).after ((once id).next s e) rest = _
        rw [next, once_after silent]
      rw [after] at on
      obtain ⟨id', taken⟩ := Option.isSome_iff_exists.mp on
      obtain rfl : id = id' :=
        Option.some.inj (response.symm.trans (responseTo_of_acceptedTo taken))
      rw [List.filterMap_cons, taken, filterMap_acceptedTo silent]

@[simp] theorem watched_ask {q : DeskQuery α} {done : Except Fault α → Bool × Bool → Prop} :
    (ask q).Watched (once approvalId) done s ↔ ∀ b, (once approvalId).allows s (.call q b) ∧
      done (.ok b) ((once approvalId).next s (.call q b)) := Iff.rfl

@[simp] theorem watched_query {q : DeskQuery (Except Fault α)}
    {done : Except Fault α → Bool × Bool → Prop} :
    (query q).Watched (once approvalId) done s ↔ ∀ r, (once approvalId).allows s (.call q r) ∧
      done r ((once approvalId).next s (.call q r)) :=
  Prog.watched_query

theorem watched_of_emits {p : Desk α} {done : Except Fault α → Bool × Bool → Prop}
    (quiet : p.Emits Preparing) (ended : ∀ r, done r s) : p.Watched (once approvalId) done s :=
  .of_emits quiet (fun _ => once_quiet) ended

theorem statement_emits {failing : String} : (statement failing).Emits Preparing := by
  refine Prog.Emits.bind (emits_ask fun _ => ⟨rfl, rfl⟩) fun answer => ?_
  cases answer <;> trivial

theorem beginDecision_emits {approval : Details} {decision : Ruling} {reviewer : Reviewer}
    {reason : Option String} :
    (beginDecision py approval decision reviewer reason).Emits Preparing := by
  refine Prog.Emits.bind (emits_ask fun _ => ⟨rfl, rfl⟩) fun now => ?_
  refine Prog.Emits.bind (emits_ask fun _ => ⟨rfl, rfl⟩) fun decisionId => ?_
  refine Prog.Emits.bind statement_emits fun _ => ?_
  exact Prog.Emits.bind (Prog.Emits.run fun _ => ⟨rfl, rfl⟩) fun _ => trivial

theorem finish_emits {decisionId : String} {succeeded : Bool} {error : Option String} :
    (finish decisionId succeeded error).Emits Preparing := by
  refine Prog.Emits.bind (emits_ask fun _ => ⟨rfl, rfl⟩) fun completedAt => ?_
  refine Prog.Emits.bind statement_emits fun _ => ?_
  refine fun changed => ⟨⟨rfl, rfl⟩, ?_⟩
  show Prog.Emits Preparing (if changed ≠ 1 then _ else _)
  split
  · trivial
  · refine Prog.Emits.bind statement_emits fun _ found => ⟨⟨rfl, rfl⟩, ?_⟩
    cases found <;> trivial

def Taken (r : Except Fault Bool) (s : Bool × Bool) : Prop := r = .ok true → s.2 = true

@[simp] theorem taken_error {fault : Fault} : Taken (.error fault) s := by
  simp [Taken]

@[simp] theorem taken_false : Taken (.ok false) s := by
  simp [Taken]

theorem giveUp_watched {decisionId message : String} :
    Prog.Watched (once approvalId) (do
      let _ ← finish decisionId false (some message)
      return false) Taken s := by
  rw [Prog.bind_eq, Prog.watched_bind]
  refine watched_of_emits finish_emits fun r => ?_
  cases r with
  | ok row => exact taken_false
  | error fault => exact taken_error

theorem sendDecision_watched {approval : Details} {approved : Bool} {reason : Option String}
    {attempt : ApprovalDecision} :
    (sendDecision approval approved reason attempt).Watched (once approval.approvalId) Taken
      (false, false) := by
  unfold sendDecision catching
  simp only [Prog.watched_handle, Prog.bind_eq, Prog.watched_bind, watched_query]
  intro r
  refine ⟨⟨rfl, by rintro _ ⟨⟩; exact ⟨rfl, rfl⟩⟩, ?_⟩
  cases r with
  | error fault =>
    cases fault with
    | cdesktop message => exact giveUp_watched
    | audit message => exact giveUp_watched
    | value message => exact taken_error
    | other message => exact taken_error
  | ok _ =>
    rw [Prog.andThen_ok, Prog.watched_bind]
    refine watched_of_emits finish_emits fun r => ?_
    cases r with
    | ok row => exact fun _ => rfl
    | error fault =>
      cases fault with
      | cdesktop message => exact giveUp_watched
      | audit message => exact giveUp_watched
      | value message => exact taken_error
      | other message => exact taken_error

theorem respondTo_watched {p : Prepared} :
    (respondTo py p).Watched (once p.approval.approvalId) Taken (false, false) := by
  unfold respondTo
  cases p.reply with
  | answers answers =>
    unfold catching
    simp only [Prog.watched_handle, Prog.bind_eq, Prog.watched_bind, watched_query]
    intro r
    refine ⟨⟨rfl, by rintro _ ⟨⟩; exact ⟨rfl, rfl⟩⟩, ?_⟩
    cases r with
    | ok _ => exact fun _ => rfl
    | error fault =>
      cases fault with
      | cdesktop message => exact taken_false
      | audit message => exact taken_false
      | value message => exact taken_error
      | other message => exact taken_error
  | decision approved reason =>
    dsimp only
    rw [Prog.bind_eq, Prog.watched_bind]
    refine watched_of_emits (Prog.Emits.handle ?_ fun fault => ?_) fun r => ?_
    · exact Prog.Emits.bind beginDecision_emits fun _ => trivial
    · cases fault <;> trivial
    · cases r with
      | error fault => exact taken_error
      | ok attempt =>
        cases attempt with
        | none => exact taken_false
        | some attempt => exact sendDecision_watched

/-- What the loop sends: at most one response to each item, in order, and to each one that is taken
where no item fails. -/
theorem respondToAll_attempt {prepared : List Prepared} {r : Option (Except Fault ℕ)}
    (run : (respondToAll py prepared).Attempt AuditTx.exec others db events r db')
    (refl : ∀ db, others db db) :
    (events.filterMap responseTo).Sublist (prepared.map fun p => p.approval.approvalId) ∧
      (∀ e ∈ events, meetsOrders e = false) ∧
      (r = some (.ok 0) →
        events.filterMap acceptedTo = prepared.map fun p => p.approval.approvalId) := by
  induction prepared generalizing db db' events r with
  | nil =>
    obtain ⟨_, rfl, _⟩ := run
    simp
  | cons p rest ih =>
    have whole : ((respondTo py p).bind fun responded => (respondToAll py rest).bind fun failures =>
      .ret (if responded then failures else failures + 1)).Attempt _ _ _ _ _ _ := run
    obtain ⟨stop, stopped, rfl⟩ | ⟨responded, mid, first, later, rfl, one, run⟩ :=
      Prog.Attempt.bind refl whole
    · obtain ⟨sent, quiet, _⟩ := once_accepts (respondTo_watched.attempt stopped).1
      refine ⟨?_, quiet, fun ended => ?_⟩
      · exact sent.trans (List.singleton_sublist.mpr List.mem_cons_self)
      · cases stop <;> simp at ended
    · obtain ⟨accepts, ended⟩ := respondTo_watched.attempt one
      obtain ⟨sent, quiet, taken⟩ := once_accepts accepts
      obtain ⟨stop, stopped, rfl⟩ | ⟨failures, mid', second, last, rfl, more, moved, rfl, over_⟩ :=
        Prog.Attempt.bind refl run
      · obtain ⟨sent', quiet', _⟩ := ih stopped
        refine ⟨?_, List.forall_mem_append.mpr ⟨quiet, quiet'⟩, fun ended => ?_⟩
        · rw [List.filterMap_append]
          exact sent.append sent'
        · cases stop <;> simp at ended
      · obtain ⟨sent', quiet', taken'⟩ := ih more
        rw [List.append_nil]
        refine ⟨?_, List.forall_mem_append.mpr ⟨quiet, quiet'⟩, ?_⟩
        · rw [List.filterMap_append]
          exact sent.append sent'
        · rintro rfl
          have none_failed : responded = true ∧ failures = 0 := by
            cases responded <;> simp_all
          obtain ⟨rfl, rfl⟩ := none_failed
          rw [List.filterMap_append, taken rfl (ended _ rfl rfl), taken' rfl]
          rfl

theorem raising_attempt {result : Except Fault α} {a : α}
    (run : (raising result).Attempt AuditTx.exec others db events (some (.ok a)) db') :
    events = [] ∧ result = .ok a := by
  cases result with
  | ok b =>
    obtain ⟨_, rfl, ended | ended⟩ := run
    · exact ⟨rfl, (Option.some.inj ended).symm⟩
    · exact nomatch ended
  | error fault =>
    obtain ⟨_, _, ended | ended⟩ := run
    · exact nomatch Option.some.inj ended
    · exact nomatch ended

theorem reportBatch_attempt {failures : ℕ} {r : Option (Except Fault ℕ)}
    (run : (reportBatch caller failures).Attempt AuditTx.exec others db events r db') :
    (∀ e ∈ events, responseTo e = none) ∧
      (r = some (.ok 0) ∨ (∃ e ∈ events, meetsOrders e = true) → failures = 0) := by
  unfold reportBatch at run
  cases session : caller.session with
  | none =>
    rw [session] at run
    obtain ⟨_, rfl, ended⟩ := run
    refine ⟨by simp, fun done => ?_⟩
    obtain rfl : r = some (.ok 0) := by simpa using done
    simpa [eq_comm] using ended
  | some reporter =>
    rw [session] at run
    have run : (if failures = 0 then (query (.satisfyOrders reporter)).bind fun _ => .ret failures
      else .ret failures : Desk ℕ).Attempt AuditTx.exec others db events r db' := run
    split at run
    · rename_i none_failed
      have silent : ((query (.satisfyOrders reporter)).bind fun _ => .ret failures : Desk ℕ).Emits
          fun e => responseTo e = none :=
        Prog.Emits.bind (Prog.Emits.query fun _ => rfl) fun _ => trivial
      exact ⟨run.emits silent, fun _ => none_failed⟩
    · obtain ⟨_, rfl, ended⟩ := run
      refine ⟨by simp, fun done => ?_⟩
      obtain rfl : r = some (.ok 0) := by simpa using done
      simpa [eq_comm] using ended

/-- A batch of which something was sent: every item had passed before, an item was sent at most once
and in its place, and where the command ended without a failure, or called the orders of its caller
met, the executor has taken every one. -/
structure Batch (py : Library) (decoded : Except String Json) (caller : Caller)
    (others : Audit → Audit → Prop) (events : List (Event AuditTx DeskQuery))
    (r : Option (Except Fault ℕ)) (items : List Dict) (prepared : List Prepared)
    (first second : List (Event AuditTx DeskQuery)) : Prop where
  parsed : responseItems decoded = .ok items
  checks : ∃ start mid, (prepareBatchResponses py items caller).Attempt AuditTx.exec others start
    first (some (.ok prepared)) mid
  passed : List.Forall₂ (Checked py) items prepared
  distinct : (items.map (itemId py)).Nodup
  events : events = first ++ second
  silent : ∀ e ∈ first, Preparing e
  sent : (second.filterMap responseTo).Sublist (items.map (itemId py))
  taken : r = some (.ok 0) ∨ (∃ e ∈ second, meetsOrders e = true) →
    second.filterMap acceptedTo = items.map (itemId py)

/-- However `respond` is answered, and wherever it is cut off: nothing is sent before the whole
batch has passed. -/
theorem batch_checked_first {r : Option (Except Fault ℕ)}
    (whole : (respond py decoded caller).Attempt AuditTx.exec others db events r db')
    (refl : ∀ db, others db db) :
    (∀ e ∈ events, Preparing e) ∨ ∃ items prepared first second,
      Batch py decoded caller others events r items prepared first second := by
  obtain ⟨stop, stopped, rfl⟩ | ⟨items, mid₁, _, events, rfl, reads, run⟩ :=
    Prog.Attempt.bind refl whole
  · exact .inl (stopped.emits emits_raising)
  obtain ⟨rfl, read⟩ := raising_attempt reads
  clear whole
  rw [List.nil_append]
  have preparing : (prepareBatchResponses py items caller).Emits Preparing :=
    Prog.Emits.bind (emits_query fun _ => ⟨rfl, rfl⟩) fun _ =>
      Prog.Emits.bind approvalDetailsBatch_emits fun _ => prepareItems_emits
  obtain ⟨stop, stopped, rfl⟩ | ⟨prepared, mid₂, first, second, rfl, checks, sends⟩ :=
    Prog.Attempt.bind refl run
  · exact .inl (stopped.emits preparing)
  have silent := checks.emits preparing
  obtain ⟨stop, stopped, rfl⟩ | ⟨_, mid₃, opened, third, rfl, opens, loop⟩ :=
    Prog.Attempt.bind refl sends
  · exact .inl (List.forall_mem_append.mpr ⟨silent, stopped.emits statement_emits⟩)
  have quiet := opens.emits statement_emits
  have responseless : opened.filterMap responseTo = [] :=
    List.filterMap_eq_nil_iff.mpr fun e mem => (quiet e mem).1
  obtain ⟨passed, distinct, _⟩ : List.Forall₂ (Checked py) items prepared ∧
      (items.map (itemId py)).Nodup ∧ ∀ id ∈ items.map (itemId py), id ∉ [] := by
    obtain ⟨stop, _, ended⟩ | ⟨_, _, _, _, _, _, run⟩ := Prog.Attempt.bind refl checks
    · cases stop <;> simp at ended
    obtain ⟨stop, _, ended⟩ | ⟨_, _, _, _, _, _, run⟩ := Prog.Attempt.bind refl run
    · cases stop <;> simp at ended
    exact prepareItems_checked run refl
  have named := Checked.ids passed
  right
  suffices taken : ((opened ++ third).filterMap responseTo).Sublist (items.map (itemId py)) ∧
      (r = some (.ok 0) ∨ (∃ e ∈ opened ++ third, meetsOrders e = true) →
        (opened ++ third).filterMap acceptedTo = items.map (itemId py)) from
    ⟨items, prepared, first, opened ++ third, read, ⟨mid₁, mid₂, checks⟩, passed, distinct, rfl,
      silent, taken.1, taken.2⟩
  rw [List.filterMap_append, responseless, List.nil_append, ← named]
  have untaken : opened.filterMap acceptedTo = [] :=
    filterMap_acceptedTo fun e mem => (quiet e mem).1
  rw [List.filterMap_append, untaken, List.nil_append]
  obtain ⟨stop, stopped, rfl⟩ | ⟨failures, mid₄, sent, last, rfl, sends, closes⟩ :=
    Prog.Attempt.bind refl loop
  · obtain ⟨sent, met, taken⟩ := respondToAll_attempt stopped refl
    refine ⟨sent, ?_⟩
    rintro (ended | ⟨e, mem, meets⟩)
    · cases stop <;> simp at ended
    · obtain before | here := List.mem_append.mp mem
      · exact absurd ((quiet e before).2.symm.trans meets) Bool.false_ne_true
      · exact absurd ((met e here).symm.trans meets) Bool.false_ne_true
  · obtain ⟨listed, met, taken⟩ := respondToAll_attempt sends refl
    obtain ⟨silent', closed⟩ := reportBatch_attempt closes
    have unsent : last.filterMap responseTo = [] := List.filterMap_eq_nil_iff.mpr silent'
    rw [List.filterMap_append, unsent, List.append_nil, List.filterMap_append,
      filterMap_acceptedTo silent', List.append_nil]
    refine ⟨listed, fun done => ?_⟩
    have none_failed : failures = 0 := by
      refine closed (done.imp_right ?_)
      rintro ⟨e, mem, meets⟩
      refine ⟨e, ?_, meets⟩
      obtain before | here := List.mem_append.mp mem
      · exact absurd ((quiet e before).2.symm.trans meets) Bool.false_ne_true
      · obtain before | here := List.mem_append.mp here
        · exact absurd ((met e before).symm.trans meets) Bool.false_ne_true
        · exact here
    exact taken (by rw [none_failed])

def twoRequests : {β : Type} → DeskQuery β → β
  | _, .disk => none
  | _, .time => 1
  | _, .uuid4 => "decision"
  | _, .getuser => "operator"
  | _, .readText => .ok ""
  | _, .pendingApprovals => .ok
    [⟨"plan", "process", "ExitPlanMode", false⟩, ⟨"question", "process", "AskUserQuestion", true⟩]
  | _, .executionProcess _ => .ok "worker"
  | _, .session _ => .ok "workspace"
  | _, .workspace _ => .ok ()
  | _, .sessions _ => .ok [⟨"lead", "2026-01-01"⟩]
  | _, .normalizedSnapshot _ => .ok ⟨true, 1, .arr [.obj [("content", .obj [("entry_type", .obj
    [("type", .str "tool_use"),
     ("status", .obj [("status", .str "pending_approval"), ("approval_id", .str "question")]),
     ("action_type", .obj [("questions", .arr [.obj [("question", .str "Which?")]])])])])]]⟩
  | _, .respondToApproval _ _ _ _ => .ok ()
  | _, .respondToQuestion _ _ _ => .ok ()
  | _, .satisfyOrders _ => .ok ()

def twoResponses : Except String Json := .ok (.arr
  [.obj [("approval_id", .str "question"), ("answers", .arr [.str "This one."])],
   .obj [("approval_id", .str "plan"), ("decision", .str "approve")]])

def bothAnswered : List (Event AuditTx DeskQuery) × Except Fault ℕ × Audit :=
  (respond asciiLibrary twoResponses ⟨some "lead", none⟩).follow AuditTx.exec twoRequests .empty

theorem bothAnswered_attempt :
    (respond asciiLibrary twoResponses ⟨some "lead", none⟩).Attempt AuditTx.exec Eq .empty
      bothAnswered.1 (some bothAnswered.2.1) bothAnswered.2.2 := by
  unfold bothAnswered
  exact Prog.follow_attempt (fun _ => rfl) _

theorem both_answered_in_order :
    bothAnswered.1.filterMap acceptedTo = ["question", "plan"] ∧
      ((∀ e ∈ bothAnswered.1, Preparing e) ∨ ∃ items prepared first second,
        Batch asciiLibrary twoResponses ⟨some "lead", none⟩ Eq bothAnswered.1
          (some bothAnswered.2.1) items prepared first second) :=
  ⟨by decide +kernel, batch_checked_first bothAnswered_attempt fun _ => rfl⟩

end SightMesh.Approvals
