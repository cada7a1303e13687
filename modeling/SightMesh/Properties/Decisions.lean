import SightMesh.Approvals.Commands
import SightMesh.Concurrency.Rules
import SightMesh.Python.Ascii
import SightMesh.Python.Raising

/-! What the audit of approvals says, against what the executor was told and what it answered, in
every run of any number of commands. -/
namespace SightMesh.Approvals

open Concurrency Concurrency.Protocol Database Python

abbrev Trace := List (Event AuditTx DeskQuery)

variable {py : Library} {trace trace' : Trace}

/-! ### What an answer rests on -/

/-- A person at the keyboard, or the lead session of a workspace that is not the one that asks. -/
def Eligible (trace : Trace) (target : String) : Reviewer → Prop
  | .human id => ∃ user, .call .getuser user ∈ trace ∧ id = user ++ "@local"
  | .session id => id ≠ target ∧ ∃ workspace sessions,
      .call (.session id) (.ok workspace) ∈ trace ∧
      .call (.sessions workspace) (.ok sessions) ∈ trace ∧ lead sessions = some id

/-- The executor has listed the request as one that waits, said whose it is, and shown what it asks
for. -/
structure Listed (py : Library) (trace : Trace) (approval : Details) : Prop where
  pending : ∃ items, .call .pendingApprovals (.ok items) ∈ trace ∧ approval.toPending ∈ items
  session : .call (.executionProcess approval.executionProcessId) (.ok approval.sessionId) ∈ trace
  request : approval.action = none ∨ ∃ snapshot,
    .call (.normalizedSnapshot approval.executionProcessId) (.ok snapshot) ∈ trace ∧
    approval.action = pendingAction py approval.approvalId snapshot.entries

structure Answer.Fits (py : Library) (question : Dict) (answer : Answer) : Prop where
  named : answer.question = expectedText py question
  nonempty : answer.answer ≠ []
  nonblank : ∀ text ∈ answer.answer, text ≠ "" ∧ ∃ raw, text = py.strip raw
  single : (question.get "multiSelect").truthy = false → answer.answer.length = 1

def Complete (py : Library) (approval : Details) (answers : List Answer) : Prop :=
  ∃ questions, questionItems approval = .ok questions ∧
    List.Forall₂ (Answer.Fits py) questions answers

/-- What is not blank, as it was given or without the blanks around it. -/
def Said (py : Library) (reason : Option String) : Prop :=
  ∃ raw, py.strip raw ≠ "" ∧ (reason = some raw ∨ reason = some (py.strip raw))

/-! ### What a row says -/

structure ApprovalDecision.Concerns (row : ApprovalDecision) (approval : Details) : Prop where
  approvalId : row.approvalId = approval.approvalId
  executionProcessId : row.executionProcessId = approval.executionProcessId
  toolName : row.toolName = approval.toolName
  sessionId : row.sessionId = some approval.sessionId

structure ApprovalDecision.Records (py : Library) (row : ApprovalDecision) (approvalId
    executionProcessId : String) (approved : Bool) (reason : Option String) : Prop where
  approvalId : row.approvalId = approvalId
  executionProcessId : row.executionProcessId = executionProcessId
  decision : row.decision = if approved then .approved else .denied
  reason : row.reasonSha256 = (present reason).map py.sha256

/-- What a row says of its request and of its reviewer, the executor has said. -/
def Backed (py : Library) (trace : Trace) (row : ApprovalDecision) : Prop :=
  ∃ approval : Details, Listed py trace approval ∧ approval.isQuestion = false ∧
    row.Concerns approval ∧ Eligible trace approval.sessionId row.reviewer

/-- A row as a later store has it: only what `finish` sets may have changed, and once. -/
structure ApprovalDecision.Continues (row later : ApprovalDecision) : Prop where
  columns : later = { row with
    status := later.status, error := later.error, completedAt := later.completedAt }
  settled : row.status ≠ .submitting → later = row

def Audit.Grows (db db' : Audit) : Prop :=
  ∀ row ∈ db.rows, ∃ later ∈ db'.rows, row.Continues later

/-- A response to an approval that the audit knows of. -/
def Recorded (py : Library) (plans : Prop) (db : Audit) (approvalId executionProcessId : String)
    (approved : Bool) (reason : Option String) : Prop :=
  (approved = false → Said py reason) ∧
    ∃ row ∈ db.rows, row.Records py approvalId executionProcessId approved reason ∧
      (plans → approved = true → row.toolName = "ExitPlanMode")

/-- A response to a question: it waits, it is answered in full, and its reviewer is eligible. -/
def Considered (py : Library) (trace : Trace) (approvalId executionProcessId : String)
    (answers : List Answer) : Prop :=
  ∃ (approval : Details) (reviewer : Reviewer), Listed py trace approval ∧
    approval.isQuestion = true ∧ approval.approvalId = approvalId ∧
    approval.executionProcessId = executionProcessId ∧
    Eligible trace approval.sessionId reviewer ∧ Complete py approval answers

/-- The executor has accepted a response the row records. -/
def Accepted (py : Library) (trace : Trace) (row : ApprovalDecision) : Prop :=
  ∃ approved reason, row.Records py row.approvalId row.executionProcessId approved reason ∧
    .call (.respondToApproval row.approvalId row.executionProcessId approved reason) (.ok ()) ∈
      trace

/-- The audit, against the run so far. -/
structure Audited (py : Library) (plans : Prop) (s : Shared AuditTx DeskQuery Audit Unit) :
    Prop where
  recorded : ∀ approvalId executionProcessId approved reason r,
    .call (.respondToApproval approvalId executionProcessId approved reason) r ∈ s.trace →
    Recorded py plans s.store approvalId executionProcessId approved reason
  considered : ∀ approvalId executionProcessId answers r,
    .call (.respondToQuestion approvalId executionProcessId answers) r ∈ s.trace →
    Considered py s.trace approvalId executionProcessId answers
  accepted : ∀ row ∈ s.store.rows, row.status = .responded → Accepted py s.trace row
  backed : ∀ row ∈ s.store.rows, Backed py s.trace row

/-! ### Later in a run -/

theorem Eligible.later {target : String} {reviewer : Reviewer} (more : trace ⊆ trace')
    (h : Eligible trace target reviewer) : Eligible trace' target reviewer := by
  cases reviewer with
  | human id =>
    obtain ⟨user, asked, named⟩ := h
    exact ⟨user, more asked, named⟩
  | session id =>
    obtain ⟨apart, workspace, sessions, belongs, listed, first⟩ := h
    exact ⟨apart, workspace, sessions, more belongs, more listed, first⟩

theorem Listed.later {approval : Details} (more : trace ⊆ trace') (h : Listed py trace approval) :
    Listed py trace' approval where
  pending := h.pending.imp fun _ known => ⟨more known.1, known.2⟩
  session := more h.session
  request := h.request.imp_right fun shown => shown.imp fun _ known => ⟨more known.1, known.2⟩

theorem Backed.later {row : ApprovalDecision} (more : trace ⊆ trace') (h : Backed py trace row) :
    Backed py trace' row := by
  obtain ⟨approval, listed, kind, about, eligible⟩ := h
  exact ⟨approval, listed.later more, kind, about, eligible.later more⟩

theorem Considered.later {approvalId executionProcessId : String} {answers : List Answer}
    (more : trace ⊆ trace') (h : Considered py trace approvalId executionProcessId answers) :
    Considered py trace' approvalId executionProcessId answers := by
  obtain ⟨approval, reviewer, listed, kind, named, process, eligible, complete⟩ := h
  exact ⟨approval, reviewer, listed.later more, kind, named, process, eligible.later more,
    complete⟩

theorem Accepted.later {row : ApprovalDecision} (more : trace ⊆ trace')
    (h : Accepted py trace row) :
    Accepted py trace' row := by
  obtain ⟨approved, reason, records, answered⟩ := h
  exact ⟨approved, reason, records, more answered⟩

namespace ApprovalDecision.Continues

variable {row later last : ApprovalDecision}

theorem refl (row : ApprovalDecision) : row.Continues row := ⟨rfl, fun _ => rfl⟩

theorem trans (first : row.Continues later) (second : later.Continues last) :
    row.Continues last where
  columns := by
    rw [second.columns, first.columns]
  settled done := by
    have same := first.settled done
    rw [second.settled (same ▸ done), same]

theorem of_settled (decisionId : String) (status : Status) (error : Option String)
    (completedAt : ℚ) : row.Continues (row.settled decisionId status error completedAt) where
  columns := by
    unfold ApprovalDecision.settled
    split <;> rfl
  settled done := by
    unfold ApprovalDecision.settled
    exact if_neg fun open_ => done open_.2

theorem records {approvalId executionProcessId : String} {approved : Bool} {reason : Option String}
    (h : row.Continues later)
    (records : row.Records py approvalId executionProcessId approved reason) :
    later.Records py approvalId executionProcessId approved reason := by
  rw [h.columns]
  exact ⟨records.approvalId, records.executionProcessId, records.decision, records.reason⟩

theorem backed (h : row.Continues later) (backed : Backed py trace row) :
    Backed py trace later := by
  obtain ⟨approval, listed, kind, about, eligible⟩ := backed
  rw [h.columns]
  exact ⟨approval, listed, kind,
    ⟨about.approvalId, about.executionProcessId, about.toolName, about.sessionId⟩, eligible⟩

theorem toolName (h : row.Continues later) : later.toolName = row.toolName := by
  rw [h.columns]

theorem decisionId (h : row.Continues later) : later.decisionId = row.decisionId := by
  rw [h.columns]

end ApprovalDecision.Continues

theorem Audit.Grows.refl (db : Audit) : db.Grows db := fun row mem => ⟨row, mem, .refl row⟩

theorem Audit.Grows.trans {a b c : Audit} (first : a.Grows b) (second : b.Grows c) : a.Grows c := by
  intro row mem
  obtain ⟨later, mem', continues⟩ := first row mem
  obtain ⟨last, mem'', continues'⟩ := second later mem'
  exact ⟨last, mem'', continues.trans continues'⟩

theorem Recorded.later {plans : Prop} {db db' : Audit} {approvalId executionProcessId : String}
    {approved : Bool} {reason : Option String} (grows : db.Grows db')
    (h : Recorded py plans db approvalId executionProcessId approved reason) :
    Recorded py plans db' approvalId executionProcessId approved reason := by
  obtain ⟨said, row, mem, records, plan⟩ := h
  obtain ⟨later, mem', continues⟩ := grows row mem
  refine ⟨said, later, mem', continues.records records, fun only yes => ?_⟩
  rw [continues.toolName, plan only yes]

/-! ### Transactions -/

/-- What a transaction of the desk is issued under. -/
def Rightful (py : Library) {β : Type} : AuditTx β → Shared AuditTx DeskQuery Audit Unit → Prop
  | .insert row, s => row.status = .submitting ∧ Backed py s.trace row
  | .settle decisionId .responded _ _, s =>
    ∀ row ∈ s.store.rows, row.decisionId = decisionId → Accepted py s.trace row
  | .settle _ .failed _ _, _ => True
  | .settle _ .submitting _ _, _ => False
  | .select _, _ => True
  | .recent _, _ => True

/-- What a response is sent under. -/
def Answerable (py : Library) (plans : Prop) {β : Type} :
    DeskQuery β → Shared AuditTx DeskQuery Audit Unit → Prop
  | .respondToApproval approvalId executionProcessId approved reason, s =>
    Recorded py plans s.store approvalId executionProcessId approved reason
  | .respondToQuestion approvalId executionProcessId answers, s =>
    Considered py s.trace approvalId executionProcessId answers
  | _, _ => True

theorem AuditTx.exec_grows {β : Type} (tx : AuditTx β) (db : Audit) : db.Grows (tx.exec db).1 := by
  cases tx with
  | insert row =>
    simp only [AuditTx.exec]
    split
    · exact .refl db
    · rename_i fresh
      intro known mem
      refine ⟨known, ?_, .refl known⟩
      rw [Table.rows_put_new fresh]
      exact List.mem_append_left _ mem
  | settle decisionId status error completedAt =>
    intro row mem
    exact ⟨_, List.mem_map_of_mem mem, .of_settled decisionId status error completedAt⟩
  | select decisionId => exact .refl db
  | recent limit => exact .refl db

theorem Rightful.rows {plans : Prop} {s : Shared AuditTx DeskQuery Audit Unit} {β : Type}
    {tx : AuditTx β} (audited : Audited py plans s) (rightful : Rightful py tx s) :
    ∀ row ∈ (tx.exec s.store).1.rows,
      (row.status = .responded → Accepted py s.trace row) ∧ Backed py s.trace row := by
  have before : ∀ row ∈ s.store.rows,
      (row.status = .responded → Accepted py s.trace row) ∧ Backed py s.trace row :=
    fun row mem => ⟨audited.accepted row mem, audited.backed row mem⟩
  cases tx with
  | insert row =>
    simp only [AuditTx.exec]
    split
    · exact before
    · rename_i fresh
      intro known mem
      rw [Table.rows_put_new fresh, List.mem_append, List.mem_singleton] at mem
      obtain old | rfl := mem
      · exact before known old
      · exact ⟨fun done => by simp [rightful.1] at done, rightful.2⟩
  | settle decisionId status error completedAt =>
    intro row mem
    obtain ⟨first, known, rfl⟩ := List.mem_map.mp mem
    have continues : first.Continues (first.settled decisionId status error completedAt) :=
      .of_settled decisionId status error completedAt
    refine ⟨fun done => ?_, continues.backed (audited.backed first known)⟩
    by_cases mine : first.decisionId = decisionId ∧ first.status = .submitting
    · rw [ApprovalDecision.settled, if_pos mine] at done ⊢
      obtain rfl : status = .responded := done
      obtain ⟨approved, reason, records, answered⟩ := rightful first known mine.1
      exact ⟨approved, reason, ⟨rfl, rfl, records.decision, records.reason⟩, answered⟩
    · rw [ApprovalDecision.settled, if_neg mine] at done ⊢
      exact audited.accepted first known done
  | select decisionId => exact before
  | recent limit => exact before

variable (py) (allowed : Command → Prop)

abbrev PlansOnly : Prop := ∀ command, allowed command → command.PlansOnly

def protocol : Protocol (desk py allowed) where
  inv := Audited py (PlansOnly allowed)
  evolves s s' := s.trace ⊆ s'.trace ∧ s.store.Grows s'.store
  frozen _ _ _ := True
  pre _ _ tx s := Rightful py tx s
  preCall _ _ q s := Answerable py (PlansOnly allowed) q s
  evolves_refl s := ⟨List.Subset.refl _, .refl s.store⟩
  evolves_trans first second := ⟨List.Subset.trans first.1 second.1, first.2.trans second.2⟩
  frozen_refl _ _ := trivial
  frozen_trans _ _ _ _ := trivial
  init := by
    rintro _ _ rfl
    exact ⟨by simp, by simp, by simp [Table.empty], by simp [Table.empty]⟩
  commit := by
    intro H β tx s audited rightful
    have more : s.trace ⊆ (s.commit (desk py allowed) tx).trace := List.subset_cons_self _ _
    have grows := tx.exec_grows s.store
    have rows := Rightful.rows audited rightful
    refine ⟨⟨?_, ?_, ?_, ?_⟩, ⟨more, grows⟩, fun _ _ => trivial⟩
    · intro approvalId executionProcessId approved reason r asked
      have before := List.mem_of_ne_of_mem (by simp) asked
      exact (audited.recorded _ _ _ _ r before).later grows
    · intro approvalId executionProcessId answers r asked
      have before := List.mem_of_ne_of_mem (by simp) asked
      exact (audited.considered _ _ _ r before).later more
    · exact fun row mem done => ((rows row mem).1 done).later more
    · exact fun row mem => (rows row mem).2.later more
  call := by
    intro H β q s b env audited answerable _
    have more : s.trace ⊆ (s.call q b env).trace := List.subset_cons_self _ _
    refine ⟨⟨?_, ?_, ?_, ?_⟩, ⟨more, .refl s.store⟩, fun _ _ => trivial⟩
    · intro approvalId executionProcessId approved reason r asked
      obtain here | before := List.mem_cons.mp asked
      · cases here
        exact answerable
      · exact audited.recorded _ _ _ _ r before
    · intro approvalId executionProcessId answers r asked
      obtain here | before := List.mem_cons.mp asked
      · cases here
        exact answerable.later more
      · exact (audited.considered _ _ _ r before).later more
    · exact fun row mem done => (audited.accepted row mem done).later more
    · exact fun row mem => (audited.backed row mem).later more

variable {py allowed} {α : Type} {s : Shared AuditTx DeskQuery Audit Unit}

abbrev Does (py : Library) (allowed : Command → Prop) (s : Shared AuditTx DeskQuery Audit Unit)
    (p : Desk α) (done : α → Shared AuditTx DeskQuery Audit Unit → Prop) : Prop :=
  (protocol py allowed).Keeps ∅ s p done

/-! ### Questions -/

theorem Does.asks {q : DeskQuery α} (plain : ∀ s, Answerable py (PlansOnly allowed) q s) :
    Does py allowed s (ask q) fun b s' => .call q b ∈ s'.trace :=
  .ask (fun s' _ _ => plain s') fun _ _ _ _ _ _ => List.mem_cons_self

theorem Does.queries {q : DeskQuery (Except Fault α)}
    (plain : ∀ s, Answerable py (PlansOnly allowed) q s) :
    Does py allowed s (query q) fun b s' => .call q (.ok b) ∈ s'.trace :=
  .query (fun s' _ _ => plain s') fun _ _ _ _ _ _ => List.mem_cons_self

theorem Does.raising {result : Except Fault α} :
    Does py allowed s (raising result) fun a _ => result = .ok a := by
  cases result with
  | ok a => exact .ret rfl
  | error fault => exact .fail

theorem Does.statement {failing : String} :
    Does py allowed s (statement failing) fun _ _ => True := by
  refine Keeps.bind (Does.asks fun _ => trivial) fun answer _ _ _ => ?_
  cases answer with
  | none => exact .ret trivial
  | some detail => exact .fail

theorem Does.catching {body : Desk α} {handler : String → Desk α}
    {done : α → Shared AuditTx DeskQuery Audit Unit → Prop} (through : Does py allowed s body done)
    (caught : ∀ s' message, Does py allowed s' (handler message) done) :
    Does py allowed s (catching body handler) done := by
  refine Keeps.handle through fun fault s' _ => ?_
  cases fault with
  | cdesktop message => exact caught s' message
  | audit message => exact caught s' message
  | value message => exact .fail
  | other message => exact .fail

theorem snapshotWithRetry_does {process : String} {attempts : ℕ} {best : Snapshot} :
    Does py allowed s (snapshotWithRetry process attempts best) fun snapshot s' =>
      snapshot = best ∨ .call (.normalizedSnapshot process) (.ok snapshot) ∈ s'.trace := by
  induction attempts generalizing s best with
  | zero => exact .ret (.inl rfl)
  | succ attempts ih =>
    refine Keeps.bind (Does.queries fun _ => trivial) fun candidate s₁ _ shown => ?_
    by_cases complete : candidate.complete
    · rw [if_pos complete]
      exact .ret (.inr shown)
    · rw [if_neg complete]
      refine Keeps.mono ih fun snapshot s₂ later known => ?_
      obtain rfl | known := known
      · split
        · exact .inr (later.1 shown)
        · exact .inl rfl
      · exact .inr known

theorem approvalDetails_does {approval : Pending}
    (waits : ∃ items, .call .pendingApprovals (.ok items) ∈ s.trace ∧ approval ∈ items) :
    Does py allowed s (approvalDetails py approval) fun details s' =>
      Listed py s'.trace details ∧ details.toPending = approval := by
  unfold approvalDetails
  refine Keeps.bind (Does.queries fun _ => trivial) fun sessionId s₁ later₁ whose => ?_
  refine Keeps.bind (Does.queries fun _ => trivial) fun workspaceId s₂ later₂ _ => ?_
  refine Keeps.bind (Does.queries fun _ => trivial) fun _ s₃ later₃ _ => ?_
  refine Keeps.bind (m := fun action s' => action = none ∨ ∃ snapshot,
      .call (.normalizedSnapshot approval.executionProcessId) (.ok snapshot) ∈ s'.trace ∧
      action = pendingAction py approval.approvalId snapshot.entries) ?_
    fun action s₄ later₄ request => ?_
  · refine Keeps.handle ?_ fun fault s' _ => ?_
    · refine Keeps.bind snapshotWithRetry_does fun snapshot s' _ known => .ret ?_
      obtain rfl | shown := known
      · exact .inl rfl
      · exact .inr ⟨snapshot, shown, rfl⟩
    · cases fault with
      | cdesktop message => exact .ret (.inl rfl)
      | audit message => exact .fail
      | value message => exact .fail
      | other message => exact .fail
  · obtain ⟨items, listed, mem⟩ := waits
    have more := List.Subset.trans later₂.1 (List.Subset.trans later₃.1 later₄.1)
    exact .ret ⟨⟨⟨items, more (later₁.1 listed), mem⟩, more whose, request⟩, rfl⟩

theorem approvalDetailsBatch_does {approvals : List Pending}
    (wait : ∃ items, .call .pendingApprovals (.ok items) ∈ s.trace ∧ approvals ⊆ items) :
    Does py allowed s (approvalDetailsBatch py approvals) fun batch s' =>
      ∀ details ∈ batch, Listed py s'.trace details := by
  induction approvals generalizing s with
  | nil => exact .ret (by simp)
  | cons approval rest ih =>
    obtain ⟨items, listed, mem⟩ := wait
    rw [List.cons_subset] at mem
    refine Keeps.bind (approvalDetails_does ⟨items, listed, mem.1⟩) fun first s₁ later₁ known => ?_
    refine Keeps.bind (ih ⟨items, later₁.1 listed, mem.2⟩) fun batch s₂ later₂ known' => .ret ?_
    rw [List.forall_mem_cons]
    exact ⟨known.1.later later₂.1, known'⟩

theorem pendingApproval_does {approvalId : String} :
    Does py allowed s (pendingApproval py approvalId) fun details s' =>
      Listed py s'.trace details := by
  refine Keeps.bind (Does.queries fun _ => trivial) fun items s₁ _ listed => ?_
  cases found : items.find? fun item => item.approvalId = approvalId with
  | none => exact .fail
  | some approval =>
    have waits : ∃ items, .call .pendingApprovals (.ok items) ∈ s₁.trace ∧ approval ∈ items :=
      ⟨items, listed, List.mem_of_find?_eq_some found⟩
    exact Keeps.mono (approvalDetails_does waits) fun _ _ _ known => known.1

theorem approvalReviewer_does {caller : Caller} {target : String} :
    Does py allowed s (approvalReviewer caller target) fun reviewer s' =>
      Eligible s'.trace target reviewer := by
  unfold approvalReviewer
  cases caller.session with
  | none =>
    exact Keeps.bind (Does.asks fun _ => trivial) fun user s' _ said => .ret ⟨user, said, rfl⟩
  | some reviewer =>
    show Does py allowed s (if reviewer = target then _ else _) _
    by_cases own : reviewer = target
    · rw [if_pos own]
      exact .fail
    rw [if_neg own]
    refine Keeps.bind (Does.queries fun _ => trivial) fun workspace s₁ _ belongs => ?_
    refine Keeps.bind (Does.queries fun _ => trivial) fun sessions s₂ later listed => ?_
    by_cases first : lead sessions = some reviewer
    · rw [if_pos first]
      exact .ret ⟨own, workspace, sessions, later.1 belongs, listed, first⟩
    · rw [if_neg first]
      exact .fail

/-! ### Decisions -/

variable {approval : Details} {reviewer : Reviewer} {approved : Bool} {reason : Option String}

/-- The decision of an attempt is in the audit. -/
def Begun (py : Library) (approval : Details) (approved : Bool) (reason : Option String)
    (db : Audit) (attempt : ApprovalDecision) : Prop :=
  attempt.Concerns approval ∧
    attempt.Records py approval.approvalId approval.executionProcessId approved reason ∧
    ∃ row ∈ db.rows, attempt.Continues row

theorem Begun.later {db db' : Audit} {attempt : ApprovalDecision} (grows : db.Grows db')
    (begun : Begun py approval approved reason db attempt) :
    Begun py approval approved reason db' attempt := by
  obtain ⟨about, records, row, mem, continues⟩ := begun
  obtain ⟨later, mem', continues'⟩ := grows row mem
  exact ⟨about, records, later, mem', continues.trans continues'⟩

theorem insert_does {row : ApprovalDecision} (opened : row.status = .submitting)
    (backed : Backed py s.trace row) :
    Does py allowed s (Prog.run (.insert row)) fun _ s' => row ∈ s'.store.rows := by
  refine Keeps.run fun s' others _ => ⟨⟨opened, backed.later others.1.1⟩, fun _ inserted => ?_⟩
  have inserted : (AuditTx.exec (.insert row) s'.store).2 = .ok () := inserted
  show row ∈ (AuditTx.exec (.insert row) s'.store).1.rows
  simp only [AuditTx.exec] at inserted ⊢
  split at inserted
  · exact nomatch inserted
  · rename_i fresh
    rw [if_neg fresh, Table.rows_put_new fresh]
    exact List.mem_append_right _ (List.mem_singleton_self _)

theorem beginDecision_does (listed : Listed py s.trace approval)
    (kind : approval.isQuestion = false)
    (eligible : Eligible s.trace approval.sessionId reviewer) :
    Does py allowed s
      (beginDecision py approval (if approved then .approved else .denied) reviewer reason)
      fun attempt s' => Begun py approval approved reason s'.store attempt := by
  unfold beginDecision
  refine Keeps.bind (Does.asks fun _ => trivial) fun now s₁ later₁ _ => ?_
  refine Keeps.bind (Does.asks fun _ => trivial) fun decisionId s₂ later₂ _ => ?_
  refine Keeps.bind Does.statement fun _ s₃ later₃ _ => ?_
  have more := List.Subset.trans later₁.1 (List.Subset.trans later₂.1 later₃.1)
  refine Keeps.bind (insert_does rfl ⟨approval, listed.later more, kind, ⟨rfl, rfl, rfl, rfl⟩,
    eligible.later more⟩) fun _ s' _ kept => .ret ?_
  exact ⟨⟨rfl, rfl, rfl, rfl⟩, ⟨rfl, rfl, rfl, rfl⟩, _, kept, .refl _⟩

theorem finish_does {decisionId : String} {succeeded : Bool} {error : Option String}
    (rightful : succeeded = true → ∀ s', (protocol py allowed).evolves s s' →
      ∀ row ∈ s'.store.rows, row.decisionId = decisionId → Accepted py s'.trace row) :
    Does py allowed s (finish decisionId succeeded error) fun _ _ => True := by
  unfold finish
  refine Keeps.bind (Does.asks fun _ => trivial) fun completedAt s₁ later₁ _ => ?_
  refine Keeps.bind Does.statement fun _ s₂ later₂ _ => ?_
  refine Keeps.bind (m := fun _ _ => True) (Keeps.commit fun s' others _ => ⟨?_, trivial⟩)
    fun changed s₃ _ _ => ?_
  · cases succeeded with
    | false => trivial
    | true =>
      have later := (protocol py allowed).evolves_trans later₁
        ((protocol py allowed).evolves_trans later₂ others.1)
      exact rightful rfl s' later
  · show Does py allowed s₃ (if changed ≠ 1 then _ else _) _
    by_cases missing : changed ≠ 1
    · rw [if_pos missing]
      exact .fail
    rw [if_neg missing]
    refine Keeps.bind Does.statement fun _ s₄ _ _ => ?_
    refine Keeps.bind (m := fun _ _ => True) (Keeps.commit fun _ _ _ => ⟨trivial, trivial⟩)
      fun found s₅ _ _ => ?_
    cases found with
    | none => exact .fail
    | some row => exact .ret trivial

theorem Begun.accepted {attempt : ApprovalDecision} {s s' : Shared AuditTx DeskQuery Audit Unit}
    (begun : Begun py approval approved reason s.store attempt)
    (answered : .call (.respondToApproval approval.approvalId approval.executionProcessId approved
      reason) (.ok ()) ∈ s.trace) (later : (protocol py allowed).evolves s s') :
    ∀ row ∈ s'.store.rows, row.decisionId = attempt.decisionId → Accepted py s'.trace row := by
  intro row mem named
  obtain ⟨_, records, kept, there, continues⟩ := begun.later later.2
  have same : kept = row := by
    have found := Table.get_of_mem there
    rw [continues.decisionId, ← named, Table.get_of_mem mem] at found
    exact (Option.some.inj found).symm
  subst same
  have records' := continues.records records
  refine ⟨approved, reason, ⟨rfl, rfl, records'.decision, records'.reason⟩, ?_⟩
  rw [records'.approvalId, records'.executionProcessId]
  exact later.1 answered

/-- What an approval is sent under, beside its record. -/
def Permitted (py : Library) (plans : Prop) (approval : Details) (approved : Bool)
    (reason : Option String) : Prop :=
  (approved = false → Said py reason) ∧
    (plans → approved = true → approval.toolName = "ExitPlanMode")

theorem Begun.recorded {plans : Prop} {db : Audit} {attempt : ApprovalDecision}
    (begun : Begun py approval approved reason db attempt)
    (permitted : Permitted py plans approval approved reason) :
    Recorded py plans db approval.approvalId approval.executionProcessId approved reason := by
  obtain ⟨about, records, row, mem, continues⟩ := begun
  refine ⟨permitted.1, row, mem, continues.records records, fun only yes => ?_⟩
  rw [continues.toolName, about.toolName, permitted.2 only yes]

theorem respondToApproval_does {attempt : ApprovalDecision}
    (begun : Begun py approval approved reason s.store attempt)
    (permitted : Permitted py (PlansOnly allowed) approval approved reason) :
    Does py allowed s
      (query (.respondToApproval approval.approvalId approval.executionProcessId approved reason))
      fun _ s' => .call (.respondToApproval approval.approvalId approval.executionProcessId approved
        reason) (.ok ()) ∈ s'.trace :=
  .query (fun _ others _ => (begun.later others.1.2).recorded permitted)
    fun _ _ _ _ _ _ => List.mem_cons_self

theorem decide_does {caller : Caller} (listed : Listed py s.trace approval)
    (kind : approval.isQuestion = false)
    (permitted : Permitted py (PlansOnly allowed) approval approved reason) :
    Does py allowed s (decide' py approval approved reason caller) fun _ _ => True := by
  unfold decide'
  refine Keeps.bind approvalReviewer_does fun reviewer s₁ later₁ eligible => ?_
  refine Keeps.bind Does.statement fun _ s₂ later₂ _ => ?_
  have more := List.Subset.trans later₁.1 later₂.1
  refine Keeps.bind (beginDecision_does (listed.later more) kind (eligible.later later₂.1))
    fun attempt s₃ later₃ begun => ?_
  refine Keeps.bind (Keeps.handle (respondToApproval_does begun permitted) fun fault s' _ => ?_)
    fun _ s₄ later₄ answered => ?_
  · exact Keeps.bind (finish_does nofun) fun _ _ _ _ => .fail
  · exact finish_does fun _ s' later => (begun.later later₄.2).accepted answered later

theorem approve_does {approvalId : String} {allowNonPlan : Bool} {caller : Caller}
    (plans : PlansOnly allowed → allowNonPlan = false) :
    Does py allowed s (approve py approvalId allowNonPlan caller) fun _ _ => True := by
  unfold approve
  refine Keeps.bind pendingApproval_does fun approval s₁ _ listed => ?_
  by_cases kind : approval.isQuestion = true
  · rw [if_pos kind]
    exact .fail
  rw [if_neg kind]
  rw [Bool.not_eq_true] at kind
  show Does py allowed s₁ (if _ then _ else _) _
  by_cases refused : approval.requestKind ≠ .plan ∧ allowNonPlan = false
  · rw [if_pos refused]
    exact .fail
  rw [if_neg refused]
  refine decide_does listed kind ⟨nofun, fun only _ => ?_⟩
  have plan : approval.requestKind = .plan := by
    by_contra other
    exact refused ⟨other, plans only⟩
  simpa [Pending.requestKind, kind] using plan

theorem reject_does {approvalId : String} {caller : Caller} :
    Does py allowed s (reject py approvalId caller) fun _ _ => True := by
  unfold reject
  refine Keeps.bind pendingApproval_does fun approval s₁ _ listed => ?_
  by_cases kind : approval.isQuestion = true
  · rw [if_pos kind]
    exact .fail
  rw [if_neg kind]
  rw [Bool.not_eq_true] at kind
  refine Keeps.bind (Does.queries fun _ => trivial) fun reason s₂ later₂ _ => ?_
  by_cases blank : py.strip reason = ""
  · rw [if_pos blank]
    exact .fail
  rw [if_neg blank]
  exact decide_does (listed.later later₂.1) kind ⟨fun _ => ⟨reason, blank, .inl rfl⟩, nofun⟩

/-! ### Batches -/

theorem strip_of_solidText {supplied : Json} {text : String}
    (read : solidText py supplied = some text) : py.strip text ≠ "" := by
  cases supplied with
  | str given =>
    simp only [solidText, Option.ite_none_left_eq_some, Option.some.injEq] at read
    exact read.2 ▸ read.1
  | _ => exact nomatch read

theorem solidTexts {items : List Json} {values : List String}
    (read : items.mapM (solidText py) = some values) :
    values.length = items.length ∧ ∀ text ∈ values, py.strip text ≠ "" := by
  induction items generalizing values with
  | nil =>
    obtain rfl : [] = values := Option.some.inj read
    simp
  | cons item items ih =>
    rw [List.mapM_cons] at read
    obtain ⟨text, first, read⟩ := Option.bind_eq_some_iff.mp read
    obtain ⟨texts, rest, read⟩ := Option.bind_eq_some_iff.mp read
    obtain rfl := Option.some.inj read
    obtain ⟨lengths, solid⟩ := ih rest
    rw [List.forall_mem_cons]
    exact ⟨by simpa using lengths, strip_of_solidText first, solid⟩

theorem answerValues_some {supplied : Json} {values : List String}
    (read : answerValues py supplied = some values) :
    values ≠ [] ∧ ∀ text ∈ values, py.strip text ≠ "" := by
  cases supplied with
  | str text =>
    obtain ⟨given, solid, rfl⟩ := Option.map_eq_some_iff.mp read
    simpa using strip_of_solidText solid
  | arr items =>
    cases items with
    | nil => exact nomatch read
    | cons first rest =>
      obtain ⟨lengths, solid⟩ := solidTexts read
      exact ⟨List.ne_nil_of_length_pos (by simp [lengths]), solid⟩
  | _ => exact nomatch read

theorem questionAnswer_fits {approvalId : String} {index : ℕ} {question : Dict} {supplied : Json}
    {answer : Answer} (ok : questionAnswer py approvalId index question supplied = .ok answer) :
    answer.Fits py question := by
  obtain ⟨value, _, ok⟩ := Raising.bind_eq_ok ok
  cases read : answerValues py value with
  | none => simp [read] at ok
  | some values =>
    rw [read] at ok
    obtain ⟨nonempty, solid⟩ := answerValues_some read
    simp only at ok
    split at ok
    · exact nomatch ok
    · rename_i fits
      obtain rfl := Except.ok.inj ok
      refine ⟨rfl, by simpa using nonempty, fun text mem => ?_, fun one => ?_⟩
      · obtain ⟨raw, given, rfl⟩ := List.mem_map.mp mem
        exact ⟨solid raw given, raw, rfl⟩
      · by_contra more
        exact fits ⟨one, by simpa using more⟩

theorem questionAnswers_fit {approvalId : String} {index : ℕ} {questions : List Dict}
    {supplied : List Json} {answers : List Answer} (same : supplied.length = questions.length)
    (ok : questionAnswers py approvalId index questions supplied = .ok answers) :
    List.Forall₂ (Answer.Fits py) questions answers := by
  induction questions generalizing index supplied answers with
  | nil =>
    obtain rfl : [] = answers := Except.ok.inj ok
    exact .nil
  | cons question questions ih =>
    cases supplied with
    | nil => exact nomatch same
    | cons first rest =>
      obtain ⟨answer, one, ok⟩ := Raising.bind_eq_ok ok
      obtain ⟨others, more, ok⟩ := Raising.bind_eq_ok ok
      obtain rfl := Except.ok.inj ok
      exact .cons (questionAnswer_fits one) (ih (by simpa using same) more)

theorem structuredQuestionAnswers_complete {supplied : Json} {answers : List Answer}
    (ok : structuredQuestionAnswers py approval supplied = .ok answers) :
    Complete py approval answers := by
  obtain ⟨questions, asked, ok⟩ := Raising.bind_eq_ok ok
  refine ⟨questions, asked, ?_⟩
  split at ok
  · split at ok
    · rename_i same
      exact questionAnswers_fit same ok
    · exact nomatch ok
  · exact nomatch ok

def Reply.Suits (py : Library) (approval : Details) (nonPlan : Bool) : Reply → Prop
  | .answers given => approval.isQuestion = true ∧ Complete py approval given
  | .decision approved reason => approval.isQuestion = false ∧
      (approved = false → Said py reason) ∧
      (approved = true → nonPlan = false → approval.toolName = "ExitPlanMode")

theorem itemReply_suits {item : Dict} {reply : Reply}
    (ok : itemReply py approval item = .ok reply) :
    reply.Suits py approval (allowsNonPlan item) := by
  unfold itemReply at ok
  split at ok
  · rename_i kind
    split at ok
    · exact nomatch ok
    · cases read : structuredQuestionAnswers py approval (item.get "answers") with
      | error fault => simp [read, Except.map] at ok
      | ok answers =>
        rw [read] at ok
        obtain rfl := Except.ok.inj ok
        exact ⟨kind, structuredQuestionAnswers_complete read⟩
  · rename_i kind
    rw [Bool.not_eq_true] at kind
    dsimp only at ok
    generalize py.str ((item.get "decision").orElse' (.str "")) = decision at ok
    split at ok
    · exact nomatch ok
    rename_i known
    split at ok
    · exact nomatch ok
    rename_i plan
    split at ok
    · exact nomatch ok
    rename_i reasoned
    obtain rfl := Except.ok.inj ok
    refine ⟨kind, fun denied => ?_, fun yes only => ?_⟩
    · have denies : decision = "deny" := by
        by_contra other
        exact known ⟨of_decide_eq_false denied, other⟩
      cases given : itemReason py item with
      | none => exact absurd ⟨denies, by rw [given]; rfl⟩ reasoned
      | some text =>
        have solid : text ≠ "" := by
          rintro rfl
          exact reasoned ⟨denies, by rw [given]; rfl⟩
        unfold itemReason at given
        split at given
        · obtain rfl := Option.some.inj given
          exact ⟨_, solid, .inr rfl⟩
        · exact nomatch given
    · have approves : decision = "approve" := of_decide_eq_true yes
      have plan_ : approval.requestKind = .plan := by
        by_contra other
        exact plan ⟨approves, other, only⟩
      simpa [Pending.requestKind, kind] using plan_

structure Prepared.Sound (py : Library) (plans : Prop) (trace : Trace) (p : Prepared) : Prop where
  listed : Listed py trace p.approval
  eligible : Eligible trace p.approval.sessionId p.reviewer
  suits : ∃ nonPlan, (plans → nonPlan = false) ∧ p.reply.Suits py p.approval nonPlan

theorem Prepared.Sound.later {plans : Prop} {p : Prepared} (more : trace ⊆ trace')
    (sound : p.Sound py plans trace) : p.Sound py plans trace' :=
  ⟨sound.listed.later more, sound.eligible.later more, sound.suits⟩

theorem prepareItems_does {plans : Prop} {pending : List Details} {caller : Caller}
    {seen : List String} {items : List Dict}
    (listed : ∀ approval ∈ pending, Listed py s.trace approval)
    (only : plans → ∀ item ∈ items, allowsNonPlan item = false) :
    Does py allowed s (prepareItems py pending caller seen items) fun prepared s' =>
      ∀ p ∈ prepared, p.Sound py plans s'.trace := by
  induction items generalizing s seen with
  | nil => exact .ret (by simp)
  | cons item items ih =>
    unfold prepareItems
    show Does py allowed s (if itemId py item = "" ∨ itemId py item ∈ seen then _ else _) _
    by_cases again : itemId py item = "" ∨ itemId py item ∈ seen
    · rw [if_pos again]
      exact .fail
    rw [if_neg again]
    cases found : pending.reverse.find? fun approval => approval.approvalId = itemId py item with
    | none => exact .fail
    | some approval =>
      have waits := listed approval (List.mem_reverse.mp (List.mem_of_find?_eq_some found))
      refine Keeps.bind approvalReviewer_does fun reviewer s₁ later₁ eligible => ?_
      refine Keeps.bind Does.raising fun reply s₂ later₂ ok => ?_
      have later := List.Subset.trans later₁.1 later₂.1
      refine Keeps.bind (ih (fun other mem => (listed other mem).later later)
        fun plan other mem => only plan other (List.mem_cons_of_mem _ mem))
        fun prepared s₃ later₃ sound => .ret ?_
      rw [List.forall_mem_cons]
      refine ⟨⟨(waits.later later).later later₃.1, (eligible.later later₂.1).later later₃.1, ?_⟩,
        sound⟩
      exact ⟨_, fun plan => only plan item List.mem_cons_self, itemReply_suits ok⟩

theorem sendDecision_does {attempt : ApprovalDecision}
    (begun : Begun py approval approved reason s.store attempt)
    (permitted : Permitted py (PlansOnly allowed) approval approved reason) :
    Does py allowed s (sendDecision approval approved reason attempt) fun _ _ => True := by
  refine Does.catching ?_ fun s' message => ?_
  · refine Keeps.bind (respondToApproval_does begun permitted) fun _ s₁ later₁ answered => ?_
    refine Keeps.bind (finish_does fun _ s' later => ?_) fun _ _ _ _ => .ret trivial
    exact (begun.later later₁.2).accepted answered later
  · exact Keeps.bind (finish_does nofun) fun _ _ _ _ => .ret trivial

theorem respondTo_does {p : Prepared} (sound : p.Sound py (PlansOnly allowed) s.trace) :
    Does py allowed s (respondTo py p) fun _ _ => True := by
  obtain ⟨listed, eligible, nonPlan, only, suits⟩ := sound
  unfold respondTo
  cases reply : p.reply with
  | answers answers =>
    rw [reply] at suits
    obtain ⟨kind, complete⟩ := suits
    refine Does.catching ?_ fun _ _ => .ret trivial
    refine Keeps.bind (m := fun _ _ => True) (Keeps.query (fun s' others _ => ?_)
      fun _ _ _ _ _ _ => trivial) fun _ _ _ _ => .ret trivial
    exact ⟨p.approval, p.reviewer, listed.later others.1.1, kind, rfl, rfl,
      eligible.later others.1.1, complete⟩
  | decision approved reason =>
    rw [reply] at suits
    obtain ⟨kind, said, plan⟩ := suits
    have permitted : Permitted py (PlansOnly allowed) p.approval approved reason :=
      ⟨said, fun plans yes => plan yes (only plans)⟩
    refine Keeps.bind (m := fun attempt s' => ∀ row, attempt = some row →
      Begun py p.approval approved reason s'.store row) ?_ fun attempt s₁ _ begun => ?_
    · refine Does.catching ?_ fun _ _ =>
        Keeps.ret fun _ none_ => absurd none_ (Option.some_ne_none _).symm
      refine Keeps.bind (beginDecision_does listed kind eligible) fun attempt s' _ begun => .ret ?_
      rintro _ ⟨⟩
      exact begun
    · cases attempt with
      | none => exact .ret trivial
      | some attempt => exact sendDecision_does (begun attempt rfl) permitted

theorem respondToAll_does {prepared : List Prepared}
    (sound : ∀ p ∈ prepared, p.Sound py (PlansOnly allowed) s.trace) :
    Does py allowed s (respondToAll py prepared) fun _ _ => True := by
  induction prepared generalizing s with
  | nil => exact .ret trivial
  | cons p rest ih =>
    rw [List.forall_mem_cons] at sound
    refine Keeps.bind (respondTo_does sound.1) fun responded s₁ later₁ _ => ?_
    refine Keeps.bind (ih fun other mem => (sound.2 other mem).later later₁.1) fun _ _ _ _ => ?_
    exact .ret trivial

theorem respond_does {decoded : Except String Json} {caller : Caller}
    (plans : PlansOnly allowed → ∀ items, responseItems decoded = .ok items →
      ∀ item ∈ items, allowsNonPlan item = false) :
    Does py allowed s (respond py decoded caller) fun _ _ => True := by
  unfold respond
  refine Keeps.bind Does.raising fun items s₁ _ ok => ?_
  refine Keeps.bind (m := fun prepared s' => ∀ p ∈ prepared,
      p.Sound py (PlansOnly allowed) s'.trace) ?_ fun prepared s₂ _ sound => ?_
  · refine Keeps.bind (Does.queries fun _ => trivial) fun approvals s₂ _ listed => ?_
    refine Keeps.bind (approvalDetailsBatch_does ⟨approvals, listed, List.Subset.refl _⟩)
      fun pending s₃ _ known => ?_
    exact prepareItems_does known fun only => plans only items ok
  · refine Keeps.bind Does.statement fun _ s₃ later₃ _ => ?_
    refine Keeps.bind (respondToAll_does fun p mem => (sound p mem).later later₃.1)
      fun failures s₄ _ _ => ?_
    unfold reportBatch
    cases caller.session with
    | none => exact .ret trivial
    | some reporter =>
      show Does py allowed s₄ (if failures = 0 then _ else _) _
      split
      · exact Keeps.bind (Does.queries fun _ => trivial) fun _ _ _ _ => .ret trivial
      · exact .ret trivial

/-! ### Every run -/

theorem Command.run_does {command : Command} (taken : allowed command) :
    Does py allowed s (command.run py) fun _ _ => True := by
  cases command with
  | history limit =>
    refine Keeps.bind Does.statement fun _ s₁ _ _ => ?_
    refine Keeps.bind (m := fun _ _ => True) ?_ fun _ _ _ _ => .ret trivial
    show Does py allowed s₁ (if limit < 1 ∨ limit > 500 then _ else _) _
    by_cases outside : limit < 1 ∨ limit > 500
    · rw [if_pos outside]
      exact .fail
    rw [if_neg outside]
    exact Keeps.bind Does.statement fun _ _ _ _ => Keeps.commit fun _ _ _ => ⟨trivial, trivial⟩
  | list =>
    refine Keeps.bind (Does.queries fun _ => trivial) fun approvals s₁ _ listed => ?_
    refine Keeps.bind (approvalDetailsBatch_does ⟨approvals, listed, List.Subset.refl _⟩)
      fun _ _ _ _ => .ret trivial
  | display approvalId => exact Keeps.bind pendingApproval_does fun _ _ _ _ => .ret trivial
  | approve approvalId allowNonPlan caller =>
    exact Keeps.bind (approve_does fun only => only _ taken) fun _ _ _ _ => .ret trivial
  | reject approvalId caller => exact Keeps.bind reject_does fun _ _ _ _ => .ret trivial
  | respond decoded caller =>
    exact Keeps.bind (respond_does fun only => only _ taken) fun _ _ _ _ => .ret trivial

/-- In every run of the approval commands, crashes and a failing disk included: what was sent for an
approval is in the audit, under a reviewer who may rule on it, and only plans were approved where
no command allows more; what the audit calls responded was accepted; and no row is lost, or changed
once it is settled. -/
theorem decisions_audited {w : World Fault AuditTx DeskQuery Empty Audit Unit}
    (run : Reachable (desk py allowed) anyEvent w) :
    Audited py (PlansOnly allowed) w.shared ∧
      ∀ w', Step (desk py allowed) anyEvent w w' → w.shared.store.Grows w'.shared.store := by
  have safe : ∀ op, (desk py allowed).ops op → ∀ s, (protocol py allowed).Safe op ∅
      (fun _ _ _ => True) (fun _ _ _ => True) s := by
    rintro _ ⟨command, taken, rfl⟩ s
    exact Keeps.safe (Command.run_does taken)
  refine ⟨(Protocol.sound safe run).1, fun w' step => ?_⟩
  cases step with
  | @commit p β tx k at_tx _ => exact tx.exec_grows w.shared.store
  | call => exact .refl _
  | spawn => exact .refl _
  | lock => exact .refl _
  | unlock => exact .refl _
  | stop => exact .refl _

def planDesk : {β : Type} → Unit → DeskQuery β → β × Unit
  | _, _, .disk => (none, ())
  | _, _, .time => (1, ())
  | _, _, .uuid4 => ("decision", ())
  | _, _, .getuser => ("operator", ())
  | _, _, .readText => (.ok "", ())
  | _, _, .pendingApprovals => (.ok [⟨"approval", "process", "ExitPlanMode", false⟩], ())
  | _, _, .executionProcess _ => (.ok "worker", ())
  | _, _, .session _ => (.ok "workspace", ())
  | _, _, .workspace _ => (.ok (), ())
  | _, _, .sessions _ => (.ok [⟨"worker", "2026-02-02"⟩, ⟨"lead", "2026-01-01"⟩], ())
  | _, _, .normalizedSnapshot _ => (.ok ⟨true, 1, .arr []⟩, ())
  | _, _, .respondToApproval _ _ _ _ => (.ok (), ())
  | _, _, .respondToQuestion _ _ _ => (.ok (), ())
  | _, _, .satisfyOrders _ => (.ok (), ())

def leadApproves : Command := .approve "approval" false ⟨some "lead", none⟩

def approvedWorld : World Fault AuditTx DeskQuery Empty Audit Unit :=
  (World.boot .empty () [leadApproves.run asciiLibrary]).play (desk asciiLibrary (· = leadApproves))
    planDesk (List.replicate 20 (.step 0))

theorem approvedWorld_reachable :
    Reachable (desk asciiLibrary (· = leadApproves)) anyEvent approvedWorld := by
  refine World.play_reachable (fun _ _ => trivial) _ (World.boot_reachable rfl _ ?_)
  intro op started
  obtain rfl := List.mem_singleton.mp started
  exact ⟨leadApproves, rfl, rfl⟩

theorem plan_decision_audited :
    approvedWorld.shared.store.rows.map (fun row => (row.approvalId, row.reviewer, row.status)) =
        [("approval", .session "lead", .responded)] ∧
      Audited asciiLibrary (PlansOnly (· = leadApproves)) approvedWorld.shared ∧
      ∀ w', Step (desk asciiLibrary (· = leadApproves)) anyEvent approvedWorld w' →
        approvedWorld.shared.store.Grows w'.shared.store :=
  ⟨by decide +kernel, decisions_audited approvedWorld_reachable⟩

end SightMesh.Approvals
