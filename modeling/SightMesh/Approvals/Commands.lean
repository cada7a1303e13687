import SightMesh.Approvals.Answers
import SightMesh.Concurrency.Program
import SightMesh.Concurrency.Pool
import SightMesh.Database.Table
import Mathlib.Data.List.Sort

/-! The approval commands of the CLI, and the audit of what they decide. The audit store is the
store; the executor, the disk and the clock are asked. -/
namespace SightMesh.Approvals

open Concurrency Database Python

inductive Reviewer where
  | human (id : String)
  | session (id : String)
  deriving DecidableEq

inductive Ruling where
  | approved | denied
  deriving DecidableEq

inductive Status where
  | submitting | responded | failed
  deriving DecidableEq

structure ApprovalDecision where
  decisionId : String
  approvalId : String
  executionProcessId : String
  sessionId : Option String
  workspaceId : Option String
  toolName : String
  decision : Ruling
  reviewer : Reviewer
  reasonSha256 : Option String
  status : Status
  error : Option String
  createdAt : ℚ
  completedAt : Option ℚ
  deriving DecidableEq

abbrev Audit := Table ApprovalDecision.decisionId

/-! ### The audit store -/

inductive AuditTx : Type → Type 1 where
  | insert (row : ApprovalDecision) : AuditTx (Except Fault Unit)
  | settle (decisionId : String) (status : Status) (error : Option String) (completedAt : ℚ) :
    AuditTx ℕ
  | select (decisionId : String) : AuditTx (Option ApprovalDecision)
  | recent (limit : ℕ) : AuditTx (List ApprovalDecision)

/-- The `SET` of `finish`, where its `WHERE` holds. -/
def ApprovalDecision.settled (decisionId : String) (status : Status) (error : Option String)
    (completedAt : ℚ) (row : ApprovalDecision) : ApprovalDecision :=
  if row.decisionId = decisionId ∧ row.status = .submitting then
    { row with status := status, error := error, completedAt := some completedAt }
  else row

theorem ApprovalDecision.settled_id (decisionId : String) (status : Status) (error : Option String)
    (completedAt : ℚ) (row : ApprovalDecision) :
    (row.settled decisionId status error completedAt).decisionId = row.decisionId := by
  unfold ApprovalDecision.settled
  split <;> rfl

def AuditTx.exec {β : Type} : AuditTx β → Audit → Audit × β
  | .insert row, db =>
    if row.decisionId ∈ db.rows.map ApprovalDecision.decisionId then
      (db, .error (.audit "Cannot record approval attempt: UNIQUE constraint failed"))
    else (db.put row, .ok ())
  | .settle decisionId status error completedAt, db =>
    (db.update (.settled decisionId status error completedAt)
      (ApprovalDecision.settled_id decisionId status error completedAt),
     db.rows.countP fun row => row.decisionId = decisionId ∧ row.status = .submitting)
  | .select decisionId, db => (db, db.get decisionId)
  | .recent limit, db =>
    (db, (db.rows.insertionSort fun a b => b.createdAt ≤ a.createdAt).take limit)

structure Session where
  id : String
  createdAt : String
  deriving DecidableEq

structure Snapshot where
  complete : Bool
  patchCount : ℤ
  entries : Json

/-- What is asked of the world outside. `disk` answers with what SQLite raises at a statement, if
it raises. -/
inductive DeskQuery : Type → Type 1 where
  | disk : DeskQuery (Option String)
  | time : DeskQuery ℚ
  | uuid4 : DeskQuery String
  | getuser : DeskQuery String
  | readText : DeskQuery (Except Fault String)
  | pendingApprovals : DeskQuery (Except Fault (List Pending))
  | executionProcess (id : String) : DeskQuery (Except Fault String)
  | session (id : String) : DeskQuery (Except Fault String)
  | workspace (id : String) : DeskQuery (Except Fault Unit)
  | sessions (workspaceId : String) : DeskQuery (Except Fault (List Session))
  | normalizedSnapshot (executionProcessId : String) : DeskQuery (Except Fault Snapshot)
  | respondToApproval (approvalId executionProcessId : String) (approved : Bool)
      (reason : Option String) : DeskQuery (Except Fault Unit)
  | respondToQuestion (approvalId executionProcessId : String) (answers : List Answer) :
      DeskQuery (Except Fault Unit)
  | satisfyOrders (recipient : String) : DeskQuery (Except Fault Unit)

abbrev Desk := Prog Fault AuditTx DeskQuery Empty

variable {α : Type}

def ask (q : DeskQuery α) : Desk α := Prog.ask q

def query (q : DeskQuery (Except Fault α)) : Desk α := Prog.query q

def raising : Except Fault α → Desk α
  | .ok a => .ret a
  | .error fault => .fail fault

def statement (failing : String) : Desk Unit := do
  match ← ask .disk with
  | none => return ()
  | some detail => throw (.audit (failing ++ detail))

variable (py : Library)

def openAudit : Desk Unit := statement "Cannot initialize approval audit store: "

def beginDecision (approval : Details) (decision : Ruling) (reviewer : Reviewer)
    (reason : Option String) : Desk ApprovalDecision := do
  let now ← ask .time
  let row : ApprovalDecision := {
    decisionId := ← ask .uuid4
    approvalId := approval.approvalId
    executionProcessId := approval.executionProcessId
    sessionId := some approval.sessionId
    workspaceId := some approval.workspaceId
    toolName := approval.toolName
    decision := decision
    reviewer := reviewer
    reasonSha256 := (present reason).map py.sha256
    status := .submitting
    error := none
    createdAt := now
    completedAt := none }
  statement "Cannot record approval attempt: "
  Prog.run (.insert row)
  return row

def finish (decisionId : String) (succeeded : Bool) (error : Option String) :
    Desk ApprovalDecision := do
  let completedAt ← ask .time
  statement "Cannot finish approval audit: "
  let changed ← Prog.commit'
    (.settle decisionId (if succeeded then .responded else .failed) error completedAt)
  if changed ≠ 1 then
    throw (.audit ("Approval audit attempt is missing or already finished: " ++ decisionId))
  statement "Cannot finish approval audit: "
  match ← Prog.commit' (.select decisionId) with
  | none => throw (.audit ("Approval audit attempt is missing: " ++ decisionId))
  | some row => return row

def history (limit : ℤ) : Desk (List ApprovalDecision) := do
  if limit < 1 ∨ limit > 500 then
    throw (.value "Approval history limit must be between 1 and 500")
  statement "Cannot read approval history: "
  Prog.commit' (.recent limit.toNat)

/-! ### Details -/

def snapshotWithRetry (executionProcessId : String) : ℕ → Snapshot → Desk Snapshot
  | 0, best => return best
  | attempts + 1, best => do
    let candidate ← query (.normalizedSnapshot executionProcessId)
    if candidate.complete then return candidate
    snapshotWithRetry executionProcessId attempts
      (if candidate.patchCount ≥ best.patchCount then candidate else best)

/-- A snapshot that cannot be read leaves the request unknown. -/
def unreadRequest : Fault → Desk (Option Dict)
  | .cdesktop _ => return none
  | fault => throw fault

def approvalDetails (approval : Pending) : Desk Details := do
  let sessionId ← query (.executionProcess approval.executionProcessId)
  let workspaceId ← query (.session sessionId)
  query (.workspace workspaceId)
  let action ← Prog.handle
    (do
      let snapshot ← snapshotWithRetry approval.executionProcessId 3 ⟨false, 0, .null⟩
      return pendingAction py approval.approvalId snapshot.entries)
    unreadRequest
  return { approval with sessionId := sessionId, workspaceId := workspaceId, action := action }

/-- `_approval_details_batch`, which the model asks for in order. -/
def approvalDetailsBatch : List Pending → Desk (List Details)
  | [] => return []
  | approval :: rest => do
    let first ← approvalDetails py approval
    return first :: (← approvalDetailsBatch rest)

def pendingApproval (approvalId : String) : Desk Details := do
  let items ← query .pendingApprovals
  match items.find? fun item => item.approvalId = approvalId with
  | none => throw (.value ("Approval is not currently pending: " ++ approvalId))
  | some approval => approvalDetails py approval

def lead (sessions : List Session) : Option String :=
  (sessions.insertionSort fun a b =>
    a.createdAt < b.createdAt ∨ a.createdAt = b.createdAt ∧ a.id ≤ b.id).head?.map Session.id

/-- Who runs a command: its `--reviewer-session`, and its `CDESKTOP_SESSION_ID`. -/
structure Caller where
  reviewerSession : Option String
  environment : Option String

def Caller.session (caller : Caller) : Option String :=
  (present caller.reviewerSession).or (present caller.environment)

def approvalReviewer (caller : Caller) (targetSessionId : String) : Desk Reviewer :=
  match caller.session with
  | none => do return .human ((← ask .getuser) ++ "@local")
  | some reviewer => do
    if reviewer = targetSessionId then throw (.value "A session cannot approve its own plan")
    let workspaceId ← query (.session reviewer)
    let sessions ← query (.sessions workspaceId)
    if lead sessions = some reviewer then return .session reviewer
    else throw (.value ("Only the lead session in a cdesktop workspace may approve another " ++
      "agent's plan"))

/-! ### `approval` -/

/-- `cmd_approval`, from where its checks have passed. -/
def decide' (approval : Details) (approved : Bool) (reason : Option String) (caller : Caller) :
    Desk ApprovalDecision := do
  let reviewer ← approvalReviewer caller approval.sessionId
  openAudit
  let attempt ← beginDecision py approval (if approved then .approved else .denied) reviewer reason
  Prog.handle
    (query (.respondToApproval approval.approvalId approval.executionProcessId approved reason))
    fun fault => do
      let _ ← finish attempt.decisionId false (some fault.message)
      throw fault
  finish attempt.decisionId true none

def approve (approvalId : String) (allowNonPlan : Bool) (caller : Caller) :
    Desk ApprovalDecision := do
  let approval ← pendingApproval py approvalId
  if approval.isQuestion then
    throw (.value ("This request expects structured answers, not plan approval; answer it in " ++
      "the visible cdesktop session"))
  if approval.requestKind ≠ .plan ∧ allowNonPlan = false then
    throw (.value ("Refusing to approve a non-plan tool request. Review it in cdesktop or " ++
      "repeat with --allow-non-plan after verifying the exact tool action."))
  decide' py approval true none caller

def reject (approvalId : String) (caller : Caller) : Desk ApprovalDecision := do
  let approval ← pendingApproval py approvalId
  if approval.isQuestion then
    throw (.value ("This request expects structured answers, not plan approval; answer it in " ++
      "the visible cdesktop session"))
  let reason ← query .readText
  if py.strip reason = "" then throw (.value "Rejection reason must not be empty")
  decide' py approval false (some reason) caller

/-! ### `respond` -/

structure Prepared where
  approval : Details
  reply : Reply
  reviewer : Reviewer

def itemId (item : Dict) : String := py.str ((item.get "approval_id").orElse' (.str ""))

/-- The loop of `_prepare_batch_responses`. A later entry of the same id has replaced an earlier
one in `pending`. -/
def prepareItems (pending : List Details) (caller : Caller) :
    List String → List Dict → Desk (List Prepared)
  | _, [] => return []
  | seen, item :: items => do
    let approvalId := itemId py item
    if approvalId = "" ∨ approvalId ∈ seen then
      throw (.value "Every batch item needs a unique approval_id")
    match pending.reverse.find? fun approval => approval.approvalId = approvalId with
    | none => throw (.value ("Approval is not currently pending: " ++ approvalId))
    | some approval =>
      let reviewer ← approvalReviewer caller approval.sessionId
      let reply ← raising (itemReply py approval item)
      return ⟨approval, reply, reviewer⟩ ::
        (← prepareItems pending caller (approvalId :: seen) items)

def prepareBatchResponses (items : List Dict) (caller : Caller) : Desk (List Prepared) := do
  let pending ← approvalDetailsBatch py (← query .pendingApprovals)
  prepareItems py pending caller [] items

def catching (body : Desk α) (handler : String → Desk α) : Desk α :=
  body.handle fun
    | .cdesktop message | .audit message => handler message
    | fault => throw fault

def sendDecision (approval : Details) (approved : Bool) (reason : Option String)
    (attempt : ApprovalDecision) : Desk Bool :=
  catching
    (do
      query (.respondToApproval approval.approvalId approval.executionProcessId approved reason)
      let _ ← finish attempt.decisionId true none
      return true)
    fun message => do
      let _ ← finish attempt.decisionId false (some message)
      return false

def respondTo (item : Prepared) : Desk Bool :=
  match item.reply with
  | .answers answers =>
    catching
      (do
        query (.respondToQuestion item.approval.approvalId item.approval.executionProcessId answers)
        return true)
      fun _ => return false
  | .decision approved reason => do
    let attempt ← catching
      (do return some (← beginDecision py item.approval (if approved then .approved else .denied)
        item.reviewer reason))
      fun _ => return none
    match attempt with
    | none => return false
    | some attempt => sendDecision item.approval approved reason attempt

def respondToAll : List Prepared → Desk ℕ
  | [] => return 0
  | item :: items => do
    let responded ← respondTo py item
    let failures ← respondToAll items
    return if responded then failures else failures + 1

/-- The end of `cmd_respond`, where what its caller was ordered to do is done. -/
def reportBatch (caller : Caller) (failures : ℕ) : Desk ℕ :=
  match caller.session with
  | none => return failures
  | some reporter => do
    if failures = 0 then query (.satisfyOrders reporter)
    return failures

def respond (decoded : Except String Json) (caller : Caller) : Desk ℕ := do
  let items ← raising (responseItems decoded)
  let prepared ← prepareBatchResponses py items caller
  openAudit
  let failures ← respondToAll py prepared
  reportBatch caller failures

/-! ### The desk -/

inductive Command where
  | history (limit : ℤ)
  | list
  | display (approvalId : String)
  | approve (approvalId : String) (allowNonPlan : Bool) (caller : Caller)
  | reject (approvalId : String) (caller : Caller)
  | respond (decoded : Except String Json) (caller : Caller)

def Command.run : Command → Desk Unit
  | .history limit => do openAudit; let _ ← Approvals.history limit
  | .list => do let _ ← approvalDetailsBatch py (← query .pendingApprovals)
  | .display approvalId => do let _ ← pendingApproval py approvalId
  | .approve approvalId allowNonPlan caller => do
    let _ ← Approvals.approve py approvalId allowNonPlan caller
  | .reject approvalId caller => do let _ ← Approvals.reject py approvalId caller
  | .respond decoded caller => do let _ ← Approvals.respond py decoded caller

def Command.PlansOnly : Command → Prop
  | .approve _ allowNonPlan _ => allowNonPlan = false
  | .respond decoded _ => ∀ items, responseItems decoded = .ok items →
      ∀ item ∈ items, allowsNonPlan item = false
  | _ => True

/-- Any number of commands over one audit store that was empty at first. Everything outside
answers as it likes. -/
def desk (allowed : Command → Prop) : System Fault AuditTx DeskQuery Empty Audit Unit where
  exec := AuditTx.exec
  answer _ _ _ _ := True
  ops op := ∃ command, allowed command ∧ op = command.run py
  start db _ := db = .empty

end SightMesh.Approvals
