import SightMesh.Python.Value

/-! What a reviewer hands in for the requests that wait for one, read against what they ask. -/
namespace SightMesh.Approvals

open Python

inductive Fault where
  /-- `CdesktopError` -/
  | cdesktop (message : String)
  /-- `ApprovalAuditError` -/
  | audit (message : String)
  /-- `ValueError` -/
  | value (message : String)
  | other (message : String)
  deriving DecidableEq

def Fault.message : Fault → String
  | .cdesktop message => message
  | .audit message => message
  | .value message => message
  | .other message => message

structure Pending where
  approvalId : String
  executionProcessId : String
  toolName : String
  isQuestion : Bool
  deriving DecidableEq

/-- What `_approval_details` adds, as far as an answer depends on it. `action` is that of the
request found in the snapshot. -/
structure Details extends Pending where
  sessionId : String
  workspaceId : String
  action : Option Dict

inductive RequestKind where
  | question | plan | tool
  deriving DecidableEq

def Pending.requestKind (approval : Pending) : RequestKind :=
  if approval.isQuestion then .question
  else if approval.toolName = "ExitPlanMode" then .plan
  else .tool

def asDict : Json → Option Dict
  | .obj fields => some fields
  | _ => none

def asList : Json → Option (List Json)
  | .arr items => some items
  | _ => none

/-! ### The request -/

variable (py : Library)

def pendingEntry (approvalId : String) (wrapped : Json) : Option (Option Dict) := do
  let wrapped ← asDict wrapped
  let content ← asDict (wrapped.get "content")
  let entryType ← asDict (content.get "entry_type")
  guard ((entryType.get "type").isText "tool_use")
  let status ← asDict (entryType.get "status")
  guard ((status.get "status").isText "pending_approval")
  guard (py.str (status.get "approval_id") = approvalId)
  return asDict (entryType.get "action_type")

/-- `_pending_request_from_snapshot`: the newest such entry. -/
def pendingAction (approvalId : String) (entries : Json) : Option Dict := do
  let entries ← asList entries
  (entries.reverse.findSome? (pendingEntry py approvalId)).join

/-! ### Answers -/

structure Answer where
  question : String
  answer : List String
  deriving DecidableEq

def questionItems (approval : Details) : Except Fault (List Dict) :=
  let questions := do
    let action ← approval.action
    let questions ← asList (action.get "questions")
    questions.mapM asDict
  match questions with
  | some questions => .ok questions
  | none =>
    .error (.value ("Question details are unavailable for approval " ++ approval.approvalId))

def expectedText (question : Dict) : String := py.str ((question.get "question").orElse' (.str ""))

def suppliedAnswer (name : String) (expected : String) : Json → Except Fault Json
  | .obj supplied =>
    match Dict.get supplied "question" with
    | .null => .ok (Dict.get supplied "answer")
    | asked =>
      if py.str asked = expected then .ok (Dict.get supplied "answer")
      else .error (.value (name ++ " does not match its question"))
  | supplied => .ok supplied

def solidText : Json → Option String
  | .str text => if py.strip text = "" then none else some text
  | _ => none

def answerValues : Json → Option (List String)
  | .str text => (solidText py (.str text)).map fun text => [text]
  | .arr (first :: rest) => (first :: rest).mapM (solidText py)
  | _ => none

def questionAnswer (approvalId : String) (index : ℕ) (question : Dict) (supplied : Json) :
    Except Fault Answer := do
  let name := "Approval " ++ approvalId ++ " answer " ++ toString (index + 1)
  let expected := expectedText py question
  let value ← suppliedAnswer py name expected supplied
  match answerValues py value with
  | none => throw (.value (name ++ " must contain one or more non-empty strings"))
  | some values =>
    if (question.get "multiSelect").truthy = false ∧ values.length ≠ 1 then
      throw (.value (name ++ " is single-select"))
    else return ⟨expected, values.map py.strip⟩

def questionAnswers (approvalId : String) : ℕ → List Dict → List Json → Except Fault (List Answer)
  | index, question :: questions, supplied :: rest => do
    let first ← questionAnswer py approvalId index question supplied
    return first :: (← questionAnswers approvalId (index + 1) questions rest)
  | _, _, _ => return []

def structuredQuestionAnswers (approval : Details) (supplied : Json) :
    Except Fault (List Answer) := do
  let questions ← questionItems approval
  match asList supplied with
  | some supplied =>
    if supplied.length = questions.length then
      questionAnswers py approval.approvalId 0 questions supplied
    else throw (.value ("Approval " ++ approval.approvalId ++ " requires exactly " ++
      toString questions.length ++ " ordered answers"))
  | none => throw (.value ("Approval " ++ approval.approvalId ++ " requires exactly " ++
      toString questions.length ++ " ordered answers"))

/-! ### Batches -/

/-- `_response_items`, from what `json.loads` answers. -/
def responseItems (decoded : Except String Json) : Except Fault (List Dict) :=
  match decoded with
  | .error detail => .error (.value ("Responses are not valid JSON: " ++ detail))
  | .ok parsed =>
    let parsed := match parsed with
      | .obj fields => Dict.get fields "responses"
      | parsed => parsed
    match asList parsed with
    | none => .error (.value "Responses must be a non-empty JSON array")
    | some items =>
      if items.isEmpty then .error (.value "Responses must be a non-empty JSON array")
      else match items.mapM asDict with
        | none => .error (.value "Every batch response must be a JSON object")
        | some items => .ok items

inductive Reply where
  | answers (answers : List Answer)
  | decision (approved : Bool) (reason : Option String)
  deriving DecidableEq

def itemReason (item : Dict) : Option String :=
  match item.get "reason" with
  | .str reason => some (py.strip reason)
  | _ => none

def allowsNonPlan (item : Dict) : Bool :=
  match item.get "allow_non_plan" with
  | .bool allowed => allowed
  | _ => false

/-- The checks `_prepare_batch_responses` makes of one item, once its reviewer is known. -/
def itemReply (approval : Details) (item : Dict) : Except Fault Reply :=
  if approval.isQuestion then
    if item.has "decision" then
      .error (.value ("Question " ++ approval.approvalId ++ " expects answers, not a decision"))
    else (structuredQuestionAnswers py approval (item.get "answers")).map .answers
  else
    let decision := py.str ((item.get "decision").orElse' (.str ""))
    if decision ≠ "approve" ∧ decision ≠ "deny" then
      .error (.value ("Approval " ++ approval.approvalId ++ " decision must be approve or deny"))
    else if decision = "approve" ∧ approval.requestKind ≠ .plan ∧ allowsNonPlan item = false then
      .error (.value ("Approval " ++ approval.approvalId ++ " is a non-plan tool request; set " ++
        "\"allow_non_plan\": true only after reviewing the exact action"))
    else if decision = "deny" ∧ present (itemReason py item) = none then
      .error (.value ("Approval " ++ approval.approvalId ++ " denial requires a reason"))
    else .ok (.decision (decision = "approve") (itemReason py item))

end SightMesh.Approvals
