import Mathlib.Data.Prod.Lex
import Mathlib.Data.String.Basic
import SightMesh.Database.Newest
import SightMesh.Kernel.TaskStore
import SightMesh.Python.Quote

/-! `fleet.py` and `observability.py` over the rows of the kernel: one queue of everything an
operator must act on. Nothing here is written, and no executor is asked. -/
namespace SightMesh.Fleet

open Database Python

/-! ### Reading tasks -/

structure TaskView where
  taskId : TaskId
  scope : String
  key : String
  parentTaskId : Option TaskId
  state : TaskState
  epoch : ℕ
  attempts : ℕ
  maxAttempts : ℕ
  childLimit : ℕ
  workspaceId : Option WorkspaceId
  sessionId : Option SessionId
  checkpoint : Option String
  result : Option String
  createdAt : Time
  updatedAt : Time
  deriving DecidableEq

def view (row : TaskRow) : TaskView where
  taskId := row.taskId
  scope := row.scope
  key := row.key
  parentTaskId := row.parentTaskId
  state := row.state
  epoch := row.epoch
  attempts := row.attempts
  maxAttempts := row.maxAttempts
  childLimit := row.childLimit
  workspaceId := row.workspaceId
  sessionId := row.holderSessionId
  checkpoint := row.checkpoint
  result := row.result
  createdAt := row.createdAt
  updatedAt := row.updatedAt

def recency (row : TaskRow) : Time ×ₗ String := toLex (row.createdAt, row.taskId)

def readTasks (db : Store) (scope : Option String) (limit : Option ℕ) :
    Except String (List TaskView) :=
  let rows := db.tasks.rows.filter fun row => scope.all (row.scope = ·)
  match limit with
  | none => return (rows.insertionSort fun a b => a.createdAt ≤ b.createdAt).map view
  | some limit =>
    if limit < 1 then throw "Task read limit must be positive"
    else return (newest limit recency rows).map view

def taskLimit (all : Bool) (limit : ℤ) : Except String (Option ℕ) :=
  if all then return none
  else if limit < 1 then throw "--limit must be at least 1"
  else return some limit.toNat

/-- `_bounded_tasks`: one row more is read than is shown, to know whether any is hidden. -/
def boundedTasks (db : Store) (all : Bool) (limit : ℤ) : Except String (List TaskView × Bool) := do
  match ← taskLimit all limit with
  | none => return (← readTasks db none none, false)
  | some limit =>
    let views ← readTasks db none (some (limit + 1))
    if limit < views.length then return (views.drop (views.length - limit), true)
    else return (views, false)

/-! ### What needs an operator -/

def taskRunningStates : List TaskState := [.reserved, .active, .replacing]

def taskDoneStates : List TaskState := [.completed, .cancelled, .lost, .exhausted]

def TaskView.breakerTripped (task : TaskView) : Bool :=
  if task.state ∈ taskDoneStates ∧ task.state ≠ .exhausted then false
  else task.maxAttempts ≤ task.attempts

/-- `task_counts`: how many are in a state, and how many breakers are tripped. -/
def taskCounts (views : List TaskView) : (TaskState → ℕ) × ℕ :=
  (fun state => views.countP fun task => task.state = state,
    views.countP TaskView.breakerTripped)

inductive AttentionKind where
  | blockedApproval | trippedBreaker | blocked | lost
  | dirtyCloseout | failingCheck | unackedDelivery | suppressedUnacked
  deriving DecidableEq

def AttentionKind.name : AttentionKind → String
  | blockedApproval => "blocked_approval"
  | trippedBreaker => "tripped_breaker"
  | blocked => "blocked"
  | lost => "lost"
  | dirtyCloseout => "dirty_closeout"
  | failingCheck => "failing_check"
  | unackedDelivery => "unacked_delivery"
  | suppressedUnacked => "suppressed_unacked"

def AttentionKind.priority : AttentionKind → ℕ
  | blockedApproval => 0
  | trippedBreaker => 1
  | blocked => 2
  | lost => 3
  | dirtyCloseout => 4
  | failingCheck => 5
  | unackedDelivery => 6
  | suppressedUnacked => 7

def taskKinds : List AttentionKind := [.blockedApproval, .trippedBreaker, .blocked, .lost]

variable (casefold : String → String)

def TaskView.attentionKind (task : TaskView) : Option AttentionKind :=
  if task.breakerTripped then some .trippedBreaker
  else match task.state with
    | .blocked =>
      if contains "approval" (casefold (task.result.getD "")) then some .blockedApproval
      else some .blocked
    | .lost => some .lost
    | _ => none

def AttentionKind.copy : AttentionKind → String × String
  | blockedApproval => ("Task is blocked on an approval.",
      "Answer the approval, then replace or complete the task.")
  | trippedBreaker => ("Task has spent its whole attempt budget.",
      "Raise the budget deliberately or cancel the task; it cannot be replaced.")
  | lost => ("Task lost its holder session.", "Replace the task to start a fresh epoch.")
  | _ => ("Task is blocked.", "Read the recorded block reason and replace or cancel the task.")

structure AttentionItem where
  selector : String
  kind : AttentionKind
  reason : String
  nextAction : String
  scope : Option String
  taskKey : Option String
  state : Option String
  workspaceId : Option WorkspaceId
  sessionId : Option SessionId
  ageSeconds : Option ℕ
  deriving DecidableEq

/-! ### Ages -/

/-- The nearest integer, of two as near the even one. -/
def roundEven (q : ℚ) : ℤ :=
  if q - q.floor < 1 / 2 then q.floor
  else if 1 / 2 < q - q.floor then q.floor + 1
  else if q.floor % 2 = 0 then q.floor else q.floor + 1

def microseconds (time : Time) : ℤ := roundEven (time * 1000000)

def datetimeMin : ℤ := -62135596800000000

/-- `_age`; `now` is in microseconds. -/
def age (now : ℤ) : Option Time → Option ℕ
  | none => none
  | some time =>
    if microseconds time = datetimeMin then none
    else some ((now - microseconds time) / 1000000).toNat

/-! ### The queue -/

variable (now : ℤ)

def taskSelector (scope key : Option String) : String :=
  "task/" ++ quote (scope.getD "unknown") ++ "/" ++ quote (key.getD "")

def taskAttentionItem (task : TaskView) : Option AttentionItem :=
  (task.attentionKind casefold).map fun kind =>
    { selector := taskSelector (present (some task.scope)) (present (some task.key))
      kind := kind
      reason := kind.copy.1
      nextAction := kind.copy.2
      scope := present (some task.scope)
      taskKey := present (some task.key)
      state := present (some task.state.name)
      workspaceId := present task.workspaceId
      sessionId := present task.sessionId
      ageSeconds := age now (some task.updatedAt) }

inductive DeliveryKind where
  | parkedEscalation | unmetOrder | suppressedUnacked
  deriving DecidableEq

def DeliveryKind.name : DeliveryKind → String
  | parkedEscalation => "parked_escalation"
  | unmetOrder => "unmet_order"
  | suppressedUnacked => "suppressed_unacked"

structure Delivery where
  kind : DeliveryKind
  id : String
  sessionId : Option SessionId
  workspaceId : Option WorkspaceId
  summary : String
  createdAt : Time
  deriving DecidableEq

def deliveryAttentionItem (row : Delivery) : AttentionItem where
  selector := "delivery/" ++ quote row.kind.name ++ "/" ++ quote (orText row.id "unknown")
  kind := if row.kind = .suppressedUnacked then .suppressedUnacked else .unackedDelivery
  reason :=
    if row.kind = .suppressedUnacked then orText row.summary "None" ++ "."
    else "Delivery is unacknowledged (" ++ row.kind.name ++ ")."
  nextAction :=
    if row.kind = .suppressedUnacked then "Re-read with a higher limit, or --all, to see them."
    else "Resolve the escalation or collect the outstanding report."
  scope := none
  taskKey := none
  state := some row.kind.name
  workspaceId := present row.workspaceId
  sessionId := present row.sessionId
  ageSeconds := age now (some row.createdAt)

/-- A fact only the executor has. -/
structure NativeFact where
  id : Option String
  workspaceId : Option WorkspaceId
  sessionId : Option SessionId
  status : Option String
  time : Option Time
  deriving DecidableEq

def nativeAttentionItem (kind : AttentionKind) (row : NativeFact) : AttentionItem where
  selector := kind.name ++ "/" ++
    quote (((present row.id).or (present row.workspaceId)).getD "unknown")
  kind := kind
  reason :=
    if kind = .dirtyCloseout then "Closeout is dirty." else "A delivery check is failing."
  nextAction := "Reconcile the reported worktree or delivery reference."
  scope := none
  taskKey := none
  state := present row.status
  workspaceId := present row.workspaceId
  sessionId := present row.sessionId
  ageSeconds := age now row.time

structure AttentionFacts where
  tasks : List TaskView
  unacked : List Delivery
  dirtyCloseouts : Option (List NativeFact)
  failingChecks : Option (List NativeFact)

/-- A source that was not supplied. -/
structure Degraded where
  source : String
  status : String
  owner : String
  reason : String
  deriving DecidableEq

structure AttentionQueue where
  items : List AttentionItem
  degraded : List Degraded

def AttentionItem.order (item : AttentionItem) : ℕ ×ₗ (ℤ ×ₗ String) :=
  toLex (item.kind.priority, toLex (-(item.ageSeconds.getD 0 : ℤ), item.selector))

def degradedSource (source : String) (facts : Option (List NativeFact)) : List Degraded :=
  match facts with
  | some _ => []
  | none => [⟨source, "reported-degraded", "cdesktop",
      source ++ " is an executor-owned fact and was not supplied"⟩]

def attention (facts : AttentionFacts) : AttentionQueue where
  items :=
    (facts.tasks.filterMap (taskAttentionItem casefold now) ++
      facts.unacked.map (deliveryAttentionItem now) ++
      (facts.dirtyCloseouts.getD []).map (nativeAttentionItem now .dirtyCloseout) ++
      (facts.failingChecks.getD []).map (nativeAttentionItem now .failingCheck)).insertionSort
      fun a b => a.order ≤ b.order
  degraded := degradedSource "dirty_closeouts" facts.dirtyCloseouts ++
    degradedSource "failing_checks" facts.failingChecks

/-! ### Groups -/

structure TaskGroups where
  needsAttention : List TaskView
  running : List TaskView
  doneSinceView : List TaskView

def TaskView.order (task : TaskView) : ℤ ×ₗ String :=
  toLex (-((age now (some task.updatedAt)).getD 0 : ℤ), task.key)

/-- `task_groups`; `viewedAt` is in microseconds. -/
def taskGroups (viewedAt : Option ℤ) (tasks : List TaskView) : TaskGroups :=
  let sorted (rows : List TaskView) := rows.insertionSort fun a b => a.order now ≤ b.order now
  { needsAttention := sorted (tasks.filter fun task => (task.attentionKind casefold).isSome)
    running := sorted (tasks.filter fun task => task.state ∈ taskRunningStates)
    doneSinceView := sorted (tasks.filter fun task => task.state ∈ taskDoneStates ∧
      viewedAt.all (· ≤ microseconds task.updatedAt)) }

end SightMesh.Fleet
