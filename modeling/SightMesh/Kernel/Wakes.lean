import SightMesh.Kernel.TaskStore

/-! The wake outbox: a child's transition and its parent's wakes are one transaction. -/
namespace SightMesh

open Python

def claimSeconds : Time := 60

def defaultProgressTimeout : Time := 1500

/-- `satisfied_predicates`: both wait predicates, over the stored child rows alone. -/
def Store.satisfiedPredicates (db : Store) (parentTaskId : TaskId) : List Predicate :=
  let children := db.tasks.rows.filter fun r => r.parentTaskId = some parentTaskId
  let live := children.any fun r => r.state ∈ liveStates
  let blocked := children.any fun r => r.state = .blocked
  (if blocked then [.anyChildBlocked] else []) ++
    (if !children.isEmpty && !live then [.allChildrenTerminal] else [])

/-- `has_live_wait_predicate`: the task is yielding to children that are running. -/
def Store.hasLiveWaitPredicate (db : Store) (taskId : TaskId) : Bool :=
  db.tasks.rows.any fun r => r.parentTaskId = some taskId && r.state ∈ yieldStates

def Store.freshWakeId (db : Store) : ℕ := (db.wakes.rows.map Wake.wakeId).foldr max 0 + 1

/-- `INSERT OR IGNORE` of one pending wake under the index over un-consumed dedupe keys. -/
def Store.armWake (db : Store) (parentTaskId : TaskId) (predicate : Predicate) (key : DedupeKey)
    (eventSeq : Option ℕ) (now : Time) : Store × List ℕ :=
  if db.wakes.rows.any fun w => w.dedupeKey = key && w.state ∈ liveWakeStates then (db, [])
  else
    let wake : Wake := {
      wakeId := db.freshWakeId, parentTaskId := parentTaskId, predicate := predicate,
      dedupeKey := key, eventSeq := eventSeq, state := .pending, claimExpiresAt := none,
      claimToken := none, payload := none, resolution := none, createdAt := now }
    ({ db with wakes := db.wakes.put wake }, [wake.wakeId])

/-- `record_wakes`: one pending wake for each satisfied predicate, while the parent's manager
has not been woken for the latest child event. -/
def recordWakes (parentTaskId : TaskId) (now : Time) (db : Store) : Store × List ℕ :=
  match db.task parentTaskId with
  | none => (db, [])
  | some row =>
    if row.childEventSeq ≤ row.lastWokenSeq then (db, [])
    else
      (db.satisfiedPredicates parentTaskId).foldl (fun (acc : Store × List ℕ) predicate =>
        let armed := acc.1.armWake parentTaskId predicate (.cohort parentTaskId predicate)
          (some row.childEventSeq) now
        (armed.1, acc.2 ++ armed.2)) (db, [])

/-- `_arm_liveness`: a one-shot incident is not told twice. -/
def armLiveness (parentTaskId : TaskId) (reason : WakeReason) (key : DedupeKey) (now : Time)
    (oneShot : Bool) (db : Store) : Store × List ℕ :=
  if oneShot && db.wakes.rows.any fun w => w.dedupeKey = key && w.state ∈ toldWakeStates then
    (db, [])
  else db.armWake parentTaskId (livenessPredicates reason) key none now

def Liveness.wakeReason : Liveness → Option WakeReason
  | idleUnreported => some .idleUnreported
  | limbo => some .limbo
  | stalled => some .stalled
  | live | parked => none

def TaskRow.reportsLoss (row : TaskRow) : Bool :=
  row.state = .lost ||
    (row.state = .exhausted && startsWith "exhausted: lost:" (row.result.getD ""))

def armStall (row : TaskRow) (parentTaskId : TaskId) (now progressTimeout : Time) (db : Store) :
    Store × List ℕ :=
  match row.liveness.wakeReason with
  | none => (db, [])
  | some reason =>
    let escalating : Bool := row.livenessWakes = 1 && match row.livenessSince with
      | none => false
      | some since => decide (now - since ≥ progressTimeout)
    if row.livenessWakes = 0 ∨ escalating then
      let armed := armLiveness parentTaskId reason
        (.episode row.taskId row.epoch reason row.livenessEpisode escalating) now false db
      if armed.2.isEmpty then armed
      else (armed.1.putTask { row with
        livenessWakes := row.livenessWakes + 1, livenessSince := some now }, armed.2)
    else (db, [])

def recordLivenessWakes (childTaskId : TaskId) (now progressTimeout : Time) (db : Store) :
    Store × List ℕ :=
  match db.task childTaskId with
  | none => (db, [])
  | some row =>
    match row.parentTaskId with
    | none => (db, [])
    | some parentTaskId =>
      if row.reportsLoss then
        armLiveness parentTaskId .lost (.episode childTaskId row.epoch .lost 1 false) now true db
      else if row.state ≠ .active then (db, [])
      else
        let stalled := armStall row parentTaskId now progressTimeout db
        if row.overBudget then
          let exceeded := armLiveness parentTaskId .overBudget
            (.episode childTaskId row.epoch .overBudget 1 false) now true stalled.1
          (exceeded.1, stalled.2 ++ exceeded.2)
        else stalled

/-- One child transition is one cohort event of the parent. -/
def Store.bumpChildEvents (db : Store) (parentTaskId : TaskId) : Store :=
  match db.task parentTaskId with
  | none => db
  | some parent => db.putTask { parent with childEventSeq := parent.childEventSeq + 1 }

def wakeParent (record : TaskRecord) (now : Time) (db : Store) : Store × List ℕ :=
  match record.parentTaskId with
  | none => (db, [])
  | some parentTaskId =>
    let cohort := recordWakes parentTaskId now (db.bumpChildEvents parentTaskId)
    let incident := recordLivenessWakes record.taskId now defaultProgressTimeout cohort.1
    (incident.1, cohort.2 ++ incident.2)

def finishWithWakeWithin (taskId : TaskId) (state : TaskState) (result : Option String)
    (expectVersion : Option ℕ) (chargeFailure : Bool) (now : Time) :
    Txn (TaskRecord × List ℕ) := do
  let record ← finish taskId state result expectVersion chargeFailure now
  let armed := wakeParent record now (← get)
  set armed.1
  return (record, armed.2)

def finishWithWake (taskId : TaskId) (state : TaskState) (result : Option String)
    (expectVersion : Option ℕ) (chargeFailure : Bool) (now : Time) :
    Txn (TaskRecord × List ℕ) :=
  wrapping "Cannot finish managed task: " <|
    finishWithWakeWithin taskId state result expectVersion chargeFailure now

/-! ### Delivery -/

def claimWakes (claimFor now : Time) (db : Store) : Store × List Wake :=
  let rows := (db.wakes.rows.filter fun w => w.state = .pending ||
    w.state = .claimed && match w.claimExpiresAt with
      | none => false
      | some expiry => decide (expiry < now)).insertionSort fun a b => a.createdAt ≤ b.createdAt
  rows.foldl (fun (acc : Store × List Wake) wake =>
    let claimed := { wake with
      state := .claimed, claimExpiresAt := some (now + claimFor), claimToken := some acc.1.fresh }
    ({ acc.1 with wakes := acc.1.wakes.put claimed, fresh := acc.1.fresh + 1 },
      acc.2 ++ [claimed])) (db, [])

def Store.claimedWake (db : Store) (wake : Wake) : Option Wake :=
  (db.wakes.get wake.wakeId).filter fun w => w.state = .claimed && w.claimToken = wake.claimToken

def persistPayload (wake : Wake) (selected : String) (db : Store) : Store × Option String :=
  match db.claimedWake wake with
  | none => (db, none)
  | some row =>
    let bytes := row.payload.getD selected
    ({ db with wakes := db.wakes.put { row with payload := some bytes } }, some bytes)

/-- `WakeDelivery._settle`: only the current claim chooses the outcome and the watermark. -/
def settleWake (wake : Wake) (state : WakeState) (resolution payload : Option String) (now : Time)
    (db : Store) : Store × Bool :=
  match db.claimedWake wake with
  | none => (db, false)
  | some row =>
    let settled := { db with wakes := db.wakes.put { row with
      state := state, resolution := resolution, payload := row.payload.or payload,
      claimExpiresAt := none } }
    match state, wake.eventSeq with
    | .delivered, some eventSeq =>
      match settled.task wake.parentTaskId with
      | none => (settled, true)
      | some parent => (settled.putTask { parent with
          lastWokenSeq := max parent.lastWokenSeq eventSeq, updatedAt := now }, true)
    | _, _ => (settled, true)

/-- `_payload`: the consolidated cohort view a manager reads. -/
def wakePayload (predicate : Predicate) (parent : TaskRecord) (children : List TaskRecord)
    (escalation : Bool) : String :=
  let heading := if escalation then "ESCALATION" else "COHORT"
  let line := fun (child : TaskRecord) =>
    "- " ++ child.key ++ " task=" ++ child.taskId ++ " state=" ++ child.state.name ++
      " epoch=" ++ toString child.epoch ++
      (if child.liveness = .live then "" else " liveness=" ++ child.liveness.name) ++
      (if child.overBudget then " over_budget=1" else "") ++
      (match child.holderSessionId with | some s => " session=" ++ s | none => "") ++
      (match child.checkpoint with | some c => " checkpoint=" ++ c | none => "")
  String.intercalate "\n" ((heading ++ " " ++ predicate.name ++ ": " ++ parent.key) ::
    children.map line)

end SightMesh
