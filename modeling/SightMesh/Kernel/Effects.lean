import SightMesh.Kernel.Wakes

/-! `EffectJournal` and `OwnershipStore`: the rows behind the native launches and the sessions
that can no longer be resumed. -/
namespace SightMesh

def reservationTtlSeconds : Time := 120

def Store.effect (db : Store) (taskId : TaskId) (epoch : ℕ) : Option Effect :=
  db.effects.get (taskId, epoch)

def Store.putEffect (db : Store) (effect : Effect) : Store :=
  { db with effects := db.effects.put effect }

def reserveEffect (taskId : TaskId) (epoch : ℕ) (requestHash : Launch) (owner : String)
    (ttl now : Time) : Txn (Effect × Bool) := do
  match (← get).effect taskId epoch with
  | none =>
    let effect : Effect := {
      taskId := taskId, epoch := epoch, requestHash := requestHash, state := .reserved,
      workspaceId := none, sessionId := none, outcome := none, retryAt := none,
      ownerInstance := owner, leaseExpiresAt := now + ttl, updatedAt := now }
    modify fun db => db.putEffect effect
    return (effect, false)
  | some existing =>
    match existing.state with
    | .terminal =>
      throw (.effectTerminal ("Task " ++ taskId ++ " epoch " ++ toString epoch ++
        " already reached the terminal outcome '" ++ existing.outcome.getD "None" ++
        "'; advance the epoch to relaunch"))
    | .launched => return (existing, false)
    | .reserved =>
      if existing.leaseExpiresAt > now then
        if existing.ownerInstance ≠ owner then
          throw (.effectBusy ("Task " ++ taskId ++ " epoch " ++ toString epoch ++
            " is reserved by another live SightMesh instance"))
        if existing.requestHash ≠ requestHash then
          throw (.effectConflict ("Task " ++ taskId ++ " epoch " ++ toString epoch ++
            " was reserved for a different launch specification"))
      let effect := { existing with
        ownerInstance := owner, leaseExpiresAt := now + ttl, updatedAt := now }
      modify fun db => db.putEffect effect
      return (effect, decide (existing.leaseExpiresAt ≤ now))

/-- `EffectJournal._advance`: move a row that is still in one of the expected states. -/
def advanceEffect (taskId : TaskId) (epoch : ℕ) (assign : Effect → Effect)
    (expectStates : List EffectState) (now : Time) : Txn Effect := do
  match (← get).effect taskId epoch with
  | none => throw (.effectTerminal ("Task " ++ taskId ++ " epoch " ++ toString epoch ++
      " is missing; this effect transition no longer applies"))
  | some row =>
    if row.state ∈ expectStates then
      let next := { assign row with taskId := row.taskId, epoch := row.epoch, updatedAt := now }
      modify fun db => db.putEffect next
      return next
    else throw (.effectTerminal ("Task " ++ taskId ++ " epoch " ++ toString epoch ++ " is " ++
      row.state.name ++ "; this effect transition no longer applies"))

def markLaunched (taskId : TaskId) (epoch : ℕ) (workspaceId : WorkspaceId) (sessionId : SessionId)
    (now : Time) : Txn Effect :=
  advanceEffect taskId epoch
    (fun e => { e with state := .launched, workspaceId := workspaceId, sessionId := sessionId })
    [.reserved, .launched] now

def markTerminal (taskId : TaskId) (epoch : ℕ) (outcome : String) (retryAt : Option Time)
    (now : Time) : Txn Effect :=
  advanceEffect taskId epoch
    (fun e => { e with state := .terminal, outcome := some outcome, retryAt := retryAt })
    [.reserved, .launched] now

def markRefused (taskId : TaskId) (epoch : ℕ) (reason : String) (retryAfterSeconds : Option Time)
    (now : Time) : Txn Effect :=
  advanceEffect taskId epoch
    (fun e => { e with
      outcome := some ("refused:" ++ reason)
      retryAt := retryAfterSeconds.map (now + ·) })
    [.reserved] now

def markSuperseded (taskId : TaskId) (epoch : ℕ) (workspaceId : WorkspaceId) (now : Time) :
    Txn Effect :=
  advanceEffect taskId epoch
    (fun e => { e with
      state := .terminal, workspaceId := workspaceId, outcome := some "superseded" })
    [.reserved, .launched] now

/-- `EffectJournal.mark_cleanup_workspace`: a row that is not terminal is left as it is. -/
def markCleanupWorkspace (taskId : TaskId) (epoch : ℕ) (workspaceId : WorkspaceId) (now : Time) :
    Txn Effect := do
  match (← get).effect taskId epoch with
  | none => throw (.taskStore ("Task effect " ++ taskId ++ "/" ++ toString epoch ++ " not found"))
  | some row =>
    if row.state = .terminal then
      let next := { row with
        workspaceId := some workspaceId, outcome := some "superseded", updatedAt := now }
      modify fun db => db.putEffect next
      return next
    else return row

def acknowledgeStop (effect : Effect) (now : Time) (db : Store) : Store :=
  match db.effect effect.taskId effect.epoch with
  | none => db
  | some row =>
    if row.state = .terminal ∧ row.workspaceId = effect.workspaceId then
      db.putEffect { row with workspaceId := none, updatedAt := now }
    else db

def retireReservation (taskId : TaskId) (epoch : ℕ) (moment : Time) (db : Store) :
    Store × Option Effect :=
  match db.effect taskId epoch with
  | none => (db, none)
  | some row =>
    if row.state = .reserved ∧ row.leaseExpiresAt < moment then
      let next := { row with
        state := .terminal, outcome := some "lost:reservation-expired", updatedAt := moment }
      (db.putEffect next, some next)
    else (db, none)

def Store.expiredReservations (db : Store) (moment : Time) : List (TaskId × ℕ) :=
  (db.effects.rows.filter fun e => e.state = .reserved && decide (e.leaseExpiresAt < moment)).map
    Effect.key

def Store.terminalWorkspaces (db : Store) : List Effect :=
  db.effects.rows.filter fun e => e.state = .terminal && e.workspaceId.isSome

def Store.supersededWorkspaces (db : Store) : List Effect :=
  db.effects.rows.filter fun e => e.state = .terminal && e.outcome = some "superseded" &&
    e.workspaceId.isSome

/-- `EffectJournal.with_outcomes`: current-epoch effects that ended on one of the outcomes, of
tasks that can still move. -/
def Store.withOutcomes (db : Store) (outcomes : List String) : List Effect :=
  (db.effects.rows.filter fun e => e.state = .terminal &&
    (match e.outcome with | some o => decide (o ∈ outcomes) | none => false) &&
    (match db.task e.taskId with
      | none => false
      | some t => t.epoch = e.epoch && t.state ∈ [TaskState.active, .blocked] &&
          t.attempts < t.maxAttempts)).insertionSort fun a b => a.updatedAt ≤ b.updatedAt

/-! ### Ownership -/

def Store.ownership (db : Store) (sessionId : SessionId) : Option TerminalOwnership :=
  db.ownerships.get sessionId

def Store.insertOwnership (db : Store) (record : TerminalOwnership) :
    Store × TerminalOwnership :=
  match db.ownership record.sessionId with
  | some existing => (db, existing)
  | none => ({ db with ownerships := db.ownerships.put record }, record)

/-- The walk of `link_successor`: does the successor chain from `current` meet a session seen? -/
def Store.chainMeets (db : Store) : ℕ → List SessionId → SessionId → Bool
  | 0, _, _ => true
  | fuel + 1, seen, current =>
    current ∈ seen ||
      match (db.ownership current).bind TerminalOwnership.successorSessionId with
      | none => false
      | some next => db.chainMeets fuel (current :: seen) next

def linkSuccessor (source successor : SessionId) : Txn TerminalOwnership := do
  if source = successor then
    throw (.succession ("Session " ++ source ++ " cannot be its own successor"))
  let db ← get
  match db.ownership source with
  | none =>
    throw (.succession ("Session " ++ source ++ " has no terminal ownership record to link"))
  | some row =>
    match row.successorSessionId with
    | some known =>
      if known = successor then return row
      throw (.succession ("Session " ++ source ++ " already has successor " ++ known ++
        "; refusing " ++ successor))
    | none =>
      if db.chainMeets (db.ownerships.rows.length + 2) [source] successor then
        throw (.succession "Successor link would create a cycle")
      let linked := { row with successorSessionId := some successor }
      set { db with ownerships := db.ownerships.put linked }
      return linked

/-! ### Recording a loss -/

/-- The statements of `_record_loss` before it turns to the ownership store: the evidence on the
task row and the terminal effect. -/
def lossEvidence (task : TaskRecord) (reason payload : String) (now : Time) : Txn Unit := do
  match (← get).task task.taskId with
  | some row =>
    if row.state ∈ liveStates then
      modify fun db => db.putTask { row with livenessEvidence := some payload }
  | none => pure ()
  match (← get).effect task.taskId task.epoch with
  | none =>
    throw (.taskStore ("Cannot lose task " ++ task.taskId ++ ": effect is missing"))
  | some effect =>
    if effect.state ≠ .terminal then
      modify fun db => db.putEffect { effect with
        state := .terminal, outcome := some reason, updatedAt := now }

/-- The ownership record a loss leaves for its holder; `str(None)` names a missing one. -/
def lossOwnership (task : TaskRecord) : TerminalOwnership where
  sessionId := task.holderSessionId.getD "None"
  state := .retired
  reason := "managed task lost"
  logicalKey := some ("task:" ++ task.taskId ++ ":" ++ toString task.epoch)
  successorSessionId := none

/-- The transaction of `_record_loss`. `OwnershipStore.retire` writes through a connection of its
own while this one holds the write lock: on the same file it waits out its busy timeout and
raises, on another file it commits by itself, whatever happens to the outer transaction. -/
def recordLoss (task : TaskRecord) (reason payload : String) (now : Time) (db : Store) :
    Store × Except KernelError (List ℕ) :=
  match lossEvidence task reason payload now db with
  | .error e => (db, .error e)
  | .ok (_, marked) =>
    if (db.ownership (lossOwnership task).sessionId).isNone ∧ db.ownershipShared then
      (db, .error (.succession ("Cannot retire session " ++ (lossOwnership task).sessionId ++
        ": database is locked")))
    else
      let retired := (db.insertOwnership (lossOwnership task)).1
      let settle := finishWithWakeWithin task.taskId .lost (some reason) none false now
      match settle { marked with ownerships := retired.ownerships } with
      | .ok (settled, db') => (db', .ok settled.2)
      | .error e => (retired, .error e)

end SightMesh
