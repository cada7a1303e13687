import Mathlib.Data.List.Sort
import SightMesh.Database.Table
import SightMesh.Kernel.Records
import SightMesh.Concurrency.Program

/-! The escalation database: parked escalations, acknowledgments, signal policies, and the
subscriptions of external runs. A connection is in autocommit, so every statement outside of an
explicit transaction is a commit of its own. -/
namespace SightMesh.Escalation

open Database Python Concurrency

abbrev Bytes := List UInt8

inductive ParkReason where
  | noParent | parentArchived | parentUnreachable
  deriving DecidableEq

inductive ParkStatus where
  | parked | resolved
  deriving DecidableEq

/-- What `park` records; the rest of the row is the store's. -/
structure ParkRequest where
  childSessionId : SessionId
  childWorkspaceId : Option WorkspaceId
  recordedParentSessionId : Option SessionId
  reason : ParkReason
  message : String
  dedupeKey : String
  deriving DecidableEq

structure ParkedEscalation extends ParkRequest where
  escalationId : ℕ
  status : ParkStatus
  createdAt : Time
  resolvedAt : Option Time
  deriving DecidableEq

/-- `EscalationClass`, its `kind` being the constructor. -/
inductive EscalationClass where
  | routine | interrupt
  deriving DecidableEq

def EscalationClass.intent : EscalationClass → String
  | routine => "continue"
  | interrupt => "replace"

structure AckRequest where
  childSessionId : SessionId
  parentSessionId : SessionId
  kind : EscalationClass
  message : String
  dedupeKey : String
  deriving DecidableEq

structure DeliveryAck extends AckRequest where
  ackId : ℕ
  deliveredAt : Time
  deriving DecidableEq

structure SignalPolicy where
  sessionId : SessionId
  conditions : List String
  updatedAt : Time
  deriving DecidableEq

inductive RunState where
  | subscribed | running | terminal | lost | delivering | notified
  deriving DecidableEq

def RunState.name : RunState → String
  | subscribed => "subscribed"
  | running => "running"
  | terminal => "terminal"
  | lost => "lost"
  | delivering => "delivering"
  | notified => "notified"

def openStates : List RunState := [.subscribed, .running]

structure RunIdentity where
  subscriptionId : String
  runId : String
  outputRoot : String
  returnSessionId : SessionId
  returnWorkspaceId : Option WorkspaceId
  writerCapabilityDigest : String
  dedupeKey : String
  receiptPath : String
  createdAt : Time
  deriving DecidableEq

structure ExternalRun extends RunIdentity where
  state : RunState
  version : ℕ
  pid : Option ℤ
  processFingerprint : Option String
  receiptDigest : Option String
  outcome : Option String
  diagnostic : Option String
  updatedAt : Time
  deriving DecidableEq

inductive LeaseState where
  | active | released
  deriving DecidableEq

structure OutputLease where
  subscriptionId : String
  outputRoot : String
  state : LeaseState
  version : ℕ
  deriving DecidableEq

/-- The sets a reconciler object keeps in memory. -/
inductive Memory where
  | notified | requeued
  deriving DecidableEq

/-- The database, with what each reconciler object remembers. -/
structure MailStore where
  escalations : Table fun row : ParkedEscalation => row.dedupeKey
  acknowledgments : Table fun row : DeliveryAck => row.dedupeKey
  policies : Table SignalPolicy.sessionId
  runs : Table fun row : ExternalRun => row.subscriptionId
  leases : Table OutputLease.subscriptionId
  memory : List (ℕ × Memory × String)
  fresh : ℕ

namespace MailStore

def empty : MailStore := ⟨.empty, .empty, .empty, .empty, .empty, [], 0⟩

def escalation (db : MailStore) (key : String) : Option ParkedEscalation := db.escalations.get key

def acknowledgment (db : MailStore) (key : String) : Option DeliveryAck := db.acknowledgments.get key

def run (db : MailStore) (id : String) : Option ExternalRun := db.runs.get id

def lease (db : MailStore) (id : String) : Option OutputLease := db.leases.get id

def park (db : MailStore) (request : ParkRequest) (now : Time) : MailStore :=
  { db with
    escalations := db.escalations.insertNew ⟨request, db.fresh, .parked, now, none⟩
    fresh := db.fresh + 1 }

/-- `UPDATE escalations SET status = 'resolved' WHERE … AND status = 'parked'`. -/
def resolveWhere (db : MailStore) (named : ParkedEscalation → Bool) (now : Time) : MailStore :=
  { db with
    escalations := db.escalations.update
      (fun row => if named row ∧ row.status = .parked then
        { row with status := .resolved, resolvedAt := some now } else row)
      (fun row => by split <;> rfl) }

def acknowledge (db : MailStore) (request : AckRequest) (now : Time) : MailStore :=
  { db with
    acknowledgments := db.acknowledgments.insertNew ⟨request, db.fresh, now⟩
    fresh := db.fresh + 1 }

/-! ### External runs -/

def leaseTaken (db : MailStore) (id root : String) : Bool :=
  (db.lease id).isSome ||
    db.leases.rows.any fun lease => lease.outputRoot = root && lease.state = .active

def subscribe (db : MailStore) (row : ExternalRun) : MailStore × Bool :=
  if (db.run row.subscriptionId).isSome ∨ (db.lease row.subscriptionId).isSome ∨
      (db.leases.rows.any fun lease => lease.outputRoot = row.outputRoot && lease.state = .active) ∨
      (db.runs.rows.any fun other => other.runId = row.runId || other.dedupeKey = row.dedupeKey)
  then (db, false)
  else
    ({ db with
        runs := db.runs.put row
        leases := db.leases.put ⟨row.subscriptionId, row.outputRoot, .active, 0⟩ }, true)

end MailStore

/-- The call sites of `_transition`. -/
inductive RunMove where
  | bind (pid : ℤ) (fingerprint : String)
  | terminal (digest outcome : String)
  | lost (diagnostic : String)
  | deliver
  deriving DecidableEq

namespace RunMove

def states : RunMove → List RunState
  | bind _ _ => [.subscribed]
  | terminal _ _ | lost _ => openStates
  | deliver => [.terminal, .lost]

def target : RunMove → RunState
  | bind _ _ => .running
  | terminal _ _ => .terminal
  | lost _ => .lost
  | deliver => .delivering

def assign (row : ExternalRun) : RunMove → ExternalRun
  | bind pid fingerprint => { row with pid := some pid, processFingerprint := some fingerprint }
  | terminal digest outcome =>
    { row with receiptDigest := some digest, outcome := some outcome, diagnostic := none }
  | lost diagnostic => { row with outcome := some "lost/unknown", diagnostic := some diagnostic }
  | deliver => row

end RunMove

def ExternalRun.moved (row : ExternalRun) (move : RunMove) (now : Time) : ExternalRun :=
  { move.assign row with state := move.target, version := row.version + 1, updatedAt := now }

@[simp] theorem ExternalRun.moved_state (row : ExternalRun) (move : RunMove) (now : Time) :
    (row.moved move now).state = move.target := rfl

@[simp] theorem ExternalRun.moved_identity (row : ExternalRun) (move : RunMove) (now : Time) :
    (row.moved move now).toRunIdentity = row.toRunIdentity := by
  cases move <;> rfl

namespace MailStore

def moveRun (db : MailStore) (id : String) (move : RunMove) (expected : ℕ) (now : Time) :
    MailStore × Bool :=
  match db.run id with
  | some row =>
    if row.state ∈ move.states ∧ row.version = expected then
      ({ db with runs := db.runs.put (row.moved move now) }, true)
    else (db, false)
  | none => (db, false)

def diagnose (db : MailStore) (id : String) (expected : ℕ) (message : String) (now : Time) :
    MailStore :=
  match db.run id with
  | some row =>
    if row.version = expected then
      { db with runs := db.runs.put { row with diagnostic := some message, updatedAt := now } }
    else db
  | none => db

def markNotified (db : MailStore) (id : String) (expected : ℕ) (now : Time) : MailStore × Bool :=
  match db.run id with
  | some row =>
    if row.state = .delivering ∧ row.version = expected then
      ({ db with
          runs := db.runs.put
            { row with state := .notified, version := row.version + 1, updatedAt := now }
          leases := match db.lease id with
            | some lease => if lease.state = .active then
                db.leases.put { lease with state := .released, version := lease.version + 1 }
              else db.leases
            | none => db.leases }, true)
    else (db, false)
  | none => (db, false)

def pendingRuns (db : MailStore) : List ExternalRun :=
  (db.runs.rows.filter fun row => row.state ≠ .notified).insertionSort
    fun a b => a.createdAt ≤ b.createdAt

end MailStore

/-! ### Transactions -/

inductive MailTx : Type → Type 1 where
  | read {β : Type} (view : MailStore → β) : MailTx β
  | park (request : ParkRequest) (now : Time) : MailTx Unit
  | resolve (escalationId : ℕ) (now : Time) : MailTx Bool
  | resolveDedupeKey (key : String) (now : Time) : MailTx Unit
  | acknowledge (request : AckRequest) (now : Time) : MailTx Unit
  | setPolicy (policy : SignalPolicy) : MailTx Unit
  | clearPolicy (sessionId : SessionId) : MailTx Unit
  | subscribe (row : ExternalRun) : MailTx Bool
  | getRun (id : String) : MailTx (Option ExternalRun)
  | moveRun (id : String) (move : RunMove) (expected : ℕ) (now : Time) : MailTx Bool
  | diagnose (id : String) (expected : ℕ) (message : String) (now : Time) : MailTx Unit
  | markNotified (id : String) (expected : ℕ) (now : Time) : MailTx Bool
  | recalls (reconciler : ℕ) (memory : Memory) (text : String) : MailTx Bool
  | remember (reconciler : ℕ) (memory : Memory) (text : String) : MailTx Unit

def MailTx.exec {β : Type} (tx : MailTx β) (db : MailStore) : MailStore × β :=
  match tx with
  | read view => (db, view db)
  | park request now => (db.park request now, ())
  | resolve escalationId now =>
    (db.resolveWhere (fun row => row.escalationId = escalationId) now,
      db.escalations.rows.any fun row => row.escalationId = escalationId && row.status = .parked)
  | resolveDedupeKey key now => (db.resolveWhere (fun row => row.dedupeKey = key) now, ())
  | acknowledge request now => (db.acknowledge request now, ())
  | setPolicy policy => ({ db with policies := db.policies.put policy }, ())
  | clearPolicy sessionId => ({ db with policies := db.policies.erase sessionId }, ())
  | subscribe row => db.subscribe row
  | getRun id => (db, db.run id)
  | moveRun id move expected now => db.moveRun id move expected now
  | diagnose id expected message now => (db.diagnose id expected message now, ())
  | markNotified id expected now => db.markNotified id expected now
  | recalls reconciler memory text => (db, (reconciler, memory, text) ∈ db.memory)
  | remember reconciler memory text =>
    ({ db with memory := (reconciler, memory, text) :: db.memory }, ())

end SightMesh.Escalation
