import SightMesh.Escalation.Store
import SightMesh.Fleet.Attention

/-! The deliveries nobody has closed: parked escalations, and orders whose recipient never reported
back. -/
namespace SightMesh.Escalation

def ParkReason.name : ParkReason → String
  | noParent => "no_parent"
  | parentArchived => "parent_archived"
  | parentUnreachable => "parent_unreachable"

end SightMesh.Escalation

namespace SightMesh.Fleet

open Database Python Escalation

structure OrderExpectation where
  orderId : String
  senderSessionId : Option SessionId
  recipientSessionId : SessionId
  body : String
  bodyDigest : String
  createdAt : Time
  satisfiedAt : Option Time
  deriving DecidableEq

abbrev OrderBook := Table OrderExpectation.orderId

/-! ### Writing -/

structure OrderRequest where
  orderId : Option String
  senderSessionId : Option SessionId
  recipientSessionId : SessionId
  body : String
  deriving DecidableEq

section

variable (redact : String → Except String String) (sha256 : String → String)

/-- The row `expect_order` inserts, unless the redaction of its body raises; `uuid` is drawn where
no order id is given. -/
def OrderRequest.opened (request : OrderRequest) (uuid : String) (now : Time) :
    Except String OrderExpectation := do
  let safeBody ← redact request.body
  return {
    orderId := orText request.orderId ("order:" ++ uuid)
    senderSessionId := request.senderSessionId
    recipientSessionId := request.recipientSessionId
    body := safeBody
    bodyDigest := sha256 safeBody
    createdAt := now
    satisfiedAt := none }

theorem OrderRequest.opened_ok {request : OrderRequest} {uuid : String} {now : Time}
    {row : OrderExpectation} (opened : request.opened redact sha256 uuid now = .ok row) :
    row.satisfiedAt = none := by
  cases safe : redact request.body with
  | error e => exact absurd opened (by simp [OrderRequest.opened, safe, Bind.bind, Except.bind])
  | ok safeBody =>
    simp only [OrderRequest.opened, safe, Bind.bind, Except.bind, Pure.pure, Except.pure] at opened
    exact Except.ok.inj opened ▸ rfl

def expectOrder (book : OrderBook) (request : OrderRequest) (uuid : String) (now : Time) :
    OrderBook × Except String (Option OrderExpectation) :=
  match request.opened redact sha256 uuid now with
  | .error e => (book, .error e)
  | .ok row =>
    let book := book.insertNew row
    (book, .ok (book.get row.orderId))

end

def OrderExpectation.closedBy (row : OrderExpectation) (recipientSessionId : SessionId)
    (orderId : Option String) : Bool :=
  row.recipientSessionId = recipientSessionId && row.satisfiedAt.isNone &&
    orderId.all (row.orderId = ·)

def OrderExpectation.satisfied (row : OrderExpectation) (recipientSessionId : SessionId)
    (orderId : Option String) (now : Time) : OrderExpectation :=
  if row.closedBy recipientSessionId orderId then { row with satisfiedAt := some now } else row

/-- `satisfy_orders`, with the number of orders it closed. -/
def satisfyOrders (book : OrderBook) (recipientSessionId : SessionId) (orderId : Option String)
    (now : Time) : OrderBook × ℕ :=
  (book.update (·.satisfied recipientSessionId orderId now) fun row => by
    unfold OrderExpectation.satisfied
    split <;> rfl,
    book.rows.countP (·.closedBy recipientSessionId orderId))

/-! ### Reading -/

def OrderExpectation.passes (row : OrderExpectation) (recipientSessionId : Option SessionId)
    (unmetOnly : Bool) (recipientSessionIds : Option (List SessionId)) : Bool :=
  recipientSessionId.all (row.recipientSessionId = ·) &&
    recipientSessionIds.all (row.recipientSessionId ∈ ·) &&
    (!unmetOnly || row.satisfiedAt.isNone)

def orders (book : OrderBook) (recipientSessionId : Option SessionId) (unmetOnly : Bool)
    (recipientSessionIds : Option (List SessionId)) (limit : Option ℤ) :
    Except String (List OrderExpectation) :=
  let rows := book.rows.filter (·.passes recipientSessionId unmetOnly recipientSessionIds)
  match limit with
  | none => return rows.insertionSort fun a b => a.createdAt ≤ b.createdAt
  | some limit =>
    if limit < 1 then throw "Order expectation limit must be positive"
    else return newest limit.toNat (·.createdAt) rows

def pending (mail : MailStore) (limit : ℤ) : Except String (List ParkedEscalation) :=
  if limit < 1 ∨ 1000 < limit then
    throw "Escalation pending limit must be between 1 and 1000"
  else
    return newest limit.toNat (·.createdAt) (mail.escalations.rows.filter (·.status = .parked))

def unackedCounts (mail : MailStore) (book : OrderBook)
    (recipientSessionIds : Option (List SessionId)) : ℕ × ℕ :=
  (mail.escalations.rows.countP (·.status = .parked),
    book.rows.countP (·.passes none true recipientSessionIds))

section

variable (uuid : ℕ → String)

def parkedDelivery (row : ParkedEscalation) : Delivery where
  kind := .parkedEscalation
  id := uuid row.escalationId
  sessionId := some row.childSessionId
  workspaceId := row.childWorkspaceId
  summary := row.reason.name
  createdAt := row.createdAt

def orderDelivery (row : OrderExpectation) : Delivery where
  kind := .unmetOrder
  id := row.orderId
  sessionId := some row.recipientSessionId
  workspaceId := none
  summary := row.body
  createdAt := row.createdAt

def suppressedRow (suppressed : ℤ) (shown : List Delivery) : Delivery where
  kind := .suppressedUnacked
  id := "suppressed"
  sessionId := none
  workspaceId := none
  summary := toString suppressed ++ " older unacknowledged deliveries suppressed"
  createdAt := ((shown.map (·.createdAt)).min?).getD 0

def unackedDeliveries (mail : MailStore) (book : OrderBook) (limit : ℤ)
    (idleRecipients : Option (List SessionId)) : Except String (List Delivery) := do
  if limit < 1 then throw "Unacknowledged delivery limit must be positive"
  let parked ← pending mail limit
  let unmet ← orders book none true idleRecipients (some limit)
  let rows := (parked.map (parkedDelivery uuid) ++ unmet.map orderDelivery).insertionSort
    fun a b => toLex (a.createdAt, a.id) ≤ toLex (b.createdAt, b.id)
  let totals := unackedCounts mail book idleRecipients
  let shown := rows.drop (rows.length - limit.toNat)
  let suppressed : ℤ := (totals.1 + totals.2 : ℕ) - shown.length
  if suppressed ≤ 0 then return shown
  return suppressedRow suppressed shown :: shown

end

end SightMesh.Fleet
