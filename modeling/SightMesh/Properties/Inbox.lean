import SightMesh.Fleet.Inbox

/-! What an operator reads of the deliveries nobody has closed. -/
namespace SightMesh

open Database Escalation Fleet Python

variable {book : OrderBook} {row : OrderExpectation}

/-! ### Orders over a run -/

inductive OrderOp where
  | expect (request : OrderRequest) (uuid : String) (now : Time)
  | satisfy (recipientSessionId : SessionId) (orderId : Option String) (now : Time)

variable (redact : String → Except String String) (sha256 : String → String)

def OrderOp.exec (book : OrderBook) : OrderOp → OrderBook
  | expect request uuid now => (expectOrder redact sha256 book request uuid now).1
  | satisfy recipientSessionId orderId now => (satisfyOrders book recipientSessionId orderId now).1

def runOrders (book : OrderBook) (ops : List OrderOp) : OrderBook :=
  ops.foldl (fun book op => op.exec redact sha256 book) book

def OrderOp.opens : OrderOp → Option OrderExpectation
  | expect request uuid now => (request.opened redact sha256 uuid now).toOption
  | satisfy .. => none

def OrderOp.meets (row : OrderExpectation) : OrderOp → Option Time
  | expect .. => none
  | satisfy recipientSessionId orderId now =>
    if row.recipientSessionId = recipientSessionId ∧ orderId.all (row.orderId = ·) then some now
    else none

/-- An order was recorded, its id was free, and no report met it since. -/
def Unmet (ops : List OrderOp) (row : OrderExpectation) : Prop :=
  ∃ before op after, ops = before ++ op :: after ∧ op.opens redact sha256 = some row ∧
    (∀ earlier ∈ before, ∀ other, earlier.opens redact sha256 = some other →
      other.orderId ≠ row.orderId) ∧
    ∀ later ∈ after, later.meets row = none

theorem satisfied_eq (row : OrderExpectation) (recipientSessionId : SessionId)
    (orderId : Option String) (now : Time) : row.satisfied recipientSessionId orderId now =
      { row with
        satisfiedAt := row.satisfiedAt.or
          ((OrderOp.satisfy recipientSessionId orderId now).meets row) } := by
  obtain ⟨_, _, recipient, _, _, _, satisfiedAt⟩ := row
  cases satisfiedAt with
  | none =>
    simp only [OrderExpectation.satisfied, OrderExpectation.closedBy, OrderOp.meets,
      Option.isNone_none, Bool.and_true, Bool.and_eq_true, decide_eq_true_eq, Option.none_or]
    split <;> rfl
  | some time => simp [OrderExpectation.satisfied, OrderExpectation.closedBy]

theorem OrderOp.exec_known (op : OrderOp) (known : book.get row.orderId = some row) :
    (op.exec redact sha256 book).get row.orderId =
      some { row with satisfiedAt := row.satisfiedAt.or (op.meets row) } := by
  cases op with
  | expect request uuid now =>
    simp only [exec, expectOrder, meets, Option.or_none]
    split
    · exact known
    · rw [Table.get_insertNew]
      split
      · rw [known]
        rfl
      · exact known
  | satisfy recipientSessionId orderId now =>
    simp only [exec, satisfyOrders, Table.get_update, known, Option.map_some, satisfied_eq]

theorem OrderOp.exec_absent {k : String} (op : OrderOp) (absent : book.get k = none) :
    (op.exec redact sha256 book).get k =
      (op.opens redact sha256).filter (fun row => row.orderId = k) := by
  cases op with
  | expect request uuid now =>
    cases opened : request.opened redact sha256 uuid now with
    | error e => simpa [exec, expectOrder, opens, opened, Except.toOption] using absent
    | ok row =>
      simp only [exec, expectOrder, Table.get_insertNew, opens, opened, Except.toOption,
        Option.filter_some, absent, Option.getD_none, decide_eq_true_eq]
      exact if_congr eq_comm rfl rfl
  | satisfy => simp [exec, satisfyOrders, Table.get_update, absent, opens]

theorem runOrders_known (ops : List OrderOp) (known : book.get row.orderId = some row) :
    (runOrders redact sha256 book ops).get row.orderId =
      some { row with satisfiedAt := row.satisfiedAt.or (ops.findSome? (·.meets row)) } := by
  induction ops generalizing book row with
  | nil => simpa [runOrders] using known
  | cons op ops ih =>
    let met : OrderExpectation := { row with satisfiedAt := row.satisfiedAt.or (op.meets row) }
    have step : (op.exec redact sha256 book).get met.orderId = some met :=
      op.exec_known redact sha256 known
    have same : (fun later : OrderOp => later.meets met) = fun later => later.meets row := by
      funext later
      cases later <;> rfl
    have next := ih step
    rw [same] at next
    have first : (row.satisfiedAt.or (op.meets row)).or (ops.findSome? (·.meets row)) =
        row.satisfiedAt.or ((op :: ops).findSome? (·.meets row)) := by
      rw [List.findSome?_cons, Option.or_assoc]
      cases op.meets row <;> rfl
    rw [← first]
    exact next

theorem runOrders_absent {k : String} (ops : List OrderOp) (absent : book.get k = none)
    (free : ∀ op ∈ ops, ∀ other, op.opens redact sha256 = some other → other.orderId ≠ k) :
    (runOrders redact sha256 book ops).get k = none := by
  induction ops generalizing book with
  | nil => exact absent
  | cons op ops ih =>
    refine ih ?_ fun later listed => free later (List.mem_cons_of_mem _ listed)
    rw [op.exec_absent redact sha256 absent, Option.filter_eq_none_iff]
    exact fun other opened same => free op List.mem_cons_self other opened (of_decide_eq_true same)

theorem runOrders_append (book : OrderBook) (before after : List OrderOp) :
    runOrders redact sha256 book (before ++ after) =
      runOrders redact sha256 (runOrders redact sha256 book before) after :=
  List.foldl_append

theorem opened_of_get (ops : List OrderOp) (absent : book.get row.orderId = none)
    (known : (runOrders redact sha256 book ops).get row.orderId = some row) :
    ∃ before op after opened, ops = before ++ op :: after ∧ op.opens redact sha256 = some opened ∧
      (∀ earlier ∈ before, ∀ other, earlier.opens redact sha256 = some other →
        other.orderId ≠ row.orderId) ∧
      row = { opened with
        satisfiedAt := opened.satisfiedAt.or (after.findSome? (·.meets opened)) } := by
  induction ops generalizing book with
  | nil => exact absurd (absent.symm.trans known) (by simp)
  | cons op ops ih =>
    cases next : (op.exec redact sha256 book).get row.orderId with
    | some opened =>
      have named : opened.orderId = row.orderId := Table.key_of_get next
      have later := runOrders_known redact sha256 ops (named ▸ next)
      rw [op.exec_absent redact sha256 absent, Option.filter_eq_some_iff] at next
      rw [← named] at known
      exact ⟨[], op, ops, opened, rfl, next.1, fun _ listed => absurd listed List.not_mem_nil,
        Option.some.inj (known.symm.trans later)⟩
    | none =>
      obtain ⟨before, other, after, opened, rfl, opens, free, same⟩ := ih next known
      refine ⟨op :: before, other, after, opened, rfl, opens, ?_, same⟩
      intro earlier listed first recorded
      rcases List.mem_cons.mp listed with rfl | listed
      · rw [earlier.exec_absent redact sha256 absent, Option.filter_eq_none_iff] at next
        exact fun same => next first recorded (decide_eq_true same)
      · exact free earlier listed first recorded

theorem opens_unsatisfied {op : OrderOp} (opens : op.opens redact sha256 = some row) :
    row.satisfiedAt = none := by
  cases op with
  | expect request uuid now =>
    cases opened : request.opened redact sha256 uuid now with
    | error e => exact absurd opens (by simp [OrderOp.opens, opened, Except.toOption])
    | ok first =>
      simp only [OrderOp.opens, opened, Except.toOption, Option.some.injEq] at opens
      exact opens ▸ OrderRequest.opened_ok redact sha256 opened
  | satisfy => exact absurd opens (by simp [OrderOp.opens])

/-- The unmet orders are those that were recorded, and that no report met since. -/
theorem unmet_iff (ops : List OrderOp) :
    row ∈ (runOrders redact sha256 .empty ops).rows ∧ row.satisfiedAt = none ↔
      Unmet redact sha256 ops row := by
  constructor
  · rintro ⟨mem, open_⟩
    obtain ⟨before, op, after, opened, rfl, opens, free, rfl⟩ :=
      opened_of_get redact sha256 ops rfl (Table.get_of_mem mem)
    have fresh := opens_unsatisfied redact sha256 opens
    have unmet : after.findSome? (·.meets opened) = none := by
      simpa [fresh] using open_
    have same : ({ opened with
        satisfiedAt := opened.satisfiedAt.or (after.findSome? (·.meets opened)) } :
          OrderExpectation) = opened := by
      have value : opened.satisfiedAt.or (after.findSome? (·.meets opened)) =
          opened.satisfiedAt := by
        rw [unmet, Option.or_none]
      rw [value]
    rw [same] at free ⊢
    exact ⟨before, op, after, rfl, opens, free, List.findSome?_eq_none_iff.mp unmet⟩
  · rintro ⟨before, op, after, rfl, opens, free, unmet⟩
    have fresh := opens_unsatisfied redact sha256 opens
    let first := runOrders redact sha256 .empty before
    have absent : first.get row.orderId = none :=
      runOrders_absent redact sha256 before rfl free
    have recorded : (op.exec redact sha256 first).get row.orderId = some row := by
      rw [op.exec_absent redact sha256 absent, opens, Option.filter_some,
        if_pos (decide_eq_true rfl)]
    have known := runOrders_known redact sha256 after recorded
    rw [fresh, Option.none_or, List.findSome?_eq_none_iff.mpr unmet] at known
    have last : runOrders redact sha256 .empty (before ++ op :: after) =
        runOrders redact sha256 (op.exec redact sha256 first) after :=
      runOrders_append redact sha256 .empty before (op :: after)
    have same : ({ row with satisfiedAt := none } : OrderExpectation) = row := by
      rw [← fresh]
    rw [same] at known
    rw [last]
    exact ⟨Table.mem_of_get known, fresh⟩

/-! ### The bounded read -/

variable (uuid : ℕ → String)

def outstanding (mail : MailStore) (book : OrderBook) (idleRecipients : Option (List SessionId)) :
    List Fleet.Delivery :=
  (mail.escalations.rows.filter (·.status = .parked)).map (parkedDelivery uuid) ++
    (book.rows.filter (·.passes none true idleRecipients)).map orderDelivery

/-- Of everything outstanding the newest is shown, and the rest is told by one row. -/
def Accounted (outstanding : List Fleet.Delivery) (limit : ℕ) (rows : List Fleet.Delivery) : Prop :=
  ∃ hidden shown, outstanding.Perm (hidden ++ shown) ∧
    shown.length = min limit outstanding.length ∧
    shown.Pairwise (fun a b => a.createdAt ≤ b.createdAt) ∧
    (∀ old ∈ hidden, ∀ new ∈ shown, old.createdAt ≤ new.createdAt) ∧
    rows = if hidden = [] then shown else suppressedRow hidden.length shown :: shown

theorem older_than_last {α : Type} {n : ℕ} {f : α → Fleet.Delivery} {time : α → Time}
    (times : ∀ a, (f a).createdAt = time a) {rows older : List α} {old : α}
    {read : List Fleet.Delivery}
    (parts : rows.Perm (older ++ newest n time rows))
    (newer : ∀ old ∈ older, ∀ new ∈ newest n time rows, time old ≤ time new) (mem : old ∈ older)
    (within : ((newest n time rows).map f).Subperm read)
    (sorted : read.Pairwise fun a b => a.createdAt ≤ b.createdAt) {new : Fleet.Delivery}
    (mem' : new ∈ read.drop (read.length - n)) : (f old).createdAt ≤ new.createdAt := by
  have full : ((newest n time rows).map f).length = n := by
    rw [List.length_map]
    exact newest_full parts mem
  have few : (read.drop (read.length - n)).length ≤ n := by
    rw [List.length_drop]
    omega
  have least : ∀ row ∈ (newest n time rows).map f, (f old).createdAt ≤ row.createdAt := by
    intro row listed
    obtain ⟨last, read, rfl⟩ := List.mem_map.mp listed
    rw [times, times]
    exact newer old mem last read
  exact older_than_shown full within (List.take_append_drop _ read).symm few sorted least mem'

theorem last_of_two {α β : Type} {n : ℕ} {f : α → Fleet.Delivery} {g : β → Fleet.Delivery}
    {time : α → Time} {time' : β → Time} (times : ∀ a, (f a).createdAt = time a)
    (times' : ∀ b, (g b).createdAt = time' b) (first : List α) (second : List β)
    {read : List Fleet.Delivery}
    (perm : read.Perm ((newest n time first).map f ++ (newest n time' second).map g))
    (sorted : read.Pairwise fun a b => a.createdAt ≤ b.createdAt) :
    ∃ hidden, (first.map f ++ second.map g).Perm (hidden ++ read.drop (read.length - n)) ∧
      ∀ old ∈ hidden, ∀ new ∈ read.drop (read.length - n), old.createdAt ≤ new.createdAt := by
  obtain ⟨_, _, older, parts, newer⟩ := newest_split n time first
  obtain ⟨_, _, older', parts', newer'⟩ := newest_split n time' second
  have ends := (List.take_append_drop (read.length - n) read).symm
  have within : ((newest n time first).map f).Subperm read :=
    (List.sublist_append_left _ _).subperm.trans perm.symm.subperm
  have within' : ((newest n time' second).map g).Subperm read :=
    (List.sublist_append_right _ _).subperm.trans perm.symm.subperm
  refine ⟨older.map f ++ older'.map g ++ read.take (read.length - n), ?_, ?_⟩
  · rw [List.append_assoc, ← ends]
    have whole := (parts.map f).append (parts'.map g)
    rw [List.map_append, List.map_append] at whole
    refine whole.trans (List.Perm.trans ?_ (perm.symm.append_left _))
    rw [List.perm_iff_count]
    intro delivery
    simp only [List.count_append]
    omega
  · intro old mem new mem'
    rcases List.mem_append.mp mem with mem | mem
    · rcases List.mem_append.mp mem with mem | mem
      · obtain ⟨row, left, rfl⟩ := List.mem_map.mp mem
        exact older_than_last times parts newer left within sorted mem'
      · obtain ⟨row, left, rfl⟩ := List.mem_map.mp mem
        exact older_than_last times' parts' newer' left within' sorted mem'
    · exact (List.pairwise_append.mp (ends ▸ sorted)).2.2 old mem new mem'

theorem deliveries_sorted (deliveries : List Fleet.Delivery) :
    (deliveries.insertionSort fun a b =>
      toLex (a.createdAt, a.id) ≤ toLex (b.createdAt, b.id)).Pairwise
        fun a b => a.createdAt ≤ b.createdAt := by
  have : Std.Total fun a b : Fleet.Delivery =>
      toLex (a.createdAt, a.id) ≤ toLex (b.createdAt, b.id) := ⟨fun _ _ => le_total _ _⟩
  have : IsTrans Fleet.Delivery fun a b =>
      toLex (a.createdAt, a.id) ≤ toLex (b.createdAt, b.id) :=
    ⟨fun _ _ _ first second => first.trans second⟩
  have lexical := List.pairwise_insertionSort (fun a b : Fleet.Delivery =>
    toLex (a.createdAt, a.id) ≤ toLex (b.createdAt, b.id)) deliveries
  exact lexical.imp fun before => Prod.Lex.monotone_fst _ _ before

theorem unackedCounts_eq (mail : MailStore) (book : OrderBook)
    (idleRecipients : Option (List SessionId)) : unackedCounts mail book idleRecipients =
      ((mail.escalations.rows.filter (·.status = .parked)).length,
        (book.rows.filter (·.passes none true idleRecipients)).length) := by
  simp only [unackedCounts, List.countP_eq_length_filter]

theorem unacked_accounted (mail : MailStore) (book : OrderBook)
    (idleRecipients : Option (List SessionId)) {limit : ℤ} (positive : 1 ≤ limit)
    (bounded : limit ≤ 1000) :
    ∃ rows, unackedDeliveries uuid mail book limit idleRecipients = .ok rows ∧
      Accounted (outstanding uuid mail book idleRecipients) limit.toNat rows := by
  obtain ⟨n, rfl⟩ := Int.eq_ofNat_of_zero_le (by omega : 0 ≤ limit)
  let parkedRows := mail.escalations.rows.filter (·.status = .parked)
  let unmetRows := book.rows.filter (·.passes none true idleRecipients)
  let read := ((newest n (·.createdAt) parkedRows).map (parkedDelivery uuid) ++
    (newest n (·.createdAt) unmetRows).map orderDelivery).insertionSort
      fun a b => toLex (a.createdAt, a.id) ≤ toLex (b.createdAt, b.id)
  have perm : read.Perm ((newest n (·.createdAt) parkedRows).map (parkedDelivery uuid) ++
      (newest n (·.createdAt) unmetRows).map orderDelivery) := List.perm_insertionSort _ _
  have sorted : read.Pairwise fun a b => a.createdAt ≤ b.createdAt := deliveries_sorted _
  obtain ⟨hidden, whole, newer⟩ := last_of_two (fun _ => rfl) (fun _ => rfl) parkedRows unmetRows
    perm sorted
  have parked := (newest_split n (·.createdAt) parkedRows).2.1
  have unmet := (newest_split n (·.createdAt) unmetRows).2.1
  have length := perm.length_eq
  have total := whole.length_eq
  simp only [List.length_append, List.length_map, List.length_drop] at length total
  have rest : (hidden.length : ℤ) =
      (parkedRows.length + unmetRows.length : ℕ) - (read.drop (read.length - n)).length := by
    rw [List.length_drop]
    omega
  have counted : unackedCounts mail book idleRecipients =
      (parkedRows.length, unmetRows.length) := unackedCounts_eq mail book idleRecipients
  have ran : unackedDeliveries uuid mail book n idleRecipients =
      if (hidden.length : ℤ) ≤ 0 then .ok (read.drop (read.length - n))
      else .ok (suppressedRow hidden.length (read.drop (read.length - n)) ::
        read.drop (read.length - n)) := by
    have admitted : ¬ ((n : ℤ) < 1 ∨ 1000 < (n : ℤ)) := by omega
    have opened : ¬ (n : ℤ) < 1 := by omega
    rw [rest]
    simp only [unackedDeliveries, pending, orders, counted, if_neg admitted, if_neg opened]
    rfl
  refine ⟨if hidden = [] then read.drop (read.length - n)
    else suppressedRow hidden.length (read.drop (read.length - n)) ::
      read.drop (read.length - n), ?_, hidden, read.drop (read.length - n), whole, ?_,
    sorted.sublist (List.drop_sublist _ _), newer, rfl⟩
  · rw [ran]
    by_cases all : hidden = []
    · rw [if_pos (by simp [all]), if_pos all]
    · have some_ := List.length_pos_iff.mpr all
      rw [if_neg (by omega), if_neg all]
  · have all : (outstanding uuid mail book idleRecipients).length =
        parkedRows.length + unmetRows.length := by
      simp only [outstanding, List.length_append, List.length_map]
      rfl
    rw [all, List.length_drop, Int.toNat_natCast]
    omega

theorem mem_outstanding (ops : List OrderOp) (mail : MailStore)
    (idleRecipients : Option (List SessionId)) (delivery : Fleet.Delivery) :
    delivery ∈ outstanding uuid mail (runOrders redact sha256 .empty ops) idleRecipients ↔
      (∃ row ∈ mail.escalations.rows, row.status = .parked ∧ delivery = parkedDelivery uuid row) ∨
      ∃ row, Unmet redact sha256 ops row ∧ idleRecipients.all (row.recipientSessionId ∈ ·) ∧
        delivery = orderDelivery row := by
  have unmet (row : OrderExpectation) : row ∈ (runOrders redact sha256 .empty ops).rows ∧
      row.passes none true idleRecipients = true ↔
        Unmet redact sha256 ops row ∧ idleRecipients.all (row.recipientSessionId ∈ ·) := by
    rw [← unmet_iff]
    simp only [OrderExpectation.passes, Option.all_none, Bool.true_and, Bool.not_true,
      Bool.false_or, Bool.and_eq_true, Option.isNone_iff_eq_none]
    tauto
  simp only [outstanding, List.mem_append, List.mem_map, List.mem_filter, unmet,
    decide_eq_true_eq, @eq_comm Fleet.Delivery delivery]
  simp only [and_assoc]

/-- After any run of orders and reports, the inbox of an operator accounts for every escalation that
is parked and every order that was recorded and not met since. -/
theorem inbox_accounted (ops : List OrderOp) (mail : MailStore)
    (idleRecipients : Option (List SessionId)) (limit : ℤ) :
    (∀ delivery,
      delivery ∈ outstanding uuid mail (runOrders redact sha256 .empty ops) idleRecipients ↔
        (∃ row ∈ mail.escalations.rows, row.status = .parked ∧
          delivery = parkedDelivery uuid row) ∨
        ∃ row, Unmet redact sha256 ops row ∧ idleRecipients.all (row.recipientSessionId ∈ ·) ∧
          delivery = orderDelivery row) ∧
    if 1 ≤ limit ∧ limit ≤ 1000 then
      ∃ rows, unackedDeliveries uuid mail (runOrders redact sha256 .empty ops) limit
          idleRecipients = .ok rows ∧
        Accounted (outstanding uuid mail (runOrders redact sha256 .empty ops) idleRecipients)
          limit.toNat rows
    else ∃ e, unackedDeliveries uuid mail (runOrders redact sha256 .empty ops) limit
      idleRecipients = .error e := by
  refine ⟨mem_outstanding redact sha256 uuid ops mail idleRecipients, ?_⟩
  split
  · rename_i admitted
    exact unacked_accounted uuid mail _ idleRecipients admitted.1 admitted.2
  · rename_i refused
    by_cases low : limit < 1
    · refine ⟨"Unacknowledged delivery limit must be positive", ?_⟩
      simp only [unackedDeliveries, if_pos low]
      rfl
    · have high : limit < 1 ∨ 1000 < limit := by omega
      refine ⟨"Escalation pending limit must be between 1 and 1000", ?_⟩
      simp only [unackedDeliveries, pending, if_neg low, if_pos high]
      rfl

/-- Three orders, one of them met, read one at a time. -/
example : (unackedDeliveries (fun n => toString n) .empty (runOrders .ok id .empty
    [.expect ⟨some "a", none, "s", "one"⟩ "" 1, .expect ⟨some "b", none, "t", "two"⟩ "" 2,
      .satisfy "s" none 3, .expect ⟨none, none, "s", "three"⟩ "u" 4]) 1 none).map
        (·.map fun row => (row.id, row.summary)) =
    .ok [("suppressed", "1 older unacknowledged deliveries suppressed"), ("order:u", "three")] := by
  decide +kernel

end SightMesh
