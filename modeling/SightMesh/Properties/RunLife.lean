import SightMesh.Escalation.Hosts
import SightMesh.Escalation.Notices

/-! The life of an external run, over every run of the bridge. -/
namespace SightMesh.Escalation

open Concurrency Python

variable {γ β : Type} {e : Runtime} {x : Outside γ} {s : MailShared γ} {row next : ExternalRun}

/-- How far a life has come. -/
def RunState.stage : RunState → ℕ
  | subscribed => 0
  | running => 1
  | terminal | lost => 2
  | delivering => 3
  | notified => 4

/-- What one step may make of the row of a run, whose state moves as `order` says. -/
def Advances (order : RunState → RunState → Prop) : Option ExternalRun → Option ExternalRun → Prop
  | none, none => True
  | none, some next => next.state = .subscribed
  | some row, some next =>
    (next.state = row.state ∨ order row.state next.state) ∧
      (∀ outcome, row.outcome = some outcome → next.outcome = some outcome) ∧
      ∀ digest, row.receiptDigest = some digest → next.receiptDigest = some digest
  | some _, none => False

/-- What holds of every external run in a world, and of every step out of it. -/
structure LifeKept (order : RunState → RunState → Prop) (e : Runtime) (x : Outside γ)
    (w : BridgeWorld γ) : Prop where
  advances : ∀ w', Step (bridge e x) anyEvent w w' → ∀ id,
    Advances order (w.shared.store.run id) (w'.shared.store.run id)
  leased : ∀ id, Leased (w.shared.store.run id) (w.shared.store.lease id)
  sends : ∀ id target message sender key intent answer target' message' sender' key' intent' answer',
    .call (.send (.run id) target message sender key intent) answer ∈ w.shared.trace →
    .call (.send (.run id) target' message' sender' key' intent') answer' ∈ w.shared.trace →
      key = key' ∧ message = message'

theorem Advances.refl {order : RunState → RunState → Prop} (row : Option ExternalRun) :
    Advances order row row := by
  cases row with
  | none => exact trivial
  | some row => exact ⟨.inl rfl, fun _ known => known, fun _ known => known⟩

theorem ExternalRun.Before.result {trace : MailHistory} (before : row.Before next)
    (valid : row.Valid e trace) :
    (∀ outcome, row.outcome = some outcome → next.outcome = some outcome) ∧
      ∀ digest, row.receiptDigest = some digest → next.receiptDigest = some digest := by
  by_cases opened : row.state ∈ openStates
  · obtain ⟨noOutcome, noDigest⟩ := valid.opened opened
    constructor
    · exact fun outcome known => nomatch noOutcome.symm.trans known
    · exact fun digest known => nomatch noDigest.symm.trans known
  · obtain ⟨outcome, digest⟩ := before.settled opened
    constructor
    · exact fun _ known => outcome.trans known
    · exact fun _ known => digest.trans known

theorem Sane.advances {tx : MailTx β} (sane : Sane e s) (issued : Issued e s tx) (id : String) :
    Advances RunState.Follows (s.store.run id) ((tx.exec s.store).1.run id) := by
  have change := runChange tx s.store id
  have moves : ∀ row move expected, tx.moves = some (id, move, expected) →
      s.store.run id = some row → Moves e s.trace row move :=
    fun _ _ _ issues known => issued.moves issues known
  have result : ∀ row next, s.store.run id = some row → (tx.exec s.store).1.run id = some next →
      (∀ outcome, row.outcome = some outcome → next.outcome = some outcome) ∧
        ∀ digest, row.receiptDigest = some digest → next.receiptDigest = some digest := by
    intro row next known found
    obtain ⟨there, after, before⟩ := (evolves_after sane issued).rows id row known
    cases Option.some.inj (after.symm.trans found)
    exact before.result (sane.rows id row known)
  have valid := sane.rows id
  generalize s.store.run id = row at change moves result valid ⊢
  generalize (tx.exec s.store).1.run id = next at change result ⊢
  generalize s.store.lease id = lease at change
  generalize (tx.exec s.store).1.lease id = lease' at change
  cases change with
  | kept => exact .refl row
  | subscribed inserts _ => exact (issued.subscribes inserts).state
  | moved issues guard =>
    exact ⟨.inr ((valid _ rfl).follows guard (moves _ _ _ issues rfl)), result _ _ rfl rfl⟩
  | diagnosed => exact ⟨.inl rfl, result _ _ rfl rfl⟩
  | notified delivering =>
    refine ⟨.inr ?_, result _ _ rfl rfl⟩
    rw [delivering]
    exact .notified

/-- A run moves one stage at a time, but that a receipt may overtake the binding of its process; it
holds its output root until its parent is told; its outcome and the digest of its receipt are
written once; and all its messages are the same. -/
theorem external_runs_in_order {w : BridgeWorld γ} (h : Reachable (bridge e x) anyEvent w) :
    LifeKept RunState.Follows e x w where
  advances w' step id := by
    cases step with
    | commit at_tx _ => exact (sane h).advances ((bookkept h).pending_commit at_tx) id
    | call _ _ _ => exact .refl _
    | spawn _ _ _ => exact .refl _
    | lock _ _ => exact .refl _
    | unlock _ _ => exact .refl _
    | stop => exact .refl _
  leased := (sane h).leases
  sends := by
    intro id target message sender key intent answer target' message' sender' key' intent' answer' sent sent'
    obtain ⟨_, row, known, _, keyed, text⟩ := (sane h).sends _ _ _ _ _ _ _ sent
    obtain ⟨_, row', known', _, keyed', text'⟩ := (sane h).sends _ _ _ _ _ _ _ sent'
    cases Option.some.inj (known.symm.trans known')
    exact ⟨keyed.trans keyed'.symm, text.trans text'.symm⟩

/-- A step of a life is one stage, except for the receipt that comes early. -/
theorem RunState.Follows.stage {a b : RunState} (step : a.Follows b) :
    b.stage = a.stage + 1 ∨ a = .subscribed ∧ b = .terminal := by
  cases step with
  | ended opened =>
    simp only [openStates, List.mem_cons, List.not_mem_nil, or_false] at opened
    rcases opened with rfl | rfl
    · exact .inr ⟨rfl, rfl⟩
    · exact .inl rfl
  | _ => exact .inl rfl

/-! ### Runs of one subscription -/

def completedReceipt : Bytes := textBytes (jsonText (receiptJson "1" "run" "completed"))

def boundRun : List (Bridge Unit) :=
  [discard (subscribe scriptRuntime "run" "/output" "parent" none),
    runner scriptRuntime "1" "token" 7 "start" "/output/terminal-receipt.json" 0 [] completedReceipt,
    discard (reconcileOne scriptRuntime "1")]

theorem boundRun_known : ∀ op ∈ boundRun, BridgeOp scriptRuntime op := by
  simp only [boundRun, List.mem_cons, List.not_mem_nil, or_false]
  rintro op (rfl | rfl | rfl)
  · exact .subscribe ..
  · exact .runner ..
  · exact .reconcileOne ..

def boundRunTold : List Turn := steps 0 10 ++ steps 1 20 ++ steps 2 20

set_option maxRecDepth 100000 in
theorem bound_run_told :
    (MailScript.calm.run boundRun boundRunTold).shared.store.run "1" ≠ none ∧
      LifeKept RunState.Follows scriptRuntime MailScript.calm.outside.hosted
        (MailScript.calm.run boundRun boundRunTold) := by
  refine ⟨by decide +kernel, external_runs_in_order ?_⟩
  exact MailScript.calm.run_reachable boundRun_known boundRunTold

def earlyReceipt : List (Bridge Unit) :=
  [discard (subscribe scriptRuntime "run" "/output" "parent" none),
    Prog.ask (.writeFile "/output/terminal-receipt.json" completedReceipt),
    discard (reconcileOne scriptRuntime "1")]

theorem earlyReceipt_known : ∀ op ∈ earlyReceipt, BridgeOp scriptRuntime op := by
  simp only [earlyReceipt, List.mem_cons, List.not_mem_nil, or_false]
  rintro op (rfl | rfl | rfl)
  · exact .subscribe ..
  · exact .writeFile ..
  · exact .reconcileOne ..

def beforeEarlyReceipt : BridgeWorld (Host ℕ) :=
  MailScript.calm.run earlyReceipt (steps 0 10 ++ steps 1 1 ++ steps 2 3)

set_option maxRecDepth 100000 in
theorem early_receipt_skips_running : ¬ ∀ w : BridgeWorld (Host ℕ),
    Reachable MailScript.calm.bridged anyEvent w →
      LifeKept (fun a b => b.stage = a.stage + 1) scriptRuntime MailScript.calm.outside.hosted w := by
  intro all
  have reached : Reachable MailScript.calm.bridged anyEvent beforeEarlyReceipt :=
    MailScript.calm.run_reachable earlyReceipt_known _
  let later := beforeEarlyReceipt.turn MailScript.calm.bridged (Host.oracle MailScript.calm.oracle)
    (.step 2)
  have states : (beforeEarlyReceipt.shared.store.run "1").map ExternalRun.state =
        some .subscribed ∧
      (later.shared.store.run "1").map ExternalRun.state = some .terminal := by
    decide +kernel
  have step : Step MailScript.calm.bridged anyEvent beforeEarlyReceipt later := by
    refine (World.turn_step (S := MailScript.calm.bridged) MailScript.calm.sound
      beforeEarlyReceipt (.step 2) fun _ _ => trivial).resolve_left fun same => ?_
    have still : later = beforeEarlyReceipt := same
    rw [still, states.1] at states
    exact absurd states.2 (by decide)
  have advances := (all _ reached).advances later step "1"
  obtain ⟨row, known, subscribed⟩ := Option.map_eq_some_iff.mp states.1
  obtain ⟨next, found, terminal⟩ := Option.map_eq_some_iff.mp states.2
  rw [known, found] at advances
  simp [Advances, subscribed, terminal, RunState.stage] at advances

end SightMesh.Escalation
