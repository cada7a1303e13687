import SightMesh.Properties.RunLife

/-! The receipt of a run against its loss. A pass reads the receipt first and looks for the process
after it, so that a receipt written and a process gone in between make it record a loss. -/
namespace SightMesh.Escalation

open Concurrency Python

variable {γ β : Type} {e : Runtime} {y : Outside γ}

/-- The process of a run, and the valid receipt it leaves. -/
structure Runner (e : Runtime) where
  run : ExternalRun
  pid : ℤ
  fingerprint : String
  raw : Bytes
  receipt : Receipt
  valid : receiptOf e run raw = .ok receipt

namespace Runner

variable (r : Runner e) {s : MailShared (Host γ)} {row next : ExternalRun}

def alive (h : Host γ) : Bool := h.processes r.pid = some r.fingerprint

def written (h : Host γ) : Bool := h.files r.run.receiptPath = some r.raw

/-- The bytes are the receipt of the runner, or no receipt of the run. -/
def honest (raw : Bytes) : Bool := raw = r.raw || (receiptOf e r.run raw).toOption.isNone

def keeps (s : MailShared (Host γ)) : MailEvent → Bool
  | .commit (.moveRun id (.bind pid fingerprint) _ _) _ =>
    id ≠ r.run.subscriptionId || pid = r.pid && fingerprint = r.fingerprint
  | .call (.writeFile path raw) _ =>
    path ≠ r.run.receiptPath || raw = r.raw || !r.written s.env && r.honest raw
  | .call (.readReceipt path) _ =>
    path ≠ r.run.receiptPath || (s.env.files path).all r.honest
  | .call (.exitProcess pid) _ => pid ≠ r.pid || !r.alive s.env || r.written s.env
  | _ => true

/-- No probe of the run fails, and none comes after the receipt is written and the process gone. -/
def seen (s : MailShared (Host γ)) : MailEvent → Bool
  | .call (.observe (.live id) pid) answer =>
    id ≠ r.run.subscriptionId || answer = s.env.processes pid && (!r.written s.env || r.alive s.env)
  | _ => true

/-- What a run keeps whose steps behave. -/
structure Held (s : MailShared (Host γ)) : Prop where
  bound : ∀ row, s.store.run r.run.subscriptionId = some row →
    row.pid = none ∨ row.pid = some r.pid ∧ row.processFingerprint = some r.fingerprint
  lost : ∀ row, s.store.run r.run.subscriptionId = some row → row.state = .lost →
    row.receiptDigest = none
  there : ∀ site, .call (.observe site r.pid) (some r.fingerprint) ∈ s.trace →
    r.alive s.env ∨ r.written s.env
  reads : ∀ raw, .call (.readReceipt r.run.receiptPath) (.ok raw) ∈ s.trace → r.honest raw
  probes : ∀ pid answer, .call (.observe (.live r.run.subscriptionId) pid) answer ∈ s.trace →
    answer = some r.fingerprint

variable {r}

/-! ### Transactions -/

theorem Held.commit {tx : MailTx β} {answer : β} (held : r.Held s) (sane : Sane e s)
    (issued : Issued e s tx) (keeps : r.keeps s (.commit tx answer)) :
    r.Held (MailShared.after s tx) := by
  have change := runChange tx s.store r.run.subscriptionId
  have binds : ∀ pid fingerprint expected,
      tx.moves = some (r.run.subscriptionId, .bind pid fingerprint, expected) →
        pid = r.pid ∧ fingerprint = r.fingerprint := by
    intro pid fingerprint expected moves
    cases tx with
    | moveRun id move version now =>
      cases moves
      simpa [Runner.keeps] using keeps
    | _ => exact nomatch moves
  have opened : ∀ row, s.store.run r.run.subscriptionId = some row → row.state ∈ openStates →
      row.receiptDigest = none := fun row known here => ((sane.rows _ row known).opened here).2
  have rows : (∀ row, (tx.exec s.store).1.run r.run.subscriptionId = some row →
      row.pid = none ∨ row.pid = some r.pid ∧ row.processFingerprint = some r.fingerprint) ∧
      ∀ row, (tx.exec s.store).1.run r.run.subscriptionId = some row → row.state = .lost →
        row.receiptDigest = none := by
    have bound := held.bound
    have lost := held.lost
    generalize s.store.run r.run.subscriptionId = row at change bound lost opened
    generalize (tx.exec s.store).1.run r.run.subscriptionId = next at change ⊢
    generalize s.store.lease r.run.subscriptionId = lease at change
    generalize (tx.exec s.store).1.lease r.run.subscriptionId = lease' at change
    cases change with
    | kept => exact ⟨bound, lost⟩
    | subscribed inserts named =>
      have starts := issued.subscribes inserts
      simp [starts.pid, starts.state]
    | @moved row lease move now issues guard =>
      have before := bound row rfl
      constructor
      · rintro _ ⟨⟩
        cases move with
        | bind pid fingerprint =>
          obtain ⟨rfl, rfl⟩ := binds _ _ _ issues
          exact .inr ⟨rfl, rfl⟩
        | _ => exact before
      · rintro _ ⟨⟩ here
        cases move with
        | lost diagnostic => exact opened row rfl guard
        | _ => exact nomatch here
    | @diagnosed row =>
      constructor
      · rintro _ ⟨⟩
        exact bound row rfl
      · rintro _ ⟨⟩
        exact lost row rfl
    | @notified row =>
      constructor
      · rintro _ ⟨⟩
        exact bound row rfl
      · rintro _ ⟨⟩ here
        exact nomatch here
  constructor
  · exact rows.1
  · exact rows.2
  · intro site observed
    exact held.there site (by simpa using observed)
  · intro raw read
    exact held.reads raw (by simpa using read)
  · intro pid answer probed
    exact held.probes pid answer (by simpa using probed)

/-! ### Questions -/

theorem stays {h h' : Host γ} {q : MailQuery β} {answer : β} (answers : h.answers y q answer h')
    (keeps : r.keeps s (.call q answer)) (same : s.env = h) (before : r.alive h ∨ r.written h) :
    r.alive h' ∨ r.written h' := by
  subst same
  have unmoved (files : h'.files = s.env.files) (processes : h'.processes = s.env.processes) :
      r.alive h' ∨ r.written h' := by
    simpa only [alive, written, files, processes] using before
  cases q with
  | readReceipt path =>
    obtain ⟨rfl, _⟩ := answers
    exact before
  | observe site pid =>
    obtain ⟨rfl, _⟩ := answers
    exact before
  | writeFile path raw =>
    obtain rfl : h' = _ := answers
    rcases before with running | there
    · exact .inl running
    · right
      by_cases path_eq : path = r.run.receiptPath
      · subst path_eq
        have raw_eq : raw = r.raw := by simpa [Runner.keeps, there] using keeps
        simp [written, Host.write, raw_eq]
      · simpa [written, Host.write, Function.update_of_ne (Ne.symm path_eq)] using there
  | startProcess pid fingerprint =>
    obtain rfl : h' = _ := answers
    rcases before with running | there
    · left
      unfold Host.start
      split
      · rename_i free
        have apart : r.pid ≠ pid := by
          rintro rfl
          simp [alive, free] at running
        simpa [alive, Function.update_of_ne apart] using running
      · exact running
    · right
      unfold Host.start
      split
      · exact there
      · exact there
  | exitProcess pid =>
    obtain rfl : h' = _ := answers
    rcases before with running | there
    · by_cases pid_eq : pid = r.pid
      · have there : r.written s.env := by simpa [Runner.keeps, pid_eq, running] using keeps
        exact .inr there
      · left
        simpa [alive, Host.exit, Function.update_of_ne (Ne.symm pid_eq)] using running
    · exact .inr there
  | _ => exact unmoved answers.1 answers.2.1

theorem Held.probe {pid : ℤ} {answer : Option String} (held : r.Held s) (sane : Sane e s)
    (asks : Asks e s (.observe (.live r.run.subscriptionId) pid))
    (seen : r.seen s (.call (.observe (.live r.run.subscriptionId) pid) answer)) :
    answer = some r.fingerprint := by
  obtain ⟨row, known, bound, _⟩ := asks
  obtain ⟨_, fingerprint, _, named, observed⟩ := (sane.rows _ row known).bound pid bound
  rcases held.bound row known with free | ⟨same, there⟩
  · exact nomatch free.symm.trans bound
  · obtain rfl := Option.some.inj (same.symm.trans bound)
    obtain rfl := Option.some.inj (named.symm.trans there)
    simp only [Runner.seen, ne_eq, not_true_eq_false, decide_false, Bool.false_or,
      Bool.and_eq_true, decide_eq_true_eq, Bool.or_eq_true, Bool.not_eq_true'] at seen
    obtain ⟨answered, early⟩ := seen
    have running : r.alive s.env := by
      rcases held.there .bind observed with running | receipt
      · exact running
      · exact early.resolve_left (by simp [receipt])
    rw [answered]
    simpa [alive] using running

theorem Held.call {q : MailQuery β} {answer : β} {env : Host γ} (held : r.Held s)
    (sane : Sane e s) (asks : Asks e s q) (answers : s.env.answers y q answer env)
    (keeps : r.keeps s (.call q answer)) (seen : r.seen s (.call q answer)) :
    r.Held (s.call q answer env) where
  bound := held.bound
  lost := held.lost
  there site observed := by
    apply stays answers keeps rfl
    rcases List.mem_cons.mp observed with same | before
    · cases same
      obtain ⟨_, found | failed⟩ := answers
      · exact .inl (by simpa [alive] using found.symm)
      · exact nomatch failed
    · exact held.there site before
  reads raw read := by
    rcases List.mem_cons.mp read with same | before
    · cases same
      obtain ⟨_, found | ⟨message, failed⟩⟩ := answers
      · unfold Host.read at found
        split at found
        · rename_i there
          cases found
          simpa [Runner.keeps, there] using keeps
        · exact nomatch found
      · exact nomatch failed
    · exact held.reads raw before
  probes pid seen' probed := by
    rcases List.mem_cons.mp probed with same | before
    · cases same
      exact held.probe sane asks seen
    · exact held.probes pid seen' before

/-! ### Runs -/

theorem Held.reached {w : BridgeWorld (Host γ)}
    (h : Reachable (bridge e y.hosted) (fun s ev => r.keeps s ev && r.seen s ev) w) :
    r.Held w.shared := by
  have free {w : BridgeWorld (Host γ)} {ok : MailShared (Host γ) → MailEvent → Prop}
      (h : Reachable (bridge e y.hosted) ok w) : Reachable (bridge e y.hosted) anyEvent w :=
    h.mono fun _ _ _ => trivial
  refine h.invariant r.Held ?_ ?_ ?_
  · rintro _ env rfl
    constructor
    · exact fun row known => nomatch known
    · exact fun row known => nomatch known
    · exact fun site observed => nomatch observed
    · exact fun raw read => nomatch read
    · exact fun pid answer probed => nomatch probed
  · intro w p β tx k before at_tx allowed held
    have keeps := (Bool.and_eq_true_iff.mp allowed).1
    exact held.commit (sane (free before)) ((bookkept (free before)).pending_commit at_tx) keeps
  · intro w p β q k answer env before at_q answers allowed held
    obtain ⟨keeps, seen⟩ := Bool.and_eq_true_iff.mp allowed
    exact held.call (sane (free before)) ((bookkept (free before)).pending_call at_q) answers keeps
      seen

end Runner

/-- What the row of a run says is what the receipt of its runner says. -/
def Runner.Recorded (r : Runner e) (row : ExternalRun) : Prop :=
  row.state ≠ .lost ∧ ∀ outcome, row.outcome = some outcome → outcome = r.receipt.outcome

/-- A run whose runner writes its receipt and exits after it is never recorded as lost, and what is
recorded is the outcome of the receipt, as long as no probe of the run fails or comes after the
receipt is written and the process gone. -/
theorem receipts_recorded (r : Runner e) {w : BridgeWorld (Host γ)}
    (h : Reachable (bridge e y.hosted) (fun s ev => r.keeps s ev && r.seen s ev) w)
    {row : ExternalRun} (known : w.shared.store.run r.run.subscriptionId = some row)
    (same : row.toRunIdentity = r.run.toRunIdentity) :
    r.Recorded row := by
  have held := Runner.Held.reached h
  have valid := (sane (h.mono fun _ _ _ => trivial)).rows _ row known
  have found : ¬ Vanished w.shared.trace row := by
    rintro ⟨pid, fingerprint, seen, bound, named, looked, gone⟩
    have probed : seen = some r.fingerprint := by
      apply held.probes pid
      rwa [MailStore.key_of_run known] at looked
    rcases held.bound row known with free | ⟨_, there⟩
    · exact nomatch free.symm.trans bound
    · exact gone (probed.trans (there.symm.trans named))
  constructor
  · intro lost
    rcases valid.settled (by rw [lost]; decide) with ⟨digest, _, digested, _⟩ | ⟨_, _, vanished⟩
    · exact nomatch (held.lost row known lost).symm.trans digested
    · exact found vanished
  · intro outcome told
    by_cases opened : row.state ∈ openStates
    · exact nomatch (valid.opened opened).1.symm.trans told
    · rcases valid.settled opened with ⟨digest, recorded, _, there, raw, read, parsed⟩ |
        ⟨_, _, vanished⟩
      · obtain rfl := Option.some.inj (there.symm.trans told)
        have path : row.receiptPath = r.run.receiptPath := congrArg RunIdentity.receiptPath same
        rw [receiptOf_congr e same] at parsed
        have honest := held.reads raw (path ▸ read)
        simp only [Runner.honest, Bool.or_eq_true, decide_eq_true_eq] at honest
        rcases honest with rfl | invalid
        · rw [Except.ok.inj (r.valid.symm.trans parsed)]
        · rw [parsed] at invalid
          exact nomatch invalid
      · exact absurd vanished found

/-! ### Runs of one subscription -/

def boundRunner : Runner scriptRuntime where
  run := subscribedRow scriptRuntime "1" "token" "/output" (receiptPathOf "/output") "run" "parent"
    none 3
  pid := 7
  fingerprint := "start"
  raw := completedReceipt
  receipt := ⟨"completed", scriptRuntime.digest completedReceipt⟩
  valid := by decide +kernel

set_option maxRecDepth 100000 in
theorem bound_receipt_recorded : ∃ row,
    (MailScript.calm.run boundRun boundRunTold).shared.store.run "1" = some row ∧
      row.outcome = some "completed" ∧ boundRunner.Recorded row := by
  have told : ((MailScript.calm.run boundRun boundRunTold).shared.store.run "1").map
      (fun row => (row.toRunIdentity, row.outcome)) =
        some (boundRunner.run.toRunIdentity, some "completed") := by decide +kernel
  obtain ⟨row, known, same⟩ := Option.map_eq_some_iff.mp told
  obtain ⟨identity, outcome⟩ := Prod.mk.inj same
  have passes : MailScript.calm.allows (fun s ev => boundRunner.keeps s ev && boundRunner.seen s ev)
      boundRun boundRunTold := by decide +kernel
  have reached := MailScript.calm.run_allowed boundRun_known passes
  exact ⟨row, known, outcome, receipts_recorded boundRunner reached known identity⟩

/-- The pass reads no receipt; the runner writes it and exits; the pass looks for the process. -/
def overtakenPass : List Turn :=
  steps 0 10 ++ steps 1 7 ++ steps 2 2 ++ steps 1 2 ++ steps 2 4

set_option maxRecDepth 100000 in
theorem receipt_overtakes_pass : ¬ ∀ (r : Runner scriptRuntime) (w : BridgeWorld (Host ℕ)),
    Reachable MailScript.calm.bridged (fun s ev => r.keeps s ev) w →
      ∀ row, w.shared.store.run r.run.subscriptionId = some row →
        row.toRunIdentity = r.run.toRunIdentity → r.Recorded row := by
  intro all
  have lost : ((MailScript.calm.run boundRun overtakenPass).shared.store.run "1").map
      (fun row => (row.toRunIdentity, row.state)) =
        some (boundRunner.run.toRunIdentity, .lost) := by decide +kernel
  obtain ⟨row, known, same⟩ := Option.map_eq_some_iff.mp lost
  obtain ⟨identity, state⟩ := Prod.mk.inj same
  have passes : MailScript.calm.allows boundRunner.keeps boundRun overtakenPass := by
    decide +kernel
  have reached := MailScript.calm.run_allowed boundRun_known passes
  exact (all boundRunner _ reached row known identity).1 state

end SightMesh.Escalation
