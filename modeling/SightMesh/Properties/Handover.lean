import SightMesh.Concurrency.Attempts
import SightMesh.Programs.Sdk
import SightMesh.Properties.Succession

/-! A session's live commands handed to one successor: `transfer_ownership`, crashed anywhere and
run again any number of times. -/
namespace SightMesh

open Concurrency Database Python

variable {α : Type} {source : SessionId} {logicalKey : Option String} {db db' : Store}
  {events : List (Event Tx Query)}

/-! ### The transfer -/

/-- What neither reads the source's queue, nor forwards or cancels a command. -/
def Harmless (source : SessionId) : Event Tx Query → Prop
  | .call (.sessionCommands asked) _ => asked ≠ source
  | .call (.send .forwarded _ _ _) _ => False
  | .call (.stopExecution _ _) _ => False
  | _ => True

/-- The part of a transfer an event can belong to. -/
inductive TransferStep where
  | other | snapshot | forward | stop

def stepOf : Event Tx Query → TransferStep
  | .call (.sessionCommands _) _ => .snapshot
  | .call (.send .forwarded _ _ _) _ => .forward
  | .call (.stopExecution _ _) _ => .stop
  | _ => .other

structure Handoff (source : SessionId) where
  reason : String
  fence : Option TaskId
  beforeSpawn : Kernel Unit
  spawn : Kernel SessionId
  checks : beforeSpawn.Emits (Harmless source)
  spawns : spawn.Emits (Harmless source)

def openIo (fence : Option TaskId) (body : Kernel α) : Kernel α :=
  match fence with
  | none => body
  | some taskId => externalIo taskId body

def openCommands (rows : List NativeCommand) : List NativeCommand :=
  rows.filter fun row => orText row.state "pending" ∉ commandTerminalStates

/-- The dedupe key a command is forwarded under. -/
def forwardKey (key : String) (row : NativeCommand) : String :=
  orText row.dedupeKey (key ++ ":command:" ++ row.id)

namespace Handoff

variable (h : Handoff source)

def forward (key : String) (successor : SessionId) (commands : List NativeCommand) : Kernel Unit :=
  forEach commands fun row =>
    if row.body = "" then .ret ()
    else do
      let _ ← openIo h.fence (query (.send .forwarded successor row.body (forwardKey key row)))

def cancel (commands : List NativeCommand) : Kernel Unit :=
  forEach commands fun row =>
    match present row.executionProcessId with
    | none => .ret ()
    | some process => do
      let _ ← openIo h.fence (query (.stopExecution process ("quarantine:" ++ row.id)))

def successor (record : TerminalOwnership) : Kernel SessionId :=
  match present record.successorSessionId with
  | some linked => .ret linked
  | none => do
    h.beforeSpawn
    let spawned ← h.spawn
    if spawned = "" then throw (.succession "Successor spawn did not return a session id")
    let _ ← Prog.run (.linkSuccessor source spawned)
    return spawned

def transfer (logicalKey : Option String) : Kernel SessionId := do
  let given := orText logicalKey ("handoff:" ++ source)
  let record ← retireSession ⟨source, .superseded, h.reason, some given, none⟩
  let key := orText record.logicalKey given
  let rows ← openIo h.fence (query (.sessionCommands source))
  let successor ← h.successor record
  assertDeliverable successor
  h.forward key successor (openCommands rows)
  h.cancel (openCommands rows)
  return successor

end Handoff

/-- The replacement of a managed task is such a transfer. -/
theorem transferOwnership_eq {prepared : TaskRecord} (h : Handoff source)
    (fence : h.fence = some prepared.taskId) (reason : h.reason = "managed task replacement")
    (beforeSpawn : h.beforeSpawn = requireUnchanged prepared) :
    transferOwnership prepared source h.spawn = h.transfer
      (some ("task:" ++ prepared.taskId ++ ":epoch:" ++ toString prepared.epoch)) := by
  obtain ⟨_, _, _, spawn, _, _⟩ := h
  subst fence reason beforeSpawn
  have named : "task:" ++ prepared.taskId ++ ":epoch:" ++ toString prepared.epoch ≠ "" := by
    simp [← String.toList_inj]
  simp only [Handoff.transfer, orText_of_ne named]
  rfl

/-! ### The ownership table -/

theorem Store.KeepsTerminal.of_ownerships {a b : Store} (same : b.ownerships = a.ownerships) :
    a.KeepsTerminal b := by
  intro s row known
  refine ⟨row, ?_, .inl rfl⟩
  rw [Store.ownership, same]
  exact known

theorem Tx.exec_keepsTerminal {β : Type} (tx : Tx β) (db : Store) :
    db.KeepsTerminal (tx.exec db).1 := by
  have only := tx.exec_only db
  cases tx with
  | retire record => exact db.insertOwnership_keeps record
  | linkSuccessor source successor => exact OwnershipCall.keeps db (.linkSuccessor source successor)
  | recordLoss seen reason payload now =>
    show db.KeepsTerminal (SightMesh.recordLoss seen reason payload now db).1
    obtain ⟨e, same⟩ | ⟨e, same⟩ | ⟨marked, record, wakes, db', evidence, settled, same⟩ :=
      recordLoss_cases seen reason payload now db
    · rw [same]
      exact .refl db
    · rw [same]
      exact db.insertOwnership_keeps _
    · rw [same]
      have cohort : db' = _ := finishWithWakeWithin_only _ _ _ settled
      have after : db'.ownerships =
        (db.insertOwnership (lossOwnership seen)).1.ownerships := by rw [cohort]
      exact Store.KeepsTerminal.trans _ _ _ (db.insertOwnership_keeps _) (.of_ownerships after)
  | _ =>
    have same := congrArg Store.ownerships only
    exact .of_ownerships same

theorem Store.KeepsTerminal.successor {a b : Store} (kept : a.KeepsTerminal b) {s other : SessionId}
    (linked : a.successorOf s = some other) : b.successorOf s = some other := by
  obtain ⟨row, known, successor⟩ := Option.bind_eq_some_iff.mp linked
  obtain ⟨next, found, rfl | ⟨unlinked, _⟩⟩ := kept s row known
  · exact Option.bind_eq_some_iff.mpr ⟨next, found, successor⟩
  · exact nomatch unlinked.symm.trans successor

/-- The record a run has read, as the store goes on to have it. -/
def Store.Continues (db : Store) (s : SessionId) (record : TerminalOwnership) : Prop :=
  ∃ row, db.ownership s = some row ∧
    (row = record ∨ record.successorSessionId = none ∧ ∃ successor, row = record.linked successor)

theorem Store.Continues.later {a b : Store} {s : SessionId} {record : TerminalOwnership}
    (known : a.Continues s record) (kept : a.KeepsTerminal b) : b.Continues s record := by
  obtain ⟨row, found, rfl | ⟨unlinked, successor, rfl⟩⟩ := known
  · exact kept s row found
  · obtain ⟨next, found, rfl | ⟨open_, _⟩⟩ := kept s _ found
    · exact ⟨_, found, .inr ⟨unlinked, successor, rfl⟩⟩
    · exact nomatch open_

def Store.transferKey (db : Store) (source : SessionId) (logicalKey : Option String) : String :=
  orText ((db.ownership source).bind TerminalOwnership.logicalKey)
    (orText logicalKey ("handoff:" ++ source))

theorem Store.Continues.key {record : TerminalOwnership} (known : db.Continues source record) :
    db.transferKey source logicalKey =
      orText record.logicalKey (orText logicalKey ("handoff:" ++ source)) := by
  obtain ⟨row, found, rfl | ⟨_, successor, rfl⟩⟩ := known
  · simp [Store.transferKey, found]
  · simp [Store.transferKey, found, TerminalOwnership.linked]

/-! ### Parts of a run -/

/-- An attempt beside processes that move terminal records as the transactions do. -/
abbrev RunsTo (p : Kernel α) (db : Store) (events : List (Event Tx Query))
    (r : Option (Answer α)) (db' : Store) : Prop :=
  p.Attempt Tx.exec Store.KeepsTerminal db events r db'

theorem RunsTo.keeps {p : Kernel α} {r : Option (Answer α)} (run : RunsTo p db events r db') :
    db.KeepsTerminal db' :=
  Prog.Attempt.moves run (fun {a b c} first second => Store.KeepsTerminal.trans a b c first second)
    Tx.exec_keepsTerminal

theorem RunsTo.linked {p : Kernel α} {r : Option (Answer α)} (run : RunsTo p db events r db')
    {successor : SessionId} {record : TerminalOwnership}
    (link : .commit (.linkSuccessor source successor) (.ok record) ∈ events) :
    db'.successorOf source = some successor := by
  refine Prog.Attempt.leaves (I := fun db => db.successorOf source = some successor) run
    (fun {a b c} first second => Store.KeepsTerminal.trans a b c first second)
    Tx.exec_keepsTerminal (fun _ _ kept linked => kept.successor linked) link fun db answered => ?_
  have answered : (atomically (SightMesh.linkSuccessor source successor) db).2 = .ok record :=
    answered
  show (atomically (SightMesh.linkSuccessor source successor) db).1.successorOf source = _
  obtain ⟨m, ran⟩ | ⟨row, known, ⟨linked, ran⟩ | ⟨_, _, _, ran⟩⟩ :=
    linkSuccessor_cases source successor db
  · rw [atomically_error ran] at answered
    exact nomatch answered
  · rw [atomically_ok ran]
    exact Option.bind_eq_some_iff.mpr ⟨row, known, linked⟩
  · rw [atomically_ok ran]
    have named : source = (row.linked successor).sessionId := (Table.key_of_get known).symm
    refine Option.bind_eq_some_iff.mpr ⟨row.linked successor, ?_, rfl⟩
    rw [Store.ownership_put, if_pos named]

theorem attempt_read {view : Store → α} {a : α} (run : RunsTo (read view) db events (some (.ok a)) db') :
    ∃ mid, a = view mid ∧ mid.KeepsTerminal db' := by
  obtain ⟨mid, _, _, rfl, after⟩ := Prog.attempt_commit run
  exact ⟨mid, rfl, after⟩

/-- The record a source is retired with is its record from then on, and was so before. -/
theorem retireSession_record {wanted record : TerminalOwnership}
    (run : RunsTo (retireSession wanted) db events (some (.ok record)) db') :
    db'.Continues wanted.sessionId record := by
  obtain ⟨stop, _, ended⟩ | ⟨existing, mid, _, _, _, looked, rest⟩ :=
    Prog.Attempt.bind Store.KeepsTerminal.refl run
  · cases stop <;> exact nomatch ended
  obtain ⟨seen, rfl, after⟩ := attempt_read looked
  cases known : seen.ownership wanted.sessionId with
  | some existing =>
    rw [known] at rest
    obtain ⟨moved, _, ended | ended⟩ := rest
    · cases ended
      exact Store.KeepsTerminal.trans _ _ _ after moved _ _ known
    · exact nomatch ended
  | none =>
    rw [known] at rest
    obtain ⟨start, _, _, answer, moved⟩ := Prog.attempt_commit rest
    have answer : record = (start.insertOwnership wanted).2 := answer
    have moved : (start.insertOwnership wanted).1.KeepsTerminal db' := moved
    have held : (start.insertOwnership wanted).1.ownership wanted.sessionId = some record := by
      rw [answer]
      unfold Store.insertOwnership
      split
      · assumption
      · rw [Store.ownership_put, if_pos rfl]
    exact moved _ _ held

theorem successor_linked {h : Handoff source} {record : TerminalOwnership} {successor : SessionId}
    (known : db.Continues source record)
    (run : RunsTo (h.successor record) db events (some (.ok successor)) db') :
    db'.successorOf source = some successor := by
  have kept := run.keeps
  unfold Handoff.successor at run
  cases there : present record.successorSessionId with
  | some linked =>
    rw [there] at run
    obtain ⟨_, _, ended | ended⟩ := run
    · cases ended
      have linked := eq_some_of_present there
      obtain ⟨row, found, rfl | ⟨unlinked, _⟩⟩ := known.later kept
      · exact Option.bind_eq_some_iff.mpr ⟨row, found, linked⟩
      · exact nomatch unlinked.symm.trans linked
    · exact nomatch ended
  | none =>
    rw [there] at run
    obtain ⟨stop, _, ended⟩ | ⟨_, _, _, _, _, _, run⟩ := Prog.Attempt.bind Store.KeepsTerminal.refl run
    · cases stop <;> exact nomatch ended
    obtain ⟨stop, _, ended⟩ | ⟨spawned, _, _, _, _, _, run⟩ :=
      Prog.Attempt.bind Store.KeepsTerminal.refl run
    · cases stop <;> exact nomatch ended
    by_cases empty : spawned = ""
    · rw [if_pos empty] at run
      obtain ⟨_, _, ended | ended⟩ := run <;> exact nomatch ended
    rw [if_neg empty] at run
    obtain ⟨stop, _, ended⟩ | ⟨linked, _, _, _, _, link, last⟩ :=
      Prog.Attempt.bind Store.KeepsTerminal.refl run
    · cases stop <;> exact nomatch ended
    have now : _ = some spawned := RunsTo.linked link (by
      rw [Prog.attempt_run link]
      exact List.mem_singleton_self (Event.commit (Tx.linkSuccessor source spawned) (.ok linked)))
    obtain ⟨moved, _, ended | ended⟩ := last
    · cases ended
      exact moved.successor now
    · exact nomatch ended

/-! ### The loops -/

theorem emits_openIo {P : Event Tx Query → Prop} {fence : Option TaskId} {p : Kernel α}
    (body : p.Emits P) : (openIo fence p).Emits P := by
  cases fence with
  | none => exact body
  | some taskId => exact body.released

theorem attempt_openIo {fence : Option TaskId} {p : Kernel α} {r : Option (Answer α)} :
    RunsTo (openIo fence p) db events r db' ↔ RunsTo p db events r db' := by
  cases fence with
  | none => rfl
  | some taskId => exact Prog.attempt_released

theorem emits_forEach {P : Event Tx Query → Prop} {xs : List α} {body : α → Kernel Unit}
    (each : ∀ x ∈ xs, (body x).Emits P) : (forEach xs body).Emits P := by
  induction xs with
  | nil => trivial
  | cons x xs ih =>
    obtain ⟨first, rest⟩ := List.forall_mem_cons.mp each
    exact first.bind fun _ => ih rest

theorem forEach_rounds {xs : List α} {body : α → Kernel Unit}
    (run : RunsTo (forEach xs body) db events (some (.ok ())) db') :
    ∀ x ∈ xs, ∃ a b own, own ⊆ events ∧ RunsTo (body x) a own (some (.ok ())) b := by
  induction xs generalizing db events with
  | nil => exact fun _ mem => absurd mem List.not_mem_nil
  | cons x xs ih =>
    obtain ⟨stop, _, ended⟩ | ⟨_, mid, first, second, rfl, done, rest⟩ :=
      Prog.Attempt.bind Store.KeepsTerminal.refl run
    · cases stop <;> exact nomatch ended
    intro y mem
    obtain rfl | mem := List.mem_cons.mp mem
    · exact ⟨db, mid, first, List.subset_append_left first second, done⟩
    · obtain ⟨a, b, own, part, done⟩ := ih rest y mem
      exact ⟨a, b, own, List.Subset.trans part (List.subset_append_right first second), done⟩

def Forwards (successor : SessionId) (key : String) (commands : List NativeCommand)
    (e : Event Tx Query) : Prop :=
  ∃ row ∈ commands, row.body ≠ "" ∧
    ∃ answer, e = .call (.send .forwarded successor row.body (forwardKey key row)) answer

def Cancels (commands : List NativeCommand) (e : Event Tx Query) : Prop :=
  ∃ row ∈ commands, ∃ process, row.executionProcessId = some process ∧
    ∃ answer, e = .call (.stopExecution process ("quarantine:" ++ row.id)) answer

/-- Every command with a body has been accepted by the successor, under its one key. -/
def Forwarded (successor : SessionId) (key : String) (commands : List NativeCommand)
    (events : List (Event Tx Query)) : Prop :=
  ∀ row ∈ commands, row.body ≠ "" → ∃ id,
    .call (.send .forwarded successor row.body (forwardKey key row)) (.ok id) ∈ events

theorem Forwarded.mono {successor : SessionId} {key : String} {commands : List NativeCommand}
    {more : List (Event Tx Query)} (all : Forwarded successor key commands events)
    (grows : events ⊆ more) : Forwarded successor key commands more := by
  intro row mem body
  obtain ⟨id, sent⟩ := all row mem body
  exact ⟨id, grows sent⟩

variable {h : Handoff source} {key : String} {successor : SessionId} {commands : List NativeCommand}

theorem emits_forward : (h.forward key successor commands).Emits (Forwards successor key commands) := by
  refine emits_forEach fun row mem => ?_
  by_cases empty : row.body = ""
  · rw [if_pos empty]
    trivial
  · rw [if_neg empty]
    exact (emits_openIo (.query fun answer => ⟨row, mem, empty, answer, rfl⟩)).bind fun _ => trivial

theorem emits_cancel : (h.cancel commands).Emits (Cancels commands) := by
  refine emits_forEach fun row mem => ?_
  cases bound : present row.executionProcessId with
  | none => trivial
  | some process =>
    have process := eq_some_of_present bound
    exact (emits_openIo (.query fun answer => ⟨row, mem, _, process, answer, rfl⟩)).bind
      fun _ => trivial

theorem forward_done (run : RunsTo (h.forward key successor commands) db events (some (.ok ())) db') :
    Forwarded successor key commands events := by
  intro row mem body
  obtain ⟨a, b, own, part, done⟩ := forEach_rounds run row mem
  rw [if_neg body] at done
  obtain ⟨stop, _, ended⟩ | ⟨id, _, first, second, rfl, sent, _⟩ :=
    Prog.Attempt.bind Store.KeepsTerminal.refl done
  · cases stop <;> exact nomatch ended
  have sent := Prog.attempt_query (attempt_openIo.mp sent)
  exact ⟨id, part (List.mem_append_left _ (by simp [sent]))⟩

/-! ### Harmless parts -/

theorem emits_read {P : Event Tx Query → Prop} {view : Store → α}
    (fine : ∀ b, P (.commit (.read view) b)) : (read view).Emits P :=
  fun b => ⟨fine b, trivial⟩

theorem emits_retireSession {record : TerminalOwnership} :
    (retireSession record).Emits (Harmless source) := by
  refine (emits_read fun _ => trivial).bind fun existing => ?_
  cases existing with
  | some existing => trivial
  | none => exact fun _ => ⟨trivial, trivial⟩

theorem emits_assertDeliverable {s : SessionId} :
    (assertDeliverable s).Emits (Harmless source) := by
  refine (emits_read fun _ => trivial).bind fun existing => ?_
  cases existing <;> trivial

theorem emits_successor {record : TerminalOwnership} :
    (h.successor record).Emits (Harmless source) := by
  unfold Handoff.successor
  cases present record.successorSessionId with
  | some linked => trivial
  | none =>
    refine h.checks.bind fun _ => h.spawns.bind fun spawned => ?_
    split
    · trivial
    · exact (Prog.Emits.run fun _ => trivial).bind fun _ => trivial

/-! ### One run -/

/-- What a run did before it forwarded anything. It read the queue once, if it came so far. -/
structure Prelude (source : SessionId) (events : List (Event Tx Query)) : Prop where
  quiet : ∀ e ∈ events, Harmless source e ∨ ∃ answer, e = .call (.sessionCommands source) answer
  once : ∀ rows rows', .call (.sessionCommands source) (.ok rows) ∈ events →
    .call (.sessionCommands source) (.ok rows') ∈ events → rows = rows'

theorem Prelude.of {before asked after : List (Event Tx Query)}
    (first : ∀ e ∈ before, Harmless source e)
    (query : asked = [] ∨ ∃ answer, asked = [.call (.sessionCommands source) answer])
    (rest : ∀ e ∈ after, Harmless source e) : Prelude source (before ++ (asked ++ after)) := by
  have apart : ∀ rows, .call (.sessionCommands source) (.ok rows) ∈ before ++ (asked ++ after) →
      .call (.sessionCommands source) (.ok rows) ∈ asked := by
    intro rows mem
    simp only [List.mem_append] at mem
    obtain mem | mem | mem := mem
    · exact absurd rfl (first _ mem)
    · exact mem
    · exact absurd rfl (rest _ mem)
  constructor
  · intro e mem
    simp only [List.mem_append] at mem
    obtain mem | mem | mem := mem
    · exact .inl (first e mem)
    · obtain rfl | ⟨answer, rfl⟩ := query
      · exact absurd mem List.not_mem_nil
      · exact .inr ⟨answer, List.mem_singleton.mp mem⟩
    · exact .inl (rest e mem)
  · intro rows rows' mem mem'
    have here := apart rows mem
    have there := apart rows' mem'
    obtain rfl | ⟨answer, rfl⟩ := query
    · exact absurd here List.not_mem_nil
    · have here := List.mem_singleton.mp here
      have there := List.mem_singleton.mp there
      cases here
      cases there
      rfl

/-- How far a run came: it stopped before it forwarded, or while it forwarded to the linked
successor, or it forwarded everything and then cancelled. -/
def Came (source : SessionId) (key : String) (db' : Store) (events : List (Event Tx Query))
    (r : Option (Answer SessionId)) : Prop :=
  (∀ s, r ≠ some (.ok s)) ∧ Prelude source events ∨
  ∃ rows first sends stops successor, events = first ++ (sends ++ stops) ∧ Prelude source first ∧
    .call (.sessionCommands source) (.ok rows) ∈ first ∧
    db'.successorOf source = some successor ∧ (∀ s, r = some (.ok s) → s = successor) ∧
    (∀ e ∈ sends, Forwards successor key (openCommands rows) e) ∧
    (stops = [] ∧ (∀ s, r ≠ some (.ok s)) ∨
      Forwarded successor key (openCommands rows) sends ∧
        ∀ e ∈ stops, Cancels (openCommands rows) e)

theorem stopped_unanswered {stop : Option KernelError} (s : SessionId) :
    stop.map Except.error ≠ some (.ok s : Answer SessionId) := by
  cases stop <;> exact nofun

theorem transfer_came {r : Option (Answer SessionId)}
    (run₀ : RunsTo (h.transfer logicalKey) db events r db') :
    Came source (db'.transferKey source logicalKey) db' events r := by
  have quiet : ∀ e ∈ ([] : List (Event Tx Query)), Harmless source e := fun _ mem => nomatch mem
  obtain ⟨stop, stopped, rfl⟩ | ⟨record, db₁, e₁, _, rfl, retired, run₁⟩ :=
    Prog.Attempt.bind Store.KeepsTerminal.refl run₀
  · have only := Prelude.of (stopped.emits emits_retireSession) (.inl rfl) quiet
    exact .inl ⟨stopped_unanswered, by simpa using only⟩
  have first : ∀ e ∈ e₁, Harmless source e := retired.emits emits_retireSession
  have known : db₁.Continues source record := retireSession_record retired
  have kept := RunsTo.keeps run₁
  rw [(known.later kept).key]
  generalize orText record.logicalKey (orText logicalKey ("handoff:" ++ source)) = key at run₁ ⊢
  obtain ⟨stop, stopped, rfl⟩ | ⟨rows, db₂, e₂, _, rfl, asked, run₂⟩ :=
    Prog.Attempt.bind Store.KeepsTerminal.refl run₁
  · have only := Prelude.of first (Prog.attempt_query_once (attempt_openIo.mp stopped)) quiet
    exact .inl ⟨stopped_unanswered, by simpa using only⟩
  have moved := RunsTo.keeps asked
  obtain rfl := Prog.attempt_query (attempt_openIo.mp asked)
  obtain ⟨stop, stopped, rfl⟩ | ⟨successor, db₃, e₃, _, rfl, found, run₃⟩ :=
    Prog.Attempt.bind Store.KeepsTerminal.refl run₂
  · exact .inl ⟨stopped_unanswered,
      Prelude.of first (.inr ⟨_, rfl⟩) (stopped.emits emits_successor)⟩
  have linked := successor_linked (known.later moved) found
  have third : ∀ e ∈ e₃, Harmless source e := found.emits emits_successor
  obtain ⟨stop, stopped, rfl⟩ | ⟨_, db₄, e₄, _, rfl, allowed, run₄⟩ :=
    Prog.Attempt.bind Store.KeepsTerminal.refl run₃
  · refine .inl ⟨stopped_unanswered, Prelude.of first (.inr ⟨_, rfl⟩) ?_⟩
    exact List.forall_mem_append.mpr ⟨third, stopped.emits emits_assertDeliverable⟩
  have linked := (RunsTo.keeps allowed).successor linked
  have before : Prelude source (e₁ ++ ([.call (.sessionCommands source) (.ok rows)] ++ (e₃ ++ e₄))) :=
    .of first (.inr ⟨_, rfl⟩)
      (List.forall_mem_append.mpr ⟨third, allowed.emits emits_assertDeliverable⟩)
  have read : .call (.sessionCommands source) (.ok rows) ∈
      e₁ ++ ([.call (.sessionCommands source) (.ok rows)] ++ (e₃ ++ e₄)) := by simp
  have linked_last := (RunsTo.keeps run₄).successor linked
  refine .inr ⟨rows, e₁ ++ ([.call (.sessionCommands source) (.ok rows)] ++ (e₃ ++ e₄)), ?_⟩
  obtain ⟨stop, stopped, rfl⟩ | ⟨_, db₅, sends, _, rfl, forwarded, run₅⟩ :=
    Prog.Attempt.bind Store.KeepsTerminal.refl run₄
  · exact ⟨_, [], successor, by simp, before, read, linked_last, fun s answered =>
      absurd answered (stopped_unanswered s), stopped.emits emits_forward,
      .inl ⟨rfl, stopped_unanswered⟩⟩
  have sent := forwarded.emits emits_forward
  have all := forward_done forwarded
  obtain ⟨stop, stopped, rfl⟩ | ⟨_, db₆, stops, _, rfl, cancelled, run₆⟩ :=
    Prog.Attempt.bind Store.KeepsTerminal.refl run₅
  · exact ⟨sends, _, successor, by simp, before, read, linked_last, fun s answered =>
      absurd answered (stopped_unanswered s), sent, .inr ⟨all, stopped.emits emits_cancel⟩⟩
  · obtain ⟨_, rfl, ended⟩ := run₆
    refine ⟨sends, stops, successor, by simp, before, read, linked_last, fun s answered => ?_, sent,
      .inr ⟨all, cancelled.emits emits_cancel⟩⟩
    obtain rfl | rfl := ended
    · cases answered
      rfl
    · exact nomatch answered

/-! ### Any number of runs -/

structure TransferRun where
  events : List (Event Tx Query)
  result : Option (Answer SessionId)

/-- Runs of `transfer_ownership` for one source under one logical key, one after the other, each
free to crash. The other arguments may change from run to run. -/
inductive Transfers (source : SessionId) (logicalKey : Option String) :
    Store → List TransferRun → Store → Prop where
  | none (db : Store) : Transfers source logicalKey db [] db
  | run {db mid db' run rest} (h : Handoff source) :
      RunsTo (h.transfer logicalKey) db run.events run.result mid →
      Transfers source logicalKey mid rest db' → Transfers source logicalKey db (run :: rest) db'

/-- What a run did, as the store has it in the end: it read the source's queue at most once, it
forwarded to the linked successor only and under one key a command, it cancelled only what it had
read and after all of it was forwarded, and it completed with all of it forwarded. -/
structure TransferRun.Fair (run : TransferRun) (source : SessionId) (key : String) (db : Store) :
    Prop where
  once : ∀ rows rows', .call (.sessionCommands source) (.ok rows) ∈ run.events →
    .call (.sessionCommands source) (.ok rows') ∈ run.events → rows = rows'
  sent : ∀ successor body dedupeKey answer,
    .call (.send .forwarded successor body dedupeKey) answer ∈ run.events →
      db.successorOf source = some successor ∧
        ∃ rows, .call (.sessionCommands source) (.ok rows) ∈ run.events ∧
          ∃ row ∈ openCommands rows, body = row.body ∧ dedupeKey = forwardKey key row
  cancelled : ∀ before process stopKey answer after,
    run.events = before ++ .call (.stopExecution process stopKey) answer :: after →
      ∃ rows successor, .call (.sessionCommands source) (.ok rows) ∈ before ∧
        db.successorOf source = some successor ∧
        Forwarded successor key (openCommands rows) before ∧
        ∃ row ∈ openCommands rows, row.executionProcessId = some process ∧
          stopKey = "quarantine:" ++ row.id
  completed : ∀ successor, run.result = some (.ok successor) →
    db.successorOf source = some successor ∧
      ∃ rows, .call (.sessionCommands source) (.ok rows) ∈ run.events ∧
        Forwarded successor key (openCommands rows) run.events

/-- Up to an event that is not among the first ones, all of those have happened. -/
theorem passed_first {β : Type 1} {first rest before after : List β} {e : β} (later : e ∉ first)
    (split : first ++ rest = before ++ e :: after) :
    ∃ more, before = first ++ more ∧ rest = more ++ e :: after := by
  obtain ⟨more, here, there⟩ | ⟨more, here, there⟩ := List.append_eq_append_iff.mp split
  · exact ⟨more, here, there⟩
  · cases more with
    | nil => exact ⟨[], by simpa using here.symm, by simpa using there.symm⟩
    | cons x more =>
      obtain ⟨rfl, _⟩ := List.cons.inj there
      exact (later (by simp [here])).elim

theorem Prelude.unsent (first : Prelude source events) {successor : SessionId}
    {body dedupeKey : String} {answer : Answer (Option String)} :
    .call (.send .forwarded successor body dedupeKey) answer ∉ events := by
  intro mem
  obtain harmless | ⟨_, same⟩ := first.quiet _ mem
  · exact harmless
  · exact nomatch congrArg stepOf same

theorem Prelude.unstopped (first : Prelude source events) {process stopKey : String}
    {answer : Answer String} : .call (.stopExecution process stopKey) answer ∉ events := by
  intro mem
  obtain harmless | ⟨_, same⟩ := first.quiet _ mem
  · exact harmless
  · exact nomatch congrArg stepOf same

theorem Came.once {r : Option (Answer SessionId)} (came : Came source key db events r)
    {rows rows' : List NativeCommand} (mem : .call (.sessionCommands source) (.ok rows) ∈ events)
    (mem' : .call (.sessionCommands source) (.ok rows') ∈ events) : rows = rows' := by
  obtain ⟨_, only⟩ | ⟨queue, first, sends, stops, _, rfl, prelude_, _, _, _, sent, ended⟩ := came
  · exact only.once rows rows' mem mem'
  have there : ∀ rows, .call (.sessionCommands source) (.ok rows) ∈ first ++ (sends ++ stops) →
      .call (.sessionCommands source) (.ok rows) ∈ first := by
    intro rows mem
    simp only [List.mem_append] at mem
    obtain mem | mem | mem := mem
    · exact mem
    · obtain ⟨_, _, _, _, same⟩ := sent _ mem
      exact nomatch congrArg stepOf same
    · obtain ⟨rfl, _⟩ | ⟨_, stopped⟩ := ended
      · exact absurd mem List.not_mem_nil
      · obtain ⟨_, _, _, _, _, same⟩ := stopped _ mem
        exact nomatch congrArg stepOf same
  exact prelude_.once rows rows' (there rows mem) (there rows' mem')

theorem Came.fair {run : TransferRun} (came : Came source key db run.events run.result) :
    run.Fair source key db := by
  have single := fun rows rows' => @Came.once source db run.events key run.result came rows rows'
  obtain ⟨unanswered, only⟩ |
    ⟨rows, first, sends, stops, successor, split, prelude_, read, linked, answered, sent, ended⟩ := came
  · refine ⟨single, fun _ _ _ _ mem => (only.unsent mem).elim, ?_,
      fun s answered => (unanswered s answered).elim⟩
    intro before process stopKey answer after split
    have inside : .call (.stopExecution process stopKey) answer ∈ run.events := by simp [split]
    exact (only.unstopped inside).elim
  refine ⟨single, ?_, ?_, ?_⟩
  · intro other body dedupeKey answer mem
    simp only [split, List.mem_append] at mem
    obtain mem | mem | mem := mem
    · exact (prelude_.unsent mem).elim
    · obtain ⟨row, there, _, _, same⟩ := sent _ mem
      cases same
      exact ⟨linked, rows, by simp [split, read], row, there, rfl, rfl⟩
    · obtain ⟨rfl, _⟩ | ⟨_, stopped⟩ := ended
      · exact absurd mem List.not_mem_nil
      · obtain ⟨_, _, _, _, _, same⟩ := stopped _ mem
        exact nomatch congrArg stepOf same
  · intro before process stopKey answer after cut
    rw [split] at cut
    obtain ⟨more, rfl, cut₁⟩ := passed_first prelude_.unstopped cut
    have unsent : .call (.stopExecution process stopKey) answer ∉ sends := by
      intro mem
      obtain ⟨_, _, _, _, same⟩ := sent _ mem
      exact nomatch congrArg stepOf same
    obtain ⟨more, rfl, cut₂⟩ := passed_first unsent cut₁
    obtain ⟨rfl, _⟩ | ⟨all, stopped⟩ := ended
    · exact absurd cut₂ (by simp)
    · obtain ⟨row, there, _, bound, _, same⟩ := stopped (.call (.stopExecution process stopKey) answer)
        (by simp [cut₂])
      cases same
      refine ⟨rows, successor, by simp [read], linked, all.mono fun e mem => ?_, row, there, bound, rfl⟩
      simp [mem]
  · intro s done
    obtain ⟨_, unanswered⟩ | ⟨all, _⟩ := ended
    · exact (unanswered s done).elim
    · obtain rfl := answered s done
      refine ⟨linked, rows, by simp [split, read], all.mono ?_⟩
      rw [split]
      exact fun e mem => by simp [mem]

theorem Store.KeepsTerminal.transferKey {a b : Store} (kept : a.KeepsTerminal b)
    {successor : SessionId} (linked : a.successorOf source = some successor) :
    b.transferKey source logicalKey = a.transferKey source logicalKey := by
  obtain ⟨row, known, _⟩ := Option.bind_eq_some_iff.mp linked
  rw [Store.Continues.key (kept source row known), Store.Continues.key ⟨row, known, .inl rfl⟩]

theorem Came.later {a b : Store} {r : Option (Answer SessionId)}
    (came : Came source (a.transferKey source logicalKey) a events r) (kept : a.KeepsTerminal b) :
    Came source (b.transferKey source logicalKey) b events r := by
  obtain stopped | ⟨rows, first, sends, stops, successor, split, prelude_, read, linked, rest⟩ := came
  · exact .inl stopped
  · rw [kept.transferKey linked]
    exact .inr ⟨rows, first, sends, stops, successor, split, prelude_, read, kept.successor linked,
      rest⟩

theorem Transfers.keeps {runs : List TransferRun} (all : Transfers source logicalKey db runs db') :
    db.KeepsTerminal db' := by
  induction all with
  | none db => exact .refl db
  | run h ran _ ih => exact Store.KeepsTerminal.trans _ _ _ ran.keeps ih

/-- However often a transfer crashes and is run again, the runs link no two successors, and what
each of them forwarded, cancelled and completed is in order. -/
theorem transfers_in_order {runs : List TransferRun}
    (all : Transfers source logicalKey db runs db') :
    (∀ run ∈ runs, ∀ successor record,
      .commit (.linkSuccessor source successor) (.ok record) ∈ run.events →
        db'.successorOf source = some successor) ∧
    ∀ run ∈ runs, run.Fair source (db'.transferKey source logicalKey) db' := by
  induction all with
  | none => simp
  | @run db mid db' run rest h ran later ih =>
    have kept := later.keeps
    constructor
    · intro other mem successor record link
      obtain rfl | mem := List.mem_cons.mp mem
      · exact kept.successor (ran.linked link)
      · exact ih.1 other mem successor record link
    · intro other mem
      obtain rfl | mem := List.mem_cons.mp mem
      · exact ((transfer_came ran).later kept).fair
      · exact ih.2 other mem

def sampleHandoff : Handoff "a" where
  reason := "failover"
  fence := none
  beforeSpawn := .ret ()
  spawn := .ret "b"
  checks := trivial
  spawns := trivial

def sampleCommand : NativeCommand where
  id := "c"
  body := "go"
  state := some "claimed"
  dedupeKey := none
  executionProcessId := some "p"

def sampleRecord : TerminalOwnership := ⟨"a", .superseded, "failover", some "handoff:a", none⟩

def linkedStore : Store :=
  { Store.initial true with ownerships := (Store.initial true).ownerships.put (sampleRecord.linked "b") }

def crashedRun : TransferRun where
  events := [
    .commit (.read (·.ownership "a")) none,
    .commit (.retire sampleRecord) sampleRecord,
    .call (.sessionCommands "a") (.ok [sampleCommand]),
    .commit (.linkSuccessor "a" "b") (.ok (sampleRecord.linked "b"))]
  result := none

def resumedRun : TransferRun where
  events := [
    .commit (.read (·.ownership "a")) (some (sampleRecord.linked "b")),
    .call (.sessionCommands "a") (.ok [sampleCommand]),
    .commit (.read (·.ownership "b")) none,
    .call (.send .forwarded "b" "go" "handoff:a:command:c") (.ok none),
    .call (.stopExecution "p" "quarantine:c") (.ok "killed")]
  result := some (.ok "b")

theorem crash_transfers : Transfers "a" none (.initial true) [crashedRun, resumedRun] linkedStore := by
  have crashed : RunsTo (sampleHandoff.transfer none) (.initial true) crashedRun.events
      crashedRun.result linkedStore := by
    refine .inr ⟨_, _, .refl _, rfl, .inr ⟨_, _, .refl _, rfl, .inr ⟨_, _, rfl, ?_⟩⟩⟩
    exact .inr ⟨_, _, .refl _, rfl, .inl ⟨.refl _, rfl, rfl⟩⟩
  have resumed : RunsTo (sampleHandoff.transfer none) linkedStore resumedRun.events
      resumedRun.result linkedStore := by
    refine .inr ⟨_, _, .refl _, rfl, .inr ⟨_, _, rfl, .inr ⟨_, _, .refl _, rfl, ?_⟩⟩⟩
    exact .inr ⟨_, _, rfl, .inr ⟨_, _, rfl, .refl _, rfl, .inl rfl⟩⟩
  exact .run _ crashed (.run _ resumed (.none _))

/-- A crash after the link is such a run: the next one forwards to the linked successor. -/
theorem crash_in_order :
    (∀ run ∈ [crashedRun, resumedRun], ∀ successor record,
      .commit (.linkSuccessor "a" successor) (.ok record) ∈ run.events →
        linkedStore.successorOf "a" = some successor) ∧
    ∀ run ∈ [crashedRun, resumedRun], run.Fair "a" (linkedStore.transferKey "a" none) linkedStore :=
  transfers_in_order crash_transfers

/-! ### The transfer of a managed task -/

theorem emits_stamped {P : Event Tx Query → Prop} {tx : Time → Tx (Answer α)}
    (clock : ∀ now, P (.call .clock now)) (fine : ∀ now b, P (.commit (tx now) b)) :
    (stamped tx).Emits P :=
  fun now => ⟨clock now, .run (fine now)⟩

theorem emits_finishTask {site : FinishSite} {task : TaskRecord} {state : TaskState}
    {result : Option String} {charge : Bool} :
    (finishTask site task state result charge).Emits (Harmless source) := by
  refine Prog.Emits.handle ?_ fun e => ?_
  · exact (emits_stamped (fun _ => trivial) fun _ _ => trivial).bind fun _ => trivial
  · cases e with
    | stale current attempted =>
      dsimp only
      split <;> trivial
    | _ => trivial

theorem emits_launchRejected {task : TaskRecord} {e : KernelError} :
    (launchRejected task e).Emits (Harmless source) := by
  have marked : ∀ outcome retryAt, (stamped (.markTerminal task.taskId task.epoch outcome retryAt)).Emits
      (Harmless source) := fun _ _ => emits_stamped (fun _ => trivial) fun _ _ => trivial
  unfold launchRejected
  split
  · split
    · refine (emits_read fun _ => trivial).bind fun current => ?_
      dsimp only
      split
      · exact (marked _ _).bind fun _ => trivial
      · split
        · refine Prog.Emits.bind ?_ fun _ => emits_finishTask.bind fun _ => trivial
          refine Prog.Emits.bind ?_ fun _ => (marked _ _).bind fun _ => trivial
          unfold coolBinding
          split
          · trivial
          · split
            · exact .query fun _ => trivial
            · trivial
        · trivial
    · trivial
  · trivial

theorem emits_effectIds {task : TaskRecord} {py : Library} {native : Native} :
    (effectIds task py native).Emits (Harmless source) := by
  unfold effectIds
  dsimp only
  split
  · exact (emits_stamped (fun _ => trivial) fun _ _ => trivial).bind fun _ => trivial
  split
  · refine (emits_stamped (fun _ => trivial) fun _ _ => trivial).bind fun _ => ?_
    exact emits_finishTask.bind fun _ => trivial
  split <;> trivial

theorem emits_reserveLaunch {task : TaskRecord} {launch : Launch} {owner : String} (patience : ℕ) :
    (reserveLaunch task launch owner patience).Emits (Harmless source) := by
  have reserve : ((stamped (.reserve task.taskId task.epoch launch owner)).bind fun r =>
      .ret r.1 : Kernel Effect).Emits (Harmless source) :=
    (emits_stamped (fun _ => trivial) fun _ _ => trivial).bind fun _ => trivial
  induction patience with
  | zero => exact reserve
  | succ patience ih =>
    refine reserve.handle fun e => ?_
    cases e with
    | effectBusy effect =>
      have waited : (externalIo task.taskId (.ret ()) : Kernel Unit).Emits (Harmless source) := trivial
      exact waited.bind fun _ => ih
    | _ => trivial

theorem emits_stopTerminal {effect : Effect} : (stopTerminal effect).Emits (Harmless source) := by
  unfold stopTerminal
  split
  · trivial
  split
  · trivial
  · refine (Prog.Emits.query fun _ => trivial).bind fun _ => fun _ => ⟨trivial, ?_⟩
    exact fun _ => ⟨trivial, trivial⟩

theorem emits_launchSuperseded {task : TaskRecord} {workspaceId : WorkspaceId} :
    (launchSuperseded task workspaceId).Emits (Harmless source) := by
  refine Prog.Emits.bind ?_ fun _ => emits_stopTerminal.released.bind fun _ => trivial
  refine (emits_read fun _ => trivial).bind fun existing => ?_
  split <;> exact emits_stamped (fun _ => trivial) fun _ _ => trivial

theorem emits_journaledLaunch {py : Library} {owner : String} {task : TaskRecord} {launch : Launch} :
    (journaledLaunch py owner task launch).Emits (Harmless source) := by
  refine Prog.Emits.bind (fun _ => ⟨trivial, trivial⟩) fun patience => ?_
  refine (emits_reserveLaunch patience).bind fun effect => ?_
  split
  · trivial
  · refine Prog.Emits.bind ?_ fun native => emits_effectIds.bind fun ids => ?_
    · exact (Prog.Emits.query fun _ => trivial).released.handle fun _ => emits_launchRejected
    · refine (emits_read fun _ => trivial).bind fun current => ?_
      split
      · exact emits_launchSuperseded
      · exact (emits_stamped (fun _ => trivial) fun _ _ => trivial).bind fun _ => trivial

def taskHandoff (py : Library) (owner : String) (prepared : TaskRecord) (prompt : String) :
    Handoff (prepared.holderSessionId.getD "None") where
  reason := "managed task replacement"
  fence := some prepared.taskId
  beforeSpawn := requireUnchanged prepared
  spawn := (journaledLaunch py owner prepared (.session prepared.workspaceId prepared.holderSessionId
    (launchRequest prepared prompt))).bind fun ids => .ret ids.2
  checks := by
    refine (emits_read fun _ => trivial).bind fun current => ?_
    split <;> trivial
  spawns := emits_journaledLaunch.bind fun _ => trivial

/-- A prepared replacement transfers its holder, and then activates the successor. -/
theorem replacePrepared_eq (py : Library) (owner : String) (prepared : TaskRecord) (prompt : String) :
    replacePrepared py owner prepared prompt =
      ((taskHandoff py owner prepared prompt).transfer
        (some ("task:" ++ prepared.taskId ++ ":epoch:" ++ toString prepared.epoch))).bind
          fun successor => stamped
            (.activate .replacePrepared prepared (prepared.workspaceId.getD "None") successor) := by
  rw [← transferOwnership_eq _ rfl rfl rfl]
  rfl

/-- So a run of it, wherever it ends, is a run of that transfer, and of what follows nothing reads the
source's queue, forwards or cancels. -/
theorem replacePrepared_fair {py : Library} {owner prompt : String} {prepared : TaskRecord}
    {r : Option (Answer TaskRecord)}
    (run : RunsTo (replacePrepared py owner prepared prompt) db events r db') :
    let source := prepared.holderSessionId.getD "None"
    let logicalKey := some ("task:" ++ prepared.taskId ++ ":epoch:" ++ toString prepared.epoch)
    ∃ transfer mid rest, Transfers source logicalKey db [transfer] mid ∧
      events = transfer.events ++ rest ∧ (∀ e ∈ rest, Harmless source e) ∧
      transfer.Fair source (db'.transferKey source logicalKey) db' ∧
      ∀ row, r = some (.ok row) → ∃ successor, transfer.result = some (.ok successor) := by
  intro source logicalKey
  rw [replacePrepared_eq] at run
  obtain ⟨stop, stopped, rfl⟩ | ⟨successor, mid, own, rest, rfl, done, activated⟩ :=
    Prog.Attempt.bind Store.KeepsTerminal.refl run
  · refine ⟨⟨events, stop.map Except.error⟩, db', [], .run _ stopped (.none _), ?_, ?_, ?_, ?_⟩
    · exact (List.append_nil events).symm
    · exact fun _ mem => nomatch mem
    · exact (transfer_came stopped).fair
    · cases stop <;> exact fun _ ended => nomatch ended
  · refine ⟨⟨own, some (.ok successor)⟩, mid, rest, .run _ done (.none _), rfl, ?_, ?_, ?_⟩
    · exact activated.emits (emits_stamped (fun _ => trivial) fun _ _ => trivial)
    · exact ((transfer_came done).later (RunsTo.keeps activated)).fair
    · exact fun _ _ => ⟨successor, rfl⟩

end SightMesh
