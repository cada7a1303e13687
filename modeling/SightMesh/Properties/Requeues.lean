import SightMesh.Escalation.Changes
import SightMesh.Escalation.Hosts
import SightMesh.Escalation.Sessions

/-! Requeues of the claimed commands whose executions have ended. -/
namespace SightMesh.Escalation

open Concurrency Python

variable {γ α β : Type} {e : Runtime} {x : Outside γ} {me : ℕ} {s s' mid : MailShared γ}

/-! ### What a reconciler remembers of its requeues -/

/-- The requeue a transaction remembers: by which reconciler, for which command. -/
def MailTx.requeues : MailTx β → Option (ℕ × String)
  | .remember reconciler .requeued id => some (reconciler, id)
  | _ => none

def eventRequeues : MailEvent → Option (ℕ × String)
  | .commit tx _ => tx.requeues
  | .call _ _ => none

theorem eventRequeues_iff {event : MailEvent} {id : String} :
    eventRequeues event = some (me, id) ↔ event = .commit (.remember me .requeued id) () := by
  constructor
  · intro remembers
    cases event with
    | call q answer => exact nomatch remembers
    | commit tx answer =>
      cases tx with
      | remember reconciler memory text =>
        cases memory with
        | notified => exact nomatch remembers
        | requeued =>
          cases remembers
          rfl
      | _ => exact nomatch remembers
  · rintro rfl
    rfl

def requeueDone : MailEvent → Option (SessionId × String)
  | .call (.requeue sessionId process) (.ok _) => some (sessionId, process)
  | _ => none

theorem requeueDone_iff {event : MailEvent} {sessionId : SessionId} {process : String} :
    requeueDone event = some (sessionId, process) ↔
      event = .call (.requeue sessionId process) (.ok ()) := by
  constructor
  · intro done
    unfold requeueDone at done
    split at done
    · cases done
      rfl
    · exact nomatch done
  · rintro rfl
    rfl

def Requeued (trace : List MailEvent) (sessionId : SessionId) (process : String) : Prop :=
  .call (.requeue sessionId process) (.ok ()) ∈ trace

/-- The reconciler has had an execution requeued for the command of this id. -/
def RequeuedFor (trace : List MailEvent) (me : ℕ) (id : String) : Prop :=
  ∃ newer older sessionId process, trace = newer ++
    .commit (.remember me .requeued id) () :: .call (.requeue sessionId process) (.ok ()) :: older

/-- The last event is a requeue that was done. -/
def JustRequeued (trace : List MailEvent) : Prop :=
  ∃ sessionId process older, trace = .call (.requeue sessionId process) (.ok ()) :: older

theorem requeuedFor_cons {event : MailEvent} {trace : List MailEvent} {id : String} :
    RequeuedFor (event :: trace) me id ↔
      RequeuedFor trace me id ∨
        event = .commit (.remember me .requeued id) () ∧ JustRequeued trace := by
  constructor
  · rintro ⟨newer, older, sessionId, process, same⟩
    cases newer with
    | nil =>
      obtain ⟨rfl, rfl⟩ := List.cons.inj same
      exact .inr ⟨rfl, sessionId, process, older, rfl⟩
    | cons last newer =>
      obtain ⟨_, rfl⟩ := List.cons.inj same
      exact .inl ⟨newer, older, sessionId, process, rfl⟩
  · rintro (⟨newer, older, sessionId, process, rfl⟩ | ⟨rfl, sessionId, process, older, rfl⟩)
    · exact ⟨event :: newer, older, sessionId, process, rfl⟩
    · exact ⟨[], older, sessionId, process, rfl⟩

theorem RequeuedFor.requeues {trace : List MailEvent} {id : String}
    (h : RequeuedFor trace me id) : some (me, id) ∈ trace.map eventRequeues := by
  obtain ⟨newer, older, sessionId, process, rfl⟩ := h
  simp [eventRequeues, MailTx.requeues]

theorem Requeued.done {trace : List MailEvent} {sessionId : SessionId} {process : String}
    (h : Requeued trace sessionId process) :
    some (sessionId, process) ∈ trace.map requeueDone :=
  List.mem_map.mpr ⟨_, h, rfl⟩

/-- A reconciler remembers the commands it has had an execution requeued for, and no others. -/
def Faithful (me : ℕ) (s : MailShared γ) : Prop :=
  ∀ id, (me, Memory.requeued, id) ∈ s.store.memory ↔ RequeuedFor s.trace me id

theorem Faithful.call (known : Faithful me s) {q : MailQuery β} {answer : β} {env : γ} :
    Faithful me (s.call q answer env) := by
  intro id
  have unchanged : (s.call q answer env).store.memory = s.store.memory := rfl
  rw [unchanged, known id]
  change _ ↔ RequeuedFor (.call q answer :: s.trace) me id
  rw [requeuedFor_cons]
  simp

theorem MailTx.exec_requeued (tx : MailTx β) (db : MailStore) (me : ℕ) (id : String) :
    (me, Memory.requeued, id) ∈ (tx.exec db).1.memory ↔
      (me, Memory.requeued, id) ∈ db.memory ∨ tx.requeues = some (me, id) := by
  have same (unchanged : (tx.exec db).1.memory = db.memory) (other : tx.requeues = none) :
      (me, Memory.requeued, id) ∈ (tx.exec db).1.memory ↔
        (me, Memory.requeued, id) ∈ db.memory ∨ tx.requeues = some (me, id) := by
    simp [unchanged, other]
  cases tx with
  | remember reconciler memory text =>
    cases memory with
    | notified => simp [exec, requeues]
    | requeued => simp [exec, requeues, or_comm, eq_comm]
  | subscribe row =>
    apply same _ rfl
    obtain left | ⟨_, _, left⟩ := db.subscribe_cases row
    · simp [exec, left]
    · simp [exec, left]
  | moveRun id move expected now =>
    apply same _ rfl
    obtain ⟨row, _, _, _, left⟩ | left := db.moveRun_cases id move expected now
    · simp [exec, left]
    · simp [exec, left]
  | diagnose id expected message now =>
    apply same _ rfl
    simp only [exec, MailStore.diagnose]
    split
    · split
      · rfl
      · rfl
    · rfl
  | markNotified id expected now =>
    apply same _ rfl
    simp only [exec, MailStore.markNotified]
    split
    · split
      · rfl
      · rfl
    · rfl
  | _ => exact same rfl rfl

theorem Faithful.commit (known : Faithful me s) {tx : MailTx β}
    (asked : tx.requeues.isSome → JustRequeued s.trace) :
    Faithful me (s.commit (bridge e x) tx) := by
  intro id
  change _ ∈ (tx.exec s.store).1.memory ↔
    RequeuedFor (.commit tx (tx.exec s.store).2 :: s.trace) me id
  rw [tx.exec_requeued, requeuedFor_cons, ← eventRequeues_iff, known id, eventRequeues]
  constructor
  · rintro (before | now)
    · exact .inl before
    · exact .inr ⟨now, asked (by simp [now])⟩
  · rintro (before | ⟨now, _⟩)
    · exact .inl before
    · exact .inr now

/-! ### A tick remembers what it has just requeued -/

/-- The program remembers a requeue only right after it was done; `asked` says whether one was done
right before the program. -/
def Guarded : Bridge α → Bool → Prop
  | .ret _, _ => True
  | .fail _, _ => True
  | .commit tx k, asked => (tx.requeues.isSome → asked) ∧ ∀ answer, Guarded (k answer) false
  | .call q k, _ => ∀ answer, Guarded (k answer) (requeueDone (.call q answer)).isSome
  | .lock _ k, asked => Guarded k asked
  | .unlock _ k, asked => Guarded k asked

namespace Guarded

theorem mono {p : Bridge α} (h : Guarded p false) (asked : Bool) : Guarded p asked := by
  induction p with
  | ret a => trivial
  | fail failure => trivial
  | commit tx k ih => exact ⟨fun requeues => absurd (h.1 requeues) Bool.false_ne_true, h.2⟩
  | call q k ih => exact h
  | lock l k ih => exact nomatch l
  | unlock l k ih => exact nomatch l

theorem bind {p : Bridge α} {f : α → Bridge β} {asked : Bool} (first : Guarded p asked)
    (rest : ∀ a, Guarded (f a) false) : Guarded (p.bind f) asked := by
  induction p generalizing asked with
  | ret a => exact (rest a).mono asked
  | fail failure => trivial
  | commit tx k ih => exact ⟨first.1, fun answer => ih answer (first.2 answer)⟩
  | call q k ih => exact fun answer => ih answer (first answer)
  | lock l k ih => exact nomatch l
  | unlock l k ih => exact nomatch l

theorem handle {p : Bridge α} {handler : MailError → Bridge α} (body : Guarded p false)
    (rest : ∀ failure, Guarded (handler failure) false) : Guarded (p.handle handler) false := by
  have stronger (p : Bridge α) (asked : Bool) (body : Guarded p asked) :
      Guarded (p.handle handler) asked := by
    induction p generalizing asked with
    | ret a => trivial
    | fail failure => exact (rest failure).mono asked
    | commit tx k ih => exact ⟨body.1, fun answer => ih answer _ (body.2 answer)⟩
    | call q k ih => exact fun answer => ih answer _ (body answer)
    | lock l k ih => exact nomatch l
    | unlock l k ih => exact nomatch l
  exact stronger p false body

theorem commit {tx : MailTx β} (other : tx.requeues = none) :
    Guarded (Prog.commit' tx : Bridge β) false :=
  ⟨by simp [other], fun _ => trivial⟩

theorem ask (q : MailQuery β) : Guarded (Prog.ask q : Bridge β) false := fun _ => trivial

theorem query (q : MailQuery (Answer β)) : Guarded (query q) false := by
  intro answer
  cases answer with
  | ok b => trivial
  | error failure => trivial

theorem stamped {tx : Time → MailTx β} (other : ∀ now, (tx now).requeues = none) :
    Guarded (stamped tx) false := (ask .clock).bind fun now => .commit (other now)

theorem forEach {xs : List α} {body : α → Bridge Unit} (h : ∀ a, Guarded (body a) false) :
    Guarded (forEach xs body) false := by
  induction xs with
  | nil => trivial
  | cons a xs ih => exact (h a).bind fun _ => ih

end Guarded

/-! ### The parts of a tick -/

theorem guarded_redacted (text : String) : Guarded (redacted e text) false := by
  unfold redacted
  split
  · trivial
  · trivial

theorem guarded_park (request : ParkRequest) : Guarded (park e request) false := by
  refine (guarded_redacted _).bind fun _ => (Guarded.stamped fun _ => rfl).bind fun _ =>
    (Guarded.commit rfl).bind fun known => ?_
  cases known with
  | none => trivial
  | some row => trivial

theorem guarded_acknowledge (request : AckRequest) : Guarded (acknowledge e request) false := by
  refine (guarded_redacted _).bind fun _ => (Guarded.stamped fun _ => rfl).bind fun _ =>
    (Guarded.commit rfl).bind fun known => ?_
  cases known with
  | none => trivial
  | some row => trivial

theorem guarded_resolve (escalationId : ℕ) : Guarded (resolve escalationId) false := by
  refine (Guarded.stamped fun _ => rfl).bind fun resolved => ?_
  cases resolved with
  | false => trivial
  | true =>
    refine (Guarded.commit rfl).bind fun known => ?_
    cases known with
    | none => trivial
    | some row => trivial

theorem guarded_resolveDedupeKey (key : String) : Guarded (resolveDedupeKey key) false :=
  (Guarded.stamped fun _ => rfl).bind fun _ => .commit rfl

theorem guarded_subscript (value : Json) (name : String) : Guarded (subscript value name) false := by
  obtain ⟨fields, _, _, same⟩ | ⟨_, text, same⟩ := subscript_cases value name
  · rw [same]
    trivial
  · rw [same]
    trivial

theorem guarded_getField (value : Json) (name : String) : Guarded (getField value name) false := by
  cases value with
  | _ => trivial

theorem guarded_lookupParent (py : Library) (parent : SessionId) :
    Guarded (lookupParent py parent) false := by
  apply Guarded.handle
  · exact (Guarded.query _).bind fun session => (guarded_subscript _ _).bind fun id =>
      (Guarded.query _).bind fun workspace => trivial
  · intro failure
    split
    · trivial
    · trivial

theorem guarded_deliver {site : SendSite} {child parent : SessionId} {message key : String}
    (workspace : Json) : Guarded (deliver e site child parent message key workspace) false :=
  (Guarded.query _).bind fun _ => (guarded_acknowledge _).bind fun _ =>
    (guarded_subscript _ _).bind fun _ => trivial

theorem guarded_escalate {site : SendSite} {child : SessionId}
    {childWorkspace : Option WorkspaceId} {parent : Option SessionId} {message : String}
    {dedupeKey : Option String} :
    Guarded (escalate e site child childWorkspace parent message dedupeKey) false := by
  have parked {request : ParkRequest} {f : ParkedEscalation → Delivery} :
      Guarded ((park e request).bind fun row => .ret (f row)) false :=
    (guarded_park request).bind fun _ => trivial
  unfold escalate
  dsimp only
  split
  · exact parked
  · split
    · exact parked
    · refine (guarded_lookupParent e.py _).bind fun found => ?_
      split
      · exact parked
      · refine (guarded_getField _ _).bind fun archived => ?_
        split
        · exact parked
        · exact guarded_deliver _

theorem guarded_commands (sessionId : SessionId) : Guarded (commands e sessionId) false := by
  refine (Guarded.query _).bind fun rows => ?_
  split
  · trivial
  · trivial

theorem guarded_isNotification (command : DurableCommand) :
    Guarded command.isNotification false := by
  unfold DurableCommand.isNotification
  split
  · trivial
  · split
    · trivial
    · trivial

theorem guarded_rejectInvalidRoute {child parent : SessionId} {message key : String} :
    Guarded (rejectInvalidRoute e me child parent message key) false := by
  refine (guarded_park _).bind fun parked => ?_
  dsimp only
  split
  · exact (guarded_resolve _).bind fun _ => .commit rfl
  · exact .commit rfl

theorem guarded_notifyLiveParent {parent child : SessionId} {message key : String} :
    Guarded (notifyLiveParent e me parent child message key) false := by
  refine (Guarded.commit rfl).bind fun recalled => ?_
  split
  · trivial
  · refine (Guarded.commit rfl).bind fun told => ?_
    split
    · trivial
    · split
      · exact guarded_rejectInvalidRoute
      · refine (Guarded.ask _).bind fun successor => ?_
        split
        · exact (guarded_park _).bind fun _ => trivial
        · split
          · exact guarded_rejectInvalidRoute
          · exact (Guarded.query _).bind fun _ => (Guarded.commit rfl).bind fun _ =>
              (guarded_resolveDedupeKey key).bind fun _ => trivial

theorem guarded_reconcileChildTerminal (session : Dict) (status : String) :
    Guarded (reconcileChildTerminal e me session status) false := by
  unfold reconcileChildTerminal
  split
  · exact guarded_notifyLiveParent
  · trivial

theorem guarded_wakeParent (session : Dict) (commands : List DurableCommand) :
    Guarded (wakeParentForTerminalCommands e me session commands) false := by
  unfold wakeParentForTerminalCommands
  split
  · refine Guarded.forEach fun command => (guarded_isNotification command).bind fun own => ?_
    split
    · trivial
    · split
      · exact guarded_notifyLiveParent
      · trivial
  · trivial

theorem guarded_pressureOf (processes : List Dict) : Guarded (pressureOf e processes) false := by
  induction processes with
  | nil => trivial
  | cons process rest ih =>
    unfold pressureOf
    dsimp only
    split
    · trivial
    · exact (Guarded.query _).bind fun _ => ih.bind fun _ => trivial

theorem guarded_anyEnded (processes : List Dict) : Guarded (anyEnded processes) false := by
  induction processes with
  | nil => trivial
  | cons process rest ih =>
    refine Guarded.bind ?_ fun ended => ?_
    · cases process.get "status" with
      | _ => trivial
    · split
      · trivial
      · exact ih

theorem guarded_reconcileSignalPolicy (session : Dict) (commands : List DurableCommand)
    (processes : List Dict) :
    Guarded (reconcileSignalPolicy e session commands processes) false := by
  have signalled (condition : String) : Guarded (signal e session condition) false := by
    refine (Guarded.commit rfl).bind fun known => ?_
    split
    · trivial
    · exact guarded_escalate.bind fun _ => trivial
  refine (Guarded.commit rfl).bind fun policy => ?_
  dsimp only
  split
  · trivial
  · refine (guarded_anyEnded processes).bind fun terminal =>
      (guarded_pressureOf processes).bind fun pressure => ?_
    have rounds (conditions : List String) (idle : Option Time) :
        Guarded (forEach conditions fun condition =>
          if triggered e.py terminal pressure idle condition then signal e session condition
          else pure ()) false := by
      refine Guarded.forEach fun condition => ?_
      split
      · exact signalled condition
      · trivial
    split
    · exact (Guarded.ask _).bind fun now => rounds _ _
    · exact rounds _ none

theorem guarded_cancelQuarantined (commands : List DurableCommand) :
    Guarded (cancelQuarantined e.py commands) false := by
  refine Guarded.forEach fun command => ?_
  split
  · exact .query _
  · trivial

theorem guarded_interruptAndRequeue (command : DurableCommand) :
    Guarded (interruptAndRequeue e.py me command) false := by
  refine (Guarded.commit rfl).bind fun recalled => ?_
  split
  · trivial
  · dsimp only
    split
    · trivial
    · intro answer
      cases answer with
      | ok done => exact ⟨fun _ => rfl, fun _ => trivial⟩
      | error failure => trivial

theorem guarded_reconcileSession (session : Dict) :
    Guarded (reconcileSession e me session) false := by
  have claimed (processes : List Dict) (command : DurableCommand) :
      Guarded (reconcileClaimed e me session processes command) false := by
    unfold reconcileClaimed
    split
    · split
      · trivial
      · split
        · trivial
        · exact (guarded_reconcileChildTerminal session _).bind fun _ =>
            guarded_interruptAndRequeue command
    · trivial
  unfold reconcileSession
  dsimp only
  split
  · trivial
  · refine (guarded_commands _).bind fun rows => (Guarded.ask _).bind fun quarantined => ?_
    split
    · exact guarded_cancelQuarantined rows
    · refine (Guarded.query _).bind fun processes => (guarded_wakeParent session rows).bind fun _ =>
        (guarded_reconcileSignalPolicy session rows processes).bind fun _ =>
          (Guarded.forEach (claimed processes)).bind fun _ => (Guarded.ask _).bind fun online => ?_
      split
      · exact .query _
      · trivial

/-! ### Runs of ticks -/

/-- What is kept while a guarded program runs: the memory is faithful, and what is left of the
program is guarded. -/
theorem Guarded.comes {p q : Bridge α} (guarded : Guarded p false) (known : Faithful me s)
    (h : p.Comes (bridge e x) s q mid) :
    Faithful me mid ∧ ∃ asked, Guarded q asked ∧ (asked → JustRequeued mid.trace) := by
  induction h with
  | here => exact ⟨known, false, guarded, fun asked => nomatch asked⟩
  | commit _ ih =>
    obtain ⟨known, asked, ⟨allowed, rest⟩, done⟩ := ih
    exact ⟨known.commit fun requeues => done (allowed requeues), false, rest _,
      fun asked => nomatch asked⟩
  | call _ answered ih =>
    obtain ⟨known, asked, rest, _⟩ := ih
    refine ⟨known.call, _, rest _, fun done => ?_⟩
    obtain ⟨⟨sessionId, process⟩, same⟩ := Option.isSome_iff_exists.mp done
    exact ⟨sessionId, process, _, congrArg (· :: _) (requeueDone_iff.mp same)⟩
  | lock => rename_i l _ _ _ _; exact nomatch l
  | unlock => rename_i l _ _ _ _; exact nomatch l

/-- The states in which a reconciler object may begin a tick: it is built, it runs its ticks one
after the other, each to an end or to an exception, and others move the store meanwhile. The trace
is its own. -/
inductive Ticks (e : Runtime) (x : Outside γ) (me : ℕ) : MailShared γ → Prop where
  | start (db : MailStore) (env : γ) (fresh : ∀ memory id, (me, memory, id) ∉ db.memory) :
      Ticks e x me ⟨db, env, []⟩
  | others (db : MailStore) (env : γ) {s : MailShared γ}
      (own : ∀ memory id, (me, memory, id) ∈ db.memory ↔ (me, memory, id) ∈ s.store.memory) :
      Ticks e x me s → Ticks e x me ⟨db, env, s.trace⟩
  | tick (session : Dict) {s s' : MailShared γ} {r : Answer Unit}
      (ran : (reconcileSession e me session).Ends (bridge e x) anyEvent s r s') :
      Ticks e x me s → Ticks e x me s'

theorem Ticks.faithful (ticks : Ticks e x me s) : Faithful me s := by
  induction ticks with
  | start db env fresh =>
    intro id
    constructor
    · exact fun mem => absurd mem (fresh _ id)
    · rintro ⟨newer, older, sessionId, process, same⟩
      simp at same
  | others db env own _ ih => exact fun id => (own _ id).trans (ih id)
  | tick session ran _ ih =>
    obtain ⟨_, _, ended⟩ | ⟨_, _, ended⟩ := ran.comes .here
    · exact ((guarded_reconcileSession session).comes ih ended).1
    · exact ((guarded_reconcileSession session).comes ih ended).1

/-- What is asked for a command of an ended execution, once the parent has been told. -/
def AsksRequeue (e : Runtime) (x : Outside γ) (me : ℕ) (command : DurableCommand)
    (s : MailShared γ) : Prop :=
  ∃ rest later, (interruptAndRequeue e.py me command).Comes (bridge e x) s
    (.call (.requeue command.sessionId (e.py.str command.executionProcessId)) rest) later

def requeueUnless (e : Runtime) (me : ℕ) (command : DurableCommand) (recalled : Bool) :
    Bridge Unit :=
  if recalled then .ret ()
  else (query (.requeue command.sessionId (e.py.str command.executionProcessId))).bind fun _ =>
    Prog.commit' (.remember me .requeued command.id)

theorem interruptAndRequeue_eq {command : DurableCommand}
    (bound : command.executionProcessId.truthy) :
    interruptAndRequeue e.py me command =
      .commit (.recalls me .requeued command.id) (requeueUnless e me command) := by
  simp only [interruptAndRequeue, bound]
  rfl

theorem asksRequeue_iff {command : DurableCommand} (bound : command.executionProcessId.truthy) :
    AsksRequeue e x me command s ↔ (me, Memory.requeued, command.id) ∉ s.store.memory := by
  unfold AsksRequeue
  rw [interruptAndRequeue_eq bound]
  have recalls : ((bridge e x).exec (.recalls me .requeued command.id) s.store).2 =
      decide ((me, Memory.requeued, command.id) ∈ s.store.memory) := rfl
  by_cases remembered : (me, Memory.requeued, command.id) ∈ s.store.memory
  · simp only [remembered, not_true_eq_false, iff_false]
    rintro ⟨rest, later, comes⟩
    obtain ⟨same, _⟩ | after := comes.of_commit
    · exact nomatch same
    · rw [recalls, decide_eq_true remembered] at after
      exact nomatch Prog.Comes.of_ret after
  · simp only [remembered, not_false_eq_true, iff_true]
    have looked : (Prog.commit (.recalls me .requeued command.id) (requeueUnless e me command)).Comes
        (bridge e x) s _ _ := Prog.Comes.here.commit
    rw [recalls, decide_eq_false remembered] at looked
    exact ⟨_, _, looked⟩

/-- In every run of ticks of one reconciler, a tick that comes to a claimed command whose execution
is there and does not run, and has told the parent, asks for the requeue of this execution unless it
was done before, if and only if no execution of a command of this id was requeued before, or this
very one was. -/
theorem dead_execution_requeued_iff (ticks : Ticks e x me s) {session : Dict}
    {processes : List Dict} {command : DurableCommand} {k : Unit → Bridge Unit}
    (sees : (reconcileSession e me session).Comes (bridge e x) s
      ((reconcileClaimed e me session processes command).bind k) mid)
    (claimed : command.state = "claimed") (bound : command.executionProcessId.truthy)
    {process : Dict}
    (present : (processes.reverse.find? fun process =>
      e.py.str (process.get "id") = e.py.str command.executionProcessId) = some process)
    (dead : (process.get "status").isText "running" = false)
    (reaches : (reconcileChildTerminal e me session (processStatus e.py process)).Ends (bridge e x)
      anyEvent mid (.ok ()) s') :
    let requeued := Requeued s'.trace command.sessionId (e.py.str command.executionProcessId)
    AsksRequeue e x me command s' ∨ requeued ↔
      ¬ RequeuedFor s'.trace me command.id ∨ requeued := by
  intro requeued
  have round : reconcileClaimed e me session processes command =
      (reconcileChildTerminal e me session (processStatus e.py process)).bind fun _ =>
        interruptAndRequeue e.py me command := by
    simp [reconcileClaimed, claimed, present, dead]
  rw [round, Prog.bind_assoc] at sees
  have arrives := sees.trans reaches.comes_bind
  have known := ((guarded_reconcileSession session).comes ticks.faithful arrives).1
  rw [asksRequeue_iff bound, known command.id]

theorem forEach_append {before after : List α} {body : α → Bridge Unit} :
    forEach (before ++ after) body = (forEach before body).bind fun _ => forEach after body := by
  induction before with
  | nil => rfl
  | cons a before ih =>
    rw [List.cons_append, forEach, forEach, ih, Prog.bind_assoc]

/-- A tick over a session that is not quarantined comes to each of its commands, if the rounds
before it raise nothing. -/
theorem reconcileSession_comes {session : Dict} {rows before after : List DurableCommand}
    {processes : List Dict} {command : DurableCommand} {s₁ s₂ s₃ s₄ s₅ : MailShared γ}
    (named : session.has "id")
    (listed : (commands e (e.py.str (session.get "id"))).Ends (bridge e x) anyEvent s (.ok rows) s₁)
    (free : (Prog.ask (.quarantined (e.py.str (session.get "id"))) : Bridge Bool).Ends (bridge e x)
      anyEvent s₁ (.ok false) s₂)
    (told : (query (.executionProcesses (e.py.str (session.get "id")))).Ends (bridge e x) anyEvent
      s₂ (.ok processes) s₃)
    (woken : (wakeParentForTerminalCommands e me session rows).Ends (bridge e x) anyEvent
      s₃ (.ok ()) s₄)
    (signalled : (reconcileSignalPolicy e session rows processes).Ends (bridge e x) anyEvent
      s₄ (.ok ()) s₅)
    (split : rows = before ++ command :: after)
    (earlier : (forEach before (reconcileClaimed e me session processes)).Ends (bridge e x) anyEvent
      s₅ (.ok ()) mid) :
    ∃ k, (reconcileSession e me session).Comes (bridge e x) s
      ((reconcileClaimed e me session processes command).bind k) mid := by
  have rounds (g : Unit → Bridge Unit) :
      ((forEach rows (reconcileClaimed e me session processes)).bind g).Comes (bridge e x) s₅
        ((reconcileClaimed e me session processes command).bind fun _ =>
          (forEach after (reconcileClaimed e me session processes)).bind g) mid := by
    have round : (forEach (command :: after) (reconcileClaimed e me session processes)).bind g =
        (reconcileClaimed e me session processes command).bind fun _ =>
          (forEach after (reconcileClaimed e me session processes)).bind g := Prog.bind_assoc ..
    rw [split, forEach_append, Prog.bind_assoc, ← round]
    exact earlier.comes_bind
  have arrives := rounds fun _ => (Prog.ask .online).bind fun online =>
    if online then query (.dispatchQueued (e.py.str (session.get "id"))) else .ret ()
  refine ⟨_, Prog.Comes.trans ?_ arrives⟩
  unfold reconcileSession
  simp only [named, Bool.not_true, Bool.false_eq_true, if_false]
  exact listed.comes_bind.trans (free.comes_bind.trans (told.comes_bind.trans
    (woken.comes_bind.trans signalled.comes_bind)))

/-! ### A command that dies twice -/

def reclaimedReply (calls : ℕ) {β : Type} : MailQuery β → β
  | .sessionCommands _ => .ok [[("id", .str "c"), ("state", .str "claimed"),
      ("execution_process_id", .str (if calls < 5 then "p1" else "p2"))]]
  | .executionProcesses _ => .ok [[("id", .str "p1"), ("status", .str "killed")],
      [("id", .str "p2"), ("status", .str "killed")]]
  | q => MailScript.calm.reply calls q

def reclaimedOracle {β : Type} (calls : ℕ) (q : MailQuery β) : β × ℕ :=
  (reclaimedReply calls q, calls + 1)

def reclaimedOutside : Outside ℕ where
  answer calls q b next := (b, next) = reclaimedOracle calls q

abbrev reclaimed : System MailError MailTx MailQuery Empty MailStore ℕ :=
  bridge scriptRuntime reclaimedOutside

def reclaimedSession : Dict := [("id", .str "s")]

def reclaimedCommand (calls : ℕ) : DurableCommand :=
  ⟨"c", "s", "claimed", .null, .str (if calls < 5 then "p1" else "p2")⟩

def killedProcess (id : String) : Dict := [("id", .str id), ("status", .str "killed")]

def killedProcesses : List Dict := [killedProcess "p1", killedProcess "p2"]

def reclaimedTick (s : MailShared ℕ) : Answer Unit × MailShared ℕ :=
  (reconcileSession scriptRuntime 0 reclaimedSession).alone reclaimed reclaimedOracle s

def reclaimedMid (s : MailShared ℕ) : MailShared ℕ :=
  (((s.call (.sessionCommands "s") (reclaimedReply s.env (.sessionCommands "s")) (s.env + 1)).call
    (.quarantined "s") false (s.env + 2)).call
      (.executionProcesses "s") (.ok killedProcesses) (s.env + 3)).commit reclaimed
        (.read (·.policies.get "s"))

theorem reclaimed_comes {s : MailShared ℕ} (free : s.store.policies.get "s" = none) :
    ∃ k, (reconcileSession scriptRuntime 0 reclaimedSession).Comes reclaimed s
      ((reconcileClaimed scriptRuntime 0 reclaimedSession killedProcesses
        (reclaimedCommand s.env)).bind k) (reclaimedMid s) := by
  let listed := s.call (.sessionCommands "s") (reclaimedReply s.env (.sessionCommands "s")) (s.env + 1)
  let asked := listed.call (.quarantined "s") false (s.env + 2)
  let told := asked.call (.executionProcesses "s") (.ok killedProcesses) (s.env + 3)
  have commanded : (commands scriptRuntime "s").Ends reclaimed anyEvent s
      (.ok [reclaimedCommand s.env]) listed := ⟨_, _, rfl, trivial, rfl, rfl⟩
  have unquarantined : (Prog.ask (.quarantined "s") : Bridge Bool).Ends reclaimed anyEvent listed
      (.ok false) asked := ⟨_, _, rfl, trivial, rfl, rfl⟩
  have answered : (query (.executionProcesses "s")).Ends reclaimed anyEvent asked
      (.ok killedProcesses) told := ⟨_, _, rfl, trivial, rfl, rfl⟩
  have signalled : (reconcileSignalPolicy scriptRuntime reclaimedSession [reclaimedCommand s.env]
      killedProcesses).Ends reclaimed anyEvent told (.ok ()) (reclaimedMid s) := by
    refine ⟨trivial, ?_⟩
    have policy : (reclaimed.exec (.read (·.policies.get "s")) told.store).2 = none := free
    change Prog.Ends _ _ (if (((reclaimed.exec (.read (·.policies.get "s")) told.store).2.map
      SignalPolicy.conditions).getD []).isEmpty then _ else _) _ _ _
    rw [policy]
    exact ⟨rfl, rfl⟩
  exact reconcileSession_comes rfl commanded unquarantined answered ⟨rfl, rfl⟩ signalled
    (List.nil_append _).symm ⟨rfl, rfl⟩

theorem reclaimed_sound {β : Type} (calls : ℕ) (q : MailQuery β) :
    reclaimedOutside.answer calls q (reclaimedOracle calls q).1 (reclaimedOracle calls q).2 := rfl

def reclaimedStart : MailShared ℕ := ⟨.empty, 0, []⟩

theorem reclaimedStart_ticks : Ticks scriptRuntime reclaimedOutside 0 reclaimedStart :=
  .start _ _ fun _ _ mem => nomatch mem

theorem reclaimedTick_ticks {s : MailShared ℕ} (ticks : Ticks scriptRuntime reclaimedOutside 0 s) :
    Ticks scriptRuntime reclaimedOutside 0 (reclaimedTick s).2 :=
  ticks.tick reclaimedSession (Prog.ends_alone (S := reclaimed) reclaimed_sound _ _)

theorem first_execution_requeued :
    AsksRequeue scriptRuntime reclaimedOutside 0 (reclaimedCommand 0) (reclaimedMid reclaimedStart) ∨
      Requeued (reclaimedMid reclaimedStart).trace "s" "p1" := by
  obtain ⟨k, sees⟩ := reclaimed_comes (s := reclaimedStart) rfl
  apply (dead_execution_requeued_iff reclaimedStart_ticks sees rfl rfl rfl rfl ⟨rfl, rfl⟩).mpr
  exact .inl fun before => absurd before.requeues (by decide)

theorem second_execution_not_requeued :
    ∃ (s mid s' : MailShared ℕ) (session : Dict) (processes : List Dict) (command : DurableCommand)
      (k : Unit → Bridge Unit) (process : Dict),
      Ticks scriptRuntime reclaimedOutside 0 s ∧
      (reconcileSession scriptRuntime 0 session).Comes reclaimed s
        ((reconcileClaimed scriptRuntime 0 session processes command).bind k) mid ∧
      command.state = "claimed" ∧ command.executionProcessId.truthy ∧
      (processes.reverse.find? fun process => scriptRuntime.py.str (process.get "id") =
        scriptRuntime.py.str command.executionProcessId) = some process ∧
      (process.get "status").isText "running" = false ∧
      (reconcileChildTerminal scriptRuntime 0 session
        (processStatus scriptRuntime.py process)).Ends reclaimed anyEvent mid (.ok ()) s' ∧
      ¬ (AsksRequeue scriptRuntime reclaimedOutside 0 command s' ∨
        Requeued s'.trace command.sessionId (scriptRuntime.py.str command.executionProcessId)) := by
  let s := (reclaimedTick reclaimedStart).2
  obtain ⟨k, sees⟩ := reclaimed_comes (s := s) rfl
  refine ⟨s, reclaimedMid s, reclaimedMid s, reclaimedSession, killedProcesses,
    reclaimedCommand s.env, k, killedProcess "p2", reclaimedTick_ticks reclaimedStart_ticks, sees,
    rfl, rfl, rfl, rfl, ⟨rfl, rfl⟩, ?_⟩
  rintro (asks | requeued)
  · exact (asksRequeue_iff rfl).mp asks (by decide)
  · exact absurd requeued.done (by decide)

end SightMesh.Escalation
