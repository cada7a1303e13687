import SightMesh.Delivery.Bridge
import SightMesh.Delivery.Legacy
import SightMesh.Python.Ascii

/-! What reaches the command queue of an executor over a network that loses calls and answers: every
message a peer is told of as injected, and every delivery of the old queue, once. -/
namespace SightMesh.Delivery

open Concurrency Concurrency.Protocol Python

abbrev Trace := List (Event SiteTx SiteQuery)

abbrev State (ρ γ : Type) := Shared SiteTx SiteQuery (Site ρ) γ

variable {ρ γ : Type} {executor : Executor ρ} {py : Library} {start : Site ρ}
  {trace trace' : Trace} {sessionId : String} {rows : List LegacyDelivery} {edges : List Edge}

/-! ### Keys -/

theorem keyOf_inj {kind kind' : Kind} {source source' : String}
    (same : keyOf sessionId kind source = keyOf sessionId kind' source') :
    kind = kind' ∧ source = source' := by
  have same := congrArg String.toList same
  simp only [keyOf, String.toList_append, List.append_assoc, List.append_cancel_left_eq] at same
  cases kind <;> cases kind' <;> simp [Kind.name, String.toList_inj] at same <;> simp [same]

/-- A key of the bridge of the session, or of a delivery that is kept for it. -/
def Reserved (start : Site ρ) (sessionId key : String) : Prop :=
  startsWith ("repowire:" ++ sessionId ++ ":") key ∨ ∃ rows row, start.disk.delivery = some rows ∧
    row ∈ pendingDeliveries rows ∧ row.sessionId = sessionId ∧ legacyKey row = key

theorem legacyKey_ne_dedupeKey {row : LegacyDelivery} {kind : Kind} {message : Dict} :
    legacyKey row ≠ dedupeKey py sessionId kind message := by
  simp only [legacyKey, dedupeKey, keyOf, String.append_assoc]
  exact append_ne_of_apart (by decide) (by decide) _ _

theorem dedupeKey_reserved {kind : Kind} {message : Dict} :
    Reserved start sessionId (dedupeKey py sessionId kind message) := by
  have whole : dedupeKey py sessionId kind message =
      "repowire:" ++ sessionId ++ ":" ++ (kind.name ++ ":" ++ sourceOf py message) := by
    simp only [dedupeKey, keyOf, String.append_assoc]
  exact .inl (whole ▸ startsWith_append _ _)

/-! ### What is so of a run -/

def Queued (executor : Executor ρ) (r : ρ) (sessionId key : String) : Prop :=
  some key ∈ (executor.commands r sessionId).map Command.dedupeKey

def Received (trace : Trace) (sessionId : String) (message : Dict) : Prop :=
  .call (.receive sessionId) (.ok (some message)) ∈ trace

inductive Origin (py : Library) (start : Site ρ) (trace : Trace) (sessionId : String)
    (c : Command) : Prop where
  | legacy {rows : List LegacyDelivery} {row : LegacyDelivery} :
    start.disk.delivery = some rows → row ∈ pendingDeliveries rows → row.sessionId = sessionId →
    c.dedupeKey = some (legacyKey row) → row.prompt = some c.prompt →
    Origin py start trace sessionId c
  | message {kind : Kind} {message : Dict} {name : String} :
    Received trace sessionId message → kindOf message = some kind →
    c.dedupeKey = some (dedupeKey py sessionId kind message) →
    c.prompt = promptFor py name kind message → Origin py start trace sessionId c
  | plain : (∀ key, c.dedupeKey = some key → ¬ Reserved start sessionId key) →
    Origin py start trace sessionId c

/-- Every delivery is a command of its session. -/
def AllQueued (executor : Executor ρ) (r : ρ) (rows : List LegacyDelivery) : Prop :=
  ∀ row ∈ rows, Queued executor r row.sessionId (legacyKey row)

/-- The deliveries taken over so far are the first of them; what else is there was there before, or
goes by a key of theirs. -/
def InOrder (executor : Executor ρ) (start : Site ρ) (r : ρ) (rows : List LegacyDelivery) : Prop :=
  ∃ taken left, rows = taken ++ left ∧ AllQueued executor r taken ∧
    ∀ row ∈ left, Queued executor r row.sessionId (legacyKey row) →
      Queued executor start.runtime row.sessionId (legacyKey row) ∨
        ∃ other ∈ taken, other.sessionId = row.sessionId ∧ legacyKey other = legacyKey row

/-- A message a peer was told of as injected. -/
def Injected (executor : Executor ρ) (py : Library) (r : ρ) (trace : Trace) (sessionId : String)
    (deliveryId messageType : Json) : Prop :=
  ∃ kind message, Received trace sessionId message ∧ kindOf message = some kind ∧
    message.get "delivery_id" = deliveryId ∧ message.get "type" = messageType ∧
    deliveryId.truthy = true ∧ Queued executor r sessionId (dedupeKey py sessionId kind message)

def AllSet (trace : Trace) (edges : List Edge) : Prop :=
  ∀ edge ∈ edges, .commit (.setParent edge.child edge.parent) (.ok ()) ∈ trace

/-- The old queue is as it was, or put away with every delivery of it taken over. -/
def DeliveriesKept (executor : Executor ρ) (start : Site ρ) (s : State ρ γ) : Prop :=
  s.store.disk.delivery = start.disk.delivery ∨ s.store.disk.delivery = none ∧
    ∀ rows, start.disk.delivery = some rows → rows ∈ s.store.disk.archivedDeliveries ∧
      AllQueued executor s.store.runtime (pendingDeliveries rows)

/-- The old relationships are as they were, or put away with every edge accepted. -/
def RelationshipsKept (start : Site ρ) (s : State ρ γ) : Prop :=
  s.store.disk.relationships = start.disk.relationships ∨ s.store.disk.relationships = none ∧
    ∀ edges, start.disk.relationships = some edges → edges ∈ s.store.disk.archivedEdges ∧
      AllSet s.trace edges

structure Conserved (executor : Executor ρ) (py : Library) (start : Site ρ) (s : State ρ γ) :
    Prop where
  origins : ∀ sessionId, ∀ c ∈ executor.commands s.store.runtime sessionId,
    c ∈ executor.commands start.runtime sessionId ∨ Origin py start s.trace sessionId c
  injected : ∀ sessionId deliveryId messageType r,
    .call (.frame sessionId (.deliveryAck deliveryId messageType .injected)) r ∈ s.trace →
    Injected executor py s.store.runtime s.trace sessionId deliveryId messageType
  order : ∀ rows, start.disk.delivery = some rows →
    InOrder executor start s.store.runtime (pendingDeliveries rows)
  deliveries : DeliveriesKept executor start s
  relationships : RelationshipsKept start s

/-- What no step takes back. -/
structure Forward (executor : Executor ρ) (s s' : State ρ γ) : Prop where
  trace : s.trace ⊆ s'.trace
  commands : ∀ sessionId,
    executor.commands s.store.runtime sessionId <+: executor.commands s'.store.runtime sessionId
  edges : s.store.disk.archivedEdges ⊆ s'.store.disk.archivedEdges
  deliveries : s.store.disk.archivedDeliveries ⊆ s'.store.disk.archivedDeliveries

namespace Forward

variable {s s' s'' : State ρ γ}

theorem refl (s : State ρ γ) : Forward executor s s :=
  ⟨List.Subset.refl _, fun _ => List.prefix_rfl, List.Subset.refl _, List.Subset.refl _⟩

theorem trans (first : Forward executor s s') (second : Forward executor s' s'') :
    Forward executor s s'' :=
  ⟨List.Subset.trans first.trace second.trace,
    fun sessionId => (first.commands sessionId).trans (second.commands sessionId),
    List.Subset.trans first.edges second.edges,
    List.Subset.trans first.deliveries second.deliveries⟩

theorem queued {key : String} (later : Forward executor s s')
    (queued : Queued executor s.store.runtime sessionId key) :
    Queued executor s'.store.runtime sessionId key :=
  ((later.commands sessionId).map _).subset queued

theorem allQueued {rows : List LegacyDelivery} (later : Forward executor s s')
    (all : AllQueued executor s.store.runtime rows) : AllQueued executor s'.store.runtime rows :=
  fun row mem => later.queued (all row mem)

theorem allSet {edges : List Edge} (later : Forward executor s s') (all : AllSet s.trace edges) :
    AllSet s'.trace edges :=
  fun edge mem => later.trace (all edge mem)

theorem injected {deliveryId messageType : Json} (later : Forward executor s s')
    (known : Injected executor py s.store.runtime s.trace sessionId deliveryId messageType) :
    Injected executor py s'.store.runtime s'.trace sessionId deliveryId messageType := by
  obtain ⟨kind, message, received, kind_, named, typed, solid, queued⟩ := known
  exact ⟨kind, message, later.trace received, kind_, named, typed, solid, later.queued queued⟩

end Forward

theorem Origin.later {c : Command} (more : trace ⊆ trace') (h : Origin py start trace sessionId c) :
    Origin py start trace' sessionId c := by
  cases h with
  | legacy there mem whose key prompt => exact .legacy there mem whose key prompt
  | message received kind key prompt => exact .message (more received) kind key prompt
  | plain free => exact .plain free

/-! ### Transactions -/

/-- A follow-up comes from somewhere, and a delivery of the old queue after those before it. -/
structure Ready (executor : Executor ρ) (py : Library) (start : Site ρ) (s : State ρ γ)
    (f : FollowUp) : Prop where
  origin : Origin py start s.trace f.sessionId f.command
  turn : (∀ rows, start.disk.delivery = some rows → ∀ row ∈ pendingDeliveries rows,
      row.sessionId = f.sessionId → f.command.dedupeKey ≠ some (legacyKey row)) ∨
    ∃ rows taken row left, start.disk.delivery = some rows ∧
      pendingDeliveries rows = taken ++ row :: left ∧ AllQueued executor s.store.runtime taken ∧
      f.sessionId = row.sessionId ∧ f.command.dedupeKey = some (legacyKey row)

theorem Ready.later {s s' : State ρ γ} {f : FollowUp} (later : Forward executor s s')
    (ready : Ready executor py start s f) : Ready executor py start s' f where
  origin := ready.origin.later later.trace
  turn := ready.turn.imp_right fun ⟨rows, taken, row, left, there, split, all, whose, key⟩ =>
    ⟨rows, taken, row, left, there, split, later.allQueued all, whose, key⟩

/-- What a transaction is issued under. -/
def Allowed (executor : Executor ρ) (py : Library) (start : Site ρ) {β : Type} :
    SiteTx β → State ρ γ → Prop
  | .followUp f, s => Ready executor py start s f
  | .unlinkDelivery, s => ∀ rows, start.disk.delivery = some rows →
    rows ∈ s.store.disk.archivedDeliveries ∧
      AllQueued executor s.store.runtime (pendingDeliveries rows)
  | .unlinkRelationships, s => ∀ edges, start.disk.relationships = some edges →
    edges ∈ s.store.disk.archivedEdges ∧ AllSet s.trace edges
  | _, _ => True

/-- What a frame is sent under. -/
def Truthful (executor : Executor ρ) (py : Library) {β : Type} : SiteQuery β → State ρ γ → Prop
  | .frame sessionId (.deliveryAck deliveryId messageType .injected), s =>
    Injected executor py s.store.runtime s.trace sessionId deliveryId messageType
  | _, _ => True

def SiteTx.handed {β : Type} : SiteTx β → Option FollowUp
  | .followUp f => some f
  | _ => none

theorem SiteTx.exec_commands {β : Type} (tx : SiteTx β) (executor : Executor ρ) (site : Site ρ)
    (sessionId : String) :
    executor.commands (tx.exec executor site).1.runtime sessionId =
        executor.commands site.runtime sessionId ∨
      ∃ f, tx.handed = some f ∧ sessionId = f.sessionId ∧
        executor.commands (tx.exec executor site).1.runtime sessionId =
          executor.commands site.runtime sessionId ++ [f.command] := by
  cases tx with
  | followUp f =>
    obtain same | ⟨whose, added⟩ := executor.adds f site.runtime sessionId
    · exact .inl same
    · exact .inr ⟨f, rfl, whose, added⟩
  | setParent child parent =>
    exact .inl (congrFun (executor.keeps child parent site.runtime) sessionId)
  | _ => exact .inl rfl

theorem SiteTx.exec_archives {β : Type} (tx : SiteTx β) (site : Site ρ) :
    site.disk.archivedEdges ⊆ (tx.exec executor site).1.disk.archivedEdges ∧
      site.disk.archivedDeliveries ⊆ (tx.exec executor site).1.disk.archivedDeliveries := by
  cases tx with
  | backupRelationships =>
    simp only [SiteTx.exec, Disk.backupRelationships]
    split
    · exact ⟨List.Subset.refl _, List.Subset.refl _⟩
    · exact ⟨List.subset_append_left _ _, List.Subset.refl _⟩
  | backupDelivery =>
    simp only [SiteTx.exec, Disk.backupDelivery]
    split
    · exact ⟨List.Subset.refl _, List.Subset.refl _⟩
    · exact ⟨List.Subset.refl _, List.subset_append_left _ _⟩
  | _ => exact ⟨List.Subset.refl _, List.Subset.refl _⟩

theorem SiteTx.exec_forward {β : Type} (tx : SiteTx β) (s : State ρ γ)
    (e : Event SiteTx SiteQuery) : Forward executor s
      { s with store := (tx.exec executor s.store).1, trace := e :: s.trace } where
  trace := List.subset_cons_self _ _
  commands sessionId := by
    obtain same | ⟨f, _, _, added⟩ := tx.exec_commands executor s.store sessionId
    · exact same ▸ List.prefix_rfl
    · rw [added]
      exact List.prefix_append _ _
  edges := (tx.exec_archives s.store).1
  deliveries := (tx.exec_archives s.store).2

variable {s : State ρ γ} {β : Type} {tx : SiteTx β}

theorem Allowed.ready {f : FollowUp} (allowed : Allowed executor py start tx s)
    (handed : tx.handed = some f) : Ready executor py start s f := by
  cases tx with
  | followUp f' =>
    obtain rfl := Option.some.inj handed
    exact allowed
  | _ => exact absurd handed (Option.some_ne_none _).symm

theorem SiteTx.queued_before {key : String}
    (queued : Queued executor (tx.exec executor s.store).1.runtime sessionId key) :
    Queued executor s.store.runtime sessionId key ∨ ∃ f, tx.handed = some f ∧
      sessionId = f.sessionId ∧ f.command.dedupeKey = some key ∧
      Queued executor (tx.exec executor s.store).1.runtime f.sessionId key := by
  obtain same | ⟨f, handed, whose, added⟩ := tx.exec_commands executor s.store sessionId
  · rw [Queued, same] at queued
    exact .inl queued
  · have after := queued
    rw [Queued, added, List.map_append, List.mem_append] at queued
    obtain before | new := queued
    · exact .inl before
    · exact .inr ⟨f, handed, whose, (List.mem_singleton.mp new).symm, whose ▸ after⟩

theorem Allowed.origins (allowed : Allowed executor py start tx s) {c : Command}
    (there : c ∈ executor.commands (tx.exec executor s.store).1.runtime sessionId) :
    c ∈ executor.commands s.store.runtime sessionId ∨ Origin py start s.trace sessionId c := by
  obtain same | ⟨f, handed, whose, added⟩ := tx.exec_commands executor s.store sessionId
  · exact .inl (same ▸ there)
  · rw [added, List.mem_append, List.mem_singleton] at there
    obtain before | rfl := there
    · exact .inl before
    · exact .inr (whose ▸ (allowed.ready handed).origin)

theorem Allowed.inOrder (allowed : Allowed executor py start tx s)
    (there : start.disk.delivery = some rows)
    (known : InOrder executor start s.store.runtime (pendingDeliveries rows)) :
    InOrder executor start (tx.exec executor s.store).1.runtime (pendingDeliveries rows) := by
  have later : Forward executor s _ := tx.exec_forward s (.commit tx (tx.exec executor s.store).2)
  obtain ⟨taken, left, split, all, rest⟩ := known
  by_cases new : ∃ row ∈ left, Queued executor (tx.exec executor s.store).1.runtime row.sessionId
      (legacyKey row) ∧ ¬ Queued executor s.store.runtime row.sessionId (legacyKey row)
  · -- One of the deliveries left goes by the key of the delivery whose turn it is.
    obtain ⟨row, mem, queued, unqueued⟩ := new
    obtain before | ⟨f, handed, whose, key, now⟩ := SiteTx.queued_before queued
    · exact absurd before unqueued
    obtain free | ⟨rows', taken', next, left', there', split', all', whose', key'⟩ :=
      (allowed.ready handed).turn
    · have mem_ : row ∈ pendingDeliveries rows := split ▸ List.mem_append_right taken mem
      exact absurd key (free rows there row mem_ whose)
    obtain rfl : rows = rows' := Option.some.inj (there.symm.trans there')
    have key_ : legacyKey row = legacyKey next := Option.some.inj (key.symm.trans key')
    have whose_ : row.sessionId = next.sessionId := whose.trans whose'
    obtain ⟨more, rfl, rfl⟩ : ∃ more, taken' = taken ++ more ∧ left = more ++ next :: left' := by
      obtain cut | ⟨more, cut, rest'⟩ := List.append_eq_append_iff.mp (split.symm.trans split')
      · exact cut
      · cases more with
        | nil => exact ⟨[], by simpa using cut.symm, rest'.symm⟩
        | cons first more =>
          obtain rfl := (List.cons.inj rest').1
          refine absurd ?_ unqueued
          rw [key_, whose_]
          exact all next (by simp [cut])
    refine ⟨taken ++ more ++ [next], left', by simp [split'], fun row' mem' => ?_, ?_⟩
    · obtain before | only := List.mem_append.mp mem'
      · exact later.queued (all' row' before)
      · obtain rfl := List.mem_singleton.mp only
        rw [← whose', ← key_]
        exact now
    · intro row' mem' queued'
      obtain before | ⟨f', handed', whose'', key'', _⟩ := SiteTx.queued_before queued'
      · obtain old | ⟨other, mem'', same⟩ := rest row' (by simp [mem']) before
        · exact .inl old
        · exact .inr ⟨other, by simp [mem''], same⟩
      · obtain rfl := Option.some.inj (handed.symm.trans handed')
        exact .inr ⟨next, by simp, (whose''.trans whose').symm,
          Option.some.inj (key'.symm.trans key'')⟩
  · push Not at new
    refine ⟨taken, left, split, later.allQueued all, fun row mem queued => ?_⟩
    exact rest row mem (new row mem queued)

theorem Allowed.disk (allowed : Allowed executor py start tx s) :
    ((tx.exec executor s.store).1.disk.delivery = s.store.disk.delivery ∨
      (tx.exec executor s.store).1.disk.delivery = none ∧ ∀ rows, start.disk.delivery = some rows →
        rows ∈ s.store.disk.archivedDeliveries ∧
          AllQueued executor s.store.runtime (pendingDeliveries rows)) ∧
    ((tx.exec executor s.store).1.disk.relationships = s.store.disk.relationships ∨
      (tx.exec executor s.store).1.disk.relationships = none ∧
        ∀ edges, start.disk.relationships = some edges →
          edges ∈ s.store.disk.archivedEdges ∧ AllSet s.trace edges) := by
  cases tx with
  | unlinkDelivery => exact ⟨.inr ⟨rfl, allowed⟩, .inl rfl⟩
  | unlinkRelationships => exact ⟨.inl rfl, .inr ⟨rfl, allowed⟩⟩
  | backupRelationships =>
    simp only [SiteTx.exec, Disk.backupRelationships]
    split <;> exact ⟨.inl rfl, .inl rfl⟩
  | backupDelivery =>
    simp only [SiteTx.exec, Disk.backupDelivery]
    split <;> exact ⟨.inl rfl, .inl rfl⟩
  | _ => exact ⟨.inl rfl, .inl rfl⟩

theorem DeliveriesKept.later {s' : State ρ γ} (later : Forward executor s s')
    (same : s'.store.disk.delivery = s.store.disk.delivery)
    (known : DeliveriesKept executor start s) : DeliveriesKept executor start s' := by
  obtain there | ⟨gone, all⟩ := known
  · exact .inl (same.trans there)
  · refine .inr ⟨same.trans gone, fun rows there => ?_⟩
    exact ⟨later.deliveries (all rows there).1, later.allQueued (all rows there).2⟩

theorem RelationshipsKept.later {s' : State ρ γ} (later : Forward executor s s')
    (same : s'.store.disk.relationships = s.store.disk.relationships)
    (known : RelationshipsKept start s) : RelationshipsKept start s' := by
  obtain there | ⟨gone, all⟩ := known
  · exact .inl (same.trans there)
  · refine .inr ⟨same.trans gone, fun edges there => ?_⟩
    exact ⟨later.edges (all edges there).1, later.allSet (all edges there).2⟩

/-! ### The protocol -/

/-- What runs beside each other. -/
inductive Service where
  | bridge (sessionId path assignedName : String) (rounds : ℕ)
  | migration
  | sender (sessionId prompt : String) (senderSession dedupeKey : Option String) (intent : String)

def Service.run (py : Library) : Service → Net Unit
  | .bridge sessionId path assignedName rounds =>
    Delivery.run py sessionId path rounds assignedName 1
  | .migration => do
    let _ ← migrateNativeState py
    return ()
  | .sender sessionId prompt senderSession dedupeKey intent => do
    let _ ← send py sessionId prompt senderSession dedupeKey intent
    return ()

/-- Other senders leave a session's keys to its bridge and its kept deliveries. -/
def Service.Apart (start : Site ρ) : Service → Prop
  | .sender sessionId _ _ dedupeKey _ => ∀ key, dedupeKey = some key →
    ¬ Reserved start sessionId key
  | _ => True

/-- Any number of services over one executor and one state directory, answered in any way. -/
def network (γ : Type) (executor : Executor ρ) (py : Library) (start : Site ρ) :
    System Fault SiteTx SiteQuery Empty (Site ρ) γ where
  exec := SiteTx.exec executor
  answer _ _ _ _ := True
  ops op := ∃ service : Service, service.Apart start ∧ op = service.run py
  start site _ := site = start

variable (γ executor py start)

def protocol : Protocol (network γ executor py start) where
  inv := Conserved executor py start
  evolves := Forward executor
  frozen _ _ _ := True
  pre _ _ tx s := Allowed executor py start tx s
  preCall _ _ q s := Truthful executor py q s
  evolves_refl := .refl
  evolves_trans := .trans
  frozen_refl _ _ := trivial
  frozen_trans _ _ _ _ := trivial
  init := by
    rintro _ _ rfl
    refine ⟨fun _ _ there => .inl there, by simp, fun rows _ => ?_, .inl rfl, .inl rfl⟩
    exact ⟨[], pendingDeliveries rows, rfl, by simp [AllQueued], fun _ _ there => .inl there⟩
  commit := by
    intro H β tx s known allowed
    have later : Forward executor s (s.commit (network γ executor py start) tx) :=
      tx.exec_forward s _
    refine ⟨⟨fun sessionId c there => ?_, ?_, ?_, ?_, ?_⟩, later, fun _ _ => trivial⟩
    · obtain before | new := allowed.origins there
      · exact (known.origins sessionId c before).imp_right (·.later later.trace)
      · exact .inr (new.later later.trace)
    · intro sessionId deliveryId messageType r told
      have before := List.mem_of_ne_of_mem (by simp) told
      exact later.injected (known.injected _ _ _ r before)
    · exact fun rows there => allowed.inOrder there (known.order rows there)
    · obtain same | ⟨gone, all⟩ := allowed.disk.1
      · exact known.deliveries.later later same
      · refine .inr ⟨gone, fun rows there => ?_⟩
        exact ⟨later.deliveries (all rows there).1, later.allQueued (all rows there).2⟩
    · obtain same | ⟨gone, all⟩ := allowed.disk.2
      · exact known.relationships.later later same
      · refine .inr ⟨gone, fun edges there => ?_⟩
        exact ⟨later.edges (all edges there).1, later.allSet (all edges there).2⟩
  call := by
    intro H β q s b env known truthful _
    have later : Forward executor s (s.call q b env) :=
      ⟨List.subset_cons_self _ _, fun _ => List.prefix_rfl, List.Subset.refl _,
        List.Subset.refl _⟩
    refine ⟨⟨fun sessionId c there => ?_, ?_, known.order, ?_, ?_⟩, later, fun _ _ => trivial⟩
    · exact (known.origins sessionId c there).imp_right (·.later later.trace)
    · intro sessionId deliveryId messageType r told
      obtain here | before := List.mem_cons.mp told
      · cases here
        exact later.injected truthful
      · exact later.injected (known.injected _ _ _ r before)
    · exact known.deliveries.later later rfl
    · exact known.relationships.later later rfl

variable {γ executor py start}

abbrev Does (executor : Executor ρ) (py : Library) (start : Site ρ) (s : State ρ γ) {α : Type}
    (p : Net α) (done : α → State ρ γ → Prop) : Prop :=
  (protocol γ executor py start).Keeps ∅ s p done

variable {α : Type} {f : FollowUp} {kind : Kind} {message : Dict} {assignedName : String}

theorem Does.asks {q : SiteQuery α} (plain : ∀ s : State ρ γ, Truthful executor py q s) :
    Does executor py start s (ask q) fun b s' => .call q b ∈ s'.trace :=
  .ask (fun s' _ _ => plain s') fun _ _ _ _ _ _ => List.mem_cons_self

theorem Does.queries {q : SiteQuery (Except Fault α)}
    (plain : ∀ s : State ρ γ, Truthful executor py q s) :
    Does executor py start s (query q) fun b s' => .call q (.ok b) ∈ s'.trace :=
  .query (fun s' _ _ => plain s') fun _ _ _ _ _ _ => List.mem_cons_self

/-! ### Sending -/

/-- A follow-up with a key is a command of its session. -/
def Taken (executor : Executor ρ) (r : ρ) (f : FollowUp) : Prop :=
  ∀ key, f.command.dedupeKey = some key → Queued executor r f.sessionId key

theorem followUp_does (ready : Ready executor py start s f) :
    Does executor py start s (request (.followUp f)) fun _ s' =>
      Taken executor s'.store.runtime f := by
  refine Keeps.remote (fun _ _ => trivial) fun s' later _ => ⟨ready.later later, ?_⟩
  intro _ accepted key keyed
  exact executor.takes f s'.store.runtime key accepted keyed

theorem transportOnly_does {fault : Fault} :
    Does executor py start s (transportOnly fault) fun failed _ => failed ≠ none := by
  cases fault with
  | transport message => exact .ret (Option.some_ne_none _)
  | _ => exact .fail

theorem postFollowUp_does {left made : ℕ} {lastError : Option String}
    (ready : Ready executor py start s f) (unfinished : left = 0 → lastError ≠ none) :
    Does executor py start s (postFollowUp f left made lastError) fun failed s' =>
      failed = none → Taken executor s'.store.runtime f := by
  induction left generalizing s made lastError with
  | zero => exact .ret fun ended => absurd ended (unfinished rfl)
  | succ left ih =>
    refine Keeps.bind (m := fun failed s' => failed = none → Taken executor s'.store.runtime f) ?_
      fun failed s₁ later taken => ?_
    · refine Keeps.handle ?_ fun fault s' _ => ?_
      · exact Keeps.bind (followUp_does ready) fun _ _ _ taken => .ret fun _ => taken
      · exact Keeps.mono transportOnly_does fun _ _ _ failed ended => absurd ended failed
    · cases failed with
      | none => exact .ret taken
      | some message =>
        have ready := ready.later later
        show Does executor py start s₁ (if left ≠ 0 then _ else _) _
        by_cases more : left ≠ 0
        · rw [if_pos more]
          refine Keeps.bind (Does.asks fun _ => trivial) fun _ s₂ later₂ _ => ?_
          exact ih (ready.later later₂) fun _ => Option.some_ne_none _
        · rw [if_neg more]
          exact ih ready fun _ => Option.some_ne_none _

theorem commandIsQueued_does {key : String} :
    Does executor py start s (commandIsQueued sessionId key) fun found s' =>
      found = true → Queued executor s'.store.runtime sessionId key := by
  unfold commandIsQueued
  refine Keeps.handle ?_ fun fault s' _ => ?_
  · refine Keeps.bind (m := fun commands s' =>
        commands = executor.commands s'.store.runtime sessionId) ?_ fun commands s₁ _ read => ?_
    · refine Keeps.remote (fun _ _ => trivial) fun s' _ _ => ⟨trivial, fun commands answered => ?_⟩
      exact (Except.ok.inj answered).symm
    · refine .ret fun found => ?_
      obtain ⟨c, mem, keyed⟩ := List.any_eq_true.mp found
      exact List.mem_map.mpr ⟨c, read ▸ mem, of_decide_eq_true keyed⟩
  · by_cases known : fault.isCdesktop
    · rw [if_pos known]
      exact Keeps.ret fun found => absurd found Bool.false_ne_true
    · rw [if_neg known]
      exact .fail

theorem send_does {prompt intent : String} {senderSession key : Option String}
    (ready : Ready executor py start s
      ⟨sessionId, ⟨present key, prompt, present senderSession⟩, intent⟩) :
    Does executor py start s (send py sessionId prompt senderSession key intent) fun _ s' =>
      ∀ text, present key = some text → Queued executor s'.store.runtime sessionId text := by
  unfold send
  refine Keeps.bind (postFollowUp_does ready fun none_ => ?_) fun failed s₁ _ taken => ?_
  · revert none_
    split <;> simp [sendTransportRetries]
  cases failed with
  | none => exact .ret (taken rfl)
  | some lastError =>
    cases present key with
    | none => exact .fail
    | some text =>
      refine Keeps.bind commandIsQueued_does fun found s₂ _ queued => ?_
      by_cases there : found
      · rw [if_pos there]
        refine .ret fun text' same => ?_
        obtain rfl := Option.some.inj same
        exact queued there
      · rw [if_neg there]
        exact .fail

/-! ### The bridge -/

theorem present_dedupeKey :
    present (some (dedupeKey py sessionId kind message)) =
      some (dedupeKey py sessionId kind message) := by
  simp only [dedupeKey, keyOf, String.append_assoc]
  exact present_of_ne (append_ne_empty (by decide) _)

theorem sendFrame_does {frame : Frame}
    (truthful : ∀ s', Forward executor s s' → Truthful executor py (.frame sessionId frame) s') :
    Does executor py start s (sendFrame sessionId frame) fun _ _ => True :=
  .query (fun s' others _ => truthful s' others.1) fun _ _ _ _ _ _ => trivial

theorem sendDeliveryAck_does (received : Received s.trace sessionId message)
    (kind_ : kindOf message = some kind)
    (queued : Queued executor s.store.runtime sessionId (dedupeKey py sessionId kind message)) :
    Does executor py start s (sendDeliveryAck sessionId message) fun _ _ => True := by
  unfold sendDeliveryAck
  by_cases solid : (message.get "delivery_id").truthy
  · rw [if_pos solid]
    refine sendFrame_does fun s' later => later.injected ?_
    exact ⟨kind, message, received, kind_, rfl, rfl, solid, queued⟩
  · rw [if_neg solid]
    exact .ret trivial

theorem sendDeliveryFailure_does {detail : String} :
    Does executor py start s (sendDeliveryFailure sessionId message detail) fun _ _ => True := by
  have error : ∀ s₁ : State ρ γ, Does executor py start s₁
      (if (message.get "correlation_id").truthy then
        sendFrame sessionId (.error (message.get "correlation_id") detail) else return ())
      fun _ _ => True := by
    intro s₁
    by_cases asked : (message.get "correlation_id").truthy
    · rw [if_pos asked]
      exact sendFrame_does fun _ _ => trivial
    · rw [if_neg asked]
      exact .ret trivial
  show Does executor py start s (if (message.get "delivery_id").truthy then _ else _) _
  by_cases named : (message.get "delivery_id").truthy
  · rw [if_pos named]
    exact Keeps.bind (sendFrame_does fun _ _ => trivial) fun _ s₁ _ _ => error s₁
  · rw [if_neg named]
    exact error s

theorem deliver_does (received : Received s.trace sessionId message)
    (kind_ : kindOf message = some kind) :
    Does executor py start s (deliver py sessionId assignedName kind message) fun _ _ => True := by
  have ready : Ready executor py start s ⟨sessionId,
      ⟨present (some (dedupeKey py sessionId kind message)), promptFor py assignedName kind message,
        present none⟩, "continue"⟩ := by
    refine ⟨.message received kind_ present_dedupeKey rfl, .inl fun _ _ row _ _ same => ?_⟩
    exact legacyKey_ne_dedupeKey (Option.some.inj (present_dedupeKey.symm.trans same)).symm
  refine Keeps.bind (m := fun failure s' => failure = none →
      Queued executor s'.store.runtime sessionId (dedupeKey py sessionId kind message)) ?_
    fun failure s₁ later queued => ?_
  · refine Keeps.handle ?_ fun fault s' _ => ?_
    · exact Keeps.bind (send_does ready) fun _ _ _ queued =>
        .ret fun _ => queued _ present_dedupeKey
    · cases fault with
      | other message => exact .fail
      | _ => exact .ret fun ended => absurd ended (Option.some_ne_none _)
  · cases failure with
    | none => exact sendDeliveryAck_does (later.trace received) kind_ (queued rfl)
    | some detail => exact sendDeliveryFailure_does

theorem ignore_does : Does executor py start s (ignore sessionId message) fun _ _ => True := by
  unfold ignore
  split
  · exact .fail
  · exact .fail
  · by_cases asks : (message.get "type").isText "query"
    · rw [if_pos asks]
      exact sendFrame_does fun _ _ => trivial
    · rw [if_neg asks]
      exact .ret trivial

theorem handle_does (received : Received s.trace sessionId message) :
    Does executor py start s (handle py sessionId assignedName message) fun _ _ => True := by
  unfold handle
  by_cases ping : (message.get "type").isText "ping"
  · rw [if_pos ping]
    exact sendFrame_does fun _ _ => trivial
  rw [if_neg ping]
  cases kind_ : kindOf message with
  | none => exact ignore_does
  | some kind => exact deliver_does received kind_

theorem serve_does {messages : ℕ} :
    Does executor py start s (serve py sessionId assignedName messages) fun _ _ => True := by
  induction messages generalizing s with
  | zero => exact .ret trivial
  | succ messages ih =>
    refine Keeps.bind (Does.queries fun _ => trivial) fun given s₁ _ received => ?_
    cases given with
    | none => exact .ret trivial
    | some message => exact Keeps.bind (handle_does received) fun _ _ _ _ => ih

theorem capture_does {body : Net α} (does : Does executor py start s body fun _ _ => True) :
    Does executor py start s (capture body) fun _ _ => True :=
  .handle (Keeps.bind does fun _ _ _ _ => .ret trivial) fun _ _ _ => .ret trivial

theorem handshake_does {path : String} :
    Does executor py start s (handshake py sessionId assignedName path) fun _ _ => True := by
  have greeted : ∀ (connected : Dict) (s₁ : State ρ γ), Does executor py start s₁
      (do
        if ¬ (connected.get "type").isText "connected" then
          throw (.runtime (py.str (.obj connected)))
        if ¬ connected.has "session_id" then throw (.other "'session_id'")
        query (.setPeerIdentity sessionId (connected.get "session_id"))
        return if (connected.get "display_name").truthy then
          py.str (connected.get "display_name") else assignedName) fun _ _ => True := by
    intro connected s₁
    show Does executor py start s₁
      (if ¬ (connected.get "type").isText "connected" then _ else _) _
    by_cases other : ¬ (connected.get "type").isText "connected"
    · rw [if_pos other]
      exact .fail
    rw [if_neg other]
    show Does executor py start s₁ (if ¬ connected.has "session_id" then _ else _) _
    by_cases nameless : ¬ connected.has "session_id"
    · rw [if_pos nameless]
      exact .fail
    rw [if_neg nameless]
    exact Keeps.bind (Does.queries fun _ => trivial) fun _ _ _ _ => .ret trivial
  unfold handshake
  refine Keeps.bind (Does.queries fun _ => trivial) fun _ s₁ _ _ => ?_
  refine Keeps.bind (Does.asks fun _ => trivial) fun existing s₂ _ _ => ?_
  refine Keeps.bind (Does.asks fun _ => trivial) fun token s₃ _ _ => ?_
  refine Keeps.bind (sendFrame_does fun _ _ => trivial) fun _ s₄ _ _ => ?_
  refine Keeps.bind (Does.queries fun _ => trivial) fun answer s₅ _ _ => ?_
  cases answer with
  | none => exact .fail
  | some connected =>
    show Does executor py start s₅
      (if (connected.get "code").isText "peer_retired" ∧ existing.isSome then _ else _) _
    by_cases retired : (connected.get "code").isText "peer_retired" ∧ existing.isSome
    · rw [if_pos retired]
      exact Keeps.bind (Does.queries fun _ => trivial) fun _ s₆ _ _ => greeted connected s₆
    · rw [if_neg retired]
      exact greeted connected s₅

theorem connection_does {path : String} :
    Does executor py start s (connection py sessionId assignedName path) fun _ _ => True := by
  refine Keeps.bind (capture_does handshake_does) fun answer s₁ _ _ => ?_
  cases answer with
  | error fault => exact .ret trivial
  | ok name =>
    refine Keeps.bind (capture_does ?_) fun _ _ _ _ => .ret trivial
    refine Keeps.bind (sendFrame_does fun _ _ => trivial) fun _ s₂ _ _ => ?_
    exact Keeps.bind (Does.asks fun _ => trivial) fun _ _ _ _ => serve_does

theorem run_does {path : String} {rounds : ℕ} {delay : ℚ} :
    Does executor py start s (run py sessionId path rounds assignedName delay) fun _ _ => True := by
  induction rounds generalizing s assignedName delay with
  | zero => exact .ret trivial
  | succ rounds ih =>
    refine Keeps.bind connection_does fun ended s₁ _ _ => ?_
    obtain ⟨name, fault | u⟩ := ended
    · exact Keeps.bind (Does.asks fun _ => trivial) fun _ _ _ _ => ih
    · exact ih

/-! ### The old queue -/

theorem present_legacyKey {row : LegacyDelivery} :
    present (some (legacyKey row)) = some (legacyKey row) :=
  present_of_ne (append_ne_empty (by decide) _)

theorem readable_does : Does executor py start s readable fun _ _ => True := by
  refine Keeps.bind (Does.asks fun _ => trivial) fun answer _ _ _ => ?_
  cases answer with
  | none => exact .ret trivial
  | some fault => exact .fail

theorem setParent_does {edge : Edge} : Does executor py start s (setParent edge) fun _ s' =>
    .commit (.setParent edge.child edge.parent) (.ok ()) ∈ s'.trace := by
  show Does executor py start s (if edge.child = edge.parent then _ else _) _
  by_cases own : edge.child = edge.parent
  · rw [if_pos own]
    exact .fail
  rw [if_neg own]
  refine Keeps.remote (fun _ _ => trivial) fun s' _ _ => ⟨trivial, fun _ accepted => ?_⟩
  show _ ∈ Event.commit _ _ :: s'.trace
  rw [accepted]
  exact List.mem_cons_self

theorem setParents_does :
    Does executor py start s (setParents edges) fun _ s' => AllSet s'.trace edges := by
  induction edges generalizing s with
  | nil => exact .ret (by simp [AllSet])
  | cons edge edges ih =>
    refine Keeps.bind setParent_does fun _ s₁ _ accepted => ?_
    refine Keeps.mono ih fun _ s₂ later all => ?_
    exact List.forall_mem_cons.mpr ⟨later.trace accepted, all⟩

theorem sendDeliveries_does {taken left : List LegacyDelivery}
    (there : start.disk.delivery = some rows) (split : pendingDeliveries rows = taken ++ left)
    (all : AllQueued executor s.store.runtime taken) :
    Does executor py start s (sendDeliveries py left) fun _ s' =>
      AllQueued executor s'.store.runtime (pendingDeliveries rows) := by
  induction left generalizing s taken with
  | nil => exact .ret (by simpa [split] using all)
  | cons row left ih =>
    unfold sendDeliveries
    cases prompt_ : present row.prompt with
    | none => exact .fail
    | some prompt =>
      have ready : Ready executor py start s ⟨row.sessionId,
          ⟨present (some (legacyKey row)), prompt, present none⟩, "continue"⟩ := by
        have mem : row ∈ pendingDeliveries rows := by simp [split]
        refine ⟨.legacy there mem rfl present_legacyKey ?_, .inr ?_⟩
        · exact eq_some_of_present prompt_
        · exact ⟨rows, taken, row, left, there, split, all, rfl, present_legacyKey⟩
      refine Keeps.bind (send_does ready) fun _ s₁ later queued => ?_
      have onward : pendingDeliveries rows = (taken ++ [row]) ++ left := by simp [split]
      refine ih onward fun other mem => ?_
      obtain before | only := List.mem_append.mp mem
      · exact later.queued (all other before)
      · obtain rfl := List.mem_singleton.mp only
        exact queued _ present_legacyKey

theorem archiveDelivery_does (there : start.disk.delivery = some rows)
    (all : AllQueued executor s.store.runtime (pendingDeliveries rows)) :
    Does executor py start s archiveDelivery fun _ _ => True := by
  refine Keeps.bind readable_does fun _ s₁ later₁ _ => ?_
  refine Keeps.bind (m := fun _ s' => rows ∈ s'.store.disk.archivedDeliveries)
    (Keeps.run fun s' _ known => ⟨trivial, fun _ copied => ?_⟩) fun _ s₂ later₂ copied => ?_
  · obtain kept | ⟨gone, _⟩ := known.deliveries
    · show rows ∈ s'.store.disk.backupDelivery.1.archivedDeliveries
      simp [Disk.backupDelivery, kept.trans there]
    · have copied : s'.store.disk.backupDelivery.2 = .ok () := copied
      simp [Disk.backupDelivery, gone] at copied
  · refine Keeps.run fun s' others _ => ⟨fun rows' there' => ?_, fun _ _ => trivial⟩
    obtain rfl : rows = rows' := Option.some.inj (there.symm.trans there')
    exact ⟨others.1.deliveries copied, (later₁.trans (later₂.trans others.1)).allQueued all⟩

theorem archiveRelationships_does (there : start.disk.relationships = some edges)
    (all : AllSet s.trace edges) :
    Does executor py start s archiveRelationships fun _ _ => True := by
  refine Keeps.bind readable_does fun _ s₁ later₁ _ => ?_
  refine Keeps.bind (m := fun _ s' => edges ∈ s'.store.disk.archivedEdges)
    (Keeps.run fun s' _ known => ⟨trivial, fun _ copied => ?_⟩) fun _ s₂ later₂ copied => ?_
  · obtain kept | ⟨gone, _⟩ := known.relationships
    · show edges ∈ s'.store.disk.backupRelationships.1.archivedEdges
      simp [Disk.backupRelationships, kept.trans there]
    · have copied : s'.store.disk.backupRelationships.2 = .ok () := copied
      simp [Disk.backupRelationships, gone] at copied
  · refine Keeps.run fun s' others _ => ⟨fun edges' there' => ?_, fun _ _ => trivial⟩
    obtain rfl : edges = edges' := Option.some.inj (there.symm.trans there')
    exact ⟨others.1.edges copied, (later₁.trans (later₂.trans others.1)).allSet all⟩

theorem disk_does : Does executor py start s (Prog.commit' .disk) fun disk _ =>
    (∀ rows, disk.delivery = some rows → start.disk.delivery = some rows) ∧
      ∀ edges, disk.relationships = some edges → start.disk.relationships = some edges := by
  refine Keeps.commit fun s' _ known => ⟨trivial, fun rows there => ?_, fun edges there => ?_⟩
  · obtain kept | ⟨gone, _⟩ := known.deliveries
    · exact kept.symm.trans there
    · exact absurd (gone.symm.trans there) (Option.some_ne_none _).symm
  · obtain kept | ⟨gone, _⟩ := known.relationships
    · exact kept.symm.trans there
    · exact absurd (gone.symm.trans there) (Option.some_ne_none _).symm

theorem migrateRelationships_does :
    Does executor py start s migrateRelationships fun _ _ => True := by
  refine Keeps.bind disk_does fun disk s₁ _ same => ?_
  cases found : disk.relationships with
  | none => exact .ret trivial
  | some edges =>
    refine Keeps.bind readable_does fun _ s₂ _ _ => ?_
    refine Keeps.bind setParents_does fun _ s₃ _ all => ?_
    exact Keeps.bind (archiveRelationships_does (same.2 edges found) all) fun _ _ _ _ =>
      .ret trivial

theorem migrateDeliveries_does :
    Does executor py start s (migrateDeliveries py) fun _ _ => True := by
  refine Keeps.bind disk_does fun disk s₁ _ same => ?_
  cases found : disk.delivery with
  | none => exact .ret trivial
  | some rows =>
    have there := same.1 rows found
    refine Keeps.bind readable_does fun _ s₂ _ _ => ?_
    have none_ : AllQueued executor s₂.store.runtime [] := fun _ mem => absurd mem List.not_mem_nil
    refine Keeps.bind (sendDeliveries_does there rfl none_) fun _ s₃ _ all => ?_
    exact Keeps.bind (archiveDelivery_does there all) fun _ _ _ _ => .ret trivial

theorem migrateNativeState_does :
    Does executor py start s (migrateNativeState py) fun _ _ => True := by
  refine Keeps.bind migrateRelationships_does fun _ _ _ _ => ?_
  exact Keeps.bind migrateDeliveries_does fun _ _ _ _ => .ret trivial

theorem Service.run_does {service : Service} (apart : service.Apart start) :
    Does executor py start s (service.run py) fun _ _ => True := by
  cases service with
  | bridge => exact Delivery.run_does
  | migration => exact Keeps.bind migrateNativeState_does fun _ _ _ _ => .ret trivial
  | sender sessionId prompt senderSession key intent =>
    have free : ∀ text, present key = some text → ¬ Reserved start sessionId text :=
      fun text solid => apart text (eq_some_of_present solid)
    refine Keeps.bind (send_does ⟨.plain free, .inl ?_⟩) fun _ _ _ _ => .ret trivial
    intro rows there row mem whose same
    exact free _ same (.inr ⟨rows, row, there, mem, whose, rfl⟩)

/-! ### Every run -/

theorem conserved {w : World Fault SiteTx SiteQuery Empty (Site ρ) γ}
    (run : Reachable (network γ executor py start) anyEvent w) :
    Conserved executor py start w.shared := by
  refine (Protocol.sound (R := protocol γ executor py start) ?_ run).1
  rintro _ ⟨service, apart, rfl⟩ s
  exact Keeps.safe (Service.run_does apart)

/-- The one command of a session that goes by a key. -/
def Once (executor : Executor ρ) (r : ρ) (sessionId key : String) (c : Command) : Prop :=
  (executor.commands r sessionId).filter (fun c => c.dedupeKey = some key) = [c]

theorem Once.mem {r : ρ} {key : String} {c : Command} (once : Once executor r sessionId key c) :
    c ∈ executor.commands r sessionId ∧ c.dedupeKey = some key := by
  have mem : c ∈ (executor.commands r sessionId).filter fun c => c.dedupeKey = some key :=
    once ▸ List.mem_singleton_self c
  exact ⟨(List.mem_filter.mp mem).1, of_decide_eq_true (List.mem_filter.mp mem).2⟩

theorem Queued.once {r : ρ} {key : String} (queued : Queued executor r sessionId key) :
    ∃ c, Once executor r sessionId key c := by
  obtain ⟨c, mem, keyed⟩ := List.mem_map.mp queued
  have found : c ∈ (executor.commands r sessionId).filter fun c => c.dedupeKey = some key :=
    List.mem_filter.mpr ⟨mem, decide_eq_true keyed⟩
  have alike : ((executor.commands r sessionId).filter fun c => c.dedupeKey = some key).filterMap
      Command.dedupeKey =
      List.replicate ((executor.commands r sessionId).filter fun c => c.dedupeKey = some key).length
        key := by
    rw [List.filterMap_congr (g := fun _ => some key) fun c mem =>
      of_decide_eq_true (List.mem_filter.mp mem).2]
    simp
  have within : ((executor.commands r sessionId).filter fun c => c.dedupeKey = some key).Sublist
      (executor.commands r sessionId) := List.filter_sublist
  have few := (within.filterMap Command.dedupeKey).nodup (executor.distinct r sessionId)
  rw [alike, List.nodup_replicate] at few
  obtain ⟨c', single⟩ := List.length_eq_one_iff.mp
    (le_antisymm few (List.length_pos_of_mem found))
  exact ⟨c', single⟩

/-- What a peer is told: in every run of any number of bridges, migrations and other senders,
whatever the network loses and wherever they crash, a message that was reported as injected is one
command of its session, made of a message the bridge was given under the same id. -/
theorem injected_once {w : World Fault SiteTx SiteQuery Empty (Site ρ) γ}
    (run : Reachable (network γ executor py start) anyEvent w) {deliveryId messageType : Json}
    {r : Except Fault Unit} (told : .call (.frame sessionId
      (.deliveryAck deliveryId messageType .injected)) r ∈ w.shared.trace) :
    ∃ kind, messageType.isText kind.name = true ∧ ∃ c,
      Once executor w.shared.store.runtime sessionId (keyOf sessionId kind (py.str deliveryId)) c ∧
      (c ∈ executor.commands start.runtime sessionId ∨ ∃ message name,
        Received w.shared.trace sessionId message ∧ kindOf message = some kind ∧
        sourceOf py message = py.str deliveryId ∧ c.prompt = promptFor py name kind message) := by
  have known := conserved run
  obtain ⟨kind, message, received, kind_, rfl, rfl, solid, queued⟩ := known.injected _ _ _ r told
  have source : sourceOf py message = py.str (message.get "delivery_id") := by
    simp [sourceOf, Json.orElse', solid]
  refine ⟨kind, by simpa using List.find?_some kind_, ?_⟩
  rw [← source]
  obtain ⟨c, once⟩ := queued.once
  refine ⟨c, once, (known.origins sessionId c once.mem.1).imp_right fun origin => ?_⟩
  cases origin with
  | legacy _ _ _ key _ =>
    exact absurd (Option.some.inj (key.symm.trans once.mem.2)) legacyKey_ne_dedupeKey
  | @message kind' message' name received' kind_' key prompt =>
    obtain ⟨rfl, same⟩ := keyOf_inj (Option.some.inj (key.symm.trans once.mem.2))
    exact ⟨message', name, received', kind_', same, prompt⟩
  | plain free => exact absurd dedupeKey_reserved (free _ once.mem.2)

/-- A delivery of the old queue is one command of its session, with the prompt it was kept with. -/
def Handed (executor : Executor ρ) (start : Site ρ) (r : ρ) (rows : List LegacyDelivery)
    (row : LegacyDelivery) : Prop :=
  ∃ c, Once executor r row.sessionId (legacyKey row) c ∧
    (c ∈ executor.commands start.runtime row.sessionId ∨ ∃ other ∈ pendingDeliveries rows,
      other.sessionId = row.sessionId ∧ other.idempotencyKey = row.idempotencyKey ∧
      other.prompt = some c.prompt)

theorem Conserved.handed {s : State ρ γ} (known : Conserved executor py start s)
    (there : start.disk.delivery = some rows) {row : LegacyDelivery}
    (mem_ : row ∈ pendingDeliveries rows)
    (queued : Queued executor s.store.runtime row.sessionId (legacyKey row)) :
    Handed executor start s.store.runtime rows row := by
  obtain ⟨c, once⟩ := queued.once
  refine ⟨c, once, (known.origins _ c once.mem.1).imp_right fun origin => ?_⟩
  cases origin with
  | @legacy rows' other there' mem whose key prompt =>
    obtain rfl : rows = rows' := Option.some.inj (there.symm.trans there')
    have same : legacyKey other = legacyKey row := Option.some.inj (key.symm.trans once.mem.2)
    refine ⟨other, mem, whose, ?_, prompt⟩
    simpa [legacyKey] using same
  | message _ _ key _ =>
    exact absurd (Option.some.inj (once.mem.2.symm.trans key)) legacyKey_ne_dedupeKey
  | plain free => exact absurd (.inr ⟨rows, row, there, mem_, rfl, rfl⟩) (free _ once.mem.2)

/-- The old queue and the old relationships, in every run: each is where it was, or put away with
all of it taken over; and the deliveries are taken over in the order they were made in, each once. -/
theorem legacy_kept {w : World Fault SiteTx SiteQuery Empty (Site ρ) γ}
    (run : Reachable (network γ executor py start) anyEvent w) :
    (∀ rows, start.disk.delivery = some rows →
      (w.shared.store.disk.delivery = some rows ∨ w.shared.store.disk.delivery = none ∧
        rows ∈ w.shared.store.disk.archivedDeliveries ∧ ∀ row ∈ pendingDeliveries rows,
          Handed executor start w.shared.store.runtime rows row) ∧
      ∃ taken left, pendingDeliveries rows = taken ++ left ∧
        (∀ row ∈ taken, Handed executor start w.shared.store.runtime rows row) ∧
        ∀ row ∈ left, Queued executor w.shared.store.runtime row.sessionId (legacyKey row) →
          Queued executor start.runtime row.sessionId (legacyKey row) ∨
            ∃ other ∈ taken, other.sessionId = row.sessionId ∧ legacyKey other = legacyKey row) ∧
    ∀ edges, start.disk.relationships = some edges →
      w.shared.store.disk.relationships = some edges ∨ w.shared.store.disk.relationships = none ∧
        edges ∈ w.shared.store.disk.archivedEdges ∧ AllSet w.shared.trace edges := by
  have known := conserved run
  refine ⟨fun rows queue => ⟨?_, ?_⟩, fun edges parents => ?_⟩
  · refine known.deliveries.imp (·.trans queue) fun ⟨gone, all⟩ => ⟨gone, (all rows queue).1, ?_⟩
    exact fun row mem => known.handed queue mem ((all rows queue).2 row mem)
  · obtain ⟨taken, left, split, all, rest⟩ := known.order rows queue
    refine ⟨taken, left, split, fun row mem => ?_, rest⟩
    exact known.handed queue (split ▸ List.mem_append_left left mem) (all row mem)
  · exact known.relationships.imp (·.trans parents) fun ⟨gone, all⟩ => ⟨gone, all edges parents⟩

/-! ### A run -/

def enqueue (queue : List Command) (f : FollowUp) : List Command :=
  if f.command.dedupeKey.isSome ∧ f.command.dedupeKey ∈ queue.map Command.dedupeKey then queue
  else queue ++ [f.command]

def queueOf (log : List FollowUp) (sessionId : String) : List Command :=
  (log.filter fun f => f.sessionId = sessionId).foldl enqueue []

theorem enqueue_distinct {queue : List Command}
    (distinct : (queue.filterMap Command.dedupeKey).Nodup) :
    ((enqueue queue f).filterMap Command.dedupeKey).Nodup := by
  unfold enqueue
  split
  · exact distinct
  · rename_i fresh
    rw [List.filterMap_append, List.nodup_append_comm]
    cases key : f.command.dedupeKey with
    | none => simpa [key] using distinct
    | some text =>
      have new : text ∉ queue.filterMap Command.dedupeKey := by
        simpa [key] using fresh
      simpa [key, distinct] using new

theorem queueOf_append (log : List FollowUp) (f : FollowUp) (sessionId : String) :
    queueOf (log ++ [f]) sessionId =
      if f.sessionId = sessionId then enqueue (queueOf log sessionId) f
      else queueOf log sessionId := by
  by_cases mine : f.sessionId = sessionId <;> simp [queueOf, mine]

def logExecutor : Executor (List FollowUp) where
  commands := queueOf
  followUp f log := (log ++ [f], .ok ())
  setParent _ _ log := (log, .ok ())
  distinct log sessionId := by
    induction log using List.reverseRecOn with
    | nil => exact List.nodup_nil
    | append_singleton log f ih =>
      rw [queueOf_append]
      split
      · exact enqueue_distinct ih
      · exact ih
  adds f log sessionId := by
    rw [queueOf_append]
    split
    · rename_i mine
      unfold enqueue
      split
      · exact .inl rfl
      · exact .inr ⟨mine.symm, rfl⟩
    · exact .inl rfl
  takes f log key _ keyed := by
    rw [queueOf_append, if_pos rfl]
    unfold enqueue
    split
    · rename_i known
      exact keyed ▸ known.2
    · simp [keyed]
  keeps _ _ _ := rfl

/-- What becomes of the calls that come, and the messages that come over the bridge. -/
structure Weather where
  fates : List (Fate Fault)
  inbox : List Dict

def weather : {β : Type} → Weather → SiteQuery β → β × Weather
  | _, e, .fate => (e.fates.headD .answered, { e with fates := e.fates.tail })
  | _, e, .receive _ => (.ok e.inbox.head?, { e with inbox := e.inbox.tail })
  | _, e, .sleep _ => ((), e)
  | _, e, .patience => (1, e)
  | _, e, .refusal => (none, e)
  | _, e, .peerIdentity _ => (none, e)
  | _, e, .setPeerIdentity _ _ => (.ok (), e)
  | _, e, .clearPeerIdentity _ => (.ok (), e)
  | _, e, .authToken => (none, e)
  | _, e, .dial _ => (.ok (), e)
  | _, e, .frame _ _ => (.ok (), e)

def oldDeliveries : List LegacyDelivery :=
  [⟨"worker", some "second", "b", "inflight", 2⟩, ⟨"worker", some "first", "a", "pending", 1⟩,
    ⟨"worker", some "done", "c", "delivered", 0⟩]

def oldSite : Site (List FollowUp) where
  runtime := []
  disk := ⟨some [⟨"worker", "lead"⟩], some oldDeliveries, [], []⟩

def stormyWeather : Weather where
  fates := [.lost (.transport "timed out"), .answered, .answered, .refused (.transport "refused")]
  inbox := [[("type", .str "connected"), ("session_id", .str "peer")],
    [("type", .str "ask"), ("delivery_id", .str "7"), ("text", .str "status?")]]

def stormyServices : List Service :=
  [.bridge "worker" "/repo" "worker" 1, .migration,
    .sender "worker" "go on" none (some "repowire:lead:ask:7") "continue"]

def stormyWorld : World Fault SiteTx SiteQuery Empty (Site (List FollowUp)) Weather :=
  (World.boot oldSite stormyWeather (stormyServices.map (Service.run asciiLibrary))).play
    (network Weather logExecutor asciiLibrary oldSite) weather
    (List.replicate 16 (.step 0) ++ List.replicate 18 (.step 1) ++ List.replicate 4 (.step 2))

theorem forwarded_apart : Service.Apart oldSite
    (.sender "worker" "go on" none (some "repowire:lead:ask:7") "continue") := by
  rintro key same (own | ⟨rows, row, there, mem, _, kept⟩)
  · obtain rfl := Option.some.inj same
    exact absurd own (by decide)
  · obtain rfl := Option.some.inj there
    obtain rfl := Option.some.inj same
    revert kept
    exact (show ∀ row ∈ pendingDeliveries oldDeliveries, legacyKey row ≠ "repowire:lead:ask:7" by
      decide) row mem

theorem stormyWorld_reachable :
    Reachable (network Weather logExecutor asciiLibrary oldSite) anyEvent stormyWorld := by
  refine World.play_reachable (fun _ _ => trivial) _ (World.boot_reachable rfl _ ?_)
  intro op started
  obtain ⟨service, mem, rfl⟩ := List.mem_map.mp started
  refine ⟨service, ?_, rfl⟩
  simp only [stormyServices, List.mem_cons, List.not_mem_nil, or_false] at mem
  obtain rfl | rfl | rfl := mem
  · trivial
  · trivial
  · exact forwarded_apart

def reported : Trace → List (String × Json × Json)
  | [] => []
  | .call (.frame sessionId (.deliveryAck deliveryId messageType .injected)) _ :: events =>
    (sessionId, deliveryId, messageType) :: reported events
  | _ :: events => reported events

theorem reported_mem {deliveryId messageType : Json}
    (mem : (sessionId, deliveryId, messageType) ∈ reported trace) :
    ∃ r, .call (.frame sessionId (.deliveryAck deliveryId messageType .injected)) r ∈ trace := by
  induction trace using reported.induct with
  | case1 => simp [reported] at mem
  | case2 whose id type r events ih =>
    rw [reported, List.mem_cons] at mem
    obtain here | before := mem
    · cases here
      exact ⟨r, List.mem_cons_self⟩
    · exact (ih before).imp fun _ => List.mem_cons_of_mem _
  | case3 event events other ih =>
    rw [reported] at mem
    · exact (ih mem).imp fun _ => List.mem_cons_of_mem _
    · exact other

theorem lost_answer_injected_once :
    ∃ kind, (Json.str "ask").isText kind.name = true ∧ ∃ c,
      Once logExecutor stormyWorld.shared.store.runtime "worker"
        (keyOf "worker" kind (asciiLibrary.str (.str "7"))) c ∧
      (c ∈ logExecutor.commands oldSite.runtime "worker" ∨ ∃ message name,
        Received stormyWorld.shared.trace "worker" message ∧ kindOf message = some kind ∧
        sourceOf asciiLibrary message = asciiLibrary.str (.str "7") ∧
        c.prompt = promptFor asciiLibrary name kind message) := by
  have once : reported stormyWorld.shared.trace = [("worker", .str "7", .str "ask")] := by rfl
  obtain ⟨r, told⟩ := reported_mem (once ▸ List.mem_singleton_self _)
  exact injected_once stormyWorld_reachable told

theorem interrupted_migration :
    stormyWorld.shared.store.disk.delivery = none ∧
      ∀ row ∈ pendingDeliveries oldDeliveries,
        Handed logExecutor oldSite stormyWorld.shared.store.runtime oldDeliveries row := by
  have gone : stormyWorld.shared.store.disk.delivery = none := by decide +kernel
  obtain kept | ⟨_, _, all⟩ := ((legacy_kept stormyWorld_reachable).1 oldDeliveries rfl).1
  · exact absurd (gone.symm.trans kept) (Option.some_ne_none _).symm
  · exact ⟨gone, all⟩

end SightMesh.Delivery
