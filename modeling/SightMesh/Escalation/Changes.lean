import SightMesh.Escalation.Store

/-! What one transaction does to each table of the escalation database. -/
namespace SightMesh.Escalation

open Database

variable {β : Type} {db : MailStore}

/-! ### Escalations and acknowledgments -/

def MailStore.acked (db : MailStore) (key : String) : Bool := (db.acknowledgment key).isSome

def MailStore.isOpen (db : MailStore) (key : String) : Bool :=
  (db.escalation key).any fun row => row.status = .parked

def MailStore.isResolved (db : MailStore) (key : String) : Bool :=
  (db.escalation key).any fun row => row.status = .resolved

def MailTx.acknowledges : MailTx β → Option String
  | .acknowledge request _ => some request.dedupeKey
  | _ => none

def MailTx.parks : MailTx β → Option String
  | .park request _ => some request.dedupeKey
  | _ => none

def MailTx.resolves (row : ParkedEscalation) : MailTx β → Bool
  | .resolve escalationId _ => row.escalationId = escalationId
  | .resolveDedupeKey key _ => row.dedupeKey = key
  | _ => false

theorem MailStore.subscribe_cases (db : MailStore) (row : ExternalRun) :
    db.subscribe row = (db, false) ∨
      (db.run row.subscriptionId = none ∧ db.lease row.subscriptionId = none ∧
        db.subscribe row = ({ db with
          runs := db.runs.put row
          leases := db.leases.put ⟨row.subscriptionId, row.outputRoot, .active, 0⟩ }, true)) := by
  unfold MailStore.subscribe
  split
  · exact .inl rfl
  · rename_i accepted
    simp only [not_or, Bool.not_eq_true, Option.isSome_eq_false_iff, Option.isNone_iff_eq_none]
      at accepted
    exact .inr ⟨accepted.1, accepted.2.1, rfl⟩

theorem MailStore.moveRun_cases (db : MailStore) (id : String) (move : RunMove) (expected : ℕ)
    (now : Time) :
    (∃ row, db.run id = some row ∧ row.state ∈ move.states ∧ row.version = expected ∧
      db.moveRun id move expected now =
        ({ db with runs := db.runs.put (row.moved move now) }, true)) ∨
      db.moveRun id move expected now = (db, false) := by
  unfold MailStore.moveRun
  cases known : db.run id with
  | none => exact .inr rfl
  | some row =>
    dsimp only
    split
    · rename_i guard
      exact .inl ⟨row, rfl, guard.1, guard.2, rfl⟩
    · exact .inr rfl

theorem MailStore.diagnose_cases (db : MailStore) (id : String) (expected : ℕ) (message : String)
    (now : Time) :
    (∃ row, db.run id = some row ∧ row.version = expected ∧ db.diagnose id expected message now =
        { db with runs := db.runs.put { row with diagnostic := some message, updatedAt := now } }) ∨
      db.diagnose id expected message now = db := by
  unfold MailStore.diagnose
  cases known : db.run id with
  | none => exact .inr rfl
  | some row =>
    dsimp only
    split
    · rename_i guard
      exact .inl ⟨row, rfl, guard, rfl⟩
    · exact .inr rfl

def MailStore.releasedLeases (db : MailStore) (id : String) : Table OutputLease.subscriptionId :=
  match db.lease id with
  | some lease => if lease.state = .active then
      db.leases.put { lease with state := .released, version := lease.version + 1 }
    else db.leases
  | none => db.leases

theorem MailStore.markNotified_cases (db : MailStore) (id : String) (expected : ℕ) (now : Time) :
    (∃ row, db.run id = some row ∧ row.state = .delivering ∧ row.version = expected ∧
      db.markNotified id expected now = ({ db with
        runs := db.runs.put
          { row with state := .notified, version := row.version + 1, updatedAt := now }
        leases := db.releasedLeases id }, true)) ∨
      db.markNotified id expected now = (db, false) := by
  unfold MailStore.markNotified
  cases known : db.run id with
  | none => exact .inr rfl
  | some row =>
    dsimp only
    split
    · rename_i guard
      exact .inl ⟨row, rfl, guard.1, guard.2, rfl⟩
    · exact .inr rfl

/-- What the tables of escalations and acknowledgments become. -/
structure Mailed (tx : MailTx β) (db : MailStore) : Prop where
  acks : ∀ key, ((tx.exec db).1.acked key ↔ db.acked key ∨ tx.acknowledges = some key)
  opened : ∀ key, (tx.exec db).1.isOpen key ↔
    (∃ row, db.escalation key = some row ∧ row.status = .parked ∧ tx.resolves row = false) ∨
      db.escalation key = none ∧ tx.parks = some key
  rows : ∀ key, (db.escalation key).isSome → ((tx.exec db).1.escalation key).isSome

theorem MailStore.key_of_escalation {key : String} {row : ParkedEscalation}
    (known : db.escalation key = some row) : row.dedupeKey = key :=
  Table.key_of_get (t := db.escalations) known

theorem isOpen_iff {key : String} :
    db.isOpen key ↔ ∃ row, db.escalation key = some row ∧ row.status = .parked := by
  simp [MailStore.isOpen, Option.any_eq_true]

theorem MailStore.isOpen_resolveWhere (db : MailStore) (named : ParkedEscalation → Bool) (now : Time)
    (key : String) : (db.resolveWhere named now).isOpen key ↔
      ∃ row, db.escalation key = some row ∧ row.status = .parked ∧ named row = false := by
  simp only [isOpen_iff, MailStore.resolveWhere, MailStore.escalation, Table.get_update,
    Option.map_eq_some_iff]
  constructor
  · rintro ⟨row, ⟨before, known, rfl⟩, parked⟩
    split at parked
    · cases parked
    · rename_i other
      exact ⟨before, known, parked, by simpa [parked] using other⟩
  · rintro ⟨row, known, parked, other⟩
    exact ⟨row, ⟨row, known, by simp [other]⟩, parked⟩

theorem Mailed.of_kept {tx : MailTx β} (escalations : (tx.exec db).1.escalations = db.escalations)
    (acknowledgments : (tx.exec db).1.acknowledgments = db.acknowledgments)
    (acknowledges : tx.acknowledges = none) (parks : tx.parks = none)
    (resolves : ∀ row, tx.resolves row = false) : Mailed tx db where
  acks key := by
    simp [MailStore.acked, MailStore.acknowledgment, acknowledgments, acknowledges]
  opened key := by
    simp [isOpen_iff, MailStore.escalation, escalations, parks, resolves]
  rows key known := by rwa [MailStore.escalation, escalations]

theorem MailStore.isSome_resolveWhere (db : MailStore) (named : ParkedEscalation → Bool) (now : Time)
    {key : String} (known : (db.escalation key).isSome) :
    ((db.resolveWhere named now).escalation key).isSome := by
  simpa [MailStore.resolveWhere, MailStore.escalation, Table.get_update] using known

theorem mailed (tx : MailTx β) (db : MailStore) : Mailed tx db := by
  cases tx with
  | park request now =>
    constructor
    · intro key
      simp [MailTx.exec, MailStore.park, MailStore.acked, MailStore.acknowledgment,
        MailTx.acknowledges]
    · intro key
      simp only [isOpen_iff, MailTx.exec, MailStore.park, MailStore.escalation,
        Table.get_insertNew, MailTx.parks, MailTx.resolves, Option.some.injEq, and_true]
      by_cases same : key = request.dedupeKey
      · subst same
        cases known : db.escalations.get request.dedupeKey with
        | none => simp
        | some row => simp
      · simp [same, Ne.symm same]
    · intro key known
      obtain ⟨row, known⟩ := Option.isSome_iff_exists.mp known
      have known : db.escalations.get key = some row := known
      simp [MailTx.exec, MailStore.park, MailStore.escalation, Table.get_insertNew, known]
  | acknowledge request now =>
    constructor
    · intro key
      simp only [MailTx.exec, MailStore.acknowledge, MailStore.acked, MailStore.acknowledgment,
        Table.get_insertNew, MailTx.acknowledges, Option.some.injEq]
      by_cases same : key = request.dedupeKey
      · simp [same]
      · simp [same, Ne.symm same]
    · intro key
      simp [isOpen_iff, MailTx.exec, MailStore.acknowledge, MailStore.escalation, MailTx.parks,
        MailTx.resolves]
    · exact fun key known => known
  | resolve escalationId now =>
    constructor
    · simp [MailTx.exec, MailStore.resolveWhere, MailStore.acked, MailStore.acknowledgment,
        MailTx.acknowledges]
    · simp [MailTx.exec, MailStore.isOpen_resolveWhere, MailTx.parks, MailTx.resolves]
    · exact fun key known => db.isSome_resolveWhere _ _ known
  | resolveDedupeKey resolved now =>
    constructor
    · simp [MailTx.exec, MailStore.resolveWhere, MailStore.acked, MailStore.acknowledgment,
        MailTx.acknowledges]
    · simp [MailTx.exec, MailStore.isOpen_resolveWhere, MailTx.parks, MailTx.resolves]
    · exact fun key known => db.isSome_resolveWhere _ _ known
  | subscribe row =>
    obtain left | ⟨_, _, left⟩ := db.subscribe_cases row
    · exact .of_kept (by rw [MailTx.exec, left]) (by rw [MailTx.exec, left]) rfl rfl fun _ => rfl
    · exact .of_kept (by rw [MailTx.exec, left]) (by rw [MailTx.exec, left]) rfl rfl fun _ => rfl
  | moveRun id move expected now =>
    obtain ⟨_, _, _, _, left⟩ | left := db.moveRun_cases id move expected now
    · exact .of_kept (by rw [MailTx.exec, left]) (by rw [MailTx.exec, left]) rfl rfl fun _ => rfl
    · exact .of_kept (by rw [MailTx.exec, left]) (by rw [MailTx.exec, left]) rfl rfl fun _ => rfl
  | diagnose id expected message now =>
    obtain ⟨_, _, _, left⟩ | left := db.diagnose_cases id expected message now
    · exact .of_kept (by rw [MailTx.exec, left]) (by rw [MailTx.exec, left]) rfl rfl fun _ => rfl
    · exact .of_kept (by rw [MailTx.exec, left]) (by rw [MailTx.exec, left]) rfl rfl fun _ => rfl
  | markNotified id expected now =>
    obtain ⟨_, _, _, _, left⟩ | left := db.markNotified_cases id expected now
    · exact .of_kept (by rw [MailTx.exec, left]) (by rw [MailTx.exec, left]) rfl rfl fun _ => rfl
    · exact .of_kept (by rw [MailTx.exec, left]) (by rw [MailTx.exec, left]) rfl rfl fun _ => rfl
  | _ => exact .of_kept rfl rfl rfl rfl fun _ => rfl

/-! ### External runs -/

def MailTx.subscribes : MailTx β → Option ExternalRun
  | .subscribe row => some row
  | _ => none

def MailTx.moves : MailTx β → Option (String × RunMove × ℕ)
  | .moveRun id move expected _ => some (id, move, expected)
  | _ => none

def OutputLease.released (lease : OutputLease) : OutputLease :=
  if lease.state = .active then { lease with state := .released, version := lease.version + 1 }
  else lease

theorem OutputLease.released_state (lease : OutputLease) : lease.released.state = .released := by
  unfold OutputLease.released
  split
  · rfl
  · rename_i held
    cases state : lease.state with
    | active => exact absurd state held
    | released => rfl

/-- What one transaction makes of the row and the lease of a run. -/
inductive RunChange (tx : MailTx β) (id : String) :
    Option ExternalRun → Option OutputLease → Option ExternalRun → Option OutputLease → Prop where
  | kept {row lease} : RunChange tx id row lease row lease
  | subscribed {row} : tx.subscribes = some row → row.subscriptionId = id →
      RunChange tx id none none (some row) (some ⟨id, row.outputRoot, .active, 0⟩)
  | moved {row lease move now} : tx.moves = some (id, move, row.version) →
      row.state ∈ move.states → RunChange tx id (some row) lease (some (row.moved move now)) lease
  | diagnosed {row : ExternalRun} {lease message now} : RunChange tx id (some row) lease
      (some { row with diagnostic := some message, updatedAt := now }) lease
  | notified {row : ExternalRun} {lease now} : row.state = .delivering →
      RunChange tx id (some row) lease
        (some { row with state := .notified, version := row.version + 1, updatedAt := now })
        (lease.map OutputLease.released)

theorem RunChange.of_kept {tx : MailTx β} {id : String}
    (runs : (tx.exec db).1.runs = db.runs) (leases : (tx.exec db).1.leases = db.leases) :
    RunChange tx id (db.run id) (db.lease id) ((tx.exec db).1.run id) ((tx.exec db).1.lease id) := by
  have run : (tx.exec db).1.run id = db.run id := congrArg (Table.get · id) runs
  have lease : (tx.exec db).1.lease id = db.lease id := congrArg (Table.get · id) leases
  rw [run, lease]
  exact .kept

theorem MailStore.key_of_run {id : String} {row : ExternalRun} (known : db.run id = some row) :
    row.subscriptionId = id := Table.key_of_get (t := db.runs) known

theorem MailStore.key_of_lease {id : String} {lease : OutputLease}
    (known : db.lease id = some lease) : lease.subscriptionId = id := Table.key_of_get known

theorem MailStore.run_put (db : MailStore) (row : ExternalRun) (id : String) :
    (db.runs.put row).get id = if id = row.subscriptionId then some row else db.run id :=
  db.runs.get_put row id

theorem MailStore.releasedLeases_get (db : MailStore) (id : String) :
    (db.releasedLeases id).get id = (db.lease id).map OutputLease.released := by
  unfold MailStore.releasedLeases
  cases known : db.lease id with
  | none => exact known
  | some lease =>
    have named : lease.subscriptionId = id := MailStore.key_of_lease known
    by_cases held : lease.state = .active
    · simp [held, OutputLease.released, named]
    · have unmoved : lease.released = lease := if_neg held
      simp only [held, if_false, Option.map_some, unmoved]
      exact known

theorem MailStore.releasedLeases_ne (db : MailStore) {id other : String} (apart : other ≠ id) :
    (db.releasedLeases id).get other = db.lease other := by
  unfold MailStore.releasedLeases
  cases known : db.lease id with
  | none => rfl
  | some lease =>
    have named : lease.subscriptionId = id := MailStore.key_of_lease known
    by_cases held : lease.state = .active
    · simp only [held, if_true]
      exact db.leases.get_put_ne (by simpa [named] using apart)
    · simp only [held, if_false]
      rfl

theorem runChange (tx : MailTx β) (db : MailStore) (id : String) :
    RunChange tx id (db.run id) (db.lease id) ((tx.exec db).1.run id) ((tx.exec db).1.lease id) := by
  cases tx with
  | subscribe row =>
    obtain left | ⟨free, unleased, left⟩ := db.subscribe_cases row
    · exact .of_kept (by rw [MailTx.exec, left]) (by rw [MailTx.exec, left])
    · rw [MailTx.exec, left]
      by_cases same : id = row.subscriptionId
      · subst same
        simp only [MailStore.run, MailStore.lease, Table.get_put, if_true] at free unleased ⊢
        rw [free, unleased]
        exact .subscribed rfl rfl
      · simp only [MailStore.run, MailStore.lease, Table.get_put, if_neg same]
        exact .kept
  | moveRun moved move expected now =>
    obtain ⟨row, known, guard, version, left⟩ | left := db.moveRun_cases moved move expected now
    · rw [MailTx.exec, left]
      have named := MailStore.key_of_run known
      by_cases same : id = moved
      · subst same
        have written : (db.runs.put (row.moved move now)).get id = some (row.moved move now) := by
          rw [MailStore.run_put, ExternalRun.moved_identity, if_pos named.symm]
        simp only [MailStore.run, written]
        have before : db.runs.get id = some row := known
        rw [before]
        exact .moved (by rw [MailTx.moves, version]) guard
      · have kept : (db.runs.put (row.moved move now)).get id = db.run id := by
          rw [MailStore.run_put, ExternalRun.moved_identity, if_neg (by simpa [named])]
        simp only [MailStore.run, kept]
        exact .kept
    · exact .of_kept (by rw [MailTx.exec, left]) (by rw [MailTx.exec, left])
  | diagnose diagnosed expected message now =>
    obtain ⟨row, known, _, left⟩ | left := db.diagnose_cases diagnosed expected message now
    · rw [MailTx.exec, left]
      have named := MailStore.key_of_run known
      simp only [MailStore.run, Table.get_put]
      by_cases same : id = diagnosed
      · subst same
        have before : db.runs.get id = some row := known
        rw [if_pos named.symm, before]
        exact .diagnosed
      · rw [if_neg (by simpa [named])]
        exact .kept
    · exact .of_kept (by rw [MailTx.exec, left]) (by rw [MailTx.exec, left])
  | markNotified marked expected now =>
    obtain ⟨row, known, delivering, _, left⟩ | left := db.markNotified_cases marked expected now
    · rw [MailTx.exec, left]
      have named := MailStore.key_of_run known
      simp only [MailStore.run, MailStore.lease, Table.get_put]
      by_cases same : id = marked
      · subst same
        have before : db.runs.get id = some row := known
        rw [if_pos named.symm, before, db.releasedLeases_get]
        exact .notified delivering
      · rw [if_neg (by simpa [named]), db.releasedLeases_ne same]
        exact .kept
    · exact .of_kept (by rw [MailTx.exec, left]) (by rw [MailTx.exec, left])
  | _ => exact .of_kept rfl rfl

end SightMesh.Escalation
