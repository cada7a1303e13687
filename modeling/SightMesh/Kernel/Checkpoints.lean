import SightMesh.Kernel.Changes

/-! What the transactions do to the prepared checkpoint operations. -/
namespace SightMesh

open Database

variable {β : Type}

def Store.operation (db : Store) (operationId : String) : Option CheckpointOperation :=
  db.checkpoints.get operationId

def Store.Owns (db : Store) (operation : CheckpointOperation) : Prop :=
  ∃ row, db.task operation.taskId = some row ∧
    row.Owned operation.epoch operation.holderSessionId operation.expectedVersion

/-- The operation a transaction commits, as its caller holds it, and the receipt. -/
def Tx.attaches : Tx β → Option (CheckpointOperation × Receipt)
  | .checkpointOccurrence operation receipt _ => some (operation, receipt)
  | _ => none

/-- What one transaction does to the operations. -/
inductive Store.Prepares (attached : Option (CheckpointOperation × Receipt)) (a b : Store) :
    Prop where
  | same : b.checkpoints = a.checkpoints → Store.Prepares attached a b
  | prepared (operation : CheckpointOperation) : a.operation operation.operationId = none →
      Python.canonicalUuid operation.operationId = true → operation.receipt = none →
      a.Owns operation → b = { a with checkpoints := a.checkpoints.put operation } →
      Store.Prepares attached a b
  | committed (operation seen : CheckpointOperation) (receipt : Receipt) :
      attached = some (seen, receipt) → operation.operationId = seen.operationId →
      operation.Agrees seen → a.operation operation.operationId = some operation →
      operation.receipt = none → a.Owns operation →
      b.checkpoints = a.checkpoints.put { operation with receipt := some receipt } →
      Store.Prepares attached a b

theorem prepareCheckpoint_prepares {task : TaskRecord} {operationId checkpoint : String}
    {facts : CheckpointFacts} :
    Moves (Store.Prepares none) (prepareCheckpointOperation task operationId checkpoint facts) := by
  intro db operation db' ran
  unfold prepareCheckpointOperation at ran
  split at ran
  · simp at ran
  rename_i canonical
  simp only [get_bind_run] at ran
  cases known : db.task task.taskId with
  | none => simp [known] at ran
  | some current =>
    simp only [known] at ran
    cases stored : db.checkpoints.get operationId with
    | some other =>
      simp only [stored] at ran
      split at ran
      · simp at ran
      · split at ran
        · obtain ⟨_, mid, owned, ran⟩ := bind_ok.mp ran
          have same : mid = db := (checkCheckpointOwner_ok owned).1
          have left : mid = db' := congrArg Prod.snd (Except.ok.inj ran)
          rw [← left, same]
          exact .same rfl
        · cases ran
          exact .same rfl
    | none =>
      simp only [stored] at ran
      obtain ⟨_, mid, owned, ran⟩ := bind_ok.mp ran
      obtain ⟨same, session, held, owns⟩ := checkCheckpointOwner_ok owned
      have same : mid = db := same
      subst same
      split at ran
      · simp at ran
      · cases ran
        rw [held]
        exact .prepared
          ⟨operationId, task.taskId, task.epoch, session, task.version, checkpoint, facts, none⟩
          stored (not_not.mp canonical) rfl ⟨current, known, owns⟩ rfl

theorem Tx.exec_prepares (tx : Tx β) (db : Store) :
    Store.Prepares tx.attaches db (tx.exec db).1 := by
  have only := tx.exec_only db
  cases tx with
  | prepareCheckpoint =>
    exact atomically_moves prepareCheckpoint_prepares (fun db => .same rfl) db
  | checkpointOccurrence operation receipt now =>
    obtain ⟨record, db', ran, left⟩ | ⟨e, _, left⟩ :=
      atomically_cases (checkpointWithOccurrence operation receipt now) db
    · have exec : ((Tx.checkpointOccurrence operation receipt now).exec db).1 = db' :=
        congrArg Prod.fst left
      rw [exec]
      obtain rfl | ⟨stored, row, mid, ⟨found, unset, agrees, known, owned⟩, moved, rfl⟩ :=
        checkpointWithOccurrence_ok ran
      · exact .same rfl
      · have named : stored.operationId = operation.operationId := Table.key_of_get found
        obtain ⟨_, _, _, _, _, left⟩ := transition_ok.mp moved
        obtain ⟨_, rfl⟩ := Prod.mk.inj left
        rw [← named] at found
        exact .committed stored operation receipt rfl named agrees found unset
          ⟨row, known, owned⟩ rfl
    · have exec : ((Tx.checkpointOccurrence operation receipt now).exec db).1 = db :=
        congrArg Prod.fst left
      rw [exec]
      exact .same rfl
  | _ =>
    have same := congrArg Store.checkpoints only
    exact .same same

/-! ### Operations over a run -/

/-- The later state of an operation: only a missing receipt may be filled in. -/
structure CheckpointOperation.Later (a b : CheckpointOperation) : Prop where
  facts : b = { a with receipt := b.receipt }
  receipt : ∀ r, a.receipt = some r → b.receipt = some r

theorem CheckpointOperation.Later.refl (a : CheckpointOperation) : a.Later a := ⟨rfl, fun _ h => h⟩

theorem CheckpointOperation.Later.trans {a b c : CheckpointOperation} (first : a.Later b)
    (second : b.Later c) : a.Later c where
  facts := by rw [second.facts, first.facts]
  receipt r known := second.receipt r (first.receipt r known)

theorem Store.operation_put {db b : Store} {operation : CheckpointOperation}
    (left : b.checkpoints = db.checkpoints.put operation) (operationId : String) :
    b.operation operationId =
      if operationId = operation.operationId then some operation else db.operation operationId := by
  rw [Store.operation, left]
  exact Table.get_put ..

theorem Store.operation_same {a b : Store} (left : b.checkpoints = a.checkpoints)
    (operationId : String) : b.operation operationId = a.operation operationId :=
  congrArg (fun t => Table.get t operationId) left

/-- An operation stays, and its receipt with it. -/
theorem Store.Prepares.later {attached : Option (CheckpointOperation × Receipt)} {a b : Store}
    (h : Store.Prepares attached a b) {operationId : String}
    {operation : CheckpointOperation} (known : a.operation operationId = some operation) :
    ∃ next, b.operation operationId = some next ∧ operation.Later next := by
  cases h with
  | same left => exact ⟨operation, (Store.operation_same left _).trans known, .refl _⟩
  | prepared other fresh _ _ _ left =>
    have apart : operationId ≠ other.operationId := by
      rintro rfl
      exact nomatch fresh.symm.trans known
    have left := congrArg Store.checkpoints left
    refine ⟨operation, ?_, .refl _⟩
    rw [Store.operation_put left, if_neg apart]
    exact known
  | committed other _ receipt _ _ _ found unset _ left =>
    rw [Store.operation_put left]
    by_cases same : operationId = other.operationId
    · subst same
      cases Option.some.inj (found.symm.trans known)
      refine ⟨_, if_pos rfl, rfl, fun r receipted => ?_⟩
      exact nomatch unset.symm.trans receipted
    · exact ⟨operation, (if_neg same).trans known, .refl _⟩

def Store.Applies (a b : Store) (operationId : String) : Prop :=
  ∃ operation receipt, a.operation operationId = some operation ∧ operation.receipt = none ∧
    b.operation operationId = some { operation with receipt := some receipt }

theorem Store.Prepares.owns {attached : Option (CheckpointOperation × Receipt)} {a b : Store}
    (h : Store.Prepares attached a b) {operationId : String}
    (applies : a.Applies b operationId) :
    ∃ operation, a.operation operationId = some operation ∧ a.Owns operation := by
  obtain ⟨operation, receipt, known, unset, filled⟩ := applies
  have unchanged : b.operation operationId ≠ some operation := by
    intro same
    have same := Option.some.inj (same.symm.trans filled)
    rw [same] at unset
    exact nomatch unset
  cases h with
  | same left => exact absurd ((Store.operation_same left _).trans known) unchanged
  | prepared other fresh _ _ _ left =>
    have apart : operationId ≠ other.operationId := by
      rintro rfl
      exact nomatch fresh.symm.trans known
    have left := congrArg Store.checkpoints left
    rw [Store.operation_put left, if_neg apart] at unchanged
    exact absurd known unchanged
  | committed other _ receipt' _ _ _ found _ owns left =>
    rw [Store.operation_put left] at unchanged
    by_cases same : operationId = other.operationId
    · subst same
      cases Option.some.inj (found.symm.trans known)
      exact ⟨operation, known, owns⟩
    · rw [if_neg same] at unchanged
      exact absurd known unchanged

/-- A receipt of the later store was there, or is the one the transaction attaches. -/
theorem Store.Prepares.receipt {attached : Option (CheckpointOperation × Receipt)} {a b : Store}
    (h : Store.Prepares attached a b) {operationId : String} {operation : CheckpointOperation}
    {receipt : Receipt} (known : b.operation operationId = some operation)
    (receipted : operation.receipt = some receipt) :
    a.operation operationId = some operation ∨ ∃ stored seen : CheckpointOperation,
      attached = some (seen, receipt) ∧ stored.operationId = seen.operationId ∧
        stored.Agrees seen ∧ operation = { stored with receipt := some receipt } := by
  cases h with
  | same left =>
    left
    rw [← Store.operation_same left]
    exact known
  | prepared other _ _ unset _ left =>
    have left := congrArg Store.checkpoints left
    rw [Store.operation_put left] at known
    split at known
    · cases known
      exact nomatch unset.symm.trans receipted
    · exact .inl known
  | committed other seen receipt' attached named agrees _ _ _ left =>
    rw [Store.operation_put left] at known
    split at known
    · cases known
      cases receipted
      exact .inr ⟨other, seen, attached, named, agrees, rfl⟩
    · exact .inl known

/-- Every operation has a canonical id, and its task is there. -/
def Store.OperationsPlaced (db : Store) : Prop :=
  ∀ operationId operation, db.operation operationId = some operation →
    Python.canonicalUuid operationId = true ∧ (db.task operation.taskId).isSome

theorem Tx.exec_task_isSome (tx : Tx β) {db : Store} {t : TaskId} (known : (db.task t).isSome) :
    ((tx.exec db).1.task t).isSome := by
  obtain ⟨row, known⟩ := Option.isSome_iff_exists.mp known
  obtain ⟨next, known, _⟩ := tx.exec_task known
  rw [known]
  rfl

theorem Store.OperationsPlaced.exec {db : Store} (h : db.OperationsPlaced) (tx : Tx β) :
    (tx.exec db).1.OperationsPlaced := by
  intro operationId operation known
  have kept {operation : CheckpointOperation} (known : db.operation operationId = some operation) :
      Python.canonicalUuid operationId = true ∧ ((tx.exec db).1.task operation.taskId).isSome := by
    obtain ⟨canonical, there⟩ := h operationId operation known
    exact ⟨canonical, tx.exec_task_isSome there⟩
  cases tx.exec_prepares db with
  | same left => exact kept ((Store.operation_same left _).symm.trans known)
  | prepared other fresh canonical _ owns left =>
    have left := congrArg Store.checkpoints left
    rw [Store.operation_put left] at known
    by_cases same : operationId = other.operationId
    · rw [if_pos same] at known
      cases known
      obtain ⟨row, found, _⟩ := owns
      refine ⟨same ▸ canonical, tx.exec_task_isSome ?_⟩
      rw [found]
      rfl
    · rw [if_neg same] at known
      exact kept known
  | committed other _ receipt _ _ _ found unset owns left =>
    rw [Store.operation_put left] at known
    by_cases same : operationId = other.operationId
    · rw [if_pos same] at known
      cases known
      subst same
      exact @kept other found
    · rw [if_neg same] at known
      exact kept known

/-- A commit applies its operation to the task, or leaves everything as it is. -/
theorem checkpointOccurrence_effect (operation : CheckpointOperation) (receipt : Receipt)
    (now : Time) (db : Store) :
    ((Tx.checkpointOccurrence operation receipt now).exec db).1 = db ∨
      db.Applies ((Tx.checkpointOccurrence operation receipt now).exec db).1
          operation.operationId ∧
        ∃ row, db.task operation.taskId = some row ∧
          ((Tx.checkpointOccurrence operation receipt now).exec db).1.task operation.taskId =
            some (row.moved (Lifecycle.checkpointed operation.checkpoint now) id now) := by
  obtain ⟨record, db', ran, left⟩ | ⟨e, _, left⟩ :=
    atomically_cases (checkpointWithOccurrence operation receipt now) db
  · have exec : ((Tx.checkpointOccurrence operation receipt now).exec db).1 = db' :=
      congrArg Prod.fst left
    rw [exec]
    obtain rfl | ⟨stored, row, mid, ⟨found, unset, _, _, _⟩, moved, rfl⟩ :=
      checkpointWithOccurrence_ok ran
    · exact .inl rfl
    · have named : stored.operationId = operation.operationId := Table.key_of_get found
      obtain ⟨row, known, _, _, _, left⟩ := transition_ok.mp moved
      obtain ⟨_, rfl⟩ := Prod.mk.inj left
      right
      constructor
      · refine ⟨stored, receipt, found, unset, ?_⟩
        rw [Store.operation_put rfl, if_pos named.symm]
      · refine ⟨row, known, ?_⟩
        have same : operation.taskId = row.taskId := (Store.taskId_of_task known).symm
        change (db.putTask _).task _ = _
        rw [Store.task_putTask, if_pos]
        exact same
  · exact .inl (congrArg Prod.fst left)

/-! ### Retries of a committed operation -/

variable {db : Store} {operation : CheckpointOperation} {receipt : Receipt}

/-- Preparing a committed operation again answers it, and changes nothing. -/
theorem prepareCheckpoint_replay (placed : db.OperationsPlaced)
    (found : db.operation operation.operationId = some operation)
    (receipted : operation.receipt = some receipt) {seen : TaskRecord}
    (task : seen.taskId = operation.taskId) (epoch : seen.epoch = operation.epoch)
    (holder : seen.holderSessionId = some operation.holderSessionId) :
    (Tx.prepareCheckpoint seen operation.operationId operation.checkpoint operation.facts).exec db =
      (db, .ok operation) := by
  obtain ⟨canonical, there⟩ := placed _ _ found
  obtain ⟨row, known⟩ := Option.isSome_iff_exists.mp there
  have stored : db.checkpoints.get operation.operationId = some operation := found
  have ran : prepareCheckpointOperation seen operation.operationId operation.checkpoint
      operation.facts db = .ok (operation, db) := by
    simp only [prepareCheckpointOperation, canonical, not_true_eq_false, if_false, get_bind_run,
      known, stored, task, epoch, holder, ne_eq, receipted, reduceCtorEq]
    rfl
  exact atomically_ok ran

/-- Committing an operation again with its receipt changes nothing. -/
theorem checkpointOccurrence_replay (placed : db.OperationsPlaced)
    (found : db.operation operation.operationId = some operation)
    (receipted : operation.receipt = some receipt) (now : Time) :
    ∃ record, (Tx.checkpointOccurrence operation receipt now).exec db = (db, .ok record) := by
  obtain ⟨_, there⟩ := placed _ _ found
  obtain ⟨row, known⟩ := Option.isSome_iff_exists.mp there
  have stored : db.checkpoints.get operation.operationId = some operation := found
  have ran : checkpointWithOccurrence operation receipt now db = .ok (row.toTaskRecord, db) := by
    simp only [checkpointWithOccurrence, get_bind_run, stored, ne_eq, not_true_eq_false, if_false,
      known, receipted]
    rfl
  exact ⟨row.toTaskRecord, atomically_ok ran⟩

end SightMesh
