import SightMesh.Concurrency.Weakest
import SightMesh.Properties.Admission
import SightMesh.Properties.ChildLimit

/-! What a start batch leaves that is refused before anything of it is launched. -/
namespace SightMesh

open Concurrency Database Prog Python

variable {β γ : Type} {py : Library} {x : Executor γ} {owner : String} {cap : ℕ} {scope : String}
  {db db' : Store}

/-! ### The two halves of a start -/

def prepareBatch (py : Library) (caller : Option SessionId) (requested : List WorkerSpec) :
    Kernel (String × Option TaskRecord × List TaskSpec) := do
  let (scope, parent) ← callerContext caller
  requireActiveParent parent
  let prepared ← collect requested (prepareSpec py scope parent.isNone)
  return (scope, parent, prepared)

def startPrepared (py : Library) (owner : String) (cap : ℕ)
    (batch : String × Option TaskRecord × List TaskSpec) : Kernel Unit := do
  forEach batch.2.2 (reissueExpired batch.1)
  query .contract
  let now ← clock
  let reservations ← Prog.run (.reserveAll batch.1 (batch.2.1.map fun p => p.taskId) batch.2.2
    maxAttempts now)
  forEach reservations fun reservation =>
    excepting (startReserved py owner cap reservation.1) KernelError.staysInBatch fun _ => .ret ()

theorem startAll_eq (caller : Option SessionId) (swept : Bool) (requested : List WorkerSpec) :
    startAll py owner cap caller swept requested = (ensureSwept py swept).bind fun _ =>
      (prepareBatch py caller requested).bind (startPrepared py owner cap) := by
  simp only [startAll, prepareBatch, bind_eq, bind_assoc]
  rfl

/-! ### Questions -/

def Query.launches : Query β → Bool
  | .managedLaunch .. => true
  | _ => false

def unlaunching {β : Type} (q : Query β) : Prop := q.launches = false

variable {done : β → Store → Prop} {raised : KernelError → Store → Prop}

theorem wp_query {q : Query (Answer β)} (ends : ∀ b, done b db) (raises : ∀ e, raised e db) :
    (query q).Wp (kernel py x) unlaunching done raised db :=
  Wp.query (fun _ => ends) fun _ => raises

theorem wp_read {view : Store → β} :
    (read view).Wp (kernel py x) unlaunching done raised db ↔ done (view db) db := Iff.rfl

theorem wp_stamped {tx : Time → Tx (Answer β)}
    (ends : ∀ now b, ((tx now).exec db).2 = .ok b → done b ((tx now).exec db).1)
    (raises : ∀ now e, ((tx now).exec db).2 = .error e → raised e ((tx now).exec db).1) :
    (stamped tx).Wp (kernel py x) unlaunching done raised db :=
  wp_bind.mpr (Wp.ask fun _ now => Wp.run (ends now) (raises now))

theorem wp_forEach {α : Type} {I : Store → Prop} {body : α → Kernel Unit} {xs : List α}
    (round : ∀ x' ∈ xs, ∀ db, I db →
      (body x').Wp (kernel py x) unlaunching (fun _ => I) (fun _ => I) db) (start : I db) :
    (forEach xs body).Wp (kernel py x) unlaunching (fun _ => I) (fun _ => I) db := by
  induction xs generalizing db with
  | nil => exact start
  | cons x' xs ih =>
    refine wp_bind.mpr ((round x' List.mem_cons_self db start).mono (fun _ mid kept => ?_)
      fun _ _ kept => kept)
    exact ih (fun other listed => round other (List.mem_cons_of_mem _ listed)) kept

/-! ### Preparing writes nothing -/

def Store.scopeOf (db : Store) (caller : Option SessionId) : String :=
  match present caller with
  | none => "operator"
  | some session =>
    match db.getBySession session with
    | some parent => parent.taskId
    | none => "session:" ++ session

theorem callerContext_wp (caller : Option SessionId) :
    (callerContext caller).Wp (kernel py x) unlaunching
      (fun context after => after = db ∧ context.1 = db.scopeOf caller) (fun _ _ => False) db := by
  unfold callerContext
  cases named : present caller with
  | none => exact ⟨rfl, by simp [Store.scopeOf, named]⟩
  | some session =>
    refine wp_bind.mpr (wp_read.mpr ?_)
    cases found : db.getBySession session with
    | none => exact ⟨rfl, by simp [Store.scopeOf, named, found]⟩
    | some parent => exact ⟨rfl, by simp [Store.scopeOf, named, found]⟩

theorem prepareSpec_wp (topLevel : Bool) (requested : WorkerSpec) :
    (prepareSpec py scope topLevel requested).Wp (kernel py x) unlaunching
      (fun spec after => after = db ∧ spec.key = requested.key) (fun _ after => after = db) db := by
  unfold prepareSpec
  refine wp_bind.mpr ?_
  cases validateSpec py requested with
  | error e => exact rfl
  | ok _ =>
    refine wp_bind.mpr (wp_query (fun repo => ?_) fun _ => rfl)
    split
    · exact rfl
    refine wp_bind.mpr (wp_read.mpr ?_)
    dsimp only
    split
    · rename_i task found
      split
      · exact rfl
      · rename_i same
        refine ⟨rfl, ?_⟩
        have same := congrArg PublicSpec.key (not_not.mp same)
        exact same
    · refine wp_bind.mpr (wp_query (fun setupScript => ?_) fun _ => rfl)
      refine wp_bind.mpr (wp_query (fun target => ?_) fun _ => rfl)
      refine wp_bind.mpr (wp_query (fun detection => ?_) fun _ => rfl)
      exact ⟨rfl, rfl⟩

theorem collect_wp (topLevel : Bool) (requested : List WorkerSpec) :
    (collect requested (prepareSpec py scope topLevel)).Wp (kernel py x) unlaunching
      (fun specs after => after = db ∧ specs.map (fun spec => spec.key) =
        requested.map fun spec => spec.key) (fun _ after => after = db) db := by
  induction requested with
  | nil => exact ⟨rfl, rfl⟩
  | cons request rest ih =>
    refine wp_bind.mpr ((prepareSpec_wp topLevel request).mono ?_ fun _ _ left => left)
    rintro spec after ⟨rfl, named⟩
    refine wp_bind.mpr (ih.mono ?_ fun _ _ left => left)
    rintro specs after ⟨rfl, keys⟩
    refine ⟨rfl, ?_⟩
    rw [List.map_cons, List.map_cons, named, keys]

theorem prepareBatch_wp (caller : Option SessionId) (requested : List WorkerSpec) :
    (prepareBatch py caller requested).Wp (kernel py x) unlaunching
      (fun batch after => after = db ∧ batch.1 = db.scopeOf caller ∧
        batch.2.2.map (fun spec => spec.key) = requested.map fun spec => spec.key)
      (fun _ after => after = db) db := by
  refine wp_bind.mpr ((callerContext_wp caller).mono ?_ fun _ _ never => never.elim)
  rintro ⟨scope, parent⟩ after ⟨rfl, named⟩
  have active : (requireActiveParent parent).Wp (kernel py x) unlaunching
      (fun _ other => other = after) (fun _ other => other = after) after := by
    unfold requireActiveParent
    split
    · exact rfl
    · split
      · exact rfl
      · exact rfl
  refine wp_bind.mpr (active.mono ?_ fun _ _ left => left)
  rintro _ after rfl
  refine wp_bind.mpr ((collect_wp parent.isNone requested).mono ?_ fun _ _ left => left)
  rintro prepared after ⟨rfl, keys⟩
  exact ⟨rfl, named, keys⟩

/-! ### Issuing expired reservations again -/

def TaskRecord.expired (task : TaskRecord) : Bool :=
  task.state = .lost && task.result = some "reservation expired"

/-- The first expired reservation under the keys has an attempt left. -/
def Store.reissues (db : Store) (scope : String) : List String → Bool
  | [] => false
  | key :: rest =>
    match db.getByKey scope key with
    | none => db.reissues scope rest
    | some task =>
      if task.expired then decide (task.attempts < task.maxAttempts) else db.reissues scope rest

def Store.Moved (db after : Store) : Prop :=
  ∃ t row next, db.task t = some row ∧ after.task t = some next ∧ row.version < next.version

theorem Store.Moved.exec (h : db.Moved db') (tx : Tx β) : db.Moved (tx.exec db').1 := by
  obtain ⟨t, row, mid, known, found, grown⟩ := h
  obtain ⟨next, left, step⟩ := tx.exec_task found
  exact ⟨t, row, next, known, left, grown.trans_le step.version⟩

/-- Every program goes on from a row that has moved. -/
theorem Store.Moved.wp {p : Kernel β} (h : db.Moved db') :
    p.Wp (kernel py x) unlaunching (fun _ => db.Moved) (fun _ => db.Moved) db' := by
  induction p generalizing db' with
  | ret a => exact h
  | fail e => exact h
  | commit tx k ih => exact ih _ (h.exec tx)
  | call q k ih => exact fun _ b => ih b h
  | lock l k ih => exact ih h
  | unlock l k ih => exact ih h

theorem Store.task_of_getByKey {key : String} {task : TaskRecord}
    (found : db.getByKey scope key = some task) :
    ∃ row, db.task row.taskId = some row ∧ row.toTaskRecord = task := by
  unfold getByKey findByKey at found
  obtain ⟨row, listed, same⟩ := Option.map_eq_some_iff.mp found
  exact ⟨row, Table.get_of_mem (List.mem_of_find?_eq_some listed), same⟩

/-- The reissue of a row that stands as it was read always goes through. -/
theorem reissue_moves {row : TaskRow} (known : db.task row.taskId = some row)
    (lost : row.state = .lost) (spec : TaskSpec) (now : Time) :
    db.Moved ((Tx.reissue row.toTaskRecord spec now).exec db).1 ∧
      ∀ e, ((Tx.reissue row.toTaskRecord spec now).exec db).2 ≠ .error e := by
  let next := row.moved (Lifecycle.reissued spec) id now
  have ran : reissue row.toTaskRecord spec now db = .ok (next.toTaskRecord, db.putTask next) :=
    transaction_ok.mpr ⟨row, known, by simp [lost], .inr rfl, rfl, rfl⟩
  have exec : (Tx.reissue row.toTaskRecord spec now).exec db =
      (db.putTask next, .ok next.toTaskRecord) := atomically_ok ran
  rw [exec]
  constructor
  · exact ⟨row.taskId, row, next, known, Store.task_putTask_self db next, Nat.lt_succ_self _⟩
  · exact fun _ same => nomatch same

/-- What one round does, by what it finds. -/
theorem reissueExpired_wp (spec : TaskSpec) (db : Store) :
    (reissueExpired scope spec).Wp (kernel py x) unlaunching
      (fun _ after =>
        after = db ∧ (∀ task, db.getByKey scope spec.key = some task → task.expired = false) ∨
        db.Moved after ∧ ∃ task, db.getByKey scope spec.key = some task ∧ task.expired ∧
          task.attempts < task.maxAttempts)
      (fun _ after => after = db ∧ ∃ task, db.getByKey scope spec.key = some task ∧ task.expired ∧
        ¬ task.attempts < task.maxAttempts) db := by
  unfold reissueExpired
  refine wp_bind.mpr (wp_read.mpr ?_)
  cases found : db.getByKey scope spec.key with
  | none => exact .inl ⟨rfl, fun _ same => nomatch same⟩
  | some task =>
    obtain ⟨row, known, rfl⟩ := Store.task_of_getByKey found
    have again : db.getById row.taskId = some row.toTaskRecord := by
      rw [Store.getById, known]
      rfl
    by_cases expired : row.state = .lost ∧ row.result = some "reservation expired"
    · have marked : row.toTaskRecord.expired = true := by simp [TaskRecord.expired, expired]
      dsimp only
      rw [if_neg (not_not.mpr expired)]
      refine wp_withLock.mpr (wp_bind.mpr (wp_read.mpr ?_))
      rw [again]
      dsimp only
      rw [if_neg (not_not.mpr expired)]
      split
      · rename_i spent
        exact ⟨rfl, _, rfl, marked, not_lt.mpr spent⟩
      · rename_i left
        refine wp_bind.mpr (wp_stamped (fun now _ _ => ?_) fun now e raised => ?_)
        · exact .inr ⟨(reissue_moves known expired.1 spec now).1, _, rfl, marked, not_le.mp left⟩
        · exact absurd raised ((reissue_moves known expired.1 spec now).2 e)
    · have unmarked : row.toTaskRecord.expired = false := by
        simpa [TaskRecord.expired] using expired
      dsimp only
      rw [if_pos expired]
      refine .inl ⟨rfl, fun other same => ?_⟩
      cases same
      exact unmarked

/-- The loop stops at the first expired reservation that has no attempt left, and moves the first
that has one. -/
theorem reissueLoop_wp (specs : List TaskSpec) (db : Store) :
    let left := fun after => if db.reissues scope (specs.map fun spec => spec.key)
      then db.Moved after else after = db
    (forEach specs (reissueExpired scope)).Wp (kernel py x) unlaunching
      (fun _ => left) (fun _ => left) db := by
  induction specs generalizing db with
  | nil => exact rfl
  | cons spec rest ih =>
    refine wp_bind.mpr ((reissueExpired_wp spec db).mono (fun _ mid left => ?_) fun _ mid stopped => ?_)
    · obtain ⟨rfl, unexpired⟩ | ⟨moved, task, found, expired, attempt⟩ := left
      · have same : mid.reissues scope ((spec :: rest).map fun spec => spec.key) =
            mid.reissues scope (rest.map fun spec => spec.key) := by
          cases found : mid.getByKey scope spec.key with
          | none => simp [Store.reissues, found]
          | some task => simp [Store.reissues, found, unexpired task found]
        rw [same]
        exact ih mid
      · have reissues : db.reissues scope ((spec :: rest).map fun spec => spec.key) = true := by
          simp [Store.reissues, found, expired, attempt]
        rw [reissues]
        exact moved.wp
    · obtain ⟨rfl, task, found, expired, spent⟩ := stopped
      have halts : mid.reissues scope ((spec :: rest).map fun spec => spec.key) = false := by
        simpa [Store.reissues, found, expired] using spent
      rw [halts]
      exact rfl

/-! ### Starting without a launch -/

/-- No row has changed, and no effect is newly launched. -/
structure Store.Still (db after : Store) : Prop where
  tasks : after.tasks = db.tasks
  effects : ∀ t n next, after.effect t n = some next → next.state = .launched →
    ∃ effect, db.effect t n = some effect ∧ effect.state = .launched

theorem Store.Still.refl (db : Store) : db.Still db := ⟨rfl, fun _ _ next known state => ⟨next, known, state⟩⟩

theorem Store.Still.trans {a b c : Store} (first : a.Still b) (second : b.Still c) : a.Still c where
  tasks := second.tasks.trans first.tasks
  effects t n next known state := by
    obtain ⟨mid, known, state⟩ := second.effects t n next known state
    exact first.effects t n mid known state

def Store.Unlaunched (db : Store) (t : TaskId) (n : ℕ) : Prop :=
  ∀ effect, db.effect t n = some effect → effect.state ≠ .launched

theorem Store.Unlaunched.still {t : TaskId} {n : ℕ} (h : db.Unlaunched t n) (later : db.Still db') :
    db'.Unlaunched t n := by
  intro next known launched
  obtain ⟨effect, known, launched⟩ := later.effects t n next known launched
  exact h effect known launched

theorem Store.Still.putEffect {effect : Effect} (reserved : effect.state = .reserved) :
    db.Still (db.putEffect effect) where
  tasks := rfl
  effects t n next known launched := by
    rw [effect_putEffect] at known
    split at known
    · cases known
      exact nomatch reserved.symm.trans launched
    · exact ⟨next, known, launched⟩

theorem reserve_still {t : TaskId} {n : ℕ} {launch : Launch} {now : Time} :
    db.Still ((Tx.reserve t n launch owner now).exec db).1 ∧
      ∀ r, ((Tx.reserve t n launch owner now).exec db).2 = .ok r → db.Unlaunched t n →
        r.1.state ≠ .launched := by
  obtain ⟨r, after, ran, left⟩ | ⟨e, ran, left⟩ :=
    atomically_cases (reserveEffect t n launch owner reservationTtlSeconds now) db
  · have exec : (Tx.reserve t n launch owner now).exec db = (after, .ok r) := left
    rw [exec]
    obtain ⟨_, put, fresh⟩ | ⟨row, known, ⟨launched, same, put⟩ | ⟨reserved, put, same⟩⟩ :=
      reserveEffect_ok ran
    · have reserved : r.1.state = .reserved := by rw [fresh]
      rw [show after = _ from put]
      refine ⟨.putEffect reserved, ?_⟩
      rintro _ ⟨⟩ _ launched
      exact nomatch reserved.symm.trans launched
    · rw [show after = _ from put]
      refine ⟨.refl db, ?_⟩
      rintro _ ⟨⟩ unlaunched
      exact absurd launched (unlaunched row known)
    · have reserved : r.1.state = .reserved := by
        rw [show r.1 = _ from same]
        exact reserved
      rw [show after = _ from put]
      refine ⟨.putEffect reserved, ?_⟩
      rintro _ ⟨⟩ _ launched
      exact nomatch reserved.symm.trans launched
  · have exec : (Tx.reserve t n launch owner now).exec db = (db, .error e) := left
    rw [exec]
    exact ⟨.refl db, fun _ same => nomatch same⟩

theorem reserveLaunch_wp (task : TaskRecord) (launch : Launch) (patience : ℕ) (db : Store)
    (unlaunched : db.Unlaunched task.taskId task.epoch) :
    (reserveLaunch task launch owner patience).Wp (kernel py x) unlaunching
      (fun effect after => db.Still after ∧ effect.state ≠ .launched) (fun _ => db.Still) db := by
  have once (db : Store) (unlaunched : db.Unlaunched task.taskId task.epoch) :
      ((stamped (.reserve task.taskId task.epoch launch owner)).bind fun r => .ret r.1 :
        Kernel Effect).Wp (kernel py x) unlaunching
        (fun effect after => db.Still after ∧ effect.state ≠ .launched) (fun _ => db.Still) db := by
    refine wp_bind.mpr (wp_stamped (fun now r ran => ?_) fun now e _ => reserve_still.1)
    exact ⟨reserve_still.1, reserve_still.2 r ran unlaunched⟩
  induction patience generalizing db with
  | zero => exact once db unlaunched
  | succ patience ih =>
    refine wp_handle.mpr ((once db unlaunched).mono (fun _ _ left => left) fun e mid still => ?_)
    cases e with
    | effectBusy message =>
      refine wp_bind.mpr (wp_released.mpr ?_)
      refine (ih mid (unlaunched.still still)).mono ?_ fun _ _ later => still.trans later
      exact fun _ _ left => ⟨still.trans left.1, left.2⟩
    | _ => exact still

/-- A launch that is not in the journal is requested, or not reached. -/
theorem journaledLaunch_wp (task : TaskRecord) (launch : Launch)
    (unlaunched : db.Unlaunched task.taskId task.epoch) :
    (journaledLaunch py owner task launch).Wp (kernel py x) unlaunching
      (fun _ _ => False) (fun _ => db.Still) db := by
  refine wp_bind.mpr (Wp.ask fun _ patience => ?_)
  refine wp_bind.mpr ((reserveLaunch_wp task launch patience db unlaunched).mono ?_
    fun _ _ still => still)
  rintro effect after ⟨still, unlaunched⟩
  dsimp only
  split
  · rename_i launched _ _
    exact absurd launched unlaunched
  · refine wp_bind.mpr (wp_handle.mpr (wp_released.mpr (Wp.query ?_ ?_)))
    · exact fun asked => nomatch asked
    · exact fun asked => nomatch asked

theorem waitForLaunchCapacity_wp (task : TaskRecord) (cap patience : ℕ) :
    (waitForLaunchCapacity task cap patience).Wp (kernel py x) unlaunching
      (fun _ after => after = db) (fun _ after => after = db) db := by
  induction patience with
  | zero =>
    refine wp_bind.mpr (wp_released.mpr (wp_query (fun processes => ?_) fun _ => rfl))
    refine wp_bind.mpr ?_
    cases countRunning processes with
    | error e => exact rfl
    | ok running =>
      change Wp _ _ (if running < cap then _ else _) _ _ db
      split
      · exact rfl
      · exact rfl
  | succ patience ih =>
    refine wp_bind.mpr (wp_released.mpr (wp_query (fun processes => ?_) fun _ => rfl))
    refine wp_bind.mpr ?_
    cases countRunning processes with
    | error e => exact rfl
    | ok running =>
      change Wp _ _ (if running < cap then _ else _) _ _ db
      split
      · exact rfl
      · exact ih

/-- A row that is reserved, with no launch of its epoch in the journal, stays as it is. -/
theorem startReserved_wp (task : TaskRecord) (db : Store)
    (unlaunched : ∀ row, db.task task.taskId = some row → row.state = .reserved →
      db.Unlaunched row.taskId row.epoch) :
    (startReserved py owner cap task).Wp (kernel py x) unlaunching
      (fun _ => db.Still) (fun _ => db.Still) db := by
  unfold startReserved
  refine wp_withLock.mpr (wp_withLock.mpr (wp_bind.mpr (wp_read.mpr ?_)))
  cases known : db.task task.taskId with
  | none =>
    rw [Store.getById, known]
    exact .refl db
  | some row =>
    rw [Store.getById, known]
    change (startReservedLocked py owner cap row.toTaskRecord).Wp _ _ _ _ db
    unfold startReservedLocked
    dsimp only
    split
    · exact .refl db
    · rename_i reserved
      have unlaunched := unlaunched row known (not_not.mp reserved)
      refine wp_bind.mpr (wp_released.mpr (wp_bind.mpr (wp_query (fun repoId => ?_) fun _ => .refl db)))
      refine wp_bind.mpr (wp_read.mpr ?_)
      split
      · exact .refl db
      refine wp_bind.mpr (Wp.ask fun _ patience => ?_)
      refine wp_bind.mpr ((waitForLaunchCapacity_wp row.toTaskRecord cap patience).mono ?_ ?_)
      · rintro _ after rfl
        refine wp_bind.mpr (wp_read.mpr ?_)
        split
        · exact .refl after
        · exact wp_bind.mpr ((journaledLaunch_wp row.toTaskRecord _ unlaunched).mono
            (fun _ _ never => never.elim) fun _ _ still => still)
      · rintro _ after rfl
        exact .refl after

/-! ### The whole call -/

/-- Every row keeps its state, epoch, attempts, version, specification and session. -/
def Store.KeepsLifecycles (db after : Store) : Prop :=
  ∀ t row, db.task t = some row →
    ∃ next, after.task t = some next ∧ next.toLifecycle = row.toLifecycle

theorem Store.KeepsLifecycles.refl (db : Store) : db.KeepsLifecycles db :=
  fun _ row known => ⟨row, known, rfl⟩

theorem Store.Moved.not_kept (h : db.Moved db') : ¬ db.KeepsLifecycles db' := by
  intro kept
  obtain ⟨t, row, next, known, found, grown⟩ := h
  obtain ⟨other, found', same⟩ := kept t row known
  cases Option.some.inj (found.symm.trans found')
  exact absurd (congrArg Lifecycle.version same) grown.ne'

/-- The task and the epoch a start under the key would launch. -/
def Store.toLaunch (db : Store) (scope key : String) : Option (TaskId × ℕ) :=
  match db.findByKey scope key with
  | none => some (taskIdOf scope key, 1)
  | some row => if row.state = .reserved then some (row.taskId, row.epoch) else none

def Store.launchRecorded (db : Store) (scope : String) (keys : List String) : Bool :=
  keys.any fun key => (db.toLaunch scope key).any fun subject =>
    (db.effect subject.1 subject.2).any fun effect => effect.state = .launched

theorem Store.unlaunched_of_toLaunch {keys : List String}
    (unrecorded : db.launchRecorded scope keys = false) {key : String} (listed : key ∈ keys)
    {t : TaskId} {n : ℕ} (starts : db.toLaunch scope key = some (t, n)) : db.Unlaunched t n := by
  intro effect known launched
  have recorded : db.launchRecorded scope keys = true := by
    rw [launchRecorded, List.any_eq_true]
    exact ⟨key, listed, by simp [starts, known, launched]⟩
  exact nomatch recorded.symm.trans unrecorded

/-- A batch that went through accepted each of its specs, and answers for it. -/
theorem reserveAll_answers {parentTaskId : Option TaskId} {specs : List TaskSpec} {maxAttempts : ℕ}
    {now : Time} {answers : List (TaskRecord × Bool)}
    (ran : ((Tx.reserveAll scope parentTaskId specs maxAttempts now).exec db).2 = .ok answers) :
    (∀ spec ∈ specs, db.acceptsSpec scope spec = true) ∧
      answers = specs.map (db.reservation scope parentTaskId maxAttempts now) := by
  have same := congrArg Prod.snd ((reserveAll_records scope parentTaskId specs maxAttempts now
    fun _ => now).atomically ⟨db, []⟩)
  have ran := same.trans ran
  obtain ⟨e, left⟩ | ⟨rfl, left⟩ | ⟨admitted, s', left, _⟩ :=
    reserveAllRecorded_cases scope parentTaskId specs maxAttempts now (fun _ => now) ⟨db, []⟩
  · rw [left] at ran
    exact nomatch ran
  · rw [left] at ran
    cases ran
    exact ⟨fun _ listed => (nomatch listed), rfl⟩
  · rw [left] at ran
    cases ran
    exact ⟨(Store.admits_accepts admitted).accepted, rfl⟩

/-- What is reserved for a batch, and not yet launched by the journal, is not launched. -/
theorem reservations_unlaunched {parentTaskId : Option TaskId} {specs : List TaskSpec}
    {maxAttempts : ℕ} {now : Time} {answers : List (TaskRecord × Bool)}
    (ran : ((Tx.reserveAll scope parentTaskId specs maxAttempts now).exec db).2 = .ok answers)
    (unrecorded : db.launchRecorded scope (specs.map fun spec => spec.key) = false)
    {r : TaskRecord × Bool} (listed : r ∈ answers) {row : TaskRow}
    (known : ((Tx.reserveAll scope parentTaskId specs maxAttempts now).exec db).1.task r.1.taskId =
      some row) (reserved : row.state = .reserved) : db.Unlaunched row.taskId row.epoch := by
  obtain ⟨keeps, inserts⟩ := reserveAll_inserts scope parentTaskId specs maxAttempts now db
  obtain ⟨accepted, answered⟩ := reserveAll_answers ran
  rw [answered] at listed
  obtain ⟨spec, member, rfl⟩ := List.mem_map.mp listed
  apply Store.unlaunched_of_toLaunch unrecorded (List.mem_map_of_mem member)
  unfold Store.reservation at known
  unfold Store.toLaunch
  cases found : db.findByKey scope spec.key with
  | some other =>
    rw [found] at known
    have before : db.task other.taskId = some other :=
      Table.get_of_mem (List.mem_of_find?_eq_some found)
    cases Option.some.inj (known.symm.trans (keeps _ other before))
    simp [reserved]
  | none =>
    rw [found] at known
    have absent : db.task (taskIdOf scope spec.key) = none := by
      have accepted := accepted spec member
      rw [Store.acceptsSpec, found, Option.isNone_iff_eq_none] at accepted
      exact accepted
    have named : row.taskId = taskIdOf scope spec.key := Store.taskId_of_task known
    obtain ⟨⟨other, _, fresh⟩, _⟩ := inserts _ row absent known
    have opened : row.epoch = 1 := by rw [fresh]; rfl
    rw [named, opened]

theorem startPrepared_moves (batch : String × Option TaskRecord × List TaskSpec)
    (reissues : db.reissues batch.1 (batch.2.2.map fun spec => spec.key) = true) :
    (startPrepared py owner cap batch).Wp (kernel py x) unlaunching
      (fun _ => db.Moved) (fun _ => db.Moved) db := by
  refine wp_bind.mpr ((reissueLoop_wp batch.2.2 db).mono ?_ ?_)
  · intro _ mid left
    rw [if_pos reissues] at left
    exact left.wp
  · intro _ mid left
    rw [if_pos reissues] at left
    exact left

theorem startPrepared_keeps (batch : String × Option TaskRecord × List TaskSpec)
    (quiet : db.reissues batch.1 (batch.2.2.map fun spec => spec.key) = false)
    (unrecorded : db.launchRecorded batch.1 (batch.2.2.map fun spec => spec.key) = false) :
    (startPrepared py owner cap batch).Wp (kernel py x) unlaunching
      (fun _ => db.KeepsLifecycles) (fun _ => db.KeepsLifecycles) db := by
  refine wp_bind.mpr ((reissueLoop_wp batch.2.2 db).mono ?_ ?_)
  · intro _ mid left
    rw [if_neg (by simp [quiet])] at left
    subst left
    refine wp_bind.mpr (wp_query (fun _ => ?_) fun _ => .refl mid)
    refine wp_bind.mpr (Wp.ask fun _ now => wp_bind.mpr (Wp.run (fun answers ran => ?_) fun e ran => ?_))
    · let after := ((Tx.reserveAll batch.1 (batch.2.1.map fun p => p.taskId) batch.2.2 maxAttempts
        now).exec mid).1
      have effects : after.effects = mid.effects := by
        have only := Tx.exec_only (.reserveAll batch.1 (batch.2.1.map fun p => p.taskId) batch.2.2
          maxAttempts now) mid
        rw [show after = { mid with tasks := after.tasks } from only]
      have keeps : ∀ t row, mid.task t = some row → after.task t = some row :=
        (reserveAll_inserts batch.1 (batch.2.1.map fun p => p.taskId) batch.2.2 maxAttempts now mid).1
      have started : (forEach answers fun reservation => excepting
          (startReserved py owner cap reservation.1) KernelError.staysInBatch fun _ => .ret ()).Wp
            (kernel py x) unlaunching (fun _ => after.Still) (fun _ => after.Still) after := by
        refine wp_forEach (fun r listed db still => ?_) (.refl after)
        have unlaunched : ∀ row, db.task r.1.taskId = some row → row.state = .reserved →
            db.Unlaunched row.taskId row.epoch := by
          intro row known reserved
          have known : after.task r.1.taskId = some row := by
            rw [Store.task, ← still.tasks]
            exact known
          have before := reservations_unlaunched ran unrecorded listed known reserved
          have unlaunched : after.Unlaunched row.taskId row.epoch := by
            unfold Store.Unlaunched Store.effect
            rw [effects]
            exact before
          exact unlaunched.still still
        refine wp_handle.mpr ((startReserved_wp r.1 db unlaunched).mono ?_ ?_)
        · exact fun _ _ later => still.trans later
        · intro e next later
          split
          · exact still.trans later
          · exact still.trans later
      have kept : ∀ db, after.Still db → mid.KeepsLifecycles db := by
        intro db still t row known
        refine ⟨row, ?_, rfl⟩
        rw [Store.task, still.tasks]
        exact keeps t row known
      exact started.mono (fun _ => kept) fun _ => kept
    · obtain ⟨_, _, _, left⟩ | ⟨_, _, left⟩ := atomically_cases
        (reserveAll batch.1 (batch.2.1.map fun p => p.taskId) batch.2.2 maxAttempts now) mid
      · have ran := (congrArg Prod.snd left).symm.trans ran
        cases ran
      · have same : ((Tx.reserveAll batch.1 (batch.2.1.map fun p => p.taskId) batch.2.2 maxAttempts
            now).exec mid).1 = mid := congrArg Prod.fst left
        change mid.KeepsLifecycles ((Tx.reserveAll batch.1 (batch.2.1.map fun p => p.taskId) batch.2.2
          maxAttempts now).exec mid).1
        rw [same]
        exact .refl mid
  · intro _ mid left
    rw [if_neg (by simp [quiet])] at left
    subst left
    exact .refl mid

/-- A call of `start_all` that raises before it requests a launch, and with no launch in the journal
of a member that is still to be started, has let the sweep raise; or it has changed no row since the
sweep if and only if it was refused while it prepared its specs, or the batch issues no expired
reservation again. -/
theorem refused_batch_keeps_iff {caller : Option SessionId} {swept : Bool}
    {requested : List WorkerSpec} {e : KernelError} {s s' : Shared Tx Query Store γ}
    (run : (startAll py owner cap caller swept requested).Ends (kernel py x)
      (fun _ event => event.Within unlaunching) s (.error e) s') :
    (ensureSwept py swept).Ends (kernel py x) (fun _ event => event.Within unlaunching) s
        (.error e) s' ∨
      ∃ mid, (ensureSwept py swept).Ends (kernel py x) (fun _ event => event.Within unlaunching) s
          (.ok ()) mid ∧
        let scope := mid.store.scopeOf caller
        let keys := requested.map fun spec => spec.key
        (mid.store.launchRecorded scope keys = false →
          (mid.store.KeepsLifecycles s'.store ↔
            (prepareBatch py caller requested).Ends (kernel py x)
              (fun _ event => event.Within unlaunching) mid (.error e) s' ∨
            mid.store.reissues scope keys = false)) := by
  rw [startAll_eq] at run
  obtain ⟨_, mid, sweep, rest⟩ | ⟨_, sweep, same⟩ := ends_bind.mp run
  · right
    refine ⟨mid, sweep, ?_⟩
    intro scope keys unrecorded
    obtain ⟨batch, ready, prepared, started⟩ | ⟨_, stopped, same⟩ := ends_bind.mp rest
    · obtain ⟨same, named, known⟩ :=
        (Ends.of_wp prepared (prepareBatch_wp caller requested)).1 batch rfl
      have context : batch.1 = scope := named
      have known : batch.2.2.map (fun spec => spec.key) = keys := known
      constructor
      · intro kept
        right
        by_contra reissues
        rw [Bool.not_eq_false, ← context, ← known, ← same] at reissues
        have moved := (Ends.of_wp started (startPrepared_moves batch reissues)).2 e rfl
        rw [same] at moved
        exact moved.not_kept kept
      · rintro (stopped | quiet)
        · obtain ⟨events, later⟩ := started.extends
          have there : ready.trace <:+ s'.trace := later ▸ List.suffix_append events ready.trace
          exact nomatch (stopped.determined prepared rfl rfl (List.suffix_refl _) there).1
        · rw [← context, ← known, ← same] at quiet unrecorded
          have kept := (Ends.of_wp started (startPrepared_keeps batch quiet unrecorded)).2 e rfl
          rw [same] at kept
          exact kept
    · cases same
      have still := (Ends.of_wp stopped (prepareBatch_wp caller requested)).2 _ rfl
      refine ⟨fun _ => .inl stopped, fun _ => ?_⟩
      rw [still]
      exact .refl _
  · left
    cases same
    exact sweep

def launchFree : Event Tx Query → Bool
  | .commit _ _ => true
  | .call q _ => !q.launches

theorem Script.ends_unlaunched (script : Script) {p : Kernel Unit} {s : Shared Tx Query Store ℕ}
    (passes : p.alonePasses (kernel asciiLibrary script.executor) script.oracle
      (fun _ event => launchFree event) s = true) :
    p.Ends (kernel asciiLibrary script.executor) (fun _ event => event.Within unlaunching) s
      (p.alone (kernel asciiLibrary script.executor) script.oracle s).1
      (p.alone (kernel asciiLibrary script.executor) script.oracle s).2 := by
  have sound {β : Type} (env : ℕ) (q : Query β) : (kernel asciiLibrary script.executor).answer env q
      (script.oracle env q).1 (script.oracle env q).2 := rfl
  apply Ends.mono _ (ends_alone_passing sound passes)
  intro _ event free
  cases event with
  | commit => trivial
  | call q b => exact (Bool.not_eq_true' _).mp free

def doubledStart : Kernel Unit :=
  startAll asciiLibrary "owner" 4 none true [workerSpec "worker" 0, workerSpec "worker" 0]

def runningWorld : ScriptWorld := Script.calm.run [startWorker] (steps 0 60)

def expiredWorld : ScriptWorld :=
  expiringScript.run [startWorker, sweepAdmission asciiLibrary] (steps 0 60 ++ steps 1 60)

set_option maxRecDepth 100000 in
/-- The batch is refused for its doubled key, and the worker runs on. -/
theorem doubled_batch_keeps_worker : ∃ e s',
    doubledStart.Ends (kernel asciiLibrary Script.calm.executor)
      (fun _ event => event.Within unlaunching) runningWorld.shared (.error e) s' ∧
      runningWorld.shared.store.KeepsLifecycles s'.store := by
  have ended := Script.calm.ends_unlaunched (p := doubledStart) (s := runningWorld.shared)
    (by decide +kernel)
  have raised : (doubledStart.alone (kernel asciiLibrary Script.calm.executor) Script.calm.oracle
      runningWorld.shared).1.toBool = false := by decide +kernel
  generalize doubledStart.alone (kernel asciiLibrary Script.calm.executor) Script.calm.oracle
    runningWorld.shared = run at ended raised
  obtain ⟨answer, s'⟩ := run
  cases answer with
  | ok _ => exact nomatch raised
  | error e =>
    refine ⟨e, s', ended, ?_⟩
    obtain ⟨never, _⟩ | ⟨mid, ⟨_, rfl⟩, exact_⟩ := refused_batch_keeps_iff ended
    · exact nomatch never
    · exact (exact_ (by decide +kernel)).mpr (.inr (by decide +kernel))

set_option maxRecDepth 100000 in
/-- The batch is refused for its doubled key, and the worker has a second epoch. -/
theorem doubled_batch_reissues :
    ¬ ∀ (w : ScriptWorld) (requested : List WorkerSpec) (e : KernelError)
        (s' : Shared Tx Query Store ℕ),
      Reachable (kernel asciiLibrary expiringScript.executor) anyEvent w →
      (startAll asciiLibrary "owner" 4 none true requested).Ends
        (kernel asciiLibrary expiringScript.executor) (fun _ event => event.Within unlaunching)
        w.shared (.error e) s' →
      w.shared.store.KeepsLifecycles s'.store := by
  intro all
  have reached : Reachable (kernel asciiLibrary expiringScript.executor) anyEvent expiredWorld :=
    expiringScript.run_reachable (by
      simp [startWorker, startOne, KernelOp.startAll, KernelOp.sweepAdmission]) _
  have ended := expiringScript.ends_unlaunched (p := doubledStart) (s := expiredWorld.shared)
    (by decide +kernel)
  have raised : (doubledStart.alone (kernel asciiLibrary expiringScript.executor)
      expiringScript.oracle expiredWorld.shared).1.toBool = false := by decide +kernel
  have moved : (((doubledStart.alone (kernel asciiLibrary expiringScript.executor)
      expiringScript.oracle expiredWorld.shared).2.store.task workerId).map fun row => row.epoch) =
        some 2 ∧ (expiredWorld.shared.store.task workerId).map (fun row => row.epoch) = some 1 := by
    decide +kernel
  generalize doubledStart.alone (kernel asciiLibrary expiringScript.executor) expiringScript.oracle
    expiredWorld.shared = run at ended raised moved
  obtain ⟨answer, s'⟩ := run
  cases answer with
  | ok _ => cases raised
  | error e =>
    have kept := all expiredWorld _ e s' reached ended
    obtain ⟨after, before⟩ := moved
    obtain ⟨row, known, first⟩ := Option.map_eq_some_iff.mp before
    obtain ⟨next, found, same⟩ := kept workerId row known
    rw [found, Option.map_some, show next.epoch = row.epoch from congrArg Lifecycle.epoch same, first]
      at after
    cases after

end SightMesh
