import SightMesh.Discipline.Operations
import SightMesh.Kernel.History
import SightMesh.Properties.ChildStarts
import SightMesh.Properties.Lifecycle

/-! A start batch is reserved whole or not at all, and within the limit of its parent. -/
namespace SightMesh

open Concurrency Database Python

variable {β γ : Type} {py : Library} {x : Executor γ} {scope : String}
  {parentTaskId : Option TaskId} {maxAttempts : ℕ} {now : Time} {recordedAt : TaskId → Time}
  {db : Store} {specs : List TaskSpec}

/-- The row under the key of the spec, or the one to be inserted, and whether it is. -/
def Store.reservation (db : Store) (scope : String) (parentTaskId : Option TaskId)
    (maxAttempts : ℕ) (now : Time) (spec : TaskSpec) : TaskRecord × Bool :=
  match db.findByKey scope spec.key with
  | some row => (row.toTaskRecord, false)
  | none => ((TaskRow.reserved scope parentTaskId maxAttempts spec now).toTaskRecord, true)

def Store.newRows (db : Store) (scope : String) (parentTaskId : Option TaskId) (maxAttempts : ℕ)
    (now : Time) (specs : List TaskSpec) : List TaskRow :=
  (specs.filter fun spec => (db.findByKey scope spec.key).isNone).map fun spec =>
    .reserved scope parentTaskId maxAttempts spec now

/-- Rows are added, each with the entry of its creation, and nothing else is touched. -/
structure Chronicle.Inserts (s s' : Chronicle) (fresh : List TaskRow) (recordedAt : TaskId → Time) :
    Prop where
  only : s'.db = { s.db with tasks := s'.db.tasks }
  rows : s'.db.tasks.rows = s.db.tasks.rows ++ fresh
  history : s'.history = s.history ++ fresh.flatMap fun row =>
    taskChange none row "reserved" .transition (recordedAt row.taskId)

def Chronicle.insertNew (scope : String) (parentTaskId : Option TaskId) (maxAttempts : ℕ)
    (now : Time) (recordedAt : TaskId → Time) (s : Chronicle) (spec : TaskSpec) : Chronicle :=
  if (s.db.findByKey scope spec.key).isSome then s
  else
    let row := TaskRow.reserved scope parentTaskId maxAttempts spec now
    { db := s.db.putTask row
      history := s.history ++
        taskChange none row "reserved" .transition (recordedAt row.taskId) }

@[simp] theorem Chronicle.insertNew_db (s : Chronicle) (spec : TaskSpec) :
    (s.insertNew scope parentTaskId maxAttempts now recordedAt spec).db =
      s.db.insertNew scope parentTaskId maxAttempts now spec := by
  unfold Chronicle.insertNew Store.insertNew
  split <;> rfl

theorem reserveOneRecorded_run (spec : TaskSpec) (s : Chronicle)
    (accepted : s.db.acceptsSpec scope spec = true) :
    reserveOneRecorded scope parentTaskId maxAttempts now recordedAt spec s =
      .ok (s.db.reservation scope parentTaskId maxAttempts now spec,
        s.insertNew scope parentTaskId maxAttempts now recordedAt spec) := by
  rw [reserveOneRecorded, get_bind_run]
  unfold Store.reservation Chronicle.insertNew
  cases found : s.db.findByKey scope spec.key with
  | some row =>
    rw [Store.acceptsSpec, found, decide_eq_true_eq] at accepted
    simp [accepted]
  | none =>
    rw [Store.acceptsSpec, found, Option.isNone_iff_eq_none] at accepted
    have vacant : s.db.task (TaskRow.reserved scope parentTaskId maxAttempts spec now).taskId = none :=
      accepted
    change (change _ _ _ _ _ >>= _) s = _
    rw [bind_after (change_insert vacant ..)]
    rfl

/-- The rounds of a batch leave what the later ones find under their own keys. -/
theorem reserveLoop_answers {s : Chronicle} (h : s.db.AcceptsAll scope specs) :
    specs.mapM (reserveOneRecorded scope parentTaskId maxAttempts now recordedAt) s =
      .ok (specs.map (s.db.reservation scope parentTaskId maxAttempts now),
        specs.foldl (Chronicle.insertNew scope parentTaskId maxAttempts now recordedAt) s) := by
  have distinct := h.distinct
  rw [List.Nodup, List.pairwise_map] at distinct
  refine loop_ok reserveOneRecorded_run (distinct.imp ?_) h.accepted
  intro spec other apart s accepted
  rw [Chronicle.insertNew_db]
  constructor
  · exact Store.acceptsSpec_insertNew accepted apart
  · unfold Store.reservation
    rw [(Store.insertNew_other accepted apart).1]

/-- The rounds add the rows of the new keys, in the order of the batch. -/
theorem inserts_newRows {s : Chronicle} (h : s.db.AcceptsAll scope specs) :
    s.Inserts (specs.foldl (Chronicle.insertNew scope parentTaskId maxAttempts now recordedAt) s)
      (s.db.newRows scope parentTaskId maxAttempts now specs) recordedAt := by
  induction specs generalizing s with
  | nil => exact ⟨rfl, by simp [Store.newRows], by simp [Store.newRows]⟩
  | cons spec rest ih =>
    have accepted := h.accepted spec List.mem_cons_self
    obtain ⟨apart, tail⟩ := h.tail parentTaskId maxAttempts now
    let next := s.insertNew scope parentTaskId maxAttempts now recordedAt spec
    have tail : next.db.AcceptsAll scope rest := by
      rw [Chronicle.insertNew_db]
      exact tail
    obtain ⟨only, rows, history⟩ := ih tail
    have others : next.db.newRows scope parentTaskId maxAttempts now rest =
        s.db.newRows scope parentTaskId maxAttempts now rest := by
      unfold Store.newRows
      congr 1
      apply List.filter_congr
      intro other listed
      rw [Chronicle.insertNew_db, (Store.insertNew_other accepted (apart other listed)).1]
    rw [others] at rows history
    rw [List.foldl_cons]
    cases found : s.db.findByKey scope spec.key with
    | some row =>
      have none_new : s.db.newRows scope parentTaskId maxAttempts now (spec :: rest) =
          s.db.newRows scope parentTaskId maxAttempts now rest := by
        simp [Store.newRows, found]
      have same : next = s := by
        simp [next, Chronicle.insertNew, found]
      rw [same] at only rows history
      rw [none_new, show s.insertNew .. = s from same]
      exact ⟨only, rows, history⟩
    | none =>
      let row := TaskRow.reserved scope parentTaskId maxAttempts spec now
      have one_new : s.db.newRows scope parentTaskId maxAttempts now (spec :: rest) =
          row :: s.db.newRows scope parentTaskId maxAttempts now rest := by
        simp [Store.newRows, found, row]
      have one : next = { db := s.db.putTask row
                          history := s.history ++ taskChange none row "reserved" .transition
                            (recordedAt row.taskId) } := by
        simp [next, Chronicle.insertNew, found, row]
      have vacant : s.db.task row.taskId = none := by
        rw [Store.acceptsSpec, found, Option.isNone_iff_eq_none] at accepted
        exact accepted
      have added : (s.db.putTask row).tasks.rows = s.db.tasks.rows ++ [row] :=
        Table.rows_put_new (Table.get_eq_none_iff.mp vacant)
      rw [one] at only rows history
      rw [one_new, show s.insertNew .. = _ from one]
      refine ⟨only, ?_, ?_⟩
      · rw [rows, added, List.append_assoc, List.singleton_append]
      · rw [history, List.flatMap_cons, List.append_assoc]

theorem reserveAllRecorded_run (some_ : specs ≠ []) {s : Chronicle}
    (admitted : s.db.admits scope parentTaskId specs = true) :
    reserveAllRecorded scope parentTaskId specs maxAttempts now recordedAt s =
      .ok (specs.map (s.db.reservation scope parentTaskId maxAttempts now),
        specs.foldl (Chronicle.insertNew scope parentTaskId maxAttempts now recordedAt) s) := by
  have accepts := Store.admits_accepts admitted
  have within : s.db.withinChildLimit scope parentTaskId specs = true := by
    simp only [Store.admits, Bool.and_eq_true] at admitted
    exact admitted.1.2
  have checked : unrecorded (checkChildLimit scope parentTaskId specs) s = .ok ((), s) := by
    obtain ⟨_, checked⟩ | ⟨beyond, _⟩ := checkChildLimit_run scope parentTaskId specs s.db
    · rw [unrecorded, checked]
    · cases within.symm.trans beyond
  have ran : (do
      unrecorded (checkChildLimit scope parentTaskId specs)
      specs.mapM (reserveOneRecorded scope parentTaskId maxAttempts now recordedAt) :
        RecordedTxn _) s = .ok (specs.map (s.db.reservation scope parentTaskId maxAttempts now),
      specs.foldl (Chronicle.insertNew scope parentTaskId maxAttempts now recordedAt) s) := by
    rw [bind_after checked]
    exact reserveLoop_answers accepts
  have some_ : specs.isEmpty = false := by simpa using some_
  rw [reserveAllRecorded, some_, if_neg Bool.false_ne_true, if_neg (not_not.mpr accepts.distinct)]
  exact wrappingRecorded_ok ran

/-! ### The child limit -/

def Store.childCount (db : Store) (parentId : TaskId) : ℕ :=
  (db.tasks.rows.filter fun r => r.parentTaskId = some parentId).length

theorem Store.withinChildLimit_some (maxAttempts : ℕ) (now : Time) {p : TaskId}
    (h : db.withinChildLimit scope (some p) specs = true) (named : p ≠ "") :
    ∃ parent, db.task p = some parent ∧ db.childCount p +
      (db.newRows scope (some p) maxAttempts now specs).length ≤ parent.childLimit := by
  simp only [withinChildLimit, present_of_ne named] at h
  cases known : db.task p with
  | none => simp [known] at h
  | some parent =>
    rw [known, Option.any_some, decide_eq_true_eq] at h
    refine ⟨parent, rfl, ?_⟩
    rw [newRows, List.length_map]
    exact h

/-- Every parent is there, and has no more children than its limit. -/
structure Store.WithinLimits (db : Store) : Prop where
  named : db.task "" = none
  parented : ∀ row ∈ db.tasks.rows, ∀ p, row.parentTaskId = some p → p ≠ "" → (db.task p).isSome
  within : ∀ p parent, db.task p = some parent → db.childCount p ≤ parent.childLimit

theorem Store.childCount_absent (h : db.WithinLimits) {p : TaskId} (named : p ≠ "")
    (absent : db.task p = none) : db.childCount p = 0 := by
  rw [childCount, List.length_eq_zero_iff, List.filter_eq_nil_iff]
  intro row listed parented
  have known := h.parented row listed p (of_decide_eq_true parented) named
  rw [absent] at known
  exact nomatch known

/-- A transaction that steps the rows keeps every parent and every limit. -/
theorem Tx.Rows.withinLimits {tx : Tx β} {answer : β} {db' : Store}
    (h : tx.Rows answer db db') (before : db.WithinLimits) : db'.WithinLimits := by
  have origin : ∀ t next, db'.task t = some next →
      ∃ row, db.task t = some row ∧ next.toIdentity = row.toIdentity := by
    intro t next known
    cases found : db.task t with
    | none => exact nomatch (h.fresh t found).symm.trans known
    | some row =>
      obtain ⟨other, known', step⟩ := h.kept t row found
      cases Option.some.inj (known.symm.trans known')
      exact ⟨row, rfl, step.identity⟩
  have listed_origin : ∀ next ∈ db'.tasks.rows,
      ∃ row ∈ db.tasks.rows, next.toIdentity = row.toIdentity := by
    intro next listed
    obtain ⟨row, known, same⟩ := origin _ next (Table.get_of_mem listed)
    exact ⟨row, Table.mem_of_get known, same⟩
  constructor
  · exact h.fresh "" before.named
  · intro next listed p parented named
    obtain ⟨row, listed, same⟩ := listed_origin next listed
    have parented : row.parentTaskId = some p := by
      rw [← parented]
      exact (congrArg Identity.parentTaskId same).symm
    obtain ⟨parent, known⟩ := Option.isSome_iff_exists.mp (before.parented row listed p parented named)
    obtain ⟨after, known, _⟩ := h.kept p parent known
    rw [known]
    rfl
  · intro p parent known
    obtain ⟨row, known, same⟩ := origin p parent known
    have counted : db'.childCount p ≤ db.childCount p := by
      apply Table.length_filter_le
      intro next listed parented
      obtain ⟨row, listed, same⟩ := listed_origin next listed
      refine ⟨row, listed, (congrArg Identity.taskId same).symm, ?_⟩
      rw [← congrArg Identity.parentTaskId same]
      exact parented
    calc db'.childCount p
        ≤ db.childCount p := counted
      _ ≤ row.childLimit := before.within p row known
      _ = parent.childLimit := (congrArg Identity.childLimit same).symm

/-- A batch that was admitted adds no child beyond the limit of its parent. -/
theorem Chronicle.Inserts.withinLimits {s s' : Chronicle}
    (h : s.Inserts s' (s.db.newRows scope parentTaskId maxAttempts now specs) recordedAt)
    (admitted : s.db.admits scope parentTaskId specs = true) (before : s.db.WithinLimits) :
    s'.db.WithinLimits := by
  have limit : s.db.withinChildLimit scope parentTaskId specs = true := by
    simp only [Store.admits, Bool.and_eq_true] at admitted
    exact admitted.1.2
  have fresh : ∀ row ∈ s.db.newRows scope parentTaskId maxAttempts now specs,
      row.parentTaskId = parentTaskId := by
    intro row listed
    obtain ⟨spec, _, rfl⟩ := List.mem_map.mp listed
    rfl
  have kept : ∀ t row, s.db.task t = some row → s'.db.task t = some row := by
    intro t row known
    obtain ⟨listed, named⟩ := Table.get_eq_some_iff.mp known
    apply Table.get_eq_some_iff.mpr
    rw [h.rows]
    exact ⟨List.mem_append_left _ listed, named⟩
  have counted : ∀ p, s'.db.childCount p = s.db.childCount p +
      ((s.db.newRows scope parentTaskId maxAttempts now specs).filter
        fun r => r.parentTaskId = some p).length := by
    intro p
    rw [Store.childCount, h.rows, List.filter_append, List.length_append]
    rfl
  have unnamed : s'.db.task "" = none := by
    rw [Store.task, Table.get_eq_none_iff, h.rows, List.map_append, List.mem_append, not_or]
    refine ⟨Table.get_eq_none_iff.mp before.named, fun listed => ?_⟩
    obtain ⟨row, new, empty⟩ := List.mem_map.mp listed
    obtain ⟨spec, _, rfl⟩ := List.mem_map.mp new
    exact taskIdOf_ne_empty _ _ empty
  constructor
  · exact unnamed
  · intro row listed p parented named
    rw [h.rows, List.mem_append] at listed
    have known : (s.db.task p).isSome := by
      rcases listed with old | new
      · exact before.parented row old p parented named
      · obtain rfl : parentTaskId = some p := (fresh row new).symm.trans parented
        obtain ⟨parent, known, _⟩ :=
          Store.withinChildLimit_some maxAttempts now limit named
        rw [known]
        rfl
    obtain ⟨parent, known⟩ := Option.isSome_iff_exists.mp known
    rw [kept p parent known]
    rfl
  · intro p parent known
    have named : p ≠ "" := by
      rintro rfl
      cases unnamed.symm.trans known
    rw [counted p]
    by_cases target : parentTaskId = some p
    · subst target
      obtain ⟨row, known', within⟩ :=
        Store.withinChildLimit_some maxAttempts now limit named
      cases Option.some.inj (known.symm.trans (kept p row known'))
      exact (Nat.add_le_add_left (List.length_filter_le _ _) _).trans within
    · have nothing : (s.db.newRows scope parentTaskId maxAttempts now specs).filter
          (fun r => r.parentTaskId = some p) = [] := by
        rw [List.filter_eq_nil_iff]
        intro row listed parented
        exact target ((fresh row listed).symm.trans (of_decide_eq_true parented))
      rw [nothing, List.length_nil, Nat.add_zero]
      cases found : s.db.task p with
      | none =>
        rw [Store.childCount_absent before named found]
        exact Nat.zero_le _
      | some row =>
        cases Option.some.inj (known.symm.trans (kept p row found))
        exact before.within p parent found

theorem reserveAllRecorded_cases (scope : String) (parentTaskId : Option TaskId)
    (specs : List TaskSpec) (maxAttempts : ℕ) (now : Time) (recordedAt : TaskId → Time)
    (s : Chronicle) :
    (∃ e, atomicallyRecorded (reserveAllRecorded scope parentTaskId specs maxAttempts now recordedAt)
        s = (s, .error e)) ∨
      specs = [] ∧ atomicallyRecorded (reserveAllRecorded scope parentTaskId specs maxAttempts now
        recordedAt) s = (s, .ok []) ∨
      s.db.admits scope parentTaskId specs = true ∧ ∃ s',
        atomicallyRecorded (reserveAllRecorded scope parentTaskId specs maxAttempts now recordedAt) s =
          (s', .ok (specs.map (s.db.reservation scope parentTaskId maxAttempts now))) ∧
        s.Inserts s' (s.db.newRows scope parentTaskId maxAttempts now specs) recordedAt := by
  by_cases empty : specs = []
  · subst empty
    exact .inr (.inl ⟨rfl, rfl⟩)
  cases admitted : s.db.admits scope parentTaskId specs with
  | true =>
    refine .inr (.inr ⟨rfl, _, ?_, inserts_newRows (Store.admits_accepts admitted)⟩)
    rw [atomicallyRecorded, reserveAllRecorded_run empty admitted]
  | false =>
    left
    have refused : ∀ r, reserveAll scope parentTaskId specs maxAttempts now s.db ≠ .ok r := by
      obtain ⟨_, admits⟩ | ⟨refused, _⟩ := reserveAll_run empty s.db
      · exact nomatch admitted.symm.trans admits
      · exact refused
    have same := reserveAll_records scope parentTaskId specs maxAttempts now recordedAt s
    rw [atomicallyRecorded]
    cases ran : reserveAllRecorded scope parentTaskId specs maxAttempts now recordedAt s with
    | error e => exact ⟨e, rfl⟩
    | ok p =>
      rw [ran] at same
      exact absurd same.symm (refused _)

theorem withinLimits_exec (tx : Tx β) (before : db.WithinLimits) :
    (tx.exec db).1.WithinLimits := by
  cases quiet : tx.inserts with
  | false => exact (tx.exec_rows db quiet).withinLimits before
  | true =>
    cases tx with
    | reserveAll scope parentTaskId specs maxAttempts now =>
      let s : Chronicle := ⟨db, []⟩
      have same := congrArg Prod.fst
        ((reserveAll_records scope parentTaskId specs maxAttempts now fun _ => now).atomically s)
      change (SightMesh.atomically (reserveAll scope parentTaskId specs maxAttempts now) s.db).1.WithinLimits
      rw [← same]
      obtain ⟨e, left⟩ | ⟨_, left⟩ | ⟨admitted, s', left, inserts⟩ :=
        reserveAllRecorded_cases scope parentTaskId specs maxAttempts now (fun _ => now) s
      · rw [left]
        exact before
      · rw [left]
        exact before
      · rw [left]
        exact inserts.withinLimits admitted before
    | _ => exact nomatch quiet

/-- In every interleaving, no parent has more children than its limit. -/
theorem reachable_withinLimits {w : KernelWorld γ}
    (reached : Reachable (kernel py x) anyEvent w) : w.shared.store.WithinLimits := by
  apply reached.invariant fun s => s.store.WithinLimits
  · rintro db e ⟨ownershipShared, rfl⟩
    constructor
    · rfl
    · intro row listed
      cases listed
    · intro t row known
      cases known
  · exact fun _ _ _ within => withinLimits_exec _ within
  · exact fun _ _ _ _ within => within

/-! ### The batch as a whole -/

def Chronicle.reserveAll (s : Chronicle) (scope : String) (parentTaskId : Option TaskId)
    (specs : List TaskSpec) (maxAttempts : ℕ) (now : Time) (recordedAt : TaskId → Time) :
    Chronicle × Except KernelError (List (TaskRecord × Bool)) :=
  atomicallyRecorded (reserveAllRecorded scope parentTaskId specs maxAttempts now recordedAt) s

/-- The batch was reserved: for every spec its row, the identical one there was or a fresh one. -/
structure Chronicle.Reserves (s s' : Chronicle) (scope : String) (parentTaskId : Option TaskId)
    (specs : List TaskSpec) (maxAttempts : ℕ) (now : Time) (recordedAt : TaskId → Time)
    (answers : List (TaskRecord × Bool)) : Prop where
  answers : answers = specs.map (s.db.reservation scope parentTaskId maxAttempts now)
  identical : ∀ spec ∈ specs, ∀ row, s.db.findByKey scope spec.key = some row → row.spec = spec
  fresh : ∀ row ∈ s.db.newRows scope parentTaskId maxAttempts now specs,
    row.state = .reserved ∧ row.epoch = 1 ∧ row.attempts = 0
  inserts : s.Inserts s' (s.db.newRows scope parentTaskId maxAttempts now specs) recordedAt
  within : ∀ p parent, s'.db.task p = some parent → s'.db.childCount p ≤ parent.childLimit

/-- In every reachable store, with any history beside it, a start batch raises and leaves both as
they were, or is reserved as a whole. -/
theorem reserveAll_all_or_nothing {w : KernelWorld γ}
    (reached : Reachable (kernel py x) anyEvent w) (history : List HistoryEntry) (scope : String)
    (parentTaskId : Option TaskId) (specs : List TaskSpec) (maxAttempts : ℕ) (now : Time)
    (recordedAt : TaskId → Time) :
    let s : Chronicle := ⟨w.shared.store, history⟩
    let called := s.reserveAll scope parentTaskId specs maxAttempts now recordedAt
    (called.1.db, called.2) =
        (Tx.reserveAll scope parentTaskId specs maxAttempts now).exec w.shared.store ∧
      ((∃ e, called = (s, .error e)) ∨ ∃ s' answers, called = (s', .ok answers) ∧
        s.Reserves s' scope parentTaskId specs maxAttempts now recordedAt answers) := by
  intro s called
  have limits : s.db.WithinLimits := reachable_withinLimits reached
  constructor
  · exact (reserveAll_records scope parentTaskId specs maxAttempts now recordedAt).atomically s
  obtain raised | ⟨rfl, left⟩ | ⟨admitted, s', left, inserts⟩ :=
    reserveAllRecorded_cases scope parentTaskId specs maxAttempts now recordedAt s
  · exact .inl raised
  · right
    refine ⟨s, [], left, ?_⟩
    constructor
    · rfl
    · exact fun _ listed => nomatch listed
    · exact fun _ listed => nomatch listed
    · exact ⟨rfl, by simp [Store.newRows], by simp [Store.newRows]⟩
    · exact limits.within
  · right
    refine ⟨s', _, left, ?_⟩
    constructor
    · rfl
    · intro spec listed row found
      have accepted := (Store.admits_accepts admitted).accepted spec listed
      rw [Store.acceptsSpec, found] at accepted
      exact of_decide_eq_true accepted
    · intro row listed
      obtain ⟨spec, _, rfl⟩ := List.mem_map.mp listed
      exact ⟨rfl, rfl, rfl⟩
    · exact inserts
    · exact (inserts.withinLimits admitted limits).within

/-- Each row's own spec again, and the same one under a new key. -/
def mixedBatch (w : ScriptWorld) : List TaskSpec :=
  w.shared.store.tasks.rows.flatMap fun row => [row.spec, { row.spec with key := "other" }]

set_option maxRecDepth 100000 in
theorem mixed_batch_reserved :
    let s : Chronicle := ⟨startingWorld.shared.store, []⟩
    ∃ s' answers, s.reserveAll "operator" none (mixedBatch startingWorld) 3 7 (fun _ => 7) =
        (s', .ok answers) ∧ answers.map Prod.snd = [false, true] ∧
      s.Reserves s' "operator" none (mixedBatch startingWorld) 3 7 (fun _ => 7) answers := by
  intro s
  have reached : Reachable (kernel asciiLibrary Script.calm.executor) anyEvent startingWorld :=
    Script.calm.run_reachable bossOps_known _
  obtain ⟨_, ⟨e, raised⟩ | ⟨s', answers, called, reserves⟩⟩ :=
    reserveAll_all_or_nothing reached [] "operator" none (mixedBatch startingWorld) 3 7 fun _ => 7
  · have through : (s.reserveAll "operator" none (mixedBatch startingWorld) 3 7 fun _ => 7).2.toBool =
        true := by decide +kernel
    rw [raised] at through
    exact nomatch through
  · refine ⟨s', answers, called, ?_, reserves⟩
    rw [reserves.answers]
    decide +kernel

end SightMesh
