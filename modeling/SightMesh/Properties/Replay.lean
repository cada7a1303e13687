import SightMesh.History.Change

/-! Replaying the history of a row: which columns it gives back, whatever was committed in which
order. -/
namespace Database.Table

variable {κ ρ : Type} {key : ρ → κ} [DecidableEq κ]

theorem filter_key (t : Table key) (k : κ) :
    t.rows.filter (fun row => key row = k) = (t.get k).toList := by
  obtain ⟨rows, unique⟩ := t
  unfold get
  induction rows with
  | nil => rfl
  | cons row rows ih =>
    obtain ⟨fresh, unique⟩ := List.nodup_cons.mp unique
    by_cases named : key row = k
    · have others : ∀ other ∈ rows, key other ≠ k := by
        intro other mem same
        exact fresh (List.mem_map.mpr ⟨other, mem, same.trans named.symm⟩)
      simpa [named] using others
    · simpa [named] using ih unique

end Database.Table

namespace SightMesh.History

open Database Python.Raising

variable {s s' : Store} {key : Key} {c : Column} {entries : List Entry} {row : Row}

/-! ### Whose entry it is -/

theorem orNone_inj {a b : String} : orNone a = orNone b ↔ a = b := by
  unfold orNone
  by_cases first : a = "" <;> by_cases second : b = "" <;> simp [first, second, eq_comm]

/-- The two kinds hold no colon, so a native id is read back behind it. -/
theorem CleanupKind.joined_inj {kind kind' : CleanupKind} {nativeId nativeId' : String} :
    kind.column ++ ":" ++ nativeId = kind'.column ++ ":" ++ nativeId' ↔
      kind = kind' ∧ nativeId = nativeId' := by
  cases kind <;> cases kind' <;> simp [CleanupKind.column, String.ext_iff]

theorem CleanupKind.orNone_joined (kind : CleanupKind) (nativeId : String) :
    orNone (kind.column ++ ":" ++ nativeId) = some (kind.column ++ ":" ++ nativeId) := by
  cases kind <;> simp [orNone, CleanupKind.column]

theorem about_iff {entry : Entry} (named : entry.toIdentity = identity row.key.entity row.column)
    (sort : entry.entity = row.key.entity) : entry.about key ↔ row.key = key := by
  obtain ⟨k, rest⟩ := row
  obtain ⟨⟨taskId, epoch, entityId⟩, entity, kind, cause, changed, missing, at_⟩ := entry
  simp only [Identity.mk.injEq, identity] at named sort
  obtain ⟨rfl, rfl, rfl⟩ := named
  subst sort
  cases k <;> cases key <;>
    simp [Entry.about, Key.entity, Row.column, Key.values, Entity.keyColumns, Value.str, Value.int,
      List.lookup_cons, orNone_inj, CleanupKind.orNone_joined,
      CleanupKind.joined_inj]

/-! ### What a write leaves -/

def Entity.mirrored (entity : Entity) : List Column :=
  entity.columns.filter fun c => c ≠ "updated_at" ∧ ¬ (entity = .wake ∧ c = "payload")

theorem mirrored_ne_nil (entity : Entity) : entity.mirrored ≠ [] := by
  cases entity <;> decide

theorem changedColumns_eq (entity : Entity) (before : Option (Column → Value))
    (after : Column → Value) :
    popPayload entity (changedColumns entity before after) =
      sparse entity.mirrored before after := by
  unfold popPayload changedColumns Entity.mirrored
  by_cases wake : entity = .wake
  · rw [if_pos wake, filter_sparse (fun c => c ≠ "payload")]
    simp [List.filter_filter, wake, Bool.and_comm]
  · simp [wake]

theorem lookup_baseline {now : ℚ} (inside : c ∈ row.key.entity.mirrored) :
    (baselineEntry now row).changed.lookup c = some (row.column c) := by
  obtain ⟨columns, kept⟩ := List.mem_filter.mp inside
  have kept := of_decide_eq_true kept
  unfold baselineEntry popPayload
  by_cases wake : row.key.entity = .wake
  · have apart : c ≠ "payload" := by simpa [wake] using kept.2
    simp [wake, List.filter_map, Function.comp_def, lookup_columns, apart]
    simpa [wake] using columns
  · simp [wake, lookup_columns, columns]

/-- The entries of the row under a key begin with the one that shows all of it. -/
def Opened : List Entry → Prop
  | [] => False
  | first :: later =>
    (first.kind = .created ∨ first.kind = .baseline) ∧
      ∀ entry ∈ later, entry.kind ≠ .created ∧ entry.kind ≠ .baseline

/-- A row has its entries from its first on, and where there is no row there are none. -/
def Store.Traced (s : Store) (key : Key) : Prop :=
  ∀ entries, s.history = some entries →
    (s.rows.get key = none → entriesOf key entries = []) ∧
      ∀ row, s.rows.get key = some row → Opened (entriesOf key entries)

/-- The entries give back what stands under the column. -/
def Store.Synced (s : Store) (key : Key) (c : Column) : Prop :=
  ∀ entries, s.history = some entries →
    replay entries key c = (s.rows.get key).map fun row => row.column c

/-- What a `change` leaves of the row under its key. -/
inductive Changes (key : Key) (cause : String) (observation : Bool) (now : ℚ) (s s' : Store) : Prop
  | missing (before : s.rows.get key = none) (after : s'.rows.get key = none)
      (history : s'.history = s.history)
  | unmoved (row row' : Row) (before : s.rows.get key = some row)
      (after : s'.rows.get key = some row') (history : s'.history = s.history)
      (same : ∀ c ∈ key.entity.mirrored, row.column c = row'.column c)
  | moved (row : Row) (entries : List Entry) (after : s'.rows.get key = some row)
      (known : s.history = some entries)
      (history : s'.history =
        some (entries ++ [changeEntry (s.rows.get key) row cause observation now]))

theorem Statement.exec_cases {statement : Statement} (ran : statement.exec key s = .ok s') :
    s' = s ∨ ∃ rest, s' = { s with rows := s.rows.put ⟨key, rest⟩ } := by
  obtain ⟨written, _, ran⟩ := bind_eq_ok ran
  cases written with
  | none =>
    cases ran
    exact .inl rfl
  | some rest =>
    cases ran
    exact .inr ⟨rest, rfl⟩

theorem Statement.exec_history {statement : Statement} (ran : statement.exec key s = .ok s') :
    s'.history = s.history := by
  obtain rfl | ⟨rest, rfl⟩ := exec_cases ran <;> rfl

theorem Statement.exec_others {statement : Statement} (ran : statement.exec key s = .ok s')
    {other : Key} (apart : other ≠ key) : s'.rows.get other = s.rows.get other := by
  obtain rfl | ⟨rest, rfl⟩ := exec_cases ran
  · rfl
  · exact Table.get_put_ne _ apart

theorem Statement.exec_found {statement : Statement} (ran : statement.exec key s = .ok s')
    (none_after : s'.rows.get key = none) : s.rows.get key = none := by
  obtain rfl | ⟨rest, rfl⟩ := exec_cases ran
  · exact none_after
  · simp at none_after

theorem recordChange_cases {entry : Entry} (ran : recordChange entry s = .ok s') :
    (entry.changed = [] ∧ s' = s) ∨ ∃ entries, s.history = some entries ∧
      s' = { s with history := some (entries ++ [entry]) } := by
  unfold recordChange at ran
  by_cases empty : entry.changed = []
  · rw [if_pos empty] at ran
    cases ran
    exact .inl ⟨empty, rfl⟩
  · rw [if_neg empty] at ran
    cases history : s.history with
    | none => simp [history] at ran
    | some entries =>
      simp only [history, Except.ok.injEq] at ran
      exact .inr ⟨entries, rfl, ran.symm⟩

theorem recordChange_rows {entry : Entry} (ran : recordChange entry s = .ok s') :
    s'.rows = s.rows := by
  obtain ⟨_, rfl⟩ | ⟨_, _, rfl⟩ := recordChange_cases ran <;> rfl

theorem change_cases {cause : String} {observation : Bool} {now : ℚ} {body : Statement}
    (ran : change key cause observation now body s = .ok s') :
    Changes key cause observation now s s' := by
  obtain ⟨t, wrote, ran⟩ := bind_eq_ok ran
  have history := Statement.exec_history wrote
  cases after : t.rows.get key with
  | none =>
    simp only [after] at ran
    cases ran
    exact .missing (Statement.exec_found wrote after) after history
  | some row' =>
    simp only [after] at ran
    have rows := recordChange_rows ran
    have keyed := Table.key_of_get after
    obtain ⟨empty, rfl⟩ | ⟨entries, known, rfl⟩ := recordChange_cases ran
    · simp only [changeEntry, changedColumns_eq, keyed] at empty
      cases before : s.rows.get key with
      | none =>
        simp [before, sparse_first, mirrored_ne_nil] at empty
      | some row =>
        rw [before] at empty
        exact .unmoved row row' before after history (sparse_eq_nil_iff.mp empty)
    · exact .moved row' entries after (history ▸ known) rfl

theorem change_others {cause : String} {observation : Bool} {now : ℚ} {body : Statement}
    (ran : change key cause observation now body s = .ok s') {other : Key} (apart : other ≠ key) :
    s'.rows.get other = s.rows.get other := by
  obtain ⟨t, wrote, ran⟩ := bind_eq_ok ran
  rw [← Statement.exec_others wrote apart]
  cases after : t.rows.get key with
  | none =>
    simp only [after] at ran
    cases ran
    rfl
  | some row =>
    simp only [after] at ran
    rw [recordChange_rows ran]

/-! ### One write -/

theorem entriesOf_own {entry : Entry} (about : entry.about key) :
    entriesOf key (entries ++ [entry]) = entriesOf key entries ++ [entry] := by
  simp [entriesOf, about]

theorem entriesOf_other {entry : Entry} (about : ¬ entry.about key) :
    entriesOf key (entries ++ [entry]) = entriesOf key entries := by
  simp [entriesOf, about]

theorem about_changeEntry (before : Option Row) (cause : String) (observation : Bool) (now : ℚ) :
    (changeEntry before row cause observation now).about key ↔ row.key = key :=
  about_iff rfl rfl

theorem about_written {written : Key} (found : s.rows.get written = some row)
    (before : Option Row) (cause : String) (observation : Bool) (now : ℚ) :
    (changeEntry before row cause observation now).about key ↔ written = key := by
  rw [about_changeEntry, Table.key_of_get found]

theorem Opened.append {entry : Entry} (opened : Opened entries)
    (later : entry.kind ≠ .created ∧ entry.kind ≠ .baseline) : Opened (entries ++ [entry]) := by
  cases entries with
  | nil => exact opened.elim
  | cons first rest =>
    refine ⟨opened.1, fun other mem => ?_⟩
    obtain mem | mem := List.mem_append.mp mem
    · exact opened.2 other mem
    · simpa [List.mem_singleton.mp mem] using later

section Change

variable {written : Key} {cause : String} {observation : Bool} {now : ℚ} {body : Statement}

theorem changeEntry_later {before : Row} :
    (changeEntry (some before) row cause observation now).kind ≠ .created ∧
      (changeEntry (some before) row cause observation now).kind ≠ .baseline := by
  cases observation <;> simp [changeEntry]

theorem change_elsewhere (ran : change written cause observation now body s = .ok s')
    (apart : key ≠ written) (known : s'.history = some entries) :
    ∃ before, s.history = some before ∧ entriesOf key entries = entriesOf key before := by
  cases change_cases ran with
  | missing _ _ history => exact ⟨entries, history ▸ known, rfl⟩
  | unmoved _ _ _ _ history _ => exact ⟨entries, history ▸ known, rfl⟩
  | moved row before after known₀ history =>
    cases history.symm.trans known
    refine ⟨before, known₀, entriesOf_other ?_⟩
    rw [about_written after]
    exact apart.symm

theorem Store.Traced.change (traced : s.Traced key)
    (ran : change written cause observation now body s = .ok s') : s'.Traced key := by
  intro entries known
  by_cases named : key = written
  · subst named
    cases change_cases ran with
    | missing before after history => simpa [before, after] using traced entries (history ▸ known)
    | unmoved row row' before after history _ =>
      simpa [before, after] using traced entries (history ▸ known)
    | moved row entries₀ after known₀ history =>
      cases history.symm.trans known
      obtain ⟨absent, opened⟩ := traced entries₀ known₀
      have about := (about_written after (s.rows.get key) cause observation now).mpr rfl
      simp only [after, entriesOf_own about]
      cases before : s.rows.get key with
      | none => simp [absent before, Opened, changeEntry]
      | some row₀ => simpa using (opened row₀ before).append changeEntry_later
  · obtain ⟨before, known₀, same⟩ := change_elsewhere ran named known
    rw [change_others ran named, same]
    exact traced before known₀

theorem Store.Synced.change (synced : s.Synced key c) (inside : c ∈ key.entity.mirrored)
    (ran : change written cause observation now body s = .ok s') : s'.Synced key c := by
  intro entries known
  by_cases named : key = written
  · subst named
    cases change_cases ran with
    | missing before after history => simpa [before, after] using synced entries (history ▸ known)
    | unmoved row row' before after history same =>
      simpa [before, after, same c inside] using synced entries (history ▸ known)
    | moved row entries₀ after known₀ history =>
      cases history.symm.trans known
      have about := (about_written after (s.rows.get key) cause observation now).mpr rfl
      have known_before := synced entries₀ known₀
      rw [replay, entriesOf_own about, List.map_append, List.map_singleton, after, changeEntry]
      simp only [Table.key_of_get after, changedColumns_eq]
      apply replayed_sparse inside
      rw [replay] at known_before
      simpa [Function.comp_def] using known_before
  · obtain ⟨before, known₀, same⟩ := change_elsewhere ran named known
    rw [change_others ran named, replay, same]
    exact synced before known₀

end Change

/-! ### The statements without an entry -/

def Unrecorded.columns : Unrecorded → List Column
  | .countChildEvent _ => ["child_event_seq"]
  | .countLivenessWake _ _ => ["liveness_wakes", "liveness_since"]
  | .persistPayload _ _ _ _ => ["payload", "updated_at"]
  | .advanceWatermark _ _ _ => ["last_woken_seq", "updated_at"]
  | .noteLossEvidence _ _ => ["liveness_evidence"]
  | .endLostEffect _ _ _ _ => ["state", "outcome", "updated_at"]

theorem Unrecorded.columns_eq (write : Unrecorded) (row : Row) :
    (write.assign row).map Prod.fst = write.columns := by
  cases write <;> rfl

theorem Unrecorded.exec_cases {write : Unrecorded} (ran : write.exec.exec write.key s = .ok s') :
    s' = s ∨ ∃ row, s.rows.get write.key = some row ∧ write.guard row = true ∧ s' = { s with
      rows := s.rows.put ⟨write.key, fun c => ((write.assign row).lookup c).getD (row.rest c)⟩ } := by
  obtain ⟨written, wrote, ran⟩ := bind_eq_ok ran
  unfold Unrecorded.exec at wrote
  cases found : s.rows.get write.key with
  | none =>
    simp only [found] at wrote
    cases wrote
    cases ran
    exact .inl rfl
  | some row =>
    simp only [found] at wrote
    by_cases guard : write.guard row
    · rw [if_pos guard] at wrote
      cases wrote
      cases ran
      exact .inr ⟨row, rfl, guard, rfl⟩
    · rw [if_neg guard] at wrote
      cases wrote
      cases ran
      exact .inl rfl

/-- Does the statement leave the column alone? It writes nothing where its guard fails. -/
def Unrecorded.Spares (key : Key) (c : Column) (s : Store) (write : Unrecorded) : Prop :=
  key = write.key → c ∈ write.columns → ∀ row, s.rows.get key = some row → write.guard row = false

theorem Unrecorded.exec_column {write : Unrecorded} (ran : write.exec.exec write.key s = .ok s')
    (spared : write.Spares key c s) :
    (s'.rows.get key).map (fun row => row.column c) =
      (s.rows.get key).map fun row => row.column c := by
  by_cases named : key = write.key
  · subst named
    obtain rfl | ⟨row, found, guard, rfl⟩ := exec_cases ran
    · rfl
    have absent : (write.assign row).lookup c = none := by
      simp only [List.lookup_eq_none_iff, bne_iff_ne]
      rintro p mem rfl
      have written : p.1 ∈ write.columns := write.columns_eq row ▸ List.mem_map_of_mem mem
      exact Bool.false_ne_true ((spared rfl written row found).symm.trans guard)
    have keyed := Table.key_of_get found
    have put := Table.get_put_self s.rows
      ⟨write.key, fun c => ((write.assign row).lookup c).getD (row.rest c)⟩
    simp [put, found, Row.column, absent, keyed]
  · rw [Statement.exec_others ran named]

theorem Unrecorded.exec_isNone {write : Unrecorded} (ran : write.exec.exec write.key s = .ok s')
    (key : Key) : s'.rows.get key = none ↔ s.rows.get key = none := by
  by_cases named : key = write.key
  · subst named
    obtain rfl | ⟨row, found, _, rfl⟩ := exec_cases ran
    · rfl
    · simp [found]
  · rw [Statement.exec_others ran named]

theorem Store.Traced.unrecorded {write : Unrecorded} (traced : s.Traced key)
    (ran : write.exec.exec write.key s = .ok s') : s'.Traced key := by
  intro entries known
  rw [Statement.exec_history ran] at known
  obtain ⟨absent, opened⟩ := traced entries known
  constructor
  · exact fun missing => absent ((Unrecorded.exec_isNone ran key).mp missing)
  · intro row found
    cases before : s.rows.get key with
    | none => simp [(Unrecorded.exec_isNone ran key).mpr before] at found
    | some row₀ => exact opened row₀ before

theorem Store.Synced.unrecorded {write : Unrecorded} (synced : s.Synced key c)
    (spared : write.Spares key c s)
    (ran : write.exec.exec write.key s = .ok s') : s'.Synced key c := by
  intro entries known
  rw [Statement.exec_history ran] at known
  rw [Unrecorded.exec_column ran spared]
  exact synced entries known

/-! ### The upgrade -/

theorem entriesOf_baselines (now : ℚ) (key : Key) (s : Store) :
    entriesOf key (s.allRows.map (baselineEntry now)) =
      (s.rows.get key).toList.map (baselineEntry now) := by
  have about : ∀ row, (baselineEntry now row).about key = decide (row.key = key) := by
    intro row
    have named := @about_iff key row (baselineEntry now row) rfl rfl
    by_cases same : row.key = key <;> simp_all
  have own : s.allRows.filter (fun row => row.key = key) =
      s.rows.rows.filter fun row => row.key = key := by
    have others : ∀ entity ≠ key.entity, (s.rows.rows.filter fun row => row.key.entity = entity).filter
        (fun row => row.key = key) = [] := by
      intro entity apart
      simp only [List.filter_filter, List.filter_eq_nil_iff, Bool.and_eq_true, decide_eq_true_eq]
      rintro row _ ⟨rfl, rfl⟩
      exact apart rfl
    have same : (s.rows.rows.filter fun row => row.key.entity = key.entity).filter
        (fun row => row.key = key) = s.rows.rows.filter fun row => row.key = key := by
      simp only [List.filter_filter]
      apply List.filter_congr
      intro row _
      by_cases named : row.key = key <;> simp [named]
    cases kind : key.entity <;> rw [kind] at others same <;>
      simp [Store.allRows, Entity.all, others, same]
  rw [entriesOf, List.filter_map, Function.comp_def]
  simp only [about, own]
  rw [Table.filter_key]

theorem recordBaselines_eq {now : ℚ} {rows : List Row} (known : s.history = some entries) :
    rows.foldlM (fun s row => recordChange (baselineEntry now row) s) s =
      .ok { s with history := some (entries ++ rows.map (baselineEntry now)) } := by
  induction rows generalizing s entries with
  | nil => simp [← known]; rfl
  | cons row rows ih =>
    have shown : (baselineEntry now row).changed ≠ [] := by
      obtain ⟨c, inside⟩ := List.exists_mem_of_ne_nil _ (mirrored_ne_nil row.key.entity)
      intro empty
      have found : (baselineEntry now row).changed.lookup c = some (row.column c) :=
        lookup_baseline inside
      simp [empty] at found
    have first : recordChange (baselineEntry now row) s =
        .ok { s with history := some (entries ++ [baselineEntry now row]) } := by
      simp [recordChange, shown, known]
    rw [List.foldlM_cons, first, ok_bind]
    simpa using @ih { s with history := some (entries ++ [baselineEntry now row]) } _ rfl

/-- A store that is open already is left alone; an unversioned one gets an entry for every row. -/
theorem ensureSchema_cases {now : ℚ} (ran : ensureSchema now s = .ok s') :
    s' = s ∨ s.history = none ∧ s'.rows = s.rows ∧
      s'.history = some (s.allRows.map (baselineEntry now)) := by
  unfold ensureSchema at ran
  cases contract : s.contract with
  | some version =>
    simp only [contract] at ran
    by_cases current : version = historyVersion
    · rw [if_pos current] at ran
      cases ran
      exact .inl rfl
    · rw [if_neg current] at ran
      exact nomatch ran
  | none =>
    cases history : s.history with
    | some entries =>
      simp only [contract, history] at ran
      exact nomatch ran
    | none =>
      simp only [contract, history] at ran
      obtain ⟨t, recorded, ran⟩ := bind_eq_ok ran
      rw [recordBaselines, recordBaselines_eq rfl] at recorded
      cases recorded
      cases ran
      exact .inr ⟨rfl, rfl, rfl⟩

theorem Store.Traced.ensureSchema {now : ℚ} (traced : s.Traced key)
    (ran : ensureSchema now s = .ok s') : s'.Traced key := by
  obtain rfl | ⟨_, rows, history⟩ := ensureSchema_cases ran
  · exact traced
  intro entries known
  cases history.symm.trans known
  rw [entriesOf_baselines, rows]
  cases s.rows.get key with
  | none => simp
  | some row => simp [Opened, baselineEntry]

theorem Store.Synced.ensureSchema {now : ℚ} (synced : s.Synced key c)
    (inside : c ∈ key.entity.mirrored) (ran : ensureSchema now s = .ok s') : s'.Synced key c := by
  obtain rfl | ⟨_, rows, history⟩ := ensureSchema_cases ran
  · exact synced
  intro entries known
  cases history.symm.trans known
  rw [replay, entriesOf_baselines, rows]
  cases found : s.rows.get key with
  | none => simp
  | some row =>
    rw [← Table.key_of_get found] at inside
    simp [replayed, lookup_baseline inside]

/-! ### Runs -/

/-- Does every statement of a transaction leave the column of the row alone, or record it? -/
def Sparing (key : Key) (c : Column) : Store → List Write → Prop
  | _, [] => True
  | s, write :: writes =>
    (∀ statement, write = .unrecorded statement → statement.Spares key c s) ∧
      ∀ s', write.exec s = .ok s' → Sparing key c s' writes

/-- A transaction that is rolled back writes nothing. -/
def Op.Spares (key : Key) (c : Column) (s : Store) : Op → Prop
  | .openStore _ => True
  | .transaction writes => (∃ s', writes.foldlM Write.exec s = .ok s') → Sparing key c s writes

/-- What every statement and the upgrade keep, a commit keeps. -/
theorem Op.exec_keeps {P : Store → Prop} {op : Op} (start : P s)
    (upgrade : ∀ s s' now, P s → ensureSchema now s = .ok s' → P s')
    (step : ∀ s s' write, P s → Write.exec s write = .ok s' → P s') : P (op.exec s) := by
  unfold Op.exec
  cases ran : op.body s with
  | error fault => exact start
  | ok t =>
    cases op with
    | openStore now => exact upgrade s t now start ran
    | transaction writes =>
      change writes.foldlM Write.exec s = .ok t at ran
      induction writes generalizing s with
      | nil =>
        cases ran
        exact start
      | cons write writes ih =>
        obtain ⟨u, first, rest⟩ := bind_eq_ok ran
        exact ih (step s u write start first) rest

theorem Store.Traced.exec {op : Op} (traced : s.Traced key) : (op.exec s).Traced key := by
  refine Op.exec_keeps (P := fun s => s.Traced key) traced ?_ ?_
  · exact fun _ _ _ before ran => before.ensureSchema ran
  · intro s s' write before ran
    cases write with
    | recorded written cause observation now body => exact before.change ran
    | unrecorded write => exact before.unrecorded ran

theorem Store.Synced.writes {writes : List Write} (synced : s.Synced key c)
    (inside : c ∈ key.entity.mirrored) (spared : Sparing key c s writes)
    (ran : writes.foldlM Write.exec s = .ok s') : s'.Synced key c := by
  induction writes generalizing s with
  | nil =>
    cases ran
    exact synced
  | cons write writes ih =>
    obtain ⟨u, first, rest⟩ := bind_eq_ok ran
    refine ih ?_ (spared.2 u first) rest
    cases write with
    | recorded written cause observation now body => exact synced.change inside first
    | unrecorded write => exact synced.unrecorded (spared.1 write rfl) first

theorem Store.Synced.exec {op : Op} (synced : s.Synced key c) (inside : c ∈ key.entity.mirrored)
    (spared : op.Spares key c s) : (op.exec s).Synced key c := by
  unfold Op.exec
  cases ran : op.body s with
  | error fault => exact synced
  | ok t =>
    cases op with
    | openStore now => exact synced.ensureSchema inside ran
    | transaction writes => exact synced.writes inside (spared ⟨t, ran⟩) ran

def Store.Extends (entries : List Entry) (s : Store) : Prop :=
  ∃ later, s.history = some (entries ++ later)

theorem recordChange_extends {entry : Entry} (before : s.Extends entries)
    (ran : recordChange entry s = .ok s') : s'.Extends entries := by
  obtain ⟨_, rfl⟩ | ⟨known, history, rfl⟩ := recordChange_cases ran
  · exact before
  · obtain ⟨later, same⟩ := before
    cases history.symm.trans same
    exact ⟨later ++ [entry], by simp⟩

theorem Write.exec_extends {write : Write} (before : s.Extends entries)
    (ran : write.exec s = .ok s') : s'.Extends entries := by
  cases write with
  | unrecorded write =>
    unfold Store.Extends
    rw [Statement.exec_history ran]
    exact before
  | recorded written cause observation now body =>
    obtain ⟨t, wrote, ran⟩ := bind_eq_ok ran
    have between : t.Extends entries := by
      unfold Store.Extends
      rw [Statement.exec_history wrote]
      exact before
    cases after : t.rows.get written with
    | none =>
      simp only [after] at ran
      cases ran
      exact between
    | some row =>
      simp only [after] at ran
      exact recordChange_extends between ran

theorem Store.Extends.exec {op : Op} (before : s.Extends entries) :
    (op.exec s).Extends entries := by
  refine Op.exec_keeps (P := Store.Extends entries) before ?_ ?_
  · intro s s' now before ran
    obtain rfl | ⟨unopened, _, _⟩ := ensureSchema_cases ran
    · exact before
    · obtain ⟨later, same⟩ := before
      simp [unopened] at same
  · exact fun s s' write before ran => Write.exec_extends before ran

/-- The columns some statement of the kernel writes without an entry. -/
def Entity.unrecorded : Entity → List Column
  | .task => ["child_event_seq", "last_woken_seq", "liveness_wakes", "liveness_since",
      "liveness_evidence"]
  | .effect => ["state", "outcome"]
  | _ => []

theorem Unrecorded.columns_listed {write : Unrecorded} (mem : c ∈ write.columns) :
    c ∉ write.key.entity.mirrored ∨ c ∈ write.key.entity.unrecorded := by
  cases write <;>
    simp only [Unrecorded.columns, List.mem_cons, List.not_mem_nil, or_false] at mem <;>
    rcases mem with rfl | rfl | rfl <;>
    simp [Unrecorded.key, Key.entity, Entity.mirrored, Entity.columns, Entity.unrecorded]

theorem sparing_recorded (inside : c ∈ key.entity.mirrored)
    (listed : c ∉ key.entity.unrecorded) (s : Store) (writes : List Write) :
    Sparing key c s writes := by
  induction writes generalizing s with
  | nil => trivial
  | cons write writes ih =>
    refine ⟨?_, fun s' _ => ih s'⟩
    rintro statement rfl rfl mem
    exact (Unrecorded.columns_listed mem).elim (absurd inside) (absurd · listed)

theorem Op.spares_recorded (inside : c ∈ key.entity.mirrored)
    (listed : c ∉ key.entity.unrecorded) (s : Store) (op : Op) : op.Spares key c s := by
  cases op with
  | openStore now => trivial
  | transaction writes => exact fun _ => sparing_recorded inside listed s writes

/-- The database after a run that started where an upgrade finds it. -/
abbrev afterRun (rows : Rows) (ops : List Op) : Store := play Op.exec (.unversioned rows) ops

variable {rows : Rows} {ops : List Op}

theorem afterRun_traced (key : Key) : (afterRun rows ops).Traced key := by
  have free : Passes Op.exec (fun _ _ => True) (.unversioned rows) ops :=
    passes_of_forall (fun _ _ => trivial) _ _
  refine play_invariant (P := fun s => Store.Traced s key) ?_ ?_ free
  · exact fun entries unopened => nomatch unopened
  · exact fun s op traced _ => traced.exec

/-- No statement of the run writes the column of the row without an entry. -/
abbrev Spared (key : Key) (c : Column) (rows : Rows) (ops : List Op) : Prop :=
  Passes Op.exec (Op.Spares key c) (.unversioned rows) ops

theorem spared_recorded (inside : c ∈ key.entity.mirrored) (listed : c ∉ key.entity.unrecorded) :
    Spared key c rows ops :=
  passes_of_forall (Op.spares_recorded inside listed) _ _

theorem afterRun_synced (inside : c ∈ key.entity.mirrored) (spared : Spared key c rows ops) :
    (afterRun rows ops).Synced key c := by
  refine play_invariant (P := fun s => Store.Synced s key c) ?_ ?_ spared
  · exact fun _ unopened => nomatch unopened
  · exact fun s op synced kept => synced.exec inside kept

theorem afterRun_extends {later : List Op} (before : (afterRun rows ops).history = some entries) :
    (afterRun rows (ops ++ later)).Extends entries := by
  have start : (afterRun rows ops).Extends entries := ⟨[], by simpa using before⟩
  unfold afterRun at start ⊢
  rw [play_append]
  have free : Passes Op.exec (fun _ _ => True) (play Op.exec (.unversioned rows) ops) later :=
    passes_of_forall (fun _ _ => trivial) _ _
  exact play_invariant start (fun s op kept _ => kept.exec) free

/-- The rows of the last commit, read back from the entries there are then: a row from its first on,
and every column no statement of the run has written without an entry. -/
def ReadBack (rows : Rows) (ops : List Op) (entries : List Entry) : Prop :=
  ∀ key,
    match (afterRun rows ops).rows.get key with
    | none => entriesOf key entries = []
    | some row => Opened (entriesOf key entries) ∧ ∀ c ∈ key.entity.mirrored,
        c ∉ key.entity.unrecorded ∨ Spared key c rows ops →
          replay entries key c = some (row.column c)

theorem readBack (known : (afterRun rows ops).history = some entries) :
    ReadBack rows ops entries := by
  intro key
  obtain ⟨absent, opened⟩ := afterRun_traced key entries known
  cases found : (afterRun rows ops).rows.get key with
  | none => exact absent found
  | some row =>
    refine ⟨opened row found, fun c inside spared => ?_⟩
    have spared : Spared key c rows ops := by
      obtain listed | spared := spared
      · exact spared_recorded inside listed
      · exact spared
    have synced := afterRun_synced inside spared entries known
    simpa [found] using synced

/-! ### The columns it loses -/

def losingRow : Entity → Row
  | .effect => ⟨.effect "task" 1, fun c => if c = "state" then .text "launched" else .null⟩
  | _ => ⟨.task "task", fun c =>
      if c = "state" then .text "active"
      else if c ∈ ["epoch", "child_event_seq", "last_woken_seq", "liveness_wakes"] then .number 0
      else .null⟩

/-- A statement that writes the column, and leaves no entry. -/
def losingWrite (entity : Entity) (c : Column) : Unrecorded :=
  if entity = .effect then .endLostEffect "task" 1 "lost" 1
  else if c = "child_event_seq" then .countChildEvent "task"
  else if c = "last_woken_seq" then .advanceWatermark "task" 1 1
  else if c = "liveness_evidence" then .noteLossEvidence "task" "gone"
  else .countLivenessWake "task" 1

def losingOps (entity : Entity) (c : Column) : List Op :=
  [.openStore 0, .transaction [.unrecorded (losingWrite entity c)]]

theorem column_lost {entity : Entity} (listed : c ∈ entity.unrecorded) :
    ∃ rows ops entries key, key.entity = entity ∧
      (afterRun rows ops).history = some entries ∧
      replay entries key c ≠ ((afterRun rows ops).rows.get key).map fun row => row.column c := by
  refine ⟨Table.empty.put (losingRow entity), losingOps entity c,
    [baselineEntry 0 (losingRow entity)], (losingRow entity).key, ?_⟩
  cases entity <;> simp [Entity.unrecorded] at listed
  all_goals rcases listed with rfl | rfl | rfl | rfl | rfl <;> decide +kernel

theorem column_kept {entity : Entity} (inside : c ∈ entity.mirrored) :
    (∀ rows ops entries key, key.entity = entity → (afterRun rows ops).history = some entries →
      replay entries key c = ((afterRun rows ops).rows.get key).map fun row => row.column c) ↔
      c ∉ entity.unrecorded := by
  constructor
  · intro kept listed
    obtain ⟨rows, ops, entries, key, named, known, lost⟩ := column_lost listed
    exact lost (kept rows ops entries key named known)
  · rintro listed rows ops entries key rfl known
    exact afterRun_synced inside (spared_recorded inside listed) entries known

/-- The rows of every commit of a run are read back from the entries there were by then, which stay
the first ones for good; and the columns that can be lost are those some statement of the kernel
writes without an entry. -/
theorem history_replays :
    (∀ rows before later known entries, (afterRun rows before).history = some known →
      (afterRun rows (before ++ later)).history = some entries →
      (∃ more, entries = known ++ more) ∧ ReadBack rows before known) ∧
    ∀ entity, ∀ c ∈ Entity.mirrored entity,
      ((∀ rows ops entries key, key.entity = entity → (afterRun rows ops).history = some entries →
        replay entries key c = ((afterRun rows ops).rows.get key).map fun row => row.column c) ↔
        c ∉ entity.unrecorded) := by
  constructor
  · intro rows before later known entries then_known now_known
    have extends_ : (afterRun rows (before ++ later)).Extends known := afterRun_extends then_known
    obtain ⟨more, same⟩ := extends_
    exact ⟨⟨more, Option.some.inj (now_known.symm.trans same)⟩, readBack then_known⟩
  · exact fun entity c inside => column_kept inside

def blockedBody : Statement := fun rows =>
  .ok ((rows.get (.task "task")).map fun row c =>
    if c = "state" then .text "blocked" else row.rest c)

def blockedOps : List Op :=
  [.openStore 0, .transaction [.recorded (.task "task") "blocked" false 1 blockedBody]]

def lostOps : List Op := [.transaction [.unrecorded (.noteLossEvidence "task" "gone")]]

def blockedRows : Rows := Table.empty.put (losingRow .task)

def entriesAfter (ops : List Op) : List Entry := (afterRun blockedRows ops).history.getD []

theorem blocked_task_replayed :
    (∃ more, entriesAfter (blockedOps ++ lostOps) = entriesAfter blockedOps ++ more) ∧
      replay (entriesAfter blockedOps) (.task "task") "state" = some (.text "blocked") := by
  have known : (afterRun blockedRows blockedOps).history = some (entriesAfter blockedOps) := by
    decide +kernel
  have later : (afterRun blockedRows (blockedOps ++ lostOps)).history =
      some (entriesAfter (blockedOps ++ lostOps)) := by decide +kernel
  have kept := history_replays.2 .task "state" (by decide) |>.mpr (by decide) blockedRows blockedOps
    _ (.task "task") rfl known
  refine ⟨(history_replays.1 blockedRows blockedOps lostOps _ _ known later).1, kept.trans ?_⟩
  decide +kernel

end SightMesh.History
