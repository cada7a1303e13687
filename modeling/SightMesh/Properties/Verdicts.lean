import Mathlib.Data.List.Perm.Basic
import SightMesh.Executor.Evidence
import SightMesh.Programs.Scripted

/-! The verdict on a session does not depend on how the executor orders its rows, or on rows that
do not count. -/
namespace SightMesh

open Python Concurrency

variable {α β : Type} {py : Library} {now : Time}

/-! ### `max` over an unordered list -/

theorem maxBy_top {less : α → α → Bool} {xs : List α}
    (irrefl : ∀ a, less a a = false) (trans : ∀ a b c, less a b → less b c → less a c)
    (connected : ∀ a ∈ xs, ∀ b ∈ xs, less a b = false → less b a = false → a = b) {top : α}
    (picked : maxBy less xs = some top) : top ∈ xs ∧ ∀ a ∈ xs, less top a = false := by
  have fold (xs : List α) (best : α)
      (connected : ∀ a ∈ best :: xs, ∀ b ∈ best :: xs, less a b = false → less b a = false → a = b) :
      let top := xs.foldl (fun best y => if less best y then y else best) best
      top ∈ best :: xs ∧ ∀ a ∈ best :: xs, less top a = false := by
    induction xs generalizing best with
    | nil =>
      refine ⟨List.mem_cons_self, fun a mem => ?_⟩
      rw [List.mem_singleton.mp mem]
      exact irrefl best
    | cons y ys ih =>
      rw [List.foldl_cons]
      by_cases larger : less best y
      · rw [if_pos larger]
        obtain ⟨mem, top⟩ := ih y fun a ha b hb =>
          connected a (List.mem_cons_of_mem _ ha) b (List.mem_cons_of_mem _ hb)
        refine ⟨List.mem_cons_of_mem _ mem, fun a ha => ?_⟩
        rcases List.mem_cons.mp ha with rfl | ha
        · rw [Bool.eq_false_iff]
          intro smaller
          exact Bool.false_ne_true ((top y List.mem_cons_self).symm.trans (trans _ _ _ smaller larger))
        · exact top a ha
      · rw [if_neg larger]
        have kept : ∀ a ∈ best :: ys, a ∈ best :: y :: ys := by
          intro a ha
          rcases List.mem_cons.mp ha with rfl | ha
          · exact List.mem_cons_self
          · exact List.mem_cons_of_mem _ (List.mem_cons_of_mem _ ha)
        obtain ⟨mem, top⟩ := ih best fun a ha b hb => connected a (kept a ha) b (kept b hb)
        refine ⟨kept _ mem, fun a ha => ?_⟩
        rcases List.mem_cons.mp ha with rfl | ha
        · exact top a List.mem_cons_self
        rcases List.mem_cons.mp ha with rfl | ha
        · rw [Bool.eq_false_iff]
          intro smaller
          by_cases below : less a best
          · exact Bool.false_ne_true
              ((top best List.mem_cons_self).symm.trans (trans _ _ _ smaller below))
          · have same := connected best List.mem_cons_self a (by simp) (Bool.eq_false_iff.mpr larger)
              (Bool.eq_false_iff.mpr below)
            rw [← same, top best List.mem_cons_self] at smaller
            exact Bool.false_ne_true smaller
        · exact top a (List.mem_cons_of_mem _ ha)
  cases xs with
  | nil => exact nomatch picked
  | cons x xs =>
    obtain rfl := Option.some.inj picked
    exact fold xs x connected

/-- Where an item is told from every other by the order, `max` picks the same from any
permutation. -/
theorem maxBy_perm {less : α → α → Bool} {xs ys : List α}
    (irrefl : ∀ a, less a a = false) (trans : ∀ a b c, less a b → less b c → less a c)
    (connected : ∀ a ∈ xs, ∀ b ∈ xs, less a b = false → less b a = false → a = b)
    (perm : xs.Perm ys) : maxBy less xs = maxBy less ys := by
  have connected' : ∀ a ∈ ys, ∀ b ∈ ys, less a b = false → less b a = false → a = b :=
    fun a ha b hb => connected a (perm.mem_iff.mpr ha) b (perm.mem_iff.mpr hb)
  cases left : maxBy less xs with
  | none =>
    cases xs with
    | nil =>
      rw [← perm.nil_eq]
      rfl
    | cons x xs => exact nomatch left
  | some top =>
    cases right : maxBy less ys with
    | none =>
      cases ys with
      | nil =>
        rw [perm.eq_nil] at left
        exact nomatch left
      | cons y ys => exact nomatch right
    | some top' =>
      obtain ⟨mem, tops⟩ := maxBy_top irrefl trans connected left
      obtain ⟨mem', tops'⟩ := maxBy_top irrefl trans connected' right
      exact congrArg some (connected top mem top' (perm.mem_iff.mpr mem')
        (tops _ (perm.mem_iff.mpr mem')) (tops' _ (perm.mem_iff.mp mem)))

theorem earlierKey_irrefl (key : Option ℚ × String) : earlierKey key key = false := by
  obtain ⟨time | time, id⟩ := key
  · simp [earlierKey]
  · simp [earlierKey]

theorem earlierKey_trans {a b c : Option ℚ × String} (first : earlierKey a b)
    (second : earlierKey b c) : earlierKey a c := by
  obtain ⟨_ | s, x⟩ := a
  all_goals obtain ⟨_ | t, y⟩ := b
  all_goals obtain ⟨_ | u, z⟩ := c
  all_goals simp only [earlierKey, decide_eq_true_eq, Bool.false_eq_true] at first second ⊢
  · exact String.lt_trans first second
  · rcases first with first | ⟨rfl, first⟩
    · rcases second with second | ⟨rfl, _⟩
      · exact .inl (first.trans second)
      · exact .inl first
    · rcases second with second | ⟨rfl, second⟩
      · exact .inl second
      · exact .inr ⟨rfl, String.lt_trans first second⟩

theorem earlierKey_connected {a b : Option ℚ × String} (first : earlierKey a b = false)
    (second : earlierKey b a = false) : a = b := by
  have texts {x y : String} (left : ¬ x < y) (right : ¬ y < x) : x = y :=
    String.le_antisymm (String.not_lt.mp right) (String.not_lt.mp left)
  obtain ⟨_ | s, x⟩ := a
  all_goals obtain ⟨_ | t, y⟩ := b
  all_goals simp only [earlierKey, decide_eq_false_iff_not, Bool.true_eq_false] at first second
  · rw [texts first second]
  · have times : s = t := le_antisymm (not_lt.mp fun h => second (.inl h))
      (not_lt.mp fun h => first (.inl h))
    subst times
    rw [texts (fun h => first (.inr ⟨rfl, h⟩)) fun h => second (.inr ⟨rfl, h⟩)]

/-! ### What permuted rows come to -/

/-- The rows carry text ids, none of them empty and no two the same. -/
structure DistinctIds (rows : List Dict) : Prop where
  named : ∀ row ∈ rows, ∃ id, row.get "id" = .str id ∧ id ≠ ""
  distinct : (rows.map (·.get "id")).Nodup

variable {rows rows' : List Dict}

theorem DistinctIds.eq_of_key (ids : DistinctIds rows) {row other : Dict} (mem : row ∈ rows)
    (mem' : other ∈ rows) (same : executionKey py now row = executionKey py now other) :
    row = other := by
  obtain ⟨id, named, nonempty⟩ := ids.named row mem
  obtain ⟨id', named', nonempty'⟩ := ids.named other mem'
  have texts := congrArg Prod.snd same
  simp only [executionKey, named, named', Json.orElse', Json.truthy, bne_iff_ne, nonempty, nonempty',
    ne_eq, not_false_eq_true, if_true, Library.str] at texts
  apply List.inj_on_of_nodup_map ids.distinct mem mem'
  rw [named, named', texts]

theorem candidates_perm (perm : rows.Perm rows') :
    (candidates py rows).Perm (candidates py rows') := by
  have running : (runningProcesses py rows).Perm (runningProcesses py rows') := perm.filter _
  unfold candidates
  rw [running.isEmpty_eq]
  split
  · exact perm
  · exact running

theorem currentOf_perm (ids : DistinctIds rows) (perm : rows.Perm rows') :
    currentOf py rows now = currentOf py rows' now := by
  unfold currentOf
  congr 1
  refine maxBy_perm ?_ ?_ ?_ ((candidates_perm perm).map _)
  · exact fun a => earlierKey_irrefl a.1
  · exact fun a b c => earlierKey_trans
  · intro a ha b hb first second
    obtain ⟨row, mem, rfl⟩ := List.mem_map.mp ha
    obtain ⟨other, mem', rfl⟩ := List.mem_map.mp hb
    have same := earlierKey_connected first second
    rw [ids.eq_of_key (candidates_subset _ mem) (candidates_subset _ mem') same]

theorem totalBytes_perm (perm : rows.Perm rows') : totalBytes rows = totalBytes rows' := by
  have commutes : RightCommutative addBytes := by
    constructor
    intro total a b
    cases a with
    | none => rfl
    | some a => cases b with
      | none => rfl
      | some b => simp [addBytes, Nat.add_right_comm]
  exact (perm.map bytesOf).foldl_eq none

theorem latest_perm {moments moments' : List Time} (perm : moments.Perm moments') :
    maxBy (fun a b => decide (a < b)) moments = maxBy (fun a b => decide (a < b)) moments' := by
  apply maxBy_perm (by simp) _ _ perm
  · intro a b c first second
    simp only [decide_eq_true_eq] at first second ⊢
    exact first.trans second
  · intro a _ b _ first second
    simp only [decide_eq_false_iff_not, not_lt] at first second
    exact le_antisymm second first

theorem evidence_perm {previousOutputBytes : Option ℕ} {reading : Reading} {moments : List Time}
    (rows : reading.rows.Perm rows') (stamps : reading.moments.Perm moments) :
    reading.evidence py previousOutputBytes =
      { reading with rows := rows', moments := moments }.evidence py previousOutputBytes := by
  have alive : (runningProcesses py reading.rows).isEmpty = (runningProcesses py rows').isEmpty :=
    (rows.filter _).isEmpty_eq
  have turns := ((rows.filter fun p => (p.get "run_reason").isText "codingagent")).length_eq
  simp only [Reading.evidence, alive, turns, latest_perm (stamps.append_right _)]

/-! ### The verdict -/

def ExecutorAnswers.listing (answers : ExecutorAnswers) (items : List Json) : ExecutorAnswers :=
  { answers with processes := some (.arr items) }

/-- `classify` of `gather_evidence`. -/
def verdict (py : Library) (answers : ExecutorAnswers) (now : Time) (checkpointAt : Option Time)
    (previousOutputBytes : Option ℕ) (policy : DetectionPolicy) : Answer Classification :=
  (evidenceFrom py answers now checkpointAt previousOutputBytes).map (classify · now policy)

variable {answers : ExecutorAnswers} {items items' : List Json}

theorem eligibleRows_perm (same : (items.filter eligibleItem).Perm (items'.filter eligibleItem)) :
    (eligibleRows (answers.listing items).processes).Perm
      (eligibleRows (answers.listing items').processes) := same.filterMap _

theorem snapshotRead_perm (same : (items.filter eligibleItem).Perm (items'.filter eligibleItem))
    (ids : DistinctIds (eligibleRows (answers.listing items).processes)) :
    snapshotRead py (answers.listing items) now = snapshotRead py (answers.listing items') now := by
  unfold snapshotRead
  rw [currentOf_perm ids (eligibleRows_perm same)]
  rfl

/-- The evidence is the same for every order of the eligible rows. -/
theorem evidenceFrom_perm {checkpointAt : Option Time} {previousOutputBytes : Option ℕ}
    (same : (items.filter eligibleItem).Perm (items'.filter eligibleItem))
    (ids : DistinctIds (eligibleRows (answers.listing items).processes)) :
    evidenceFrom py (answers.listing items) now checkpointAt previousOutputBytes =
      evidenceFrom py (answers.listing items') now checkpointAt previousOutputBytes := by
  have rows : (eligibleRows (answers.listing items).processes).Perm
      (eligibleRows (answers.listing items').processes) := eligibleRows_perm same
  have snapshot : snapshotRead py (answers.listing items) now =
      snapshotRead py (answers.listing items') now := snapshotRead_perm same ids
  have queue (snapshot : Option Dict) : queueRead (answers.listing items) snapshot =
      queueRead (answers.listing items') snapshot := rfl
  have raises : gatheringRaises py (answers.listing items) now =
      gatheringRaises py (answers.listing items') now := by
    unfold gatheringRaises
    rw [rows.any_eq, snapshot, queue]
  have stamps := (rows.filterMap (stampOf py · now)).append_right
    (checkpointMoment now checkpointAt).toList
  have evidence : evidenceOf py (answers.listing items) now checkpointAt previousOutputBytes =
      evidenceOf py (answers.listing items') now checkpointAt previousOutputBytes := by
    unfold evidenceOf
    rw [rows.isEmpty_eq]
    split
    · rfl
    · have permuted : (readingOf py (answers.listing items) now checkpointAt).evidence py
          previousOutputBytes = _ := evidence_perm rows stamps
      rw [permuted]
      simp only [readingOf, totalBytes_perm rows, currentOf_perm ids rows, snapshot, queue]
  rw [evidenceFrom_eq, evidenceFrom_eq, raises, evidence]

theorem live_earlier {evidence : ProgressEvidence} {policy : DetectionPolicy} {earlier : Time}
    (before : earlier ≤ now) (live : classify evidence now policy = .live) :
    classify evidence earlier policy = .live := by
  unfold classify ProgressEvidence.silentFor at live ⊢
  by_cases lost : evidence.lostReason.any (· ≠ "") && !evidence.processAlive
  · rw [if_pos lost] at live
    exact nomatch live
  rw [if_neg lost] at live ⊢
  by_cases parked : evidence.parked
  · rw [if_pos parked] at live
    exact nomatch live
  rw [if_neg parked] at live ⊢
  by_cases growing : evidence.outputGrowing
  · rw [if_pos growing]
  rw [if_neg growing] at live ⊢
  cases activity : evidence.lastActivityAt with
  | none =>
    rw [activity] at live
    exact nomatch live
  | some last =>
    rw [activity] at live
    simp only [Option.map_some] at live ⊢
    have shorter : max 0 (earlier - last) ≤ max 0 (now - last) :=
      max_le_max le_rfl (sub_le_sub_right before last)
    by_cases ended : evidence.turnEnded && !evidence.lifecycleCalled && !evidence.queuedMail
    · rw [if_pos ended] at live ⊢
      by_cases recent : max 0 (now - last) < idleUnreportedGrace
      · rw [if_pos (shorter.trans_lt recent)]
      · rw [if_neg recent] at live
        split at live
        · exact nomatch live
        · exact nomatch live
    · rw [if_neg ended] at live ⊢
      by_cases recent : max 0 (now - last) < policy.progressTimeout
      · rw [if_pos (shorter.trans_lt recent)]
      · rw [if_neg recent] at live
        split at live
        · exact nomatch live
        · split at live
          · exact nomatch live
          · exact nomatch live

/-- The negative verdicts are spoken of sessions that were observed. -/
theorem observed_of_silent {evidence : ProgressEvidence} {policy : DetectionPolicy}
    (silent : classify evidence now policy ∈
      [Classification.idleUnreported, .limbo, .stalled]) : evidence.observed = true := by
  by_contra unseen
  have unseen := Bool.eq_false_iff.mpr unseen
  have spoken : classify evidence now policy ∈
      [Classification.lost, .parked, .live, .unknown] := by
    unfold classify
    simp only [unseen, Bool.not_false, Bool.true_or, if_true, Bool.false_eq_true, if_false]
    repeat' split
    all_goals simp
  revert silent spoken
  cases classify evidence now policy <;> decide

/-- Only the rows of the executor make a session observed. -/
theorem rows_of_observed {checkpointAt : Option Time} {previousOutputBytes : Option ℕ}
    (observed : (evidenceOf py answers now checkpointAt previousOutputBytes).observed = true) :
    eligibleRows answers.processes ≠ [] := by
  intro none_
  rw [evidenceOf, none_] at observed
  cases observed

/-- For all answers of the executor: the verdict is unchanged when the list of rows is permuted and
when rows that do not count are added or removed; a silent session is reported only where there is a
row that counts; and a session that is live at a time was so before. -/
theorem verdict_order_free (py : Library) (answers : ExecutorAnswers) (now : Time)
    (checkpointAt : Option Time) (previousOutputBytes : Option ℕ) (policy : DetectionPolicy) :
    (∀ items items' : List Json, (items.filter eligibleItem).Perm (items'.filter eligibleItem) →
      DistinctIds (eligibleRows (some (.arr items))) →
      verdict py (answers.listing items) now checkpointAt previousOutputBytes policy =
        verdict py (answers.listing items') now checkpointAt previousOutputBytes policy) ∧
    (∀ spoken ∈ [Classification.idleUnreported, .limbo, .stalled],
      verdict py answers now checkpointAt previousOutputBytes policy = .ok spoken →
        eligibleRows answers.processes ≠ []) ∧
    ∀ (evidence : ProgressEvidence) (earlier : Time), earlier ≤ now →
      classify evidence now policy = .live → classify evidence earlier policy = .live := by
  refine ⟨?_, ?_, fun evidence earlier => live_earlier⟩
  · intro items items' same ids
    rw [verdict, verdict, evidenceFrom_perm same ids]
  · intro spoken silent said
    rw [verdict, evidenceFrom_eq] at said
    by_cases raises : gatheringRaises py answers now
    · rw [raises] at said
      exact nomatch said
    · rw [Bool.eq_false_iff.mpr raises] at said
      obtain rfl := Except.ok.inj said
      exact rows_of_observed (observed_of_silent silent)

def scriptedRow (id : String) (updatedAt : Time) (more : Dict) : Dict :=
  [("id", .str id), ("updated_at", .num (.finite updatedAt))] ++ more

def scriptedPolicy : DetectionPolicy := ⟨1500, none, none⟩

def rowsOnly : ExecutorAnswers := ⟨none, fun _ => none, none⟩

def finishedRows : List Json := [.obj (scriptedRow "a" 100 []), .obj (scriptedRow "b" 100 [])]

def shuffledRows : List Json :=
  [.obj (scriptedRow "b" 100 []), .null, .obj (scriptedRow "c" 4000 [("dropped", .bool true)]),
    .obj (scriptedRow "a" 100 [])]

theorem shuffled_rows_stalled :
    (verdict asciiLibrary (rowsOnly.listing shuffledRows) 5000 none none scriptedPolicy).toOption =
      some .stalled := by
  have ids : DistinctIds (eligibleRows (some (.arr finishedRows))) := by
    have rows : eligibleRows (some (.arr finishedRows)) =
        [scriptedRow "a" 100 [], scriptedRow "b" 100 []] := rfl
    rw [rows]
    constructor
    · intro row mem
      simp only [List.mem_cons, List.not_mem_nil, or_false] at mem
      rcases mem with rfl | rfl
      · exact ⟨"a", rfl, by decide⟩
      · exact ⟨"b", rfl, by decide⟩
    · simp [scriptedRow, Dict.get]
  have alike := (verdict_order_free asciiLibrary rowsOnly 5000 none none scriptedPolicy).1
    finishedRows shuffledRows (.swap _ _ []) ids
  rw [← alike]
  decide +kernel

end SightMesh
