import SightMesh.Fleet.Attention
import SightMesh.Properties.Budget
import SightMesh.Properties.Holders

/-! What an operator reads of the kernel, and what the kernel does when the advice is followed. -/
namespace SightMesh

open Concurrency Database Fleet Python

variable {α β γ : Type} {py : Library} {x : Executor γ} {db : Store} {row : TaskRow}

/-! ### The rows -/

def TaskRow.Answerable (row : TaskRow) : Prop :=
  row.taskId = taskIdOf row.scope row.key ∧ (row.state = .lost → row.attempts < row.maxAttempts)

def Store.Answerable (db : Store) : Prop := ∀ row ∈ db.tasks.rows, row.Answerable

theorem Lifecycle.finished_lost {l : Lifecycle} {maxAttempts : ℕ} {state : TaskState}
    {result : Option String} {charge : Bool}
    (lost : (l.finished maxAttempts state result charge).state = .lost) :
    (l.finished maxAttempts state result charge).attempts < maxAttempts := by
  unfold Lifecycle.finished at lost ⊢
  split at lost
  · rename_i charged
    split at lost
    · exact TaskState.noConfusion lost
    · rename_i more
      rw [if_pos charged, if_neg more]
      exact not_le.mp more
  · rename_i uncharged
    split at lost
    · exact TaskState.noConfusion lost
    · exact absurd (.inl lost) uncharged

theorem ne_lost_of_live {state : TaskState} (live : state ∈ liveStates) : state ≠ .lost := by
  rintro rfl
  exact absurd live (by decide)

theorem Tx.Assigns.lost {tx : Tx β} {answer : β} {i : Identity} {l l' : Lifecycle}
    (assigned : tx.Assigns i l l' answer) (lost : l'.state = .lost) :
    l'.attempts < i.maxAttempts := by
  cases tx with
  | activate =>
    rcases answer with _ | _
    · exact assigned.elim
    obtain ⟨_, _, rfl⟩ := assigned
    exact TaskState.noConfusion lost
  | prepareReplacement =>
    rcases answer with _ | _
    · exact assigned.elim
    obtain ⟨_, _, _, _, rfl⟩ := assigned
    exact TaskState.noConfusion lost
  | resumeReplacement =>
    rcases answer with _ | _
    · exact assigned.elim
    obtain ⟨_, replacing, _, rfl⟩ := assigned
    exact TaskState.noConfusion (replacing.symm.trans lost)
  | reissue =>
    rcases answer with _ | _
    · exact assigned.elim
    obtain ⟨_, _, _, rfl⟩ := assigned
    exact TaskState.noConfusion lost
  | checkpointRow | checkpointOccurrence =>
    rcases answer with _ | _
    · exact assigned.elim
    obtain ⟨_, live, _, rfl⟩ := assigned
    exact absurd lost (ne_lost_of_live live)
  | finish | finishExpired | recordLoss =>
    rcases answer with _ | _
    · exact assigned.elim
    obtain ⟨_, _, rfl⟩ := assigned
    exact Lifecycle.finished_lost lost
  | _ => exact assigned.elim

theorem answerable_after (tx : Tx β) (answerable : db.Answerable) :
    (tx.exec db).1.Answerable := by
  intro next mem
  obtain ⟨row, before, step⟩ | ⟨_, inserted⟩ := tx.task_after (Table.get_of_mem mem)
  · obtain ⟨named, affordable⟩ := answerable row (Table.mem_of_get before)
    have taskId : next.taskId = row.taskId := congrArg Identity.taskId step.identity
    have scope : next.scope = row.scope := congrArg Identity.scope step.identity
    have key : next.key = row.key := congrArg Identity.key step.identity
    have limit : next.maxAttempts = row.maxAttempts :=
      congrArg Identity.maxAttempts step.identity
    refine ⟨by rw [taskId, scope, key, named], fun lost => ?_⟩
    rw [limit]
    obtain same | ⟨l, assigned, moved⟩ := step.lifecycle
    · have attempts : next.attempts = row.attempts := congrArg Lifecycle.attempts same
      have state : next.state = row.state := congrArg Lifecycle.state same
      rw [attempts]
      exact affordable (state ▸ lost)
    · have attempts : next.attempts = l.attempts := by rw [moved]
      have state : next.state = l.state := by rw [moved]
      rw [attempts]
      exact assigned.lost (state ▸ lost)
  · cases tx with
    | reserveAll =>
      obtain ⟨_, _, rfl⟩ := inserted
      exact ⟨rfl, fun lost => TaskState.noConfusion lost⟩
    | _ => exact inserted.elim

theorem reachable_answerable {w : KernelWorld γ}
    (reached : Reachable (kernel py x) anyEvent w) : w.shared.store.Answerable :=
  run_invariant (fun s => s.store.Answerable) (fun _ _ _ mem => absurd mem List.not_mem_nil)
    (fun {_ _ _ tx} _ _ _ answerable => answerable_after tx answerable)
    (fun _ _ answerable => answerable) reached

theorem Store.Answerable.eq {other : TaskRow} (answerable : db.Answerable)
    (mem : row ∈ db.tasks.rows) (mem' : other ∈ db.tasks.rows) (scope : other.scope = row.scope)
    (key : other.key = row.key) : other = row := by
  have same : other.taskId = row.taskId := by
    rw [(answerable row mem).1, (answerable other mem').1, scope, key]
  exact List.inj_on_of_nodup_map db.tasks.unique mem' mem same

/-! ### Following the advice -/

def Store.HeldElsewhere (db : Store) (row : TaskRow) : Prop :=
  ∃ other ∈ db.tasks.rows, ∃ sessionId, other.taskId ≠ row.taskId ∧
    row.holderSessionId = some sessionId ∧ other.Holds sessionId

/-- A row can be replaced, and by what. -/
def Store.Replaceable (db : Store) (row : TaskRow) (target : Option Target) (charge : Bool)
    (now : Time) : Prop :=
  ∃ record, ((Tx.prepareReplacement row.toTaskRecord target charge now).exec db).2 = .ok record

theorem prepareReplacement_spent (mem : row ∈ db.tasks.rows)
    (spent : row.maxAttempts ≤ row.attempts) (target : Option Target) (charge : Bool) (now : Time) :
    ((Tx.prepareReplacement row.toTaskRecord target charge now).exec db).2 =
      .error (.taskStore (circuitBreaker row)) := by
  have known : db.task row.taskId = some row := Table.get_of_mem mem
  have raised : prepareReplacement row.taskId target charge (some row.version) now db =
      .error (.taskStore (circuitBreaker row)) := by
    unfold prepareReplacement wrapping
    simp only [get_bind_run, known, ge_iff_le, if_pos spent, throw_bind_run]
  simp only [Tx.exec, atomically, raised]

theorem holderTaken_replaced (target : Option Target) (charge : Bool) (now : Time) :
    db.holderTaken (row.moved (Lifecycle.replaced target charge) (fun _ => .fresh) now) = true ↔
      db.HeldElsewhere row := by
  have open_ : TaskState.replacing ∈ holderStates := by decide
  simp only [Store.holderTaken, TaskRow.moved, Lifecycle.replaced, Bool.and_eq_true,
    decide_eq_true_eq, List.any_eq_true, Store.HeldElsewhere, TaskRow.Holds, open_, true_and]
  constructor
  · rintro ⟨held, other, mem, ⟨apart, holds⟩, same⟩
    obtain ⟨sessionId, session⟩ := Option.isSome_iff_exists.mp held
    exact ⟨other, mem, sessionId, of_decide_eq_true apart, session, holds,
      (of_decide_eq_true same).trans session⟩
  · rintro ⟨other, mem, sessionId, apart, session, holds, held⟩
    exact ⟨by rw [session]; rfl, other, mem, ⟨decide_eq_true apart, holds⟩,
      decide_eq_true (held.trans session.symm)⟩

theorem replaceable_iff (mem : row ∈ db.tasks.rows) (before : row.state ∈ replacePredecessors)
    (left : row.attempts < row.maxAttempts) (target : Option Target) (charge : Bool) (now : Time) :
    db.Replaceable row target charge now ↔ ¬ db.HeldElsewhere row := by
  have known : db.task row.taskId = some row := Table.get_of_mem mem
  rw [← holderTaken_replaced target charge now, Bool.not_eq_true]
  constructor
  · rintro ⟨record, answered⟩
    have ran := atomically_answer answered
    obtain ⟨_, _, _, moved⟩ := prepareReplacement_ok ran
    obtain ⟨row', found, _, _, free, _⟩ := transition_ok.mp moved
    cases Option.some.inj (known.symm.trans found)
    exact free
  · intro free
    have moved (attempted : String) : ∃ r, transition row.taskId replacePredecessors
        (some row.version) (Lifecycle.replaced target charge) (fun _ => .fresh) attempted now db =
          .ok r :=
      ⟨_, transition_ok.mpr ⟨row, known, before, .inr rfl, free, rfl⟩⟩
    have ran : ∃ r, prepareReplacement row.taskId target charge (some row.version) now db =
        .ok r := by
      unfold prepareReplacement
      simp only [wrapping_ok, get_bind_run, known, ge_iff_le, if_neg (not_le.mpr left)]
      exact moved "replacing"
    obtain ⟨r, ran⟩ := ran
    exact ⟨r.1, congrArg Prod.snd (atomically_ok ran)⟩

/-- What a task is said to need, and what a replacement of it then meets. -/
def Store.Advised (db : Store) (row : TaskRow) : Option AttentionKind → Prop
  | some .trippedBreaker => ∀ target charge now,
    ((Tx.prepareReplacement row.toTaskRecord target charge now).exec db).2 =
      .error (.taskStore (circuitBreaker row))
  | some .lost => ∀ target charge now,
    db.Replaceable row target charge now ↔ ¬ db.HeldElsewhere row
  | some _ => ∀ target charge now, db.Replaceable row target charge now
  | none => row.state ∈ taskRunningStates ∧ row.attempts < row.maxAttempts ∨
    row.state ∈ closedStates

theorem breakerTripped_view : (view row).breakerTripped = true ↔
    row.state ∉ [TaskState.completed, .cancelled, .lost] ∧ row.maxAttempts ≤ row.attempts := by
  unfold TaskView.breakerTripped
  have ended : (view row).state = row.state := rfl
  have attempts : (view row).attempts = row.attempts := rfl
  have limit : (view row).maxAttempts = row.maxAttempts := rfl
  rw [ended, attempts, limit]
  cases row.state <;> simp [taskDoneStates]

theorem HoldersApart.blocked (apart : db.HoldersApart) (mem : row ∈ db.tasks.rows)
    (blocked : row.state = .blocked) : ¬ db.HeldElsewhere row := by
  rintro ⟨other, mem', sessionId, other_, session, holds⟩
  have held : row.Holds sessionId := ⟨blocked ▸ by decide, session⟩
  exact other_ (apart _ _ other row sessionId (Table.get_of_mem mem') (Table.get_of_mem mem)
    holds held)

theorem advised (casefold : String → String) (apart : db.HoldersApart)
    (answerable : db.Answerable) (mem : row ∈ db.tasks.rows) :
    db.Advised row ((view row).attentionKind casefold) := by
  have state : (view row).state = row.state := rfl
  unfold TaskView.attentionKind
  by_cases tripped : (view row).breakerTripped = true
  · rw [if_pos tripped]
    exact prepareReplacement_spent mem (breakerTripped_view.mp tripped).2
  · rw [if_neg tripped, state]
    have spared (other : row.state ∉ [TaskState.completed, .cancelled, .lost]) :
        row.attempts < row.maxAttempts :=
      not_le.mp fun spent => tripped (breakerTripped_view.mpr ⟨other, spent⟩)
    cases here : row.state with
    | blocked =>
      have left : row.attempts < row.maxAttempts := spared (by simp [here])
      have free := HoldersApart.blocked apart mem here
      have accepted (target : Option Target) (charge : Bool) (now : Time) :
          db.Replaceable row target charge now :=
        (replaceable_iff mem (here ▸ by decide) left target charge now).mpr free
      dsimp only
      split
      · exact accepted
      · exact accepted
    | lost =>
      exact replaceable_iff mem (here ▸ by decide) ((answerable row mem).2 here)
    | reserved | active | replacing =>
      exact .inl ⟨here ▸ by decide, spared (by simp [here])⟩
    | completed | cancelled | exhausted => exact .inr (here ▸ by decide)

/-! ### Reading -/

theorem readTasks_every (db : Store) : Fleet.readTasks db none none =
    .ok ((db.tasks.rows.insertionSort fun a b => a.createdAt ≤ b.createdAt).map view) := by
  simp [Fleet.readTasks, pure, Except.pure]

theorem readTasks_newest (db : Store) (n : ℕ) : Fleet.readTasks db none (some (n + 1)) =
    .ok ((newest (n + 1) recency db.tasks.rows).map view) := by
  simp [Fleet.readTasks, pure, Except.pure]

/-- The rows that are shown, and those that the bound hides. -/
theorem boundedTasks_ok {all : Bool} {limit : ℤ} {views : List TaskView} {truncated : Bool}
    (ran : boundedTasks db all limit = .ok (views, truncated)) :
    ∃ hidden shown, db.tasks.rows.Perm (hidden ++ shown) ∧ views = shown.map view ∧
      (truncated = true ↔ hidden ≠ []) ∧ (all = false → (shown.length : ℤ) ≤ limit) ∧
      ∀ old ∈ hidden, ∀ new ∈ shown, recency old ≤ recency new := by
  cases all with
  | true =>
    have every : boundedTasks db true limit =
        (do return (← Fleet.readTasks db none none, false)) := rfl
    rw [every, readTasks_every] at ran
    obtain ⟨rfl, rfl⟩ := Prod.mk.inj (Except.ok.inj ran)
    exact ⟨[], _, (List.perm_insertionSort _ _).symm, rfl, by simp, by simp, by simp⟩
  | false =>
    by_cases refused : limit < 1
    · have raised : boundedTasks db false limit = .error "--limit must be at least 1" := by
        simp [boundedTasks, taskLimit, refused, bind, Except.bind]
        rfl
      rw [raised] at ran
      exact absurd ran (by simp)
    · obtain ⟨n, rfl⟩ := Int.eq_ofNat_of_zero_le (by omega : 0 ≤ limit)
      obtain ⟨hidden, perm, some_, newer⟩ := newest_one_more n recency db.tasks.rows rfl
      have read : boundedTasks db false n =
          .ok (((newest (n + 1) recency db.tasks.rows).drop
            ((newest (n + 1) recency db.tasks.rows).length - n)).map view,
            decide (n < (newest (n + 1) recency db.tasks.rows).length)) := by
        have bounded : boundedTasks db false n = (do
            let views ← Fleet.readTasks db none (some (n + 1))
            if n < views.length then return (views.drop (views.length - n), true)
            else return (views, false)) := by
          simp only [boundedTasks, taskLimit, refused]
          rfl
        rw [bounded, readTasks_newest]
        show (if n < (List.map view _).length then _ else _) = _
        rw [List.length_map]
        split
        · rename_i more
          rw [List.map_drop, decide_eq_true more]
          rfl
        · rename_i few
          rw [List.map_drop, decide_eq_false few, Nat.sub_eq_zero_of_le (not_lt.mp few)]
          rfl
      rw [read] at ran
      obtain ⟨rfl, rfl⟩ := Prod.mk.inj (Except.ok.inj ran)
      refine ⟨hidden, _, perm, rfl, ?_, fun _ => ?_, newer⟩
      · rw [decide_eq_true_eq]
        exact some_.symm
      · rw [List.length_drop]
        have := (newest_split (n + 1) recency db.tasks.rows).2.1
        omega

/-! ### The queue -/

variable {casefold : String → String} {now : ℤ}

/-- An item about a task is told by its scope and its key. -/
def Fleet.AttentionItem.About (item : AttentionItem) (row : TaskRow) : Prop :=
  item.kind ∈ taskKinds ∧ item.scope = present (some row.scope) ∧
    item.taskKey = present (some row.key)

instance (item : AttentionItem) (row : TaskRow) : Decidable (item.About row) :=
  inferInstanceAs (Decidable (_ ∧ _ ∧ _))

theorem attention_sorted (facts : AttentionFacts) :
    (attention casefold now facts).items.Pairwise fun a b => a.order ≤ b.order := by
  have : Std.Total fun a b : AttentionItem => a.order ≤ b.order :=
    ⟨fun a b => le_total a.order b.order⟩
  have : IsTrans AttentionItem fun a b => a.order ≤ b.order :=
    ⟨fun _ _ _ first second => first.trans second⟩
  exact List.pairwise_insertionSort _ _

/-- The items of the tasks, and those of no task. -/
theorem attention_items (casefold : String → String) (now : ℤ) (facts : AttentionFacts) :
    ∃ others : List AttentionItem, (∀ item ∈ others, item.kind ∉ taskKinds) ∧
      (attention casefold now facts).items.Perm
        (facts.tasks.filterMap (taskAttentionItem casefold now) ++ others) := by
  refine ⟨facts.unacked.map (deliveryAttentionItem now) ++
      (facts.dirtyCloseouts.getD []).map (nativeAttentionItem now .dirtyCloseout) ++
      (facts.failingChecks.getD []).map (nativeAttentionItem now .failingCheck), ?_, ?_⟩
  · intro item mem
    rcases List.mem_append.mp mem with mem | mem
    · rcases List.mem_append.mp mem with mem | mem
      · obtain ⟨row, _, rfl⟩ := List.mem_map.mp mem
        simp only [deliveryAttentionItem]
        split <;> decide
      · obtain ⟨row, _, rfl⟩ := List.mem_map.mp mem
        exact (by decide : AttentionKind.dirtyCloseout ∉ taskKinds)
    · obtain ⟨row, _, rfl⟩ := List.mem_map.mp mem
      exact (by decide : AttentionKind.failingCheck ∉ taskKinds)
  · refine (List.perm_insertionSort _ _).trans (List.Perm.of_eq ?_)
    simp only [List.append_assoc]

theorem taskAttentionItem_kind {task : TaskView} {item : AttentionItem}
    (told : taskAttentionItem casefold now task = some item) :
    task.attentionKind casefold = some item.kind ∧ item.kind ∈ taskKinds := by
  obtain ⟨kind, known, rfl⟩ := Option.map_eq_some_iff.mp told
  refine ⟨known, ?_⟩
  show kind ∈ taskKinds
  unfold TaskView.attentionKind at known
  split at known
  · cases known
    decide
  · split at known
    · split at known
      · cases known
        decide
      · cases known
        decide
    · cases known
      decide
    · exact absurd known (by simp)

theorem present_some_inj {text text' : String} (same : present (some text) = present (some text')) :
    text = text' := by
  simp only [present, Option.filter] at same
  grind

/-- Of what the members of a list are sent to, only what one of them is sent to passes. -/
theorem filter_filterMap_own {l : List α} {a : α} {f : α → Option β} {p : β → Bool}
    (nodup : l.Nodup) (mem : a ∈ l) (own : ∀ c, f a = some c → p c = true)
    (others : ∀ b ∈ l, ∀ c, f b = some c → p c = true → b = a) :
    (l.filterMap f).filter p = (f a).toList := by
  rw [List.filter_filterMap]
  induction l with
  | nil => exact absurd mem List.not_mem_nil
  | cons b l ih =>
    obtain ⟨fresh, nodup⟩ := List.nodup_cons.mp nodup
    by_cases same : b = a
    · subst same
      have none_ : l.filterMap (fun x => (f x).filter p) = [] := by
        rw [List.filterMap_eq_nil_iff]
        intro x listed
        rw [Option.filter_eq_none_iff]
        intro c sent passed
        exact fresh (others x (List.mem_cons_of_mem _ listed) c sent passed ▸ listed)
      cases sent : f b with
      | none => simp [sent, none_]
      | some c =>
        have passes : (some c).filter p = some c := by simp [Option.filter, own c sent]
        simp [sent, none_, passes]
    · have blocked : (f b).filter p = none := by
        rw [Option.filter_eq_none_iff]
        exact fun c sent passed => same (others b List.mem_cons_self c sent passed)
      rw [List.filterMap_cons, blocked]
      exact ih nodup (List.mem_of_ne_of_mem (Ne.symm same) mem)
        fun x listed => others x (List.mem_cons_of_mem _ listed)

theorem taskAttentionItem_about {item : AttentionItem}
    (told : taskAttentionItem casefold now (view row) = some item) (other : TaskRow) :
    item.About other ↔ row.scope = other.scope ∧ row.key = other.key := by
  have kind := (taskAttentionItem_kind told).2
  obtain ⟨_, _, rfl⟩ := Option.map_eq_some_iff.mp told
  constructor
  · rintro ⟨_, scope, key⟩
    exact ⟨present_some_inj scope, present_some_inj key⟩
  · rintro ⟨scope, key⟩
    exact ⟨kind, congrArg (fun text => present (some text)) scope,
      congrArg (fun text => present (some text)) key⟩

/-- Of rows with a name each, the items about one are that of its own view. -/
theorem items_about {rows : List TaskRow} {facts : AttentionFacts}
    (views : facts.tasks = rows.map view) (nodup : rows.Nodup) (mem : row ∈ rows)
    (named : ∀ other ∈ rows, other.scope = row.scope → other.key = row.key → other = row) :
    ((attention casefold now facts).items.filter (·.About row)).map (·.kind) =
      ((view row).attentionKind casefold).toList := by
  obtain ⟨others, apart, perm⟩ := attention_items casefold now facts
  have none_ : others.filter (·.About row) = [] := by
    rw [List.filter_eq_nil_iff]
    exact fun item mem about => apart item mem (of_decide_eq_true about).1
  have own : (facts.tasks.filterMap (taskAttentionItem casefold now)).filter (·.About row) =
      (taskAttentionItem casefold now (view row)).toList := by
    rw [views, List.filterMap_map]
    apply filter_filterMap_own nodup mem
    · intro item told
      exact decide_eq_true ((taskAttentionItem_about told row).mpr ⟨rfl, rfl⟩)
    · intro other listed item told about
      obtain ⟨scope, key⟩ := (taskAttentionItem_about told row).mp (of_decide_eq_true about)
      exact named other listed scope key
  have kinds := ((perm.filter (·.About row)).map (·.kind))
  rw [List.filter_append, none_, List.append_nil, own] at kinds
  have kind : (taskAttentionItem casefold now (view row)).toList.map (·.kind) =
      ((view row).attentionKind casefold).toList := by
    cases told : taskAttentionItem casefold now (view row) with
    | none =>
      rw [Option.map_eq_none_iff.mp told]
      rfl
    | some item =>
      rw [(taskAttentionItem_kind told).1]
      rfl
  rw [kind] at kinds
  cases known : (view row).attentionKind casefold with
  | none =>
    rw [known] at kinds
    exact List.perm_nil.mp kinds
  | some kind =>
    rw [known] at kinds
    exact List.perm_singleton.mp kinds

/-- Both surfaces count the same breakers. -/
theorem breakers_counted (facts : AttentionFacts) : (taskCounts facts.tasks).2 =
    (attention casefold now facts).items.countP (·.kind = .trippedBreaker) := by
  obtain ⟨others, apart, perm⟩ := attention_items casefold now facts
  have none_ : others.countP (·.kind = .trippedBreaker) = 0 := by
    rw [List.countP_eq_zero]
    intro item mem tripped
    exact apart item mem (of_decide_eq_true tripped ▸ by decide)
  rw [perm.countP_eq, List.countP_append, none_, List.countP_filterMap]
  refine List.countP_congr fun task _ => ?_
  unfold taskAttentionItem TaskView.attentionKind
  by_cases tripped : task.breakerTripped = true
  · simp [tripped]
  · rw [if_neg tripped]
    cases task.state with
    | blocked =>
      dsimp only
      split <;> simp [tripped]
    | _ => simp [tripped]

/-- What an operator reads of the tasks in a queue, and is told to do about them. -/
structure Store.Answered (db : Store) (casefold : String → String) (all : Bool) (limit : ℤ)
    (views : List TaskView) (truncated : Bool) (queue : AttentionQueue) : Prop where
  /-- No two open tasks hold one session. -/
  apart : db.HoldersApart
  bounded : all = false → views.length ≤ limit
  noted : truncated = true ↔ ∃ row ∈ db.tasks.rows, view row ∉ views
  newest : ∀ row ∈ db.tasks.rows, view row ∉ views → ∀ other ∈ db.tasks.rows,
    view other ∈ views → recency row ≤ recency other
  ordered : queue.items.Pairwise fun a b => a.order ≤ b.order
  once : ∀ row ∈ db.tasks.rows, view row ∈ views →
    (queue.items.filter (·.About row)).map (·.kind) = ((view row).attentionKind casefold).toList
  advised : ∀ row ∈ db.tasks.rows, db.Advised row ((view row).attentionKind casefold)
  counted : (taskCounts views).2 = queue.items.countP (·.kind = .trippedBreaker)
  selected : ∀ row ∈ db.tasks.rows, ∀ other ∈ db.tasks.rows, row.scope ≠ "" → other.scope ≠ "" →
    taskSelector (present (some row.scope)) (present (some row.key)) =
      taskSelector (present (some other.scope)) (present (some other.key)) → other = row

theorem taskSelector_inj {other : TaskRow} (told : row.scope ≠ "") (told' : other.scope ≠ "")
    (same : taskSelector (present (some row.scope)) (present (some row.key)) =
      taskSelector (present (some other.scope)) (present (some other.key))) :
    row.scope = other.scope ∧ row.key = other.key := by
  have getD (key : String) : (present (some key)).getD "" = key := by
    simp only [present, Option.filter]
    split <;> simp_all
  unfold taskSelector at same
  rw [present_of_ne told, present_of_ne told', getD, getD, Option.getD_some,
    Option.getD_some] at same
  have tails : quote row.scope ++ "/" ++ quote row.key =
      quote other.scope ++ "/" ++ quote other.key := by
    simpa only [String.append_assoc, String.append_right_inj] using same
  obtain ⟨scope, key⟩ := quote_slash_inj tails
  exact ⟨scope, quote_inj key⟩

/-- A replacement in flight has spent the last attempt of its task. -/
def spentWorld : ScriptWorld :=
  spentScript.run spentOps (steps 0 60 ++ steps 1 80 ++ steps 2 80 ++ steps 3 80)

end SightMesh
