import SightMesh.Properties.Lifecycle

/-! The effect of an active epoch: the journal keeps the launch a task runs on, as long as the
task is activated with what was launched for its own epoch. -/
namespace SightMesh

open Concurrency Database Python

variable {γ β : Type} {py : Library} {x : Executor γ}

/-! ### What the executor says of launches -/

/-- Two answers about launches agree: one launch has one workspace and one session, and a session
belongs to one launch. -/
structure SameLaunches (a b : (TaskId × ℕ) × Native) : Prop where
  workspace : a.1 = b.1 → a.2.workspaceId ≠ "" → b.2.workspaceId ≠ "" →
    a.2.workspaceId = b.2.workspaceId
  session : a.1 = b.1 → a.2.sessionId ≠ "" → b.2.sessionId ≠ "" → a.2.sessionId = b.2.sessionId
  launch : a.2.sessionId ≠ "" → a.2.sessionId = b.2.sessionId → a.1 = b.1

instance (a b : (TaskId × ℕ) × Native) : Decidable (SameLaunches a b) :=
  decidable_of_iff ((a.1 = b.1 → a.2.workspaceId ≠ "" → b.2.workspaceId ≠ "" →
      a.2.workspaceId = b.2.workspaceId) ∧
    (a.1 = b.1 → a.2.sessionId ≠ "" → b.2.sessionId ≠ "" → a.2.sessionId = b.2.sessionId) ∧
    (a.2.sessionId ≠ "" → a.2.sessionId = b.2.sessionId → a.1 = b.1))
    ⟨fun ⟨workspace, session, launch⟩ => ⟨workspace, session, launch⟩,
      fun h => ⟨h.workspace, h.session, h.launch⟩⟩

theorem SameLaunches.refl (a : (TaskId × ℕ) × Native) : SameLaunches a a :=
  ⟨fun _ _ _ => rfl, fun _ _ _ => rfl, fun _ _ => rfl⟩

theorem SameLaunches.symm {a b : (TaskId × ℕ) × Native} (h : SameLaunches a b) :
    SameLaunches b a where
  workspace key named named' := (h.workspace key.symm named' named).symm
  session key named named' := (h.session key.symm named' named).symm
  launch named same := (h.launch (fun empty => named (same.trans empty)) same.symm).symm

def Named (trace : History) (key : TaskId × ℕ) (workspaceId : WorkspaceId)
    (sessionId : SessionId) : Prop :=
  ∃ e ∈ trace, ∃ a ∈ launchAnswer e, a.1 = key ∧ a.2.workspaceId = workspaceId ∧
    a.2.sessionId = sessionId

theorem Named.mono {trace trace' : History} {key : TaskId × ℕ} {workspaceId : WorkspaceId}
    {sessionId : SessionId} (h : Named trace key workspaceId sessionId)
    (later : trace ⊆ trace') : Named trace' key workspaceId sessionId := by
  obtain ⟨e, mem, named⟩ := h
  exact ⟨e, later mem, named⟩

theorem answeredIds_answer {e : Event Tx Query} {key : TaskId × ℕ} {workspaceId : WorkspaceId}
    {sessionId : SessionId} (named : answeredIds e = some (key, workspaceId, sessionId)) :
    ∃ a ∈ launchAnswer e, a.1 = key ∧ a.2.workspaceId = workspaceId ∧
      a.2.sessionId = sessionId := by
  cases e with
  | commit => cases named
  | call q b =>
    cases q with
    | managedLaunch | managedEffect =>
      rcases b with _ | native
      · cases named
      · simp only [answeredIds, Option.ite_none_right_eq_some, Option.some.injEq, Prod.mk.injEq]
          at named
        obtain ⟨_, rfl, rfl, rfl⟩ := named
        exact ⟨_, rfl, rfl, rfl, rfl⟩
    | _ => cases named

theorem Answered.named {trace : History} {key : TaskId × ℕ} {workspaceId : WorkspaceId}
    {sessionId : SessionId} (h : Answered trace key workspaceId sessionId) :
    Named trace key workspaceId sessionId := by
  obtain ⟨e, mem, named⟩ := h
  exact ⟨e, mem, answeredIds_answer named⟩

def Recorded (trace : History) (key : TaskId × ℕ) (workspaceId : WorkspaceId)
    (sessionId : SessionId) : Prop :=
  ∃ e ∈ trace, journaledIds e = some (key, workspaceId, sessionId)

theorem Recorded.mono {trace trace' : History} {key : TaskId × ℕ} {workspaceId : WorkspaceId}
    {sessionId : SessionId} (h : Recorded trace key workspaceId sessionId)
    (later : trace ⊆ trace') : Recorded trace' key workspaceId sessionId := by
  obtain ⟨e, mem, recorded⟩ := h
  exact ⟨e, later mem, recorded⟩

/-! ### Activations -/

/-- The task a transaction that went through activated, and the ids it stored. -/
def Tx.activated : Tx β → β → Option (TaskId × WorkspaceId × SessionId)
  | .activate _ seen workspaceId sessionId _, .ok _ => some (seen.taskId, workspaceId, sessionId)
  | _, _ => none

theorem Tx.Assigns.active {tx : Tx β} {answer : β} {i : Identity} {l l' : Lifecycle}
    (h : tx.Assigns i l l' answer) (active : l'.state = .active) :
    l'.epoch = l.epoch ∧ (l.state = .active ∧ l'.workspaceId = l.workspaceId ∧
        l'.holderSessionId = l.holderSessionId ∨
      ∃ workspaceId sessionId, tx.activated answer = some (i.taskId, workspaceId, sessionId) ∧
        l'.workspaceId = some workspaceId ∧ l'.holderSessionId = some sessionId) := by
  have unfinished {maxAttempts : ℕ} {state : TaskState} {result : Option String} {charge : Bool}
      (legal : l.Finishable maxAttempts state charge) :
      (l.finished maxAttempts state result charge).state ≠ .active := by
    obtain ⟨⟨predecessors, target, _⟩, _⟩ := legal
    unfold Lifecycle.finished
    split
    · split
      · exact nofun
      · rintro rfl
        exact nomatch target
    · split
      · exact nofun
      · rintro rfl
        exact nomatch target
  cases tx with
  | activate site seen workspaceId sessionId now =>
    rcases answer with _ | _
    · exact h.elim
    obtain ⟨named, _, rfl⟩ := h
    refine ⟨rfl, .inr ⟨workspaceId, sessionId, ?_, rfl, rfl⟩⟩
    rw [named]
    rfl
  | checkpointRow | checkpointOccurrence =>
    rcases answer with _ | _
    · exact h.elim
    obtain ⟨_, _, _, rfl⟩ := h
    exact ⟨rfl, .inl ⟨active, rfl, rfl⟩⟩
  | prepareReplacement =>
    rcases answer with _ | _
    · exact h.elim
    obtain ⟨_, _, _, _, rfl⟩ := h
    exact nomatch active
  | resumeReplacement =>
    rcases answer with _ | _
    · exact h.elim
    obtain ⟨_, state, _, rfl⟩ := h
    exact nomatch state.symm.trans active
  | reissue =>
    rcases answer with _ | _
    · exact h.elim
    obtain ⟨_, _, _, rfl⟩ := h
    exact nomatch active
  | finish | finishExpired | recordLoss =>
    rcases answer with _ | _
    · exact h.elim
    obtain ⟨_, legal, rfl⟩ := h
    exact absurd active (unfinished legal)
  | _ => exact h.elim

theorem activated_journaled {H : Set LockKey} {s : Shared Tx Query Store γ} {tx : Tx β}
    {answer : β} {t : TaskId} {workspaceId : WorkspaceId} {sessionId : SessionId}
    (issued : Issued py H s tx) (activated : tx.activated answer = some (t, workspaceId, sessionId)) :
    ∃ key workspaceId', Recorded s.trace key workspaceId' sessionId := by
  cases tx with
  | activate =>
    rcases answer with _ | _
    · exact nomatch activated
    · cases activated
      obtain ⟨_, _, _, e, mem, key, workspaceId', recorded⟩ := issued
      exact ⟨key, workspaceId', e, mem, recorded⟩
  | _ => exact nomatch activated

/-- The condition on a step: the answers of the executor about launches agree with what it
answered before, and a task is activated with ids the executor named for its current epoch. -/
def OwnLaunch (s : Shared Tx Query Store γ) : Event Tx Query → Prop
  | .call q b => ∀ a ∈ launchAnswer (.call q b), ∀ e ∈ s.trace, ∀ b ∈ launchAnswer e,
      SameLaunches a b
  | .commit tx answer => ∀ a ∈ tx.activated answer, a.2.1 ≠ "" ∧
      ∀ row ∈ s.store.task a.1, Named s.trace (a.1, row.epoch) a.2.1 a.2.2

instance (s : Shared Tx Query Store γ) (e : Event Tx Query) : Decidable (OwnLaunch s e) :=
  match e with
  | .call q b => inferInstanceAs (Decidable (∀ a ∈ launchAnswer (.call q b), ∀ e ∈ s.trace,
      ∀ b ∈ launchAnswer e, SameLaunches a b))
  | .commit tx answer => inferInstanceAs (Decidable (∀ a ∈ tx.activated answer, a.2.1 ≠ "" ∧
      ∀ row ∈ s.store.task a.1, ∃ e ∈ s.trace, ∃ b ∈ launchAnswer e, b.1 = (a.1, row.epoch) ∧
        b.2.workspaceId = a.2.1 ∧ b.2.sessionId = a.2.2))

/-! ### The journal over a run -/

def acknowledgedStop : Event Tx Query → Option (TaskId × ℕ)
  | .commit (.acknowledgeStop effect _) _ => some effect.key
  | _ => none

/-- The effect still names the launch; its workspace was cleared by an acknowledged stop at
most. -/
structure Effect.Records (effect : Effect) (trace : History) (workspaceId : WorkspaceId)
    (sessionId : SessionId) : Prop where
  launched : effect.state ≠ .reserved
  session : effect.sessionId = some sessionId
  workspace : effect.workspaceId = some workspaceId ∨ effect.workspaceId = none ∧
    ∃ e ∈ trace, acknowledgedStop e = some effect.key

theorem Effect.Records.mono {effect : Effect} {trace trace' : History} {workspaceId : WorkspaceId}
    {sessionId : SessionId} (h : effect.Records trace workspaceId sessionId)
    (later : trace ⊆ trace') : effect.Records trace' workspaceId sessionId where
  launched := h.launched
  session := h.session
  workspace := h.workspace.imp_right fun ⟨cleared, e, mem, stopped⟩ =>
    ⟨cleared, e, later mem, stopped⟩

structure Kept (s : Shared Tx Query Store γ) : Prop where
  /-- The executor does not contradict itself. -/
  agreed : ∀ e ∈ s.trace, ∀ e' ∈ s.trace, ∀ a b, launchAnswer e = some a →
    launchAnswer e' = some b → SameLaunches a b
  /-- What is recorded was named. -/
  named : ∀ key workspaceId sessionId, Recorded s.trace key workspaceId sessionId →
    Named s.trace key workspaceId sessionId ∧ workspaceId ≠ "" ∧ sessionId ≠ ""
  /-- What was recorded is kept. -/
  recorded : ∀ t n workspaceId sessionId, Recorded s.trace (t, n) workspaceId sessionId →
    ∃ effect, s.store.effect t n = some effect ∧ effect.Records s.trace workspaceId sessionId
  /-- An active task runs on the recorded launch of its epoch. -/
  active : ∀ t row, s.store.task t = some row → row.state = .active →
    ∃ workspaceId sessionId, row.workspaceId = some workspaceId ∧
      row.holderSessionId = some sessionId ∧ Recorded s.trace (t, row.epoch) workspaceId sessionId

theorem Kept.same {s : Shared Tx Query Store γ} (kept : Kept s) {key key' : TaskId × ℕ}
    {workspaceId workspaceId' : WorkspaceId} {sessionId sessionId' : SessionId}
    (first : Named s.trace key workspaceId sessionId)
    (second : Named s.trace key' workspaceId' sessionId') :
    SameLaunches (key, ⟨"", "", false, none, workspaceId, sessionId⟩)
      (key', ⟨"", "", false, none, workspaceId', sessionId'⟩) := by
  obtain ⟨e, mem, ⟨_, native⟩, answer, rfl, rfl, rfl⟩ := first
  obtain ⟨e', mem', ⟨_, native'⟩, answer', rfl, rfl, rfl⟩ := second
  have agreed := kept.agreed e mem e' mem' _ _ answer answer'
  exact ⟨agreed.workspace, agreed.session, agreed.launch⟩

theorem Placed.named {trace : History} {key : TaskId × ℕ} {workspaceId : WorkspaceId}
    (h : Placed trace key workspaceId) : ∃ sessionId, Named trace key workspaceId sessionId := by
  obtain ⟨_, e, mem, native, answer, placed⟩ := h
  exact ⟨native.sessionId, e, mem, _, answer, rfl, placed, rfl⟩

theorem Kept.placed {s : Shared Tx Query Store γ} (kept : Kept s) {key : TaskId × ℕ}
    {workspaceId workspaceId' : WorkspaceId} {sessionId : SessionId}
    (recorded : Recorded s.trace key workspaceId sessionId)
    (placed : Placed s.trace key workspaceId') : workspaceId' = workspaceId := by
  obtain ⟨named, nonempty, _⟩ := kept.named _ _ _ recorded
  obtain ⟨sessionId', named'⟩ := placed.named
  exact ((kept.same named named').workspace rfl nonempty placed.1).symm

theorem Kept.marked {H : Set LockKey} {s : Shared Tx Query Store γ} (kept : Kept s) {tx : Tx β}
    {answer : β} (issued : Issued py H s tx) {row next : Effect} {workspaceId : WorkspaceId}
    {sessionId : SessionId} (recorded : Recorded s.trace row.key workspaceId sessionId)
    (names : row.Records s.trace workspaceId sessionId) (marks : tx.Marks row next answer) :
    next.Records (.commit tx answer :: s.trace) workspaceId sessionId := by
  have old := names.mono (List.subset_cons_self (Event.commit tx answer) s.trace)
  cases tx with
  | reserve | markRefused =>
    rcases answer with _ | _
    · exact marks.elim
    · exact absurd marks.2.1 names.launched
  | markLaunched taskId epoch workspaceId' sessionId' now =>
    rcases answer with _ | _
    · exact marks.elim
    obtain ⟨key, _, rfl⟩ := marks
    obtain ⟨answered, placed, live⟩ := issued
    rw [← key] at answered
    obtain ⟨named, nonempty, present⟩ := kept.named _ _ _ recorded
    have same := kept.same named answered.named
    have session : sessionId = sessionId' := same.session rfl present live
    have workspace : workspaceId = workspaceId' := same.workspace rfl nonempty placed
    constructor
    · exact nofun
    · exact congrArg some session.symm
    · exact .inl (congrArg some workspace.symm)
  | markTerminal | recordLoss =>
    rcases answer with _ | _
    · exact marks.elim
    obtain ⟨_, _, rfl⟩ := marks
    exact ⟨nofun, old.session, old.workspace⟩
  | markSuperseded taskId epoch workspaceId' now =>
    rcases answer with _ | _
    · exact marks.elim
    obtain ⟨key, _, rfl⟩ := marks
    have placed : Placed s.trace row.key workspaceId' := key ▸ issued
    exact ⟨nofun, old.session, .inl (congrArg some (kept.placed recorded placed))⟩
  | markCleanupWorkspace taskId epoch workspaceId' now =>
    rcases answer with _ | _
    · exact marks.elim
    obtain ⟨key, _, rfl⟩ := marks
    have placed : Placed s.trace row.key workspaceId' := key ▸ issued
    exact ⟨old.launched, old.session, .inl (congrArg some (kept.placed recorded placed))⟩
  | retireReservation =>
    rcases answer with _ | _
    · exact marks.elim
    · exact absurd marks.2.1 names.launched
  | acknowledgeStop effect now =>
    obtain ⟨key, _, _, rfl⟩ := marks
    exact ⟨old.launched, old.session,
      .inr ⟨rfl, _, List.mem_cons_self, congrArg some key.symm⟩⟩
  | _ => exact marks.elim

theorem Tx.launched_effect {tx : Tx β} {db : Store} {t : TaskId} {n : ℕ}
    {workspaceId : WorkspaceId} {sessionId : SessionId}
    (launched : tx.launched (tx.exec db).2 = some ((t, n), workspaceId, sessionId)) :
    ∃ effect, (tx.exec db).1.effect t n = some effect ∧ effect.state ≠ .reserved ∧
      effect.sessionId = some sessionId ∧ effect.workspaceId = some workspaceId := by
  cases tx with
  | markLaunched taskId epoch workspaceId' sessionId' now =>
    obtain ⟨effect, db', ran, left⟩ | ⟨e, _, left⟩ :=
      atomically_cases (SightMesh.markLaunched taskId epoch workspaceId' sessionId' now) db
    · have left : (Tx.markLaunched taskId epoch workspaceId' sessionId' now).exec db =
        (db', .ok effect) := left
      rw [left] at launched ⊢
      obtain ⟨⟨rfl, rfl⟩, rfl, rfl⟩ : (taskId = t ∧ epoch = n) ∧ workspaceId' = workspaceId ∧
          sessionId' = sessionId := by simpa [Tx.launched] using launched
      obtain ⟨row, known, _, marked, put⟩ := advanceEffect_ok ran
      dsimp only at marked put ⊢
      have key := Store.key_of_effect known
      have named : (taskId, epoch) = effect.key := by
        rw [marked]
        exact key.symm
      refine ⟨effect, ?_, ?_⟩
      · rw [put, Store.effect_putEffect, if_pos named]
      · rw [marked]
        exact ⟨nofun, rfl, rfl⟩
    · have left : (Tx.markLaunched taskId epoch workspaceId' sessionId' now).exec db =
        (db, .error e) := left
      rw [left] at launched
      exact nomatch launched
  | _ => exact nomatch launched

theorem Kept.after {H : Set LockKey} {s : Shared Tx Query Store γ} (kept : Kept s) {tx : Tx β}
    (issued : Issued py H s tx) (own : OwnLaunch s (.commit tx (tx.exec s.store).2)) :
    Kept (Shared.after s tx) where
  agreed := by
    intro e mem e' mem' a b answer answer'
    rcases List.mem_cons.mp mem with rfl | mem
    · exact nomatch answer
    rcases List.mem_cons.mp mem' with rfl | mem'
    · exact nomatch answer'
    exact kept.agreed e mem e' mem' a b answer answer'
  named key workspaceId sessionId recorded := by
    obtain ⟨e, mem, recorded⟩ := recorded
    have later := List.subset_cons_self (Event.commit tx (tx.exec s.store).2) s.trace
    rcases List.mem_cons.mp mem with rfl | mem
    · cases tx with
      | markLaunched taskId epoch workspaceId' sessionId' now =>
        cases answer : ((Tx.markLaunched taskId epoch workspaceId' sessionId' now).exec s.store).2 with
        | error e =>
          rw [answer] at recorded
          exact nomatch recorded
        | ok effect =>
          rw [answer] at recorded
          cases recorded
          exact ⟨issued.1.named.mono later, issued.2⟩
      | _ => exact nomatch recorded
    · obtain ⟨named, nonempty⟩ := kept.named key workspaceId sessionId ⟨e, mem, recorded⟩
      exact ⟨named.mono later, nonempty⟩
  recorded t n workspaceId sessionId recorded := by
    obtain ⟨e, mem, recorded⟩ := recorded
    rcases List.mem_cons.mp mem with rfl | mem
    · obtain ⟨effect, known, launched, session, workspace⟩ := Tx.launched_effect recorded
      exact ⟨effect, known, launched, session, .inl workspace⟩
    · have recorded : Recorded s.trace (t, n) workspaceId sessionId := ⟨e, mem, recorded⟩
      obtain ⟨row, known, names⟩ := kept.recorded t n workspaceId sessionId recorded
      obtain ⟨next, known', rfl | marks⟩ := (tx.exec_journal s.store).kept t n row known
      · exact ⟨next, known', names.mono (List.subset_cons_self _ _)⟩
      · rw [← Store.key_of_effect known] at recorded
        exact ⟨next, known', kept.marked issued recorded names marks⟩
  active t next known active := by
    have later := List.subset_cons_self (Event.commit tx (tx.exec s.store).2) s.trace
    obtain ⟨row, before, step⟩ | ⟨_, inserted⟩ := tx.task_after known
    · have named := Store.taskId_of_task before
      have old (same : next.epoch = row.epoch) (state : row.state = .active)
          (workspace : next.workspaceId = row.workspaceId)
          (holder : next.holderSessionId = row.holderSessionId) :
          ∃ workspaceId sessionId, next.workspaceId = some workspaceId ∧
            next.holderSessionId = some sessionId ∧
            Recorded (Shared.after s tx).trace (t, next.epoch) workspaceId sessionId := by
        obtain ⟨workspaceId, sessionId, placed, held, recorded⟩ := kept.active t row before state
        rw [same, workspace, holder]
        exact ⟨workspaceId, sessionId, placed, held, recorded.mono later⟩
      rcases step.lifecycle with same | ⟨l, assigned, moved⟩
      · exact old (congrArg Lifecycle.epoch same)
          ((congrArg Lifecycle.state same).symm.trans active)
          (congrArg Lifecycle.workspaceId same) (congrArg Lifecycle.holderSessionId same)
      · have columns : next.epoch = l.epoch ∧ next.workspaceId = l.workspaceId ∧
            next.holderSessionId = l.holderSessionId ∧ l.state = .active := by
          rw [moved] at active ⊢
          exact ⟨rfl, rfl, rfl, active⟩
        obtain ⟨epoch, workspace, holder, active⟩ := columns
        obtain ⟨same, ⟨state, workspace', holder'⟩ |
          ⟨workspaceId, sessionId, activated, workspace', holder'⟩⟩ := assigned.active active
        · exact old (epoch.trans same) state (workspace.trans workspace') (holder.trans holder')
        · rw [show row.taskId = t from named] at activated
          obtain ⟨nonempty, own⟩ := own _ activated
          have here := own row before
          obtain ⟨key, workspaceId', recorded⟩ := activated_journaled issued activated
          obtain ⟨named', nonempty', live⟩ := kept.named key workspaceId' sessionId recorded
          have agreed := kept.same named' here
          obtain rfl : key = (t, row.epoch) := agreed.launch live rfl
          obtain rfl : workspaceId' = workspaceId := agreed.workspace rfl nonempty' nonempty
          refine ⟨workspaceId', sessionId, workspace.trans workspace', holder.trans holder', ?_⟩
          rw [epoch, same]
          exact recorded.mono later
    · cases tx with
      | reserveAll =>
        obtain ⟨spec, _, rfl⟩ := inserted
        exact nomatch active
      | _ => exact inserted.elim

theorem Kept.asked {s : Shared Tx Query Store γ} (kept : Kept s) {q : Query β} {b : β} {env : γ}
    (own : OwnLaunch s (.call q b)) : Kept (s.call q b env) where
  agreed := by
    intro e mem e' mem' a a' answer answer'
    rcases List.mem_cons.mp mem with rfl | mem
    · rcases List.mem_cons.mp mem' with rfl | mem'
      · cases Option.some.inj (answer.symm.trans answer')
        exact .refl a
      · exact own a answer e' mem' a' answer'
    · rcases List.mem_cons.mp mem' with rfl | mem'
      · exact (own a' answer' e mem a answer).symm
      · exact kept.agreed e mem e' mem' a a' answer answer'
  named key workspaceId sessionId recorded := by
    obtain ⟨e, mem, recorded⟩ := recorded
    have mem := (List.mem_cons.mp mem).resolve_left (by rintro rfl; exact nomatch recorded)
    obtain ⟨named, nonempty⟩ := kept.named key workspaceId sessionId ⟨e, mem, recorded⟩
    exact ⟨named.mono (List.subset_cons_self _ _), nonempty⟩
  recorded t n workspaceId sessionId recorded := by
    obtain ⟨e, mem, recorded⟩ := recorded
    have mem := (List.mem_cons.mp mem).resolve_left (by rintro rfl; exact nomatch recorded)
    obtain ⟨effect, known, names⟩ := kept.recorded t n workspaceId sessionId ⟨e, mem, recorded⟩
    exact ⟨effect, known, names.mono (List.subset_cons_self _ _)⟩
  active t row known active := by
    obtain ⟨workspaceId, sessionId, placed, held, recorded⟩ := kept.active t row known active
    exact ⟨workspaceId, sessionId, placed, held, recorded.mono (List.subset_cons_self _ _)⟩

theorem reachable_kept {w : KernelWorld γ} (reached : Reachable (kernel py x) OwnLaunch w) :
    Kept w.shared := by
  apply run_invariant Kept ?_ ?_ ?_ reached
  · intro ownershipShared e
    constructor
    · intro e mem
      exact nomatch mem
    · rintro key workspaceId sessionId ⟨e, mem, _⟩
      exact nomatch mem
    · rintro t n workspaceId sessionId ⟨e, mem, _⟩
      exact nomatch mem
    · intro t row known
      exact nomatch known
  · intro H s β tx _ issued own kept
    exact kept.after issued own
  · intro s β q b env _ own kept
    exact kept.asked own

/-- The journal has the launch the task runs on, and a settlement of the epoch finds it. -/
structure LaunchKept (s : Shared Tx Query Store γ) (row : TaskRow) : Prop where
  kept : ∃ effect workspaceId sessionId, s.store.effect row.taskId row.epoch = some effect ∧
    Recorded s.trace (row.taskId, row.epoch) workspaceId sessionId ∧
    row.workspaceId = some workspaceId ∧ row.holderSessionId = some sessionId ∧
    effect.Records s.trace workspaceId sessionId
  settles : ∀ reason payload now,
    ∃ r, lossEvidence row.toTaskRecord reason payload now s.store = .ok r

/-- In every run in which the executor does not contradict itself, and tasks are activated with
launches of their own epoch, every active task runs on the launch its effect keeps. -/
theorem active_launch_kept {w : KernelWorld γ} (reached : Reachable (kernel py x) OwnLaunch w) :
    ∀ row ∈ w.shared.store.tasks.rows, row.state = .active → LaunchKept w.shared row := by
  intro row mem active
  have kept := reachable_kept reached
  have known : w.shared.store.task row.taskId = some row := Table.get_of_mem mem
  obtain ⟨workspaceId, sessionId, placed, held, recorded⟩ := kept.active _ row known active
  obtain ⟨effect, found, names⟩ := kept.recorded _ _ workspaceId sessionId recorded
  constructor
  · exact ⟨effect, workspaceId, sessionId, found, recorded, placed, held, names⟩
  · intro reason payload now
    exact lossEvidence_runs found reason payload now

def exhaustedAccountScript : Script :=
  { Script.calm with processes := [failedProcess "quota_exhausted"] }

/-- An automatic recovery, and a manual replacement that takes it over. -/
def linkedOps : List (Kernel Unit) :=
  [startWorker, reconcileProviderOutcome asciiLibrary "owner" (sessionOf workerId 1),
    replace asciiLibrary "owner" none "worker" (some "go on")]

theorem linkedOps_known : ∀ op ∈ linkedOps, KernelOp asciiLibrary op := by
  simp [linkedOps, startWorker, startOne, KernelOp.startAll, KernelOp.reconcileProviderOutcome,
    KernelOp.replace]

def relinkedWorld : ScriptWorld :=
  exhaustedAccountScript.run linkedOps (steps 0 60 ++ steps 1 38 ++ [.crash 1] ++ steps 2 20)

set_option maxRecDepth 100000 in
theorem linked_successor_unjournaled :
    ¬ ∀ w : ScriptWorld,
      Reachable (kernel asciiLibrary exhaustedAccountScript.executor) anyEvent w →
      ∀ row ∈ w.shared.store.tasks.rows, row.state = .active → LaunchKept w.shared row := by
  intro all
  have reached : Reachable (kernel asciiLibrary exhaustedAccountScript.executor) anyEvent
      relinkedWorld := exhaustedAccountScript.run_reachable linkedOps_known _
  have unjournaled : ∃ row ∈ relinkedWorld.shared.store.tasks.rows, row.state = .active ∧
      relinkedWorld.shared.store.effect row.taskId row.epoch = none := by decide +kernel
  obtain ⟨row, mem, active, missing⟩ := unjournaled
  obtain ⟨effect, _, _, found, _⟩ := (all relinkedWorld reached row mem active).kept
  exact nomatch missing.symm.trans found

set_option maxRecDepth 100000 in
theorem recovered_launch_kept :
    (∀ row ∈ (exhaustedAccountScript.run linkedOps (steps 0 60 ++ steps 1 60)).shared.store.tasks.rows,
      row.state = .active → LaunchKept
        (exhaustedAccountScript.run linkedOps (steps 0 60 ++ steps 1 60)).shared row) ∧
      (exhaustedAccountScript.run linkedOps (steps 0 60 ++ steps 1 60)).shared.store.tasks.rows.map
        (fun r => (r.state, r.epoch)) = [(.active, 2)] := by
  have passes : exhaustedAccountScript.allows (fun s e => decide (OwnLaunch s e)) linkedOps
    (steps 0 60 ++ steps 1 60) := by decide +kernel
  have reached := exhaustedAccountScript.run_allowed linkedOps_known passes
  constructor
  · exact active_launch_kept (reached.mono fun _ _ passed => of_decide_eq_true passed)
  · decide +kernel

end SightMesh
