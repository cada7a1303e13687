import SightMesh.Executor.Processes
import SightMesh.Kernel.Frames

/-! What one transaction can do to a row of the effect journal, and to one of the ownership
table. -/
namespace SightMesh

open Database Python

variable {α β : Type}

/-! ### Effects -/

/-- The row `next` that a transaction answering `answer` makes of the effect `row`, under the
guards of the function it runs. -/
def Tx.Marks (row next : Effect) : Tx β → β → Prop
  | .reserve taskId epoch _ owner now, .ok _ =>
    row.key = (taskId, epoch) ∧ row.state = .reserved ∧
      next = { row with
        ownerInstance := owner, leaseExpiresAt := now + reservationTtlSeconds, updatedAt := now }
  | .markLaunched taskId epoch workspaceId sessionId now, .ok _ =>
    row.key = (taskId, epoch) ∧ row.state ≠ .terminal ∧
      next = { row with
        state := .launched, workspaceId := workspaceId, sessionId := sessionId, updatedAt := now }
  | .markTerminal taskId epoch outcome retryAt now, .ok _ =>
    row.key = (taskId, epoch) ∧ row.state ≠ .terminal ∧
      next = { row with
        state := .terminal, outcome := some outcome, retryAt := retryAt, updatedAt := now }
  | .markRefused taskId epoch reason retryAfter now, .ok _ =>
    row.key = (taskId, epoch) ∧ row.state = .reserved ∧
      next = { row with
        outcome := some ("refused:" ++ reason), retryAt := retryAfter.map (now + ·),
        updatedAt := now }
  | .markSuperseded taskId epoch workspaceId now, .ok _ =>
    row.key = (taskId, epoch) ∧ row.state ≠ .terminal ∧
      next = { row with
        state := .terminal, workspaceId := workspaceId, outcome := some "superseded",
        updatedAt := now }
  | .markCleanupWorkspace taskId epoch workspaceId now, .ok _ =>
    row.key = (taskId, epoch) ∧ row.state = .terminal ∧
      next = { row with
        workspaceId := some workspaceId, outcome := some "superseded", updatedAt := now }
  | .retireReservation taskId epoch moment, some _ =>
    row.key = (taskId, epoch) ∧ row.state = .reserved ∧ row.leaseExpiresAt < moment ∧
      next = { row with
        state := .terminal, outcome := some "lost:reservation-expired", updatedAt := moment }
  | .acknowledgeStop effect now, _ =>
    row.key = effect.key ∧ row.state = .terminal ∧ row.workspaceId = effect.workspaceId ∧
      next = { row with workspaceId := none, updatedAt := now }
  | .recordLoss seen reason _ now, .ok _ =>
    row.key = (seen.taskId, seen.epoch) ∧ row.state ≠ .terminal ∧
      next = { row with state := .terminal, outcome := some reason, updatedAt := now }
  | _, _ => False

/-- The row a transaction opens in the journal. -/
def Tx.Opens (effect : Effect) : Tx β → Prop
  | .reserve taskId epoch requestHash owner now => effect = {
      taskId := taskId, epoch := epoch, requestHash := requestHash, state := .reserved,
      workspaceId := none, sessionId := none, outcome := none, retryAt := none,
      ownerInstance := owner, leaseExpiresAt := now + reservationTtlSeconds, updatedAt := now }
  | _ => False

theorem Store.effect_putEffect (db : Store) (effect : Effect) (t : TaskId) (n : ℕ) :
    (db.putEffect effect).effect t n =
      if (t, n) = effect.key then some effect else db.effect t n :=
  Table.get_put db.effects effect (t, n)

theorem Store.key_of_effect {db : Store} {t : TaskId} {n : ℕ} {effect : Effect}
    (known : db.effect t n = some effect) : effect.key = (t, n) :=
  Table.key_of_get known

@[simp] theorem Store.putEffect_tasks (db : Store) (effect : Effect) :
    (db.putEffect effect).tasks = db.tasks := rfl

/-- Every effect stays or is marked, and what is new was opened. -/
structure Tx.Journals (tx : Tx β) (answer : β) (db db' : Store) : Prop where
  kept : ∀ t n row, db.effect t n = some row →
    ∃ next, db'.effect t n = some next ∧ (next = row ∨ tx.Marks row next answer)
  opened : ∀ t n next, db.effect t n = none → db'.effect t n = some next → tx.Opens next

theorem Tx.Journals.of_effects (tx : Tx β) (answer : β) {db db' : Store}
    (same : db'.effects = db.effects) : tx.Journals answer db db' := by
  have kept (t : TaskId) (n : ℕ) : db'.effect t n = db.effect t n := by
    rw [Store.effect, same]
    rfl
  refine ⟨fun t n row known => ⟨row, (kept t n).trans known, .inl rfl⟩, ?_⟩
  intro t n next absent known
  exact nomatch absent.symm.trans ((kept t n).symm.trans known)

theorem Tx.Journals.congr {tx : Tx β} {answer : β} {db mid db' : Store}
    (h : tx.Journals answer db mid) (same : db'.effects = mid.effects) :
    tx.Journals answer db db' := by
  have kept (t : TaskId) (n : ℕ) : db'.effect t n = mid.effect t n := by
    rw [Store.effect, same]
    rfl
  refine ⟨fun t n row known => ?_, fun t n next absent known => ?_⟩
  · rw [kept]
    exact h.kept t n row known
  · exact h.opened t n next absent ((kept t n).symm.trans known)

theorem Tx.Journals.refl (tx : Tx β) (answer : β) (db : Store) : tx.Journals answer db db :=
  .of_effects tx answer rfl

theorem Tx.Journals.mark {tx : Tx β} {answer : β} {db : Store} {t : TaskId} {n : ℕ}
    {row next : Effect} (known : db.effect t n = some row) (marks : tx.Marks row next answer)
    (named : next.key = row.key) : tx.Journals answer db (db.putEffect next) := by
  have key : next.key = (t, n) := named.trans (Store.key_of_effect known)
  refine ⟨fun t' n' other found => ?_, fun t' n' other absent found => ?_⟩
  · rw [Store.effect_putEffect]
    split
    · rename_i same
      cases key.symm.trans same.symm
      cases Option.some.inj (known.symm.trans found)
      exact ⟨next, rfl, .inr marks⟩
    · exact ⟨other, found, .inl rfl⟩
  · rw [Store.effect_putEffect] at found
    split at found
    · rename_i same
      cases key.symm.trans same.symm
      exact nomatch known.symm.trans absent
    · exact nomatch absent.symm.trans found

theorem Tx.Journals.open {tx : Tx β} {answer : β} {db : Store} {next : Effect}
    (opens : tx.Opens next) (absent : db.effect next.taskId next.epoch = none) :
    tx.Journals answer db (db.putEffect next) := by
  refine ⟨fun t n row known => ?_, fun t n other missing found => ?_⟩
  · rw [Store.effect_putEffect, if_neg]
    · exact ⟨row, known, .inl rfl⟩
    · intro same
      cases same
      exact nomatch absent.symm.trans known
  · rw [Store.effect_putEffect] at found
    split at found
    · exact Option.some.inj found ▸ opens
    · exact nomatch missing.symm.trans found

theorem Tx.Journals.atomically {tx : Tx (Answer α)} {body : Txn α} {db : Store}
    (committed : ∀ a db', body db = .ok (a, db') → tx.Journals (.ok a) db db') :
    tx.Journals (SightMesh.atomically body db).2 db (SightMesh.atomically body db).1 := by
  obtain ⟨a, db', ran, left⟩ | ⟨e, _, left⟩ := atomically_cases body db
  · rw [left]
    exact committed a db' ran
  · rw [left]
    exact .refl tx _ db

theorem advanceEffect_ok {taskId : TaskId} {epoch : ℕ} {assign : Effect → Effect}
    {expectStates : List EffectState} {now : Time} {db : Store} {r : Effect × Store}
    (ran : advanceEffect taskId epoch assign expectStates now db = .ok r) :
    ∃ row, db.effect taskId epoch = some row ∧ row.state ∈ expectStates ∧
      r.1 = { assign row with taskId := row.taskId, epoch := row.epoch, updatedAt := now } ∧
      r.2 = db.putEffect r.1 := by
  simp only [advanceEffect, get_bind_run] at ran
  cases known : db.effect taskId epoch with
  | none => simp [known] at ran
  | some row =>
    simp only [known] at ran
    split at ran
    · rename_i expected
      cases ran
      exact ⟨row, rfl, expected, rfl, rfl⟩
    · simp at ran

theorem reserveEffect_ok {taskId : TaskId} {epoch : ℕ} {launch : Launch} {owner : String}
    {ttl now : Time} {db : Store} {r : (Effect × Bool) × Store}
    (ran : reserveEffect taskId epoch launch owner ttl now db = .ok r) :
    (db.effect taskId epoch = none ∧ r.2 = db.putEffect r.1.1 ∧ r.1.1 = {
      taskId := taskId, epoch := epoch, requestHash := launch, state := .reserved,
      workspaceId := none, sessionId := none, outcome := none, retryAt := none,
      ownerInstance := owner, leaseExpiresAt := now + ttl, updatedAt := now }) ∨
    ∃ row, db.effect taskId epoch = some row ∧
      (row.state = .launched ∧ r.1.1 = row ∧ r.2 = db ∨
        row.state = .reserved ∧ r.2 = db.putEffect r.1.1 ∧ r.1.1 = { row with
          ownerInstance := owner, leaseExpiresAt := now + ttl, updatedAt := now }) := by
  simp only [reserveEffect, get_bind_run] at ran
  cases known : db.effect taskId epoch with
  | none =>
    simp only [known] at ran
    cases ran
    exact .inl ⟨rfl, rfl, rfl⟩
  | some row =>
    simp only [known] at ran
    refine .inr ⟨row, rfl, ?_⟩
    cases state : row.state with
    | terminal => simp [state] at ran
    | launched =>
      simp only [state] at ran
      cases ran
      exact .inl ⟨rfl, rfl, rfl⟩
    | reserved =>
      simp only [state] at ran
      right
      split at ran
      · split at ran
        · simp at ran
        · split at ran
          · simp at ran
          · cases ran
            exact ⟨rfl, rfl, rfl⟩
      · cases ran
        exact ⟨rfl, rfl, rfl⟩

theorem Tx.Journals.advance {tx : Tx β} {answer : β} {taskId : TaskId} {epoch : ℕ} {assign : Effect → Effect}
    {expectStates : List EffectState} {now : Time} {db db' : Store} {effect : Effect}
    (ran : advanceEffect taskId epoch assign expectStates now db = .ok (effect, db'))
    (marks : ∀ row : Effect, row.key = (taskId, epoch) → row.state ∈ expectStates →
      tx.Marks row { assign row with taskId := row.taskId, epoch := row.epoch, updatedAt := now }
        answer) :
    tx.Journals answer db db' := by
  obtain ⟨row, known, expected, marked, put⟩ := advanceEffect_ok ran
  have named := Store.key_of_effect known
  rw [show db' = _ from put]
  exact .mark known (marked ▸ marks row named expected) (by rw [marked]; rfl)

theorem opened_of_mem {state : EffectState} (h : state ∈ [EffectState.reserved, .launched]) :
    state ≠ .terminal := by
  rintro rfl
  simp at h

theorem recordLoss_journals (task : TaskRecord) (reason payload : String) (now : Time)
    (db : Store) : (Tx.recordLoss task reason payload now).Journals
      (SightMesh.recordLoss task reason payload now db).2 db
      (SightMesh.recordLoss task reason payload now db).1 := by
  obtain ⟨e, same⟩ | ⟨e, same⟩ | ⟨marked, record, wakes, db', evidence, settled, same⟩ :=
    recordLoss_cases task reason payload now db
  · rw [same]
    exact .refl _ _ db
  · rw [same]
    have only : (db.insertOwnership (lossOwnership task)).1 = _ := insertOwnership_only db _
    have effects : (db.insertOwnership (lossOwnership task)).1.effects = db.effects := by rw [only]
    exact .of_effects _ _ effects
  · rw [same]
    have cohort : db' = _ := finishWithWakeWithin_only _ _ _ settled
    have after : db'.effects = marked.effects := by rw [cohort]
    have noted : db.noteEvidence task.taskId payload = _ := noteEvidence_only ..
    have before : (db.noteEvidence task.taskId payload).effects = db.effects := by rw [noted]
    obtain ⟨effect, known, ⟨_, marks⟩ | ⟨opened, marks⟩⟩ := lossEvidence_ok evidence
    · have quiet : marked.effects = db.effects := by
        rw [show marked = _ from marks, before]
      exact .of_effects _ _ (after.trans quiet)
    · have marks_lost : (Tx.recordLoss task reason payload now).Marks effect { effect with
          state := .terminal, outcome := some reason, updatedAt := now } (.ok wakes) :=
        ⟨Store.key_of_effect known, opened, rfl⟩
      refine (Tx.Journals.mark known marks_lost rfl).congr (after.trans ?_)
      rw [show marked = _ from marks]
      unfold Store.putEffect
      rw [before]

theorem Tx.exec_journal (tx : Tx β) (db : Store) :
    tx.Journals (tx.exec db).2 db (tx.exec db).1 := by
  have only := tx.exec_only db
  cases tx with
  | reserve taskId epoch launch owner now =>
    refine .atomically fun a db' ran => ?_
    obtain ⟨absent, put, opened⟩ | ⟨row, known, ⟨_, _, same⟩ | ⟨state, put, marked⟩⟩ :=
      reserveEffect_ok ran
    · rw [show db' = _ from put]
      exact .open opened (by rw [opened]; exact absent)
    · rw [show db' = db from same]
      exact .refl _ _ db
    · rw [show db' = _ from put]
      exact .mark known ⟨Store.key_of_effect known, state, marked⟩ (by rw [marked]; rfl)
  | markLaunched taskId epoch workspaceId sessionId now =>
    refine .atomically fun a db' ran => .advance ran ?_
    exact fun row named expected => ⟨named, opened_of_mem expected, rfl⟩
  | markTerminal taskId epoch outcome retryAt now =>
    refine .atomically fun a db' ran => .advance ran ?_
    exact fun row named expected => ⟨named, opened_of_mem expected, rfl⟩
  | markRefused taskId epoch reason retryAfter now =>
    refine .atomically fun a db' ran => .advance ran ?_
    exact fun row named expected => ⟨named, by simpa using expected, rfl⟩
  | markSuperseded taskId epoch workspaceId now =>
    refine .atomically fun a db' ran => .advance ran ?_
    exact fun row named expected => ⟨named, opened_of_mem expected, rfl⟩
  | markCleanupWorkspace taskId epoch workspaceId now =>
    refine .atomically fun a db' ran => ?_
    simp only [SightMesh.markCleanupWorkspace, get_bind_run] at ran
    cases known : db.effect taskId epoch with
    | none => simp [known] at ran
    | some row =>
      simp only [known] at ran
      have named := Store.key_of_effect known
      split at ran
      · rename_i closed
        cases ran
        exact .mark known ⟨named, closed, rfl⟩ rfl
      · cases ran
        exact .refl _ _ db
  | retireReservation taskId epoch moment =>
    show Tx.Journals _ (SightMesh.retireReservation taskId epoch moment db).2 db
      (SightMesh.retireReservation taskId epoch moment db).1
    unfold SightMesh.retireReservation
    split
    · exact .refl _ _ db
    · rename_i row known
      dsimp only
      split
      · rename_i expired
        exact .mark known ⟨Store.key_of_effect known, expired.1, expired.2, rfl⟩ rfl
      · exact .refl _ _ db
  | acknowledgeStop effect now =>
    show Tx.Journals _ () db (SightMesh.acknowledgeStop effect now db)
    unfold SightMesh.acknowledgeStop
    split
    · exact .refl _ _ db
    · rename_i row known
      split
      · rename_i stopped
        exact .mark known ⟨Store.key_of_effect known, stopped.1, stopped.2, rfl⟩ rfl
      · exact .refl _ _ db
  | recordLoss seen reason payload now => exact recordLoss_journals ..
  | _ =>
    have same := congrArg Store.effects only
    exact .of_effects _ _ same

/-- The ids a transaction that went through recorded for a launch. -/
def Tx.launched : Tx β → β → Option ((TaskId × ℕ) × WorkspaceId × SessionId)
  | .markLaunched taskId epoch workspaceId sessionId _, .ok _ =>
    some ((taskId, epoch), workspaceId, sessionId)
  | _, _ => none

/-- The outcomes of an epoch that ended in no failure of its own. -/
def quietOutcomes : List String := ["completed", "cancelled", "superseded"]

/-- The epoch whose failure a transaction that went through recorded: a typed outcome, an expired
reservation, a loss or a failed worker process. -/
def Tx.failed : Tx β → β → Option (TaskId × ℕ)
  | .markTerminal taskId epoch outcome _ _, .ok _ =>
    if outcome ∈ quietOutcomes then none else some (taskId, epoch)
  | .retireReservation taskId epoch _, some _ => some (taskId, epoch)
  | .recordLoss seen _ _ _, .ok _ => some (seen.taskId, seen.epoch)
  | .finish .processFailure seen _ _ _ _, .ok _ => some (seen.taskId, seen.epoch)
  | _, _ => none

theorem not_quiet_of_routed {outcome : String} (routed : (routingOutcome (some outcome)).isSome) :
    outcome ∉ quietOutcomes := by
  simp only [quietOutcomes, List.mem_cons, List.not_mem_nil, or_false]
  rintro (rfl | rfl | rfl)
  · exact absurd routed (by decide)
  · exact absurd routed (by decide)
  · exact absurd routed (by decide)

theorem Tx.Marks.key {tx : Tx β} {answer : β} {row next : Effect} (h : tx.Marks row next answer) :
    next.key = row.key := by
  cases tx with
  | reserve | markLaunched | markTerminal | markRefused | markSuperseded | markCleanupWorkspace
  | recordLoss =>
    rcases answer with _ | _
    · exact h.elim
    obtain ⟨_, _, rfl⟩ := h
    rfl
  | retireReservation =>
    rcases answer with _ | _
    · exact h.elim
    obtain ⟨_, _, _, rfl⟩ := h
    rfl
  | acknowledgeStop =>
    obtain ⟨_, _, _, rfl⟩ := h
    rfl
  | _ => exact h.elim

/-- Only a recorded launch names a session. -/
theorem Tx.Marks.session {tx : Tx β} {answer : β} {row next : Effect}
    (h : tx.Marks row next answer) : next.sessionId = row.sessionId ∨
      ∃ workspaceId sessionId, tx.launched answer = some (row.key, workspaceId, sessionId) ∧
        next.workspaceId = some workspaceId ∧ next.sessionId = some sessionId := by
  cases tx with
  | reserve | markTerminal | markRefused | markSuperseded | markCleanupWorkspace | recordLoss =>
    rcases answer with _ | _
    · exact h.elim
    obtain ⟨_, _, rfl⟩ := h
    exact .inl rfl
  | markLaunched taskId epoch workspaceId sessionId now =>
    rcases answer with _ | _
    · exact h.elim
    obtain ⟨named, _, rfl⟩ := h
    exact .inr ⟨workspaceId, sessionId, by rw [named]; rfl, rfl, rfl⟩
  | retireReservation =>
    rcases answer with _ | _
    · exact h.elim
    obtain ⟨_, _, _, rfl⟩ := h
    exact .inl rfl
  | acknowledgeStop =>
    obtain ⟨_, _, _, rfl⟩ := h
    exact .inl rfl
  | _ => exact h.elim

/-- Only a recorded failure leaves a typed outcome on an ended effect. -/
theorem Tx.Marks.outcome {tx : Tx β} {answer : β} {row next : Effect}
    (h : tx.Marks row next answer) (ended : next.state = .terminal)
    (routed : (routingOutcome next.outcome).isSome) :
    row.state = .terminal ∧ next.outcome = row.outcome ∨ tx.failed answer = some row.key := by
  cases tx with
  | reserve =>
    rcases answer with _ | _
    · exact h.elim
    obtain ⟨_, opened, rfl⟩ := h
    exact nomatch opened.symm.trans ended
  | markRefused =>
    rcases answer with _ | _
    · exact h.elim
    obtain ⟨_, opened, rfl⟩ := h
    exact nomatch opened.symm.trans ended
  | markLaunched =>
    rcases answer with _ | _
    · exact h.elim
    obtain ⟨_, _, rfl⟩ := h
    exact nomatch ended
  | markTerminal taskId epoch outcome retryAt now =>
    rcases answer with _ | _
    · exact h.elim
    obtain ⟨named, _, rfl⟩ := h
    rw [named]
    exact .inr (if_neg (not_quiet_of_routed routed))
  | markSuperseded | markCleanupWorkspace =>
    rcases answer with _ | _
    · exact h.elim
    obtain ⟨_, _, rfl⟩ := h
    exact absurd (show "superseded" ∈ quietOutcomes by decide) (not_quiet_of_routed routed)
  | retireReservation =>
    rcases answer with _ | _
    · exact h.elim
    obtain ⟨named, _, _, rfl⟩ := h
    rw [named]
    exact .inr rfl
  | recordLoss =>
    rcases answer with _ | _
    · exact h.elim
    obtain ⟨named, _, rfl⟩ := h
    rw [named]
    exact .inr rfl
  | acknowledgeStop =>
    obtain ⟨_, closed, _, rfl⟩ := h
    exact .inl ⟨closed, rfl⟩
  | _ => exact h.elim

/-! ### Ownership -/

def Tx.Retires (record : TerminalOwnership) : Tx β → Prop
  | .retire inserted => record = inserted
  | .recordLoss seen .. => record = lossOwnership seen
  | _ => False

def Tx.Links (source successor : SessionId) : Tx β → Prop
  | .linkSuccessor a b => a = source ∧ b = successor
  | _ => False

/-- Where a terminal record comes from. -/
def Tx.Owns (tx : Tx β) (db db' : Store) : Prop :=
  ∀ s record, db'.ownership s = some record →
    (∃ old, db.ownership s = some old ∧ (record = old ∨ ∃ successor, tx.Links s successor ∧
      record = { old with successorSessionId := some successor })) ∨ tx.Retires record

theorem Tx.Owns.of_ownerships (tx : Tx β) {db db' : Store}
    (same : db'.ownerships = db.ownerships) : tx.Owns db db' := by
  intro s record known
  rw [Store.ownership, same] at known
  exact .inl ⟨record, known, .inl rfl⟩

theorem Tx.Owns.insert (tx : Tx β) {db : Store} {record : TerminalOwnership}
    (retires : tx.Retires record) : tx.Owns db (db.insertOwnership record).1 := by
  unfold Store.insertOwnership
  split
  · exact .of_ownerships tx rfl
  · intro s other known
    have found : (db.ownerships.put record).get s = some other := known
    rw [Table.get_put] at found
    split at found
    · exact .inr (Option.some.inj found ▸ retires)
    · exact .inl ⟨other, found, .inl rfl⟩

theorem linkSuccessor_ok {source successor : SessionId} {db : Store}
    {r : TerminalOwnership × Store} (ran : linkSuccessor source successor db = .ok r) :
    ∃ row, db.ownership source = some row ∧ (r = (row, db) ∨
      r.1 = { row with successorSessionId := some successor } ∧
        r.2 = { db with ownerships := db.ownerships.put r.1 }) := by
  unfold linkSuccessor at ran
  split at ran
  · simp at ran
  · simp only [get_bind_run] at ran
    cases known : db.ownership source with
    | none => simp [known] at ran
    | some row =>
      simp only [known] at ran
      refine ⟨row, rfl, ?_⟩
      cases linked : row.successorSessionId with
      | some other =>
        simp only [linked] at ran
        split at ran
        · cases ran
          exact .inl rfl
        · simp at ran
      | none =>
        simp only [linked] at ran
        split at ran
        · simp at ran
        · cases ran
          exact .inr ⟨rfl, rfl⟩

theorem Tx.exec_ownership (tx : Tx β) (db : Store) : tx.Owns db (tx.exec db).1 := by
  have only := tx.exec_only db
  cases tx with
  | retire record => exact .insert _ rfl
  | linkSuccessor source successor =>
    obtain ⟨a, db', ran, left⟩ | ⟨e, _, left⟩ :=
      atomically_cases (SightMesh.linkSuccessor source successor) db
    · have exec : ((Tx.linkSuccessor source successor).exec db).1 = db' := congrArg Prod.fst left
      rw [exec]
      obtain ⟨row, known, same | ⟨linked, put⟩⟩ := linkSuccessor_ok ran
      · rw [show db' = db from congrArg Prod.snd same]
        exact .of_ownerships _ rfl
      · intro s record found
        rw [Store.ownership, show db' = _ from put] at found
        have found : (db.ownerships.put a).get s = some record := found
        rw [show a = _ from linked] at found
        have named : row.sessionId = source := Table.key_of_get known
        rw [Table.get_put] at found
        split at found
        · rename_i same
          obtain rfl : s = source := same.trans named
          exact .inl ⟨row, known, .inr ⟨successor, ⟨rfl, rfl⟩, (Option.some.inj found).symm⟩⟩
        · exact .inl ⟨record, found, .inl rfl⟩
    · have exec : ((Tx.linkSuccessor source successor).exec db).1 = db := congrArg Prod.fst left
      rw [exec]
      exact .of_ownerships _ rfl
  | recordLoss seen reason payload now =>
    show Tx.Owns _ db (SightMesh.recordLoss seen reason payload now db).1
    obtain ⟨e, same⟩ | ⟨e, same⟩ | ⟨marked, record, wakes, db', evidence, settled, same⟩ :=
      recordLoss_cases seen reason payload now db
    · rw [same]
      exact .of_ownerships _ rfl
    · rw [same]
      exact .insert _ rfl
    · rw [same]
      have cohort : db' = _ := finishWithWakeWithin_only _ _ _ settled
      have after : db'.ownerships =
        (db.insertOwnership (lossOwnership seen)).1.ownerships := by rw [cohort]
      intro s record known
      rw [Store.ownership, after] at known
      exact Tx.Owns.insert (.recordLoss seen reason payload now) rfl s record known
  | _ =>
    have same := congrArg Store.ownerships only
    exact .of_ownerships _ same

end SightMesh
