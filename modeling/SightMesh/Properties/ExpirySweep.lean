import SightMesh.Concurrency.Solo
import SightMesh.Executor.Client
import SightMesh.Properties.FreshSubject

/-! What a sweep over the expired reservations leaves when nothing else runs. -/
namespace SightMesh

open Concurrency Database Python Prog

variable {γ α β : Type} {py : Library} {x : Executor γ}
  {ok : Shared Tx Query Store γ → Event Tx Query → Prop} {s s' : Shared Tx Query Store γ}

/-! ### Errors that stay with one reservation -/

theorem transition_error {t : TaskId} {expectStates : List TaskState} {expectVersion : Option ℕ}
    {assign : Lifecycle → Lifecycle} {observe : Health → Health} {attempted : String} {now : Time}
    {db : Store} {e : KernelError}
    (raised : transition t expectStates expectVersion assign observe attempted now db = .error e) :
    e.isTaskStore ∨ (∃ m, e = .integrity m) ∧ ∃ row, db.task t = some row ∧
      db.holderTaken (row.moved assign observe now) := by
  simp only [transition, get_bind_run] at raised
  cases known : db.task t with
  | none =>
    simp only [known, throw_run] at raised
    cases raised
    exact .inl rfl
  | some row =>
    simp only [known] at raised
    by_cases guard : row.state ∈ expectStates ∧
        (expectVersion = none ∨ expectVersion = some row.version)
    · rw [if_pos guard, get_bind_run] at raised
      by_cases taken : db.holderTaken (row.moved assign observe now)
      · rw [if_pos taken] at raised
        cases raised
        exact .inr ⟨⟨_, rfl⟩, row, rfl, taken⟩
      · rw [if_neg taken] at raised
        cases raised
    · rw [if_neg guard] at raised
      cases raised
      exact .inl rfl

theorem transaction_error {t : TaskId} {expectStates : List TaskState} {expectVersion : Option ℕ}
    {assign : Lifecycle → Lifecycle} {attempted : String} {now : Time} {db : Store} {e : KernelError}
    (raised : transaction t expectStates expectVersion assign attempted now db = .error e) :
    e.isTaskStore := by
  unfold transaction wrapping at raised
  split at raised
  · cases raised
    rfl
  · cases raised
    rfl
  · rename_i quiet _
    rcases transition_error raised with known | ⟨⟨m, rfl⟩, _⟩
    · exact known
    · exact absurd raised (quiet m)

theorem advanceEffect_error {t : TaskId} {n : ℕ} {assign : Effect → Effect}
    {expectStates : List EffectState} {now : Time} {db : Store} {e : KernelError}
    (raised : advanceEffect t n assign expectStates now db = .error e) : e.isTaskStore := by
  simp only [advanceEffect, get_bind_run] at raised
  cases known : db.effect t n with
  | none =>
    simp only [known, throw_run] at raised
    cases raised
    rfl
  | some row =>
    simp only [known] at raised
    by_cases opened : row.state ∈ expectStates
    · rw [if_pos opened] at raised
      cases raised
    · rw [if_neg opened] at raised
      cases raised
      rfl

theorem holderTaken_unheld {row : TaskRow} (db : Store) (unheld : row.state ∉ holderStates) :
    db.holderTaken row = false := by
  simp [Store.holderTaken, unheld]

theorem finish_lost_error {t : TaskId} {result : Option String} {now : Time} {db : Store}
    {e : KernelError} (raised : finish t .lost result none false now db = .error e) :
    e.isTaskStore := by
  have free {assign : Lifecycle → Lifecycle} {attempted : String} {predecessors : List TaskState}
      (unheld : ∀ l, (assign l).state ∉ holderStates)
      (raised : transition t predecessors none assign id attempted now db = .error e) :
      e.isTaskStore := by
    rcases transition_error raised with known | ⟨_, row, _, taken⟩
    · exact known
    · rw [holderTaken_unheld db (unheld row.toLifecycle)] at taken
      exact nomatch taken
  simp only [finish, finishPredecessors, true_or, if_true, recordFailure, get_bind_run] at raised
  cases known : db.task t with
  | none =>
    simp only [known, throw_run] at raised
    cases raised
    rfl
  | some row =>
    simp only [known] at raised
    by_cases spent : row.attempts ≥ row.maxAttempts
    · rw [if_pos spent, throw_bind_run] at raised
      cases raised
      rfl
    · rw [if_neg spent] at raised
      by_cases last : row.attempts + 1 ≥ row.maxAttempts
      · rw [if_pos last] at raised
        exact free (fun _ => by simp [holderStates]) raised
      · rw [if_neg last] at raised
        exact free (fun _ => by simp [holderStates]) raised

/-! ### One reservation -/

def stoppedBy : Event Tx Query → Option WorkspaceId
  | .call (.stopWorkspace _ workspaceId) (.ok ()) => some workspaceId
  | _ => none

/-- Nothing was stopped between two states of a run. -/
def Unstopped (s s' : Shared Tx Query Store γ) : Prop :=
  ∃ events, s'.trace = events ++ s.trace ∧ ∀ e ∈ events, stoppedBy e = none

theorem Unstopped.refl (s : Shared Tx Query Store γ) : Unstopped s s :=
  ⟨[], rfl, by simp⟩

theorem Unstopped.trans {a b c : Shared Tx Query Store γ} (first : Unstopped a b)
    (second : Unstopped b c) : Unstopped a c := by
  obtain ⟨early, left, calm⟩ := first
  obtain ⟨late, right, calm'⟩ := second
  refine ⟨late ++ early, by rw [right, left, List.append_assoc], fun e mem => ?_⟩
  rcases List.mem_append.mp mem with there | there
  · exact calm' e there
  · exact calm e there

theorem Unstopped.commit (s : Shared Tx Query Store γ) (tx : Tx β) :
    Unstopped s (s.commit (kernel py x) tx) :=
  ⟨[.commit tx (tx.exec s.store).2], rfl, by simp [stoppedBy]⟩

theorem Unstopped.call (s : Shared Tx Query Store γ) {q : Query β} {b : β} (env : γ)
    (other : stoppedBy (.call q b) = none) : Unstopped s (s.call q b env) :=
  ⟨[.call q b], rfl, by simpa using other⟩

theorem ends_read_bind {view : Store → α} {f : α → Kernel β} {r : Answer β} :
    ((read view).bind f).Ends (kernel py x) ok s r s' ↔
      ok s (.commit (.read view) (view s.store)) ∧
        (f (view s.store)).Ends (kernel py x) ok (s.commit (kernel py x) (.read view)) r s' :=
  Iff.rfl

theorem stamped_ends {tx : Time → Tx (Answer β)} {r : Answer β}
    (run : (stamped tx).Ends (kernel py x) ok s r s') :
    ∃ now, r = ((tx now).exec s.store).2 ∧ s'.store = ((tx now).exec s.store).1 ∧
      Unstopped s s' := by
  obtain ⟨now, env, _, _, run⟩ := ends_ask_bind.mp run
  obtain ⟨_, answer, left⟩ := ends_run.mp run
  rw [left]
  exact ⟨now, answer, rfl, (Unstopped.call s env rfl).trans (Unstopped.commit _ (tx now))⟩

def Store.retired (db : Store) (seen : TaskRecord) (epoch : ℕ) (moment now : Time) : Store :=
  let retired := retireReservation seen.taskId epoch moment db
  if retired.2.isSome then ((Tx.finishExpired seen now).exec retired.1).1 else retired.1

theorem finishExpired_error {seen : TaskRecord} {now : Time} {db : Store} {e : KernelError}
    (raised : ((Tx.finishExpired seen now).exec db).2 = .error e) : e.isTaskStore := by
  have raised : (atomically (finish seen.taskId .lost (some "reservation expired") none false now)
      db).2 = .error e := raised
  obtain ⟨a, db', _, left⟩ | ⟨e', ran, left⟩ := atomically_cases
    (finish seen.taskId .lost (some "reservation expired") none false now) db
  · rw [left] at raised
    exact nomatch raised
  · rw [left] at raised
    cases raised
    exact finish_lost_error ran

theorem retireExpired_ends {seen : TaskRecord} {n : ℕ} {moment : Time} {r : Answer Unit}
    (run : (retireExpired seen n moment).Ends (kernel py x) ok s r s') :
    (∃ now, s'.store = s.store.retired seen n moment now) ∧ Unstopped s s' ∧
      (r = .ok () ∨ ∃ e, r = .error e ∧ e.isTaskStore) := by
  unfold retireExpired at run
  simp only [bind_eq, pure_eq] at run
  have rest := (ends_commit_bind.mp run).2
  have calm : Unstopped s (s.commit (kernel py x) (.retireReservation seen.taskId n moment)) :=
    Unstopped.commit s _
  unfold Store.retired
  split at rest
  · rename_i taken
    have taken : (retireReservation seen.taskId n moment s.store).2.isSome := taken
    simp only [if_pos taken]
    obtain ⟨answer, finished, same⟩ := ends_bind_ret.mp rest
    obtain ⟨now, result, left, calm'⟩ := stamped_ends finished
    refine ⟨⟨now, left⟩, calm.trans calm', ?_⟩
    rw [same]
    cases answer with
    | ok record => exact .inl rfl
    | error e => exact .inr ⟨e, rfl, finishExpired_error result.symm⟩
  · rename_i kept
    obtain ⟨same, left⟩ := rest
    have kept : ¬ (retireReservation seen.taskId n moment s.store).2.isSome := kept
    simp only [if_neg kept]
    rw [left]
    exact ⟨⟨0, rfl⟩, calm, .inl same⟩

/-- What `_native_effect` makes of an answer; `none` is absence. -/
def readEffect (py : Library) : Answer Native → Answer (Option Native)
  | .ok native => .ok (if native.state ∈ absentStates then none else some native)
  | .error (.cdesktop failure text) =>
    if isEffectNotFound py failure text then .ok none else .error (.unknowable text)
  | .error e => .error e

theorem nativeEffect_ends {t : TaskId} {n : ℕ} {r : Answer (Option Native)}
    (run : (nativeEffect py t n).Ends (kernel py x) ok s r s') :
    ∃ answer env, x.answer s.env (.managedEffect t n) answer env ∧
      ok s (.call (.managedEffect t n) answer) ∧ r = readEffect py answer ∧
      s' = s.call (.managedEffect t n) answer env := by
  unfold nativeEffect at run
  simp only [bind_eq, pure_eq, throw_eq] at run
  obtain ⟨answer, env, answered, allowed, rest⟩ := ends_ask_bind.mp run
  have reads : r = readEffect py answer ∧ s' = s.call (.managedEffect t n) answer env := by
    unfold readEffect
    cases answer with
    | ok native =>
      dsimp only at rest ⊢
      split at rest
      · rename_i absent
        have absent : native.state ∈ absentStates := absent
        rw [if_pos absent]
        exact rest
      · rename_i present
        have present : ¬ native.state ∈ absentStates := present
        rw [if_neg present]
        exact rest
    | error e =>
      cases e with
      | cdesktop failure text =>
        dsimp only at rest ⊢
        split at rest
        · rename_i missing
          rw [if_pos missing]
          exact rest
        · rename_i other
          rw [if_neg other]
          exact rest
      | _ => exact rest
  exact ⟨answer, env, answered, allowed, reads.1, reads.2⟩

def Store.adopted (db : Store) (seen : TaskRecord) (epoch : ℕ) (native : Native)
    (now now' : Time) : Store :=
  let marked := (Tx.markLaunched seen.taskId epoch native.workspaceId native.sessionId now).exec db
  match marked.2 with
  | .ok _ => ((Tx.activate .adoptExpired seen native.workspaceId native.sessionId now').exec
      marked.1).1
  | .error _ => marked.1

/-- What the sweep makes of one reservation, by what the executor answers about it. -/
inductive Store.Swept (py : Library) (t : TaskId) (n : ℕ) (moment : Time)
    (asked : Answer Native → Prop) (db : Store) : Store → Prop where
  | unowned : db.task t = none → db.Swept py t n moment asked (retireReservation t n moment db).1
  | skipped {row : TaskRow} : db.task t = some row → row.epoch ≠ n →
      db.Swept py t n moment asked db
  | unknown {row : TaskRow} {answer : Answer Native} {e : KernelError} : db.task t = some row →
      row.epoch = n → asked answer → readEffect py answer = .error e →
      db.Swept py t n moment asked db
  | adopted {row : TaskRow} {answer : Answer Native} {native : Native} (now now' : Time) :
      db.task t = some row → row.epoch = n → asked answer →
      readEffect py answer = .ok (some native) → native.live →
      db.Swept py t n moment asked (db.adopted row.toTaskRecord n native now now')
  | retired {row : TaskRow} {answer : Answer Native} {found : Option Native} (now : Time) :
      db.task t = some row → row.epoch = n → asked answer → readEffect py answer = .ok found →
      (∀ native ∈ found, native.live = false) →
      db.Swept py t n moment asked (db.retired row.toTaskRecord n moment now)

theorem markLaunched_error {t : TaskId} {n : ℕ} {workspaceId : WorkspaceId} {sessionId : SessionId}
    {now : Time} {db : Store} {e : KernelError}
    (raised : ((Tx.markLaunched t n workspaceId sessionId now).exec db).2 = .error e) :
    e.isTaskStore := by
  have raised : (atomically (markLaunched t n workspaceId sessionId now) db).2 = .error e := raised
  obtain ⟨a, db', _, left⟩ | ⟨e', ran, left⟩ :=
    atomically_cases (markLaunched t n workspaceId sessionId now) db
  · rw [left] at raised
    exact nomatch raised
  · rw [left] at raised
    cases raised
    exact advanceEffect_error ran

theorem activate_error {site : ActivateSite} {seen : TaskRecord} {workspaceId : WorkspaceId}
    {sessionId : SessionId} {now : Time} {db : Store} {e : KernelError}
    (raised : ((Tx.activate site seen workspaceId sessionId now).exec db).2 = .error e) :
    e.isTaskStore := by
  have raised : (atomically (activate seen.taskId workspaceId sessionId now) db).2 = .error e :=
    raised
  obtain ⟨a, db', _, left⟩ | ⟨e', ran, left⟩ :=
    atomically_cases (activate seen.taskId workspaceId sessionId now) db
  · rw [left] at raised
    exact nomatch raised
  · rw [left] at raised
    cases raised
    exact transaction_error ran

theorem adopt_ends {seen : TaskRecord} {n : ℕ} {native : Native} {r : Answer (Option Effect)}
    (run : ((stamped (.markLaunched seen.taskId n native.workspaceId native.sessionId)).bind
      fun _ => (stamped (.activate .adoptExpired seen native.workspaceId native.sessionId)).bind
        fun _ => ret none : Kernel (Option Effect)).Ends (kernel py x) ok s r s') :
    (∃ now now', s'.store = s.store.adopted seen n native now now') ∧ Unstopped s s' ∧
      (r = .ok none ∨ ∃ e, r = .error e ∧ e.isTaskStore) := by
  unfold Store.adopted
  dsimp only
  rcases ends_bind.mp run with ⟨effect, mid, first, rest⟩ | ⟨e, first, same⟩
  · obtain ⟨now, result, left, calm⟩ := stamped_ends first
    obtain ⟨answer, second, same⟩ := ends_bind_ret.mp rest
    obtain ⟨now', result', left', calm'⟩ := stamped_ends second
    refine ⟨⟨now, now', ?_⟩, calm.trans calm', ?_⟩
    · rw [← result, left', left]
    · rw [same]
      cases answer with
      | ok record => exact .inl rfl
      | error e => exact .inr ⟨e, rfl, activate_error result'.symm⟩
  · obtain ⟨now, result, left, calm⟩ := stamped_ends first
    refine ⟨⟨now, now, ?_⟩, calm, .inr ⟨e, same, markLaunched_error result.symm⟩⟩
    rw [← result, left]

theorem unmoved_self {db : Store} {t : TaskId} {row : TaskRow} (known : db.task t = some row) :
    unmoved (db.getById t) row.toTaskRecord = true := by
  simp [Store.getById, known, unmoved]

theorem live_iff (native : Native) : native.live = true ↔
    native.state = "active" ∧ native.workspaceId ≠ "" ∧ native.sessionId ≠ "" := by
  simp [Native.live, and_assoc]

/-- The executor gave this answer to the lookup in the run. -/
def Asked (x : Executor γ) (ok : Shared Tx Query Store γ → Event Tx Query → Prop) (t : TaskId)
    (n : ℕ) (answer : Answer Native) : Prop :=
  ∃ s env, x.answer s.env (.managedEffect t n) answer env ∧ ok s (.call (.managedEffect t n) answer)

theorem expireLocked_ends {t : TaskId} {n : ℕ} {moment : Time} {r : Answer (Option Effect)}
    (run : (expireLocked py t n moment).Ends (kernel py x) ok s r s') :
    s.store.Swept py t n moment (Asked x ok t n) s'.store ∧ Unstopped s s' ∧
      (r = .ok none ∨ ∃ e, r = .error e ∧ (e.isTaskStore ∨
        ∃ answer, Asked x ok t n answer ∧ readEffect py answer = .error e)) := by
  unfold expireLocked at run
  simp only [bind_eq, pure_eq] at run
  have rest := (ends_read_bind.mp run).2
  have calm : Unstopped s (s.commit (kernel py x) (.read fun db => db.getById t)) :=
    Unstopped.commit s _
  cases known : s.store.task t with
  | none =>
    simp only [Store.getById, known, Option.map_none] at rest
    obtain ⟨answer, retired, same⟩ := ends_bind_ret.mp rest
    obtain ⟨_, result, left⟩ := ends_commit'.mp retired
    rw [left]
    refine ⟨.unowned known, calm.trans (Unstopped.commit _ _), .inl ?_⟩
    rw [same, result]
    rfl
  | some row =>
    have named : row.taskId = t := Store.taskId_of_task known
    simp only [Store.getById, known, Option.map_some] at rest
    split at rest
    · rename_i other
      obtain ⟨same, left⟩ := rest
      rw [left]
      exact ⟨.skipped known other, calm, .inl same⟩
    · rename_i current
      have current : row.epoch = n := not_not.mp current
      simp only [externalIo] at rest
      rcases ends_bind.mp rest with ⟨found, mid, asking, rest⟩ | ⟨e, asking, same⟩
      · obtain ⟨answer, env, answered, allowed, reads, rfl⟩ :=
          nativeEffect_ends (ends_released.mp asking)
        have asked : Asked x ok t n answer := ⟨_, env, answered, allowed⟩
        have calm := calm.trans (Unstopped.call _ env (q := .managedEffect t n) (b := answer) rfl)
        have rest := (ends_read_bind.mp rest).2
        have calm : Unstopped s (Shared.commit (kernel py x) _
            (.read fun db => (db.task t).map TaskRow.toTaskRecord)) :=
          calm.trans (Unstopped.commit _ _)
        have retires (kept : ∀ native ∈ found, native.live = false) {m : Shared Tx Query Store γ}
            (rest : ((retireExpired row.toTaskRecord n moment).bind fun _ => ret none :
              Kernel (Option Effect)).Ends (kernel py x) ok m r s')
            (store : m.store = s.store) (calm : Unstopped s m) :
            s.store.Swept py t n moment (Asked x ok t n) s'.store ∧ Unstopped s s' ∧
              (r = .ok none ∨ ∃ e, r = .error e ∧ (e.isTaskStore ∨
                ∃ answer, Asked x ok t n answer ∧ readEffect py answer = .error e)) := by
          obtain ⟨result, retired, same⟩ := ends_bind_ret.mp rest
          obtain ⟨⟨now, left⟩, calm', outcome⟩ := retireExpired_ends retired
          rw [left, store]
          refine ⟨.retired now known current asked reads.symm kept, calm.trans calm', ?_⟩
          rcases outcome with rfl | ⟨e, rfl, stays⟩
          · exact .inl same
          · exact .inr ⟨e, same, .inl stays⟩
        split at rest
        · cases found with
          | none => exact retires (by simp) rest rfl calm
          | some native =>
            dsimp only at rest
            split at rest
            · rename_i live
              subst named
              obtain ⟨⟨now, now', left⟩, calm', outcome⟩ := adopt_ends rest
              rw [left]
              refine ⟨.adopted now now' known current asked reads.symm ((live_iff native).mpr live),
                calm.trans calm', ?_⟩
              rcases outcome with same | ⟨e, same, stays⟩
              · exact .inl same
              · exact .inr ⟨e, same, .inl stays⟩
            · rename_i dead
              refine retires (fun other there => ?_) rest rfl calm
              cases there
              exact Bool.eq_false_iff.mpr fun live => dead ((live_iff native).mp live)
        · rename_i moved
          exact absurd (unmoved_self known) moved
      · obtain ⟨answer, env, answered, allowed, reads, left⟩ :=
          nativeEffect_ends (ends_released.mp asking)
        have asked : Asked x ok t n answer := ⟨_, env, answered, allowed⟩
        rw [left]
        refine ⟨.unknown known current asked reads.symm,
          calm.trans (Unstopped.call _ env rfl), .inr ⟨e, same, .inr ⟨answer, asked, reads.symm⟩⟩⟩

theorem expireReservation_ends {t : TaskId} {n : ℕ} {moment : Time} {r : Answer Unit}
    (run : (expireReservation py moment (t, n)).Ends (kernel py x) ok s r s') :
    s.store.Swept py t n moment (Asked x ok t n) s'.store ∧ Unstopped s s' ∧
      (r = .ok () ∨ ∃ answer e, Asked x ok t n answer ∧ readEffect py answer = .error e ∧
        e.skipsReservation = false ∧ r = .error e) := by
  unfold expireReservation excepting at run
  simp only [bind_eq, pure_eq, taskLock] at run
  have skips {e : KernelError} (stays : e.isTaskStore) : e.skipsReservation := by
    cases e with
    | unknowable => rfl
    | _ => exact stays
  have quiet {m : Shared Tx Query Store γ} {found : Option Effect}
      (locked : (Prog.handle (withLock (.task t) (expireLocked py t n moment)) fun e =>
        if e.skipsReservation then .ret none else .fail e).Ends (kernel py x) ok s (.ok found) m) :
      s.store.Swept py t n moment (Asked x ok t n) m.store ∧ Unstopped s m ∧ found = none := by
    rcases ends_handle.mp locked with ⟨a, done, same⟩ | ⟨e, mid, raised, rest⟩
    · obtain ⟨swept, calm, outcome⟩ := expireLocked_ends (ends_withLock.mp done)
      refine ⟨swept, calm, ?_⟩
      rcases outcome with there | ⟨e, there, _⟩
      · cases same
        exact Except.ok.inj there
      · exact nomatch there
    · obtain ⟨swept, calm, _⟩ := expireLocked_ends (ends_withLock.mp raised)
      split at rest
      · obtain ⟨same, rfl⟩ := rest
        exact ⟨swept, calm, Except.ok.inj same⟩
      · exact nomatch rest.1
  rcases ends_bind.mp run with ⟨found, mid, locked, rest⟩ | ⟨e, locked, same⟩
  · obtain ⟨swept, calm, rfl⟩ := quiet locked
    obtain ⟨same, left⟩ := rest
    rw [left]
    exact ⟨swept, calm, .inl same⟩
  · rcases ends_handle.mp locked with ⟨a, _, there⟩ | ⟨e', mid, raised, rest⟩
    · exact nomatch there
    · obtain ⟨swept, calm, outcome⟩ := expireLocked_ends (ends_withLock.mp raised)
      split at rest
      · exact nomatch rest.1
      · rename_i leaves
        obtain ⟨there, rfl⟩ := rest
        cases there
        refine ⟨swept, calm, .inr ?_⟩
        rcases outcome with there | ⟨e'', there, stays | ⟨answer, asked, reads⟩⟩
        · exact nomatch there
        · cases there
          exact absurd (skips stays) leaves
        · cases there
          exact ⟨answer, e, asked, reads, Bool.eq_false_iff.mpr leaves, same⟩

/-! ### The reservation -/

theorem mem_expiredReservations {db : Store} {moment : Time} {t : TaskId} {n : ℕ} :
    (t, n) ∈ db.expiredReservations moment ↔ ∃ effect, db.effect t n = some effect ∧
      effect.state = .reserved ∧ effect.leaseExpiresAt < moment := by
  simp only [Store.expiredReservations, List.mem_map, List.mem_filter, Bool.and_eq_true,
    decide_eq_true_eq]
  constructor
  · rintro ⟨effect, ⟨mem, reserved, expired⟩, named⟩
    have known : db.effects.get (t, n) = some effect := Table.get_eq_some_iff.mpr ⟨mem, named⟩
    exact ⟨effect, known, reserved, expired⟩
  · rintro ⟨effect, known, reserved, expired⟩
    obtain ⟨mem, named⟩ := Table.get_eq_some_iff.mp known
    exact ⟨effect, ⟨mem, reserved, expired⟩, named⟩

theorem retireReservation_due {db : Store} {t : TaskId} {n : ℕ} {moment : Time} {effect : Effect}
    (known : db.effect t n = some effect) (reserved : effect.state = .reserved)
    (expired : effect.leaseExpiresAt < moment) :
    ((retireReservation t n moment db).1).effect t n = some { effect with
      state := .terminal, outcome := some "lost:reservation-expired", updatedAt := moment } := by
  have key : (t, n) = effect.key := (Store.key_of_effect known).symm
  simp only [retireReservation, known, if_pos (And.intro reserved expired)]
  exact (Store.effect_putEffect db _ t n).trans (if_pos key)

theorem retired_effect {db : Store} (seen : TaskRecord) {n : ℕ} {moment : Time} (now : Time)
    {effect : Effect} (known : db.effect seen.taskId n = some effect)
    (reserved : effect.state = .reserved) (expired : effect.leaseExpiresAt < moment) :
    (db.retired seen n moment now).effect seen.taskId n = some { effect with
      state := .terminal, outcome := some "lost:reservation-expired", updatedAt := moment } := by
  have due := retireReservation_due known reserved expired
  unfold Store.retired
  dsimp only
  split
  · have same := congrArg Store.effects ((Tx.finishExpired seen now).exec_only
      (retireReservation seen.taskId n moment db).1)
    rw [Store.effect, same]
    exact due
  · exact due

theorem adopted_effect {db : Store} (seen : TaskRecord) {n : ℕ} (native : Native)
    (now now' : Time) {effect : Effect} (known : db.effect seen.taskId n = some effect)
    (reserved : effect.state = .reserved) :
    ∃ next, (db.adopted seen n native now now').effect seen.taskId n = some next ∧
      next.state = .launched ∧ next.workspaceId = some native.workspaceId ∧
      next.sessionId = some native.sessionId := by
  let next : Effect := { effect with
    state := .launched, workspaceId := some native.workspaceId, sessionId := some native.sessionId
    updatedAt := now }
  have key : (seen.taskId, n) = next.key := (Store.key_of_effect known).symm
  have expected : effect.state ∈ [EffectState.reserved, .launched] := by
    rw [reserved]
    exact List.mem_cons_self
  have ran : markLaunched seen.taskId n native.workspaceId native.sessionId now db =
      .ok (next, db.putEffect next) := by
    simp only [markLaunched, advanceEffect, get_bind_run, known, if_pos expected]
    rfl
  have marked : (Tx.markLaunched seen.taskId n native.workspaceId native.sessionId now).exec db =
      (db.putEffect next, .ok next) := atomically_ok ran
  refine ⟨next, ?_, rfl, rfl, rfl⟩
  simp only [Store.adopted, marked]
  have same := congrArg Store.effects ((Tx.activate .adoptExpired seen native.workspaceId
    native.sessionId now').exec_only (db.putEffect next))
  rw [Store.effect, same]
  exact (Store.effect_putEffect db next _ _).trans (if_pos key)

end SightMesh
