import SightMesh.Properties.ExpirySweep

/-! What a whole sweep leaves of a launch whose answer was lost. -/
namespace SightMesh

open Concurrency Database Python Prog

variable {γ β : Type} {py : Library} {x : Executor γ}
  {ok : Shared Tx Query Store γ → Event Tx Query → Prop} {s s' : Shared Tx Query Store γ}

/-! ### A reservation names no session -/

/-- The journal names a workspace or a session only once it has been told of one. -/
def Store.ReservedBlank (db : Store) : Prop :=
  ∀ t n effect, db.effect t n = some effect → effect.state = .reserved →
    effect.workspaceId = none ∧ effect.sessionId = none

theorem Tx.Marks.reserved_blank {tx : Tx β} {answer : β} {row next : Effect}
    (marks : tx.Marks row next answer) (reserved : next.state = .reserved) :
    row.state = .reserved ∧ next.workspaceId = row.workspaceId ∧ next.sessionId = row.sessionId := by
  cases tx with
  | reserve | markRefused =>
    rcases answer with _ | _
    · exact marks.elim
    · obtain ⟨_, state, rfl⟩ := marks
      exact ⟨state, rfl, rfl⟩
  | markLaunched | markTerminal | markSuperseded =>
    rcases answer with _ | _
    · exact marks.elim
    · obtain ⟨_, _, rfl⟩ := marks
      exact nomatch reserved
  | markCleanupWorkspace =>
    rcases answer with _ | _
    · exact marks.elim
    · obtain ⟨_, state, rfl⟩ := marks
      exact nomatch state.symm.trans reserved
  | retireReservation =>
    rcases answer with _ | _
    · exact marks.elim
    · obtain ⟨_, _, _, rfl⟩ := marks
      exact nomatch reserved
  | acknowledgeStop =>
    obtain ⟨_, state, _, rfl⟩ := marks
    exact nomatch state.symm.trans reserved
  | recordLoss =>
    rcases answer with _ | _
    · exact marks.elim
    · obtain ⟨_, _, rfl⟩ := marks
      exact nomatch reserved
  | _ => exact marks.elim

theorem Tx.Opens.blank {tx : Tx β} {effect : Effect} (opens : tx.Opens effect) :
    effect.workspaceId = none ∧ effect.sessionId = none := by
  cases tx with
  | reserve =>
    have opens : effect = _ := opens
    rw [opens]
    exact ⟨rfl, rfl⟩
  | _ => exact opens.elim

theorem reservedBlank_after {db : Store} (blank : db.ReservedBlank) (tx : Tx β) :
    (tx.exec db).1.ReservedBlank := by
  intro t n next known reserved
  cases before : db.effect t n with
  | none => exact ((tx.exec_journal db).opened t n next before known).blank
  | some row =>
    obtain ⟨next', found, step⟩ := (tx.exec_journal db).kept t n row before
    cases Option.some.inj (known.symm.trans found)
    rcases step with same | marks
    · rw [same] at reserved ⊢
      exact blank t n row before reserved
    · obtain ⟨state, workspace, session⟩ := marks.reserved_blank reserved
      rw [workspace, session]
      exact blank t n row before state

theorem reachable_reservedBlank {w : World KernelError Tx Query LockKey Store γ}
    (reached : Reachable (kernel py x) ok w) : w.shared.store.ReservedBlank := by
  apply run_invariant (I := fun s => s.store.ReservedBlank) ?_ ?_ ?_ reached
  · intro ownershipShared e t n effect known
    exact nomatch known
  · intro H s β tx _ _ _ blank
    exact reservedBlank_after blank tx
  · intro s β q b env _ _ blank
    exact blank

/-! ### The other reservations of a sweep -/

/-- The effect of one reservation stays, and so does the epoch of its task. -/
structure Store.Spares (t : TaskId) (n : ℕ) (a b : Store) : Prop where
  effect : ∀ e, a.effect t n = some e → b.effect t n = some e
  epoch : (b.task t).map (fun row => row.epoch) = (a.task t).map fun row => row.epoch

theorem Store.Spares.refl (t : TaskId) (n : ℕ) (db : Store) : db.Spares t n db :=
  ⟨fun _ known => known, rfl⟩

theorem Store.Spares.trans {t : TaskId} {n : ℕ} {a b c : Store} (first : Store.Spares t n a b)
    (second : Store.Spares t n b c) : Store.Spares t n a c :=
  ⟨fun e known => second.effect e (first.effect e known), second.epoch.trans first.epoch⟩

theorem Tx.keeps_epoch (tx : Tx β) (db : Store) (t : TaskId) (opens : tx.opensEpoch = false)
    (inserts : tx.inserts = false) :
    ((tx.exec db).1.task t).map (fun row => row.epoch) = (db.task t).map fun row => row.epoch := by
  cases known : db.task t with
  | none => rw [(tx.exec_rows db inserts).fresh t known]
  | some row =>
    obtain ⟨next, found, step⟩ := tx.exec_task known
    rw [found]
    simp only [Option.map_some, Option.some.injEq]
    apply le_antisymm _ step.epoch
    by_contra rises
    have opened := (step.opens (Nat.lt_of_not_le rises)).1
    rw [opens] at opened
    exact nomatch opened

theorem Tx.keeps_effect (tx : Tx β) {db : Store} {t : TaskId} {n : ℕ} {e : Effect}
    (known : db.effect t n = some e)
    (elsewhere : ∀ next answer, tx.Marks e next answer → e.key ≠ (t, n)) :
    (tx.exec db).1.effect t n = some e := by
  obtain ⟨next, found, rfl | marks⟩ := (tx.exec_journal db).kept t n e known
  · exact found
  · exact absurd (Store.key_of_effect known) (elsewhere next _ marks)

theorem retireReservation_spares {t t' : TaskId} {n n' : ℕ} (moment : Time) (db : Store)
    (other : (t', n') ≠ (t, n)) : db.Spares t n (retireReservation t' n' moment db).1 := by
  constructor
  · intro e known
    exact Tx.keeps_effect (.retireReservation t' n' moment) known fun next answer marks => by
      rcases answer with _ | _
      · exact marks.elim
      · rw [marks.1]
        exact other
  · exact Tx.keeps_epoch (.retireReservation t' n' moment) db t rfl rfl

theorem markLaunched_spares {t t' : TaskId} {n n' : ℕ} (workspaceId : WorkspaceId)
    (sessionId : SessionId) (now : Time) (db : Store) (other : (t', n') ≠ (t, n)) :
    db.Spares t n ((Tx.markLaunched t' n' workspaceId sessionId now).exec db).1 := by
  constructor
  · intro e known
    exact Tx.keeps_effect (.markLaunched t' n' workspaceId sessionId now) known
      fun next answer marks => by
        rcases answer with _ | _
        · exact marks.elim
        · rw [marks.1]
          exact other
  · exact Tx.keeps_epoch (.markLaunched t' n' workspaceId sessionId now) db t rfl rfl

theorem finishExpired_spares (t : TaskId) (n : ℕ) (seen : TaskRecord) (now : Time) (db : Store) :
    db.Spares t n ((Tx.finishExpired seen now).exec db).1 :=
  ⟨fun _ known => Tx.keeps_effect (.finishExpired seen now) known fun _ _ marks => marks.elim,
    Tx.keeps_epoch (.finishExpired seen now) db t rfl rfl⟩

theorem activate_spares (t : TaskId) (n : ℕ) (site : ActivateSite) (seen : TaskRecord)
    (workspaceId : WorkspaceId) (sessionId : SessionId) (now : Time) (db : Store) :
    db.Spares t n ((Tx.activate site seen workspaceId sessionId now).exec db).1 :=
  ⟨fun _ known => Tx.keeps_effect (.activate site seen workspaceId sessionId now) known
      fun _ _ marks => marks.elim,
    Tx.keeps_epoch (.activate site seen workspaceId sessionId now) db t rfl rfl⟩

theorem retired_spares {t : TaskId} {n n' : ℕ} {seen : TaskRecord} (moment now : Time) (db : Store)
    (other : (seen.taskId, n') ≠ (t, n)) : db.Spares t n (db.retired seen n' moment now) := by
  have retired := retireReservation_spares moment db other
  unfold Store.retired
  dsimp only
  split
  · exact retired.trans (finishExpired_spares ..)
  · exact retired

theorem adopted_spares {t : TaskId} {n n' : ℕ} {seen : TaskRecord} {native : Native}
    (now now' : Time) (db : Store) (other : (seen.taskId, n') ≠ (t, n)) :
    db.Spares t n (db.adopted seen n' native now now') := by
  have marked := markLaunched_spares native.workspaceId native.sessionId now db other
  unfold Store.adopted
  dsimp only
  split
  · exact marked.trans (activate_spares ..)
  · exact marked

theorem Store.Swept.spares {t t' : TaskId} {n n' : ℕ} {moment : Time} {asked : Answer Native → Prop}
    {a b : Store} (swept : a.Swept py t' n' moment asked b) (other : (t', n') ≠ (t, n)) :
    a.Spares t n b := by
  cases swept with
  | unowned => exact retireReservation_spares moment a other
  | skipped | unknown => exact .refl t n a
  | adopted now now' known =>
    rw [← Store.taskId_of_task known] at other
    exact adopted_spares now now' a other
  | retired now known =>
    rw [← Store.taskId_of_task known] at other
    exact retired_spares moment now a other

/-! ### The whole sweep -/

/-- The executor answers everything the sweep asks: the lookups definitively, and the one of the
reservation with what it knows of the launch. The lease has run out by the clock. -/
def Answers (py : Library) (t : TaskId) (n : ℕ) (lease : Time) (native : Native)
    (_ : Shared Tx Query Store γ) : Event Tx Query → Prop
  | .call .clock now => lease < now
  | .call (.managedEffect taskId epoch) answer => (∃ found, readEffect py answer = .ok found) ∧
    ((taskId, epoch) = (t, n) → answer = .ok native)
  | .call (.stopWorkspace _ _) answer => answer = .ok ()
  | _ => True

theorem Asked.answers {t t' : TaskId} {n n' : ℕ} {lease : Time} {native : Native}
    {answer : Answer Native} (asked : Asked x (Answers py t n lease native) t' n' answer) :
    (∃ found, readEffect py answer = .ok found) ∧ ((t', n') = (t, n) → answer = .ok native) := by
  obtain ⟨_, _, _, allowed⟩ := asked
  exact allowed

theorem round_ends {t t' : TaskId} {n n' : ℕ} {lease moment : Time} {native : Native}
    {r : Answer Unit} (run : (expireReservation py moment (t', n')).Ends (kernel py x)
      (Answers py t n lease native) s r s') :
    s.store.Swept py t' n' moment (Asked x (Answers py t n lease native) t' n') s'.store ∧
      Unstopped s s' ∧ r = .ok () := by
  obtain ⟨swept, calm, outcome⟩ := expireReservation_ends run
  refine ⟨swept, calm, ?_⟩
  rcases outcome with done | ⟨answer, e, asked, failed, _⟩
  · exact done
  · obtain ⟨⟨found, reads⟩, _⟩ := asked.answers
    exact nomatch failed.symm.trans reads

theorem others_end {t : TaskId} {n : ℕ} {lease moment : Time} {native : Native}
    {candidates : List (TaskId × ℕ)} (absent : (t, n) ∉ candidates) {r : Answer Unit}
    (run : (forEach candidates (expireReservation py moment)).Ends (kernel py x)
      (Answers py t n lease native) s r s') :
    s.store.Spares t n s'.store ∧ Unstopped s s' ∧ r = .ok () := by
  induction candidates generalizing s with
  | nil =>
    obtain ⟨done, left⟩ := run
    rw [left]
    exact ⟨.refl t n s.store, .refl s, done⟩
  | cons c candidates ih =>
    simp only [List.mem_cons, not_or] at absent
    obtain ⟨other, absent⟩ := absent
    rcases ends_bind.mp run with ⟨_, mid, first, rest⟩ | ⟨e, first, _⟩
    · obtain ⟨swept, calm, _⟩ := round_ends first
      obtain ⟨spares, calm', done⟩ := ih absent rest
      exact ⟨(swept.spares fun same => other same.symm).trans spares, calm.trans calm', done⟩
    · exact nomatch (round_ends first).2.2

theorem sweep_ends {t : TaskId} {n : ℕ} {lease moment : Time} {native : Native}
    {candidates : List (TaskId × ℕ)} (listed : (t, n) ∈ candidates) (once : candidates.Nodup)
    {r : Answer Unit} (run : (forEach candidates (expireReservation py moment)).Ends (kernel py x)
      (Answers py t n lease native) s r s') :
    ∃ a b, s.store.Spares t n a ∧
      a.Swept py t n moment (Asked x (Answers py t n lease native) t n) b ∧
      b.Spares t n s'.store ∧ Unstopped s s' := by
  induction candidates generalizing s with
  | nil => exact absurd listed List.not_mem_nil
  | cons c candidates ih =>
    obtain ⟨fresh, once⟩ := List.nodup_cons.mp once
    rcases ends_bind.mp run with ⟨_, mid, first, rest⟩ | ⟨e, first, _⟩
    · obtain ⟨swept, calm, _⟩ := round_ends first
      rcases List.mem_cons.mp listed with same | later
      · rw [← same] at fresh swept
        obtain ⟨spares, calm', _⟩ := others_end fresh rest
        exact ⟨_, _, .refl t n s.store, swept, spares, calm.trans calm'⟩
      · have other : c ≠ (t, n) := by
          rintro rfl
          exact fresh later
        obtain ⟨a, b, before, turn, after, calm'⟩ := ih later once rest
        exact ⟨a, b, (swept.spares other).trans before, turn, after, calm.trans calm'⟩
    · exact nomatch (round_ends first).2.2

/-- The launch is behind no reservation any more: its effect names what was launched, or has ended
with the workspace stopped on the way or recorded for a later stop. -/
def LaunchSettled (t : TaskId) (n : ℕ) (native : Native) (s s' : Shared Tx Query Store γ) : Prop :=
  ∃ effect, s'.store.effect t n = some effect ∧
    (effect.state = .launched ∧ effect.workspaceId = some native.workspaceId ∧
        effect.sessionId = some native.sessionId ∨
      effect.state = .terminal ∧ (effect.workspaceId = some native.workspaceId ∨
        ∃ e ∈ s'.trace.take (s'.trace.length - s.trace.length),
          stoppedBy e = some native.workspaceId))

theorem Unstopped.none_stopped (calm : Unstopped s s') {e : Event Tx Query}
    (mem : e ∈ s'.trace.take (s'.trace.length - s.trace.length)) : stoppedBy e = none := by
  obtain ⟨events, left, quiet⟩ := calm
  rw [left] at mem
  apply quiet e
  simpa using mem

theorem expiredReservations_nodup (db : Store) (moment : Time) :
    (db.expiredReservations moment).Nodup :=
  (List.filter_sublist.map Effect.key).nodup db.effects.unique

theorem readEffect_ok {native : Native} {found : Option Native}
    (reads : readEffect py (.ok native) = .ok found) :
    found = none ∧ native.state ∈ absentStates ∨ found = some native := by
  rw [readEffect] at reads
  split at reads
  · rename_i absent
    exact .inl ⟨(Except.ok.inj reads).symm, absent⟩
  · exact .inr (Except.ok.inj reads).symm

/-- A sweep that the executor answers, while nothing else runs, settles a launch whose answer was
lost exactly when its task is still in the epoch of the launch, and the launch has a session. -/
theorem lost_launch_settles_iff {w : World KernelError Tx Query LockKey Store γ}
    (reached : Reachable (kernel py x) anyEvent w) {t : TaskId} {n : ℕ} {effect : Effect}
    (known : w.shared.store.effect t n = some effect) (reserved : effect.state = .reserved)
    {native : Native} (placed : native.workspaceId ≠ "") {r : Answer Unit}
    (run : (expireReservations py).Ends (kernel py x)
      (Answers py t n effect.leaseExpiresAt native) w.shared r s') :
    LaunchSettled t n native w.shared s' ↔
      (w.shared.store.task t).map (fun row => row.epoch) = some n ∧ native.state = "active" ∧
        native.sessionId ≠ "" := by
  obtain ⟨moment, env, _, expired, run⟩ := ends_ask_bind.mp run
  have run := (ends_read_bind.mp run).2
  have expired : effect.leaseExpiresAt < moment := expired
  have listed : (t, n) ∈ w.shared.store.expiredReservations moment :=
    mem_expiredReservations.mpr ⟨effect, known, reserved, expired⟩
  obtain ⟨a, b, before, swept, after, calm⟩ :=
    sweep_ends listed (expiredReservations_nodup w.shared.store moment) run
  have calm : Unstopped w.shared s' :=
    ((Unstopped.call w.shared env rfl).trans (Unstopped.commit _ _)).trans calm
  have there : a.effect t n = some effect := before.effect effect known
  have blank := (reachable_reservedBlank reached t n effect known reserved).1
  have epoch : (a.task t).map (fun row => row.epoch) =
    (w.shared.store.task t).map fun row => row.epoch := before.epoch
  have ended {next : Effect} (left : b.effect t n = some next) (nowhere : next.workspaceId = none)
      (unlaunched : next.state ≠ .launched) : ¬ LaunchSettled t n native w.shared s' := by
    rintro ⟨other, found, ⟨launched, _⟩ | ⟨_, named | ⟨e, mem, stopped⟩⟩⟩
    · cases Option.some.inj ((after.effect next left).symm.trans found)
      exact unlaunched launched
    · cases Option.some.inj ((after.effect next left).symm.trans found)
      exact nomatch nowhere.symm.trans named
    · exact nomatch (calm.none_stopped mem).symm.trans stopped
  rw [← epoch]
  cases swept with
  | unowned absent =>
    have unsettled := ended (retireReservation_due there reserved expired) blank
      (fun same => nomatch same)
    rw [absent]
    exact ⟨fun settled => absurd settled unsettled, fun right => nomatch right.1⟩
  | skipped found other =>
    have unsettled := ended there blank (fun same => nomatch same.symm.trans reserved)
    rw [found]
    exact ⟨fun settled => absurd settled unsettled,
      fun right => absurd (Option.some.inj right.1) other⟩
  | unknown found current asked failed =>
    obtain ⟨⟨_, reads⟩, _⟩ := asked.answers
    exact nomatch failed.symm.trans reads
  | @adopted row answer other now now' found current asked reads live =>
    rw [asked.answers.2 rfl] at reads
    rcases readEffect_ok reads with ⟨absent, _⟩ | same
    · exact nomatch absent
    · cases same
      have named : row.taskId = t := Store.taskId_of_task found
      subst named
      obtain ⟨next, left, launched, ids⟩ :=
        adopted_effect row.toTaskRecord native now now' there reserved
      have up := (live_iff native).mp live
      rw [found]
      exact ⟨fun _ => ⟨congrArg some current, up.1, up.2.2⟩,
        fun _ => ⟨next, after.effect next left, .inl ⟨launched, ids⟩⟩⟩
  | @retired row answer found now owned current asked reads dead =>
    have named : row.taskId = t := Store.taskId_of_task owned
    subst named
    have unsettled := ended
      (retired_effect row.toTaskRecord now there reserved expired) blank
      (fun same => nomatch same)
    refine ⟨fun settled => absurd settled unsettled, fun ⟨_, active, session⟩ => ?_⟩
    rw [asked.answers.2 rfl] at reads
    rcases readEffect_ok reads with ⟨_, absent⟩ | same
    · rw [active] at absent
      exact absurd absent (by decide)
    · have shut := dead native same
      rw [(live_iff native).mpr ⟨active, placed, session⟩] at shut
      exact nomatch shut

def lostAnswerScript (epoch : ℕ) : Script :=
  { Script.calm with
    tick := 100
    launch := fun taskId n => if n = epoch then noAnswer else launched taskId n
    effect := launched
    processes := [failedProcess "quota_exhausted"] }

def workerNative (epoch : ℕ) : Native :=
  ⟨"active", "", false, none, workspaceOf workerId, sessionOf workerId epoch⟩

def lateClock (lease : Time) (_ : Shared Tx Query Store ℕ) : Event Tx Query → Bool
  | .call .clock now => decide (lease < now)
  | _ => true

theorem lostAnswer_answers {epoch : ℕ} {lease : Time} {p n : ℕ} {w : ScriptWorld} {P : Kernel Unit}
    (passes : (w.put p P).passes (kernel asciiLibrary (lostAnswerScript epoch).executor)
      (lostAnswerScript epoch).oracle (lateClock lease) (steps p n))
    (ended : ((w.put p P).play (kernel asciiLibrary (lostAnswerScript epoch).executor)
      (lostAnswerScript epoch).oracle (steps p n)).finished p) :
    P.Ends (kernel asciiLibrary (lostAnswerScript epoch).executor)
      (Answers asciiLibrary workerId epoch lease (workerNative epoch)) w.shared (.ok ())
      ((w.put p P).play (kernel asciiLibrary (lostAnswerScript epoch).executor)
        (lostAnswerScript epoch).oracle (steps p n)).shared := by
  let fits : Event Tx Query → Prop := fun e => ∀ s : Shared Tx Query Store ℕ,
    lateClock lease s e → Answers asciiLibrary workerId epoch lease (workerNative epoch) s e
  have commit {β : Type} (tx : Tx β) (b : β) : fits (.commit tx b) := fun _ _ => trivial
  have call {β : Type} {env : ℕ} {q : Query β} {b : β} {env' : ℕ}
      (answered : (kernel asciiLibrary (lostAnswerScript epoch).executor).answer env q b env') :
      fits (.call q b) := by
    intro s late
    have answered : b = (lostAnswerScript epoch).reply env q := congrArg Prod.fst answered
    cases q with
    | clock =>
      have late : lease < b := of_decide_eq_true late
      exact late
    | managedEffect taskId n =>
      have answered : b = launched taskId n := answered
      rw [answered]
      refine ⟨⟨_, rfl⟩, fun same => ?_⟩
      cases same
      rfl
    | stopWorkspace => exact answered
    | _ => trivial
  have run := (lostAnswerScript epoch).ends_passing passes ended
  exact Ends.mono (fun s e known => known.2 s known.1) (Ends.heard commit call run)

def reservedWorld : ScriptWorld := (lostAnswerScript 1).run [startWorker] (steps 0 100)

def steppedOverOps : List (Kernel Unit) :=
  [startWorker, reconcileProviderOutcome asciiLibrary "owner" (sessionOf workerId 1),
    replace asciiLibrary "owner" none "worker" (some "go on")]

theorem steppedOverOps_known : ∀ op ∈ steppedOverOps, KernelOp asciiLibrary op := by
  simp [steppedOverOps, startWorker, startOne, KernelOp.startAll, KernelOp.reconcileProviderOutcome,
    KernelOp.replace]

def steppedOverWorld : ScriptWorld :=
  (lostAnswerScript 2).run steppedOverOps (steps 0 60 ++ steps 1 80 ++ steps 2 60)

def Script.swept (script : Script) (w : ScriptWorld) : ScriptWorld :=
  (w.put 9 (expireReservations asciiLibrary)).play (kernel asciiLibrary script.executor)
    script.oracle (steps 9 30)

theorem reserved_of_any {db : Store} {n : ℕ} {lease : Time}
    (behind : (db.effect workerId n).any fun e => e.state = .reserved && e.leaseExpiresAt = lease) :
    ∃ effect, db.effect workerId n = some effect ∧ effect.state = .reserved ∧
      effect.leaseExpiresAt = lease := by
  obtain ⟨effect, known, fits⟩ := Option.any_eq_true _ _ |>.mp behind
  exact ⟨effect, known, by simpa using fits⟩

set_option maxRecDepth 100000 in
theorem lost_answer_settled :
    LaunchSettled workerId 1 (workerNative 1) reservedWorld.shared
      ((lostAnswerScript 1).swept reservedWorld).shared := by
  have reached : Reachable (kernel asciiLibrary (lostAnswerScript 1).executor) anyEvent
      reservedWorld := (lostAnswerScript 1).run_reachable
    (by simp [startWorker, startOne, KernelOp.startAll]) _
  have behind : (reservedWorld.shared.store.effect workerId 1).any
      fun e => e.state = .reserved && e.leaseExpiresAt = 1120 := by decide +kernel
  obtain ⟨effect, known, reserved, lease⟩ := reserved_of_any behind
  have passes : (reservedWorld.put 9 (expireReservations asciiLibrary)).passes
      (kernel asciiLibrary (lostAnswerScript 1).executor) (lostAnswerScript 1).oracle
      (lateClock 1120) (steps 9 30) := by decide +kernel
  have ended : ((lostAnswerScript 1).swept reservedWorld).finished 9 := by decide +kernel
  have current : (reservedWorld.shared.store.task workerId).map (fun row => row.epoch) = some 1 := by
    decide +kernel
  have run := lostAnswer_answers passes ended
  rw [← lease] at run
  exact (lost_launch_settles_iff reached known reserved (by decide +kernel) run).mpr
    ⟨current, rfl, by decide +kernel⟩

set_option maxRecDepth 100000 in
/-- The launch of the second epoch stays behind its reservation. -/
theorem stepped_over_launch_stays :
    ¬ ∀ (w w' : ScriptWorld) (effect : Effect),
      Reachable (kernel asciiLibrary (lostAnswerScript 2).executor) anyEvent w →
      w.shared.store.effect workerId 2 = some effect → effect.state = .reserved →
      (expireReservations asciiLibrary).Ends (kernel asciiLibrary (lostAnswerScript 2).executor)
        (Answers asciiLibrary workerId 2 effect.leaseExpiresAt (workerNative 2)) w.shared (.ok ())
        w'.shared →
      LaunchSettled workerId 2 (workerNative 2) w.shared w'.shared := by
  intro all
  have reached : Reachable (kernel asciiLibrary (lostAnswerScript 2).executor) anyEvent
      steppedOverWorld := (lostAnswerScript 2).run_reachable steppedOverOps_known _
  have behind : (steppedOverWorld.shared.store.effect workerId 2).any
      fun e => e.state = .reserved && e.leaseExpiresAt = 2420 := by decide +kernel
  obtain ⟨effect, known, reserved, lease⟩ := reserved_of_any behind
  have passes : (steppedOverWorld.put 9 (expireReservations asciiLibrary)).passes
      (kernel asciiLibrary (lostAnswerScript 2).executor) (lostAnswerScript 2).oracle
      (lateClock 2420) (steps 9 30) := by decide +kernel
  have ended : ((lostAnswerScript 2).swept steppedOverWorld).finished 9 := by decide +kernel
  have run := lostAnswer_answers passes ended
  rw [← lease] at run
  obtain ⟨next, found, settled⟩ := all _ _ effect reached known reserved run
  have still : (((lostAnswerScript 2).swept steppedOverWorld).shared.store.effect workerId 2).any
      fun e => e.state = .reserved := by decide +kernel
  have found : ((lostAnswerScript 2).swept steppedOverWorld).shared.store.effect workerId 2 =
    some next := found
  rw [found] at still
  have still : next.state = .reserved := by simpa using still
  rcases settled with ⟨launched, _⟩ | ⟨ended, _⟩
  · exact nomatch still.symm.trans launched
  · exact nomatch still.symm.trans ended

end SightMesh
