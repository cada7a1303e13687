import SightMesh.Accounts.Selection

/-! What becomes of a recorded cooldown while other processes rewrite the state file. -/
namespace SightMesh

open Concurrency

variable {γ : Type} {x : PoolWorld γ} {opened : StateFile}

abbrev PoolHistory := List (Event FileTx PoolQuery)

/-- The rewrite that a rename put in place. -/
def rewritten : Event FileTx PoolQuery → Option (PoolState × PoolUpdate)
  | .commit (.rename loaded update) (.ok _) => some (loaded, update)
  | _ => none

def deadlines (opened : StateFile) (accountId : AccountId) : PoolHistory → List Time
  | [] => ((PoolDir.read ⟨opened, none⟩).cooldowns.lookup accountId).toList
  | event :: earlier =>
    match rewritten event with
    | some (loaded, .cool cooled requested) =>
      if accountId = cooled then loaded.extended cooled requested :: deadlines opened accountId earlier
      else deadlines opened accountId earlier
    | some (_, .clear cleared) =>
      if accountId = cleared then [] else deadlines opened accountId earlier
    | _ => deadlines opened accountId earlier

/-- Some process has seen that moment on the clock. -/
def passed (moment : Time) (trace : PoolHistory) : Bool :=
  trace.any fun
    | .call .clock seen => decide (moment ≤ seen)
    | _ => false

/-- Every cooldown that was recorded, not cleared and has not run out is in the file. -/
def CooldownsKept (opened : StateFile) (s : Shared FileTx PoolQuery PoolDir γ) : Prop :=
  ∀ accountId, ∀ deadline ∈ deadlines opened accountId s.trace,
    passed deadline s.trace = false → s.store.read.coolsUntil accountId deadline = true

def loadAnswer : Event FileTx PoolQuery → Option PoolState
  | .commit .load state => some state
  | _ => none

def writes (trace : PoolHistory) : List PoolState :=
  trace.filterMap fun
    | .commit (.writeTmp loaded update) _ => some (update.apply loaded)
    | _ => none

/-- Every load answers what the file held at first, or what some process wrote before. -/
def ReadsWrites (opened : StateFile) (trace : PoolHistory) : Prop :=
  ∀ later event earlier state, trace = later ++ event :: earlier → loadAnswer event = some state →
    state = PoolDir.read ⟨opened, none⟩ ∨ state ∈ writes earlier

def PoolUpdate.asksFor (update : PoolUpdate) (accountId : AccountId) (deadline : Time) : Bool :=
  match update with
  | .cool cooled requested => accountId = cooled && decide (deadline ≤ requested)
  | _ => false

/-- A rename finds what its own process wrote, and no cooldown in the file that has not run out is
later than in the state that the process loaded. -/
def undisturbed (s : Shared FileTx PoolQuery PoolDir γ) : Event FileTx PoolQuery → Bool
  | .commit (.rename loaded update) _ => s.store.tmp.all fun state =>
      decide (state = update.apply loaded) && s.store.read.cooldowns.entries.all fun entry =>
        passed entry.2 s.trace || update.clears entry.1 || loaded.coolsUntil entry.1 entry.2 ||
          update.asksFor entry.1 entry.2
  | _ => true

/-! ### Cooldowns -/

theorem passed_mono {a b : Time} {trace : PoolHistory} (earlier : a ≤ b)
    (gone : passed b trace = true) : passed a trace = true := by
  simp only [passed, List.any_eq_true] at gone ⊢
  obtain ⟨event, mem, seen⟩ := gone
  refine ⟨event, mem, ?_⟩
  split at seen
  · rename_i t
    simp only [decide_eq_true_eq] at seen ⊢
    exact earlier.trans seen
  · exact nomatch seen

theorem passed_cons {moment : Time} {event : Event FileTx PoolQuery} {trace : PoolHistory}
    (ahead : passed moment (event :: trace) = false) : passed moment trace = false := by
  rw [passed, List.any_cons, Bool.or_eq_false_iff] at ahead
  exact ahead.2

theorem deadlines_quiet {event : Event FileTx PoolQuery} (quiet : rewritten event = none)
    (accountId : AccountId) (trace : PoolHistory) :
    deadlines opened accountId (event :: trace) = deadlines opened accountId trace := by
  rw [deadlines, quiet]

theorem CooldownsKept.quiet {s s' : Shared FileTx PoolQuery PoolDir γ} (h : CooldownsKept opened s)
    {event : Event FileTx PoolQuery} (quiet : rewritten event = none)
    (grown : s'.trace = event :: s.trace) (same : s'.store.read = s.store.read) :
    CooldownsKept opened s' := by
  intro accountId deadline mem ahead
  rw [grown] at mem ahead
  rw [deadlines_quiet quiet] at mem
  rw [same]
  exact h accountId deadline mem (passed_cons ahead)

theorem PoolUpdate.coolsUntil_asked {loaded : PoolState} {update : PoolUpdate}
    {accountId : AccountId} {deadline : Time} (asks : update.asksFor accountId deadline = true) :
    (update.apply loaded).coolsUntil accountId deadline = true := by
  cases update with
  | cool cooled requested =>
    simp only [asksFor, Bool.and_eq_true, decide_eq_true_eq] at asks
    obtain ⟨rfl, reached⟩ := asks
    apply PoolState.coolsUntil_mono (coolsUntil_cool loaded accountId requested)
    exact reached.trans (le_max_left _ _)
  | _ => exact nomatch asks

theorem mem_deadlines_rewrite {event : Event FileTx PoolQuery} {loaded : PoolState}
    {update : PoolUpdate} (done : rewritten event = some (loaded, update)) {accountId : AccountId}
    {deadline : Time} {trace : PoolHistory}
    (mem : deadline ∈ deadlines opened accountId (event :: trace)) :
    (∃ requested, update = .cool accountId requested ∧
        deadline = loaded.extended accountId requested) ∨
      update.clears accountId = false ∧ deadline ∈ deadlines opened accountId trace := by
  rw [deadlines, done] at mem
  cases update with
  | cool cooled requested =>
    by_cases same : accountId = cooled
    · subst same
      simp only [if_true] at mem
      obtain rfl | mem := List.mem_cons.mp mem
      · exact .inl ⟨requested, rfl, rfl⟩
      · exact .inr ⟨rfl, mem⟩
    · exact .inr ⟨rfl, by simpa [same] using mem⟩
  | clear cleared =>
    by_cases same : accountId = cleared
    · simp [same] at mem
    · refine .inr ⟨?_, by simpa [same] using mem⟩
      simpa [PoolUpdate.clears] using fun h : cleared = accountId => same h.symm
  | quota => exact .inr ⟨rfl, mem⟩
  | probe => exact .inr ⟨rfl, mem⟩

theorem undisturbed_keeps {s : Shared FileTx PoolQuery PoolDir γ} {loaded state : PoolState}
    {update : PoolUpdate} {b : Except PoolError Unit}
    (allowed : undisturbed s (.commit (.rename loaded update) b) = true)
    (written : s.store.tmp = some state) :
    state = update.apply loaded ∧ ∀ accountId deadline, passed deadline s.trace = false →
      update.clears accountId = false → s.store.read.coolsUntil accountId deadline = true →
        state.coolsUntil accountId deadline = true := by
  simp only [undisturbed, written, Option.all_some, Bool.and_eq_true, decide_eq_true_eq,
    List.all_eq_true, Bool.or_eq_true] at allowed
  obtain ⟨rfl, kept⟩ := allowed
  refine ⟨rfl, fun accountId deadline ahead spared cools => ?_⟩
  obtain ⟨latest, found, later⟩ := PoolState.coolsUntil_iff.mp cools
  have ahead : passed latest s.trace = false := by
    by_contra gone
    rw [Bool.not_eq_false] at gone
    exact nomatch ahead.symm.trans (passed_mono later gone)
  have listed : (⟨accountId, latest⟩ : Sigma fun _ => Time) ∈ s.store.read.cooldowns.entries :=
    AList.mem_lookup_iff.mp found
  have known := kept _ listed
  apply PoolState.coolsUntil_mono _ later
  obtain ((gone | cleared) | loads) | asks := known
  · exact nomatch ahead.symm.trans gone
  · exact nomatch spared.symm.trans cleared
  · exact update.coolsUntil_apply loads spared
  · exact PoolUpdate.coolsUntil_asked asks

theorem CooldownsKept.rename {s : Shared FileTx PoolQuery PoolDir γ} (h : CooldownsKept opened s)
    (loaded : PoolState) (update : PoolUpdate)
    (allowed : undisturbed s (.commit (.rename loaded update)
      (FileTx.exec (.rename loaded update) s.store).2) = true) :
    CooldownsKept opened (s.commit (poolSystem x opened) (.rename loaded update)) := by
  cases written : s.store.tmp with
  | none =>
    have failed : FileTx.exec (.rename loaded update) s.store = (s.store, .error .fileNotFound) := by
      rw [FileTx.exec, written]
    have left : s.commit (poolSystem x opened) (.rename loaded update) =
        { s with trace := .commit (.rename loaded update) (.error .fileNotFound) :: s.trace } := by
      simp only [Shared.commit, poolSystem, failed]
    rw [left]
    exact h.quiet rfl rfl rfl
  | some state =>
    have moved : FileTx.exec (.rename loaded update) s.store = (⟨.holds state, none⟩, .ok ()) := by
      rw [FileTx.exec, written]
    have left : s.commit (poolSystem x opened) (.rename loaded update) =
        { s with
          store := ⟨.holds state, none⟩
          trace := .commit (.rename loaded update) (.ok ()) :: s.trace } := by
      simp only [Shared.commit, poolSystem, moved]
    obtain ⟨own, kept⟩ := undisturbed_keeps allowed written
    rw [left]
    intro accountId deadline mem ahead
    have ahead := passed_cons ahead
    change state.coolsUntil accountId deadline = true
    obtain ⟨requested, rfl, rfl⟩ | ⟨spared, mem⟩ := mem_deadlines_rewrite rfl mem
    · rw [own]
      exact PoolUpdate.coolsUntil_cool loaded accountId requested
    · exact kept accountId deadline ahead spared (h accountId deadline mem ahead)

theorem reachable_cooldowns {w : World PoolError FileTx PoolQuery Empty PoolDir γ}
    (reached : Reachable (poolSystem x opened) (fun s e => undisturbed s e = true) w) :
    CooldownsKept opened w.shared := by
  refine reached.invariant (CooldownsKept opened) ?_ ?_ ?_
  · rintro dir env rfl
    intro accountId deadline mem _
    rw [deadlines, Option.mem_toList] at mem
    exact PoolState.coolsUntil_iff.mpr ⟨deadline, mem, le_rfl⟩
  · intro w p β tx k _ _ allowed h
    cases tx with
    | load => exact h.quiet rfl rfl rfl
    | writeTmp loaded update => exact h.quiet rfl rfl rfl
    | rename loaded update => exact h.rename loaded update allowed
  · intro w p β q k b env _ _ _ _ h
    exact h.quiet rfl rfl rfl

/-! ### Reads -/

/-- What is in the directory was there at first, or was written whole. -/
structure Whole (opened : StateFile) (s : Shared FileTx PoolQuery PoolDir γ) : Prop where
  file : s.store.read = PoolDir.read ⟨opened, none⟩ ∨ s.store.read ∈ writes s.trace
  tmp : ∀ state, s.store.tmp = some state → state ∈ writes s.trace
  reads : ReadsWrites opened s.trace

theorem writes_cons {state : PoolState} {trace : PoolHistory} (mem : state ∈ writes trace)
    (event : Event FileTx PoolQuery) : state ∈ writes (event :: trace) := by
  rw [writes, List.filterMap_cons]
  split
  · exact mem
  · exact List.mem_cons_of_mem _ mem

theorem ReadsWrites.cons {trace : PoolHistory} (h : ReadsWrites opened trace)
    {event : Event FileTx PoolQuery}
    (answered : ∀ state, loadAnswer event = some state →
      state = PoolDir.read ⟨opened, none⟩ ∨ state ∈ writes trace) :
    ReadsWrites opened (event :: trace) := by
  intro later last earlier state split known
  cases later with
  | nil =>
    obtain ⟨rfl, rfl⟩ := List.cons.inj split
    exact answered state known
  | cons _ later =>
    obtain ⟨_, split⟩ := List.cons.inj split
    exact h later last earlier state split known

theorem reachable_whole {w : World PoolError FileTx PoolQuery Empty PoolDir γ}
    (reached : Reachable (poolSystem x opened) anyEvent w) : Whole opened w.shared := by
  refine reached.invariant (Whole opened) ?_ ?_ ?_
  · rintro dir env rfl
    refine ⟨.inl rfl, nofun, ?_⟩
    intro later event earlier state split
    exact absurd split.symm (by simp)
  · intro w p β tx k _ _ _ h
    cases tx with
    | load =>
      refine ⟨h.file.imp_right (writes_cons · _), fun state tmp => writes_cons (h.tmp state tmp) _,
        h.reads.cons ?_⟩
      rintro state ⟨⟩
      exact h.file
    | writeTmp loaded update =>
      refine ⟨h.file.imp_right (writes_cons · _), ?_, h.reads.cons nofun⟩
      rintro state ⟨⟩
      exact List.mem_cons_self
    | rename loaded update =>
      cases written : w.shared.store.tmp with
      | none =>
        have failed : FileTx.exec (.rename loaded update) w.shared.store =
            (w.shared.store, .error .fileNotFound) := by
          rw [FileTx.exec, written]
        simp only [Shared.commit, poolSystem, failed]
        exact ⟨h.file.imp_right (writes_cons · _), fun state tmp => writes_cons (h.tmp state tmp) _,
          h.reads.cons nofun⟩
      | some state =>
        have moved : FileTx.exec (.rename loaded update) w.shared.store =
            (⟨.holds state, none⟩, .ok ()) := by
          rw [FileTx.exec, written]
        simp only [Shared.commit, poolSystem, moved]
        exact ⟨.inr (writes_cons (h.tmp state written) _), nofun, h.reads.cons nofun⟩
  · intro w p β q k b env _ _ _ _ h
    exact ⟨h.file.imp_right (writes_cons · _), fun state tmp => writes_cons (h.tmp state tmp) _,
      h.reads.cons nofun⟩

/-- In every interleaving, a load answers what the file held at first or what some process wrote
whole; and in every interleaving whose renames are undisturbed, each recorded cooldown is in the file
until it is cleared or has run out. -/
theorem pool_state_kept (x : PoolWorld γ) (opened : StateFile) :
    (∀ w, Reachable (poolSystem x opened) anyEvent w → ReadsWrites opened w.shared.trace) ∧
      ∀ w, Reachable (poolSystem x opened) (fun s e => undisturbed s e = true) w →
        CooldownsKept opened w.shared :=
  ⟨fun _ reached => (reachable_whole reached).reads, fun _ reached => reachable_cooldowns reached⟩

/-- A rename finds the state file as its process loaded it, and the temporary file as its process
wrote it: no other rewrite fell into its own. -/
def rewritesAlone (s : Shared FileTx PoolQuery PoolDir γ) : Event FileTx PoolQuery → Prop
  | .commit (.rename loaded update) _ =>
    s.store.read = loaded ∧ s.store.tmp = some (update.apply loaded)
  | _ => True

theorem undisturbed_of_alone {s : Shared FileTx PoolQuery PoolDir γ}
    {event : Event FileTx PoolQuery} (alone : rewritesAlone s event) :
    undisturbed s event = true := by
  cases event with
  | call => rfl
  | commit tx b =>
    cases tx with
    | load | writeTmp => rfl
    | rename loaded update =>
      obtain ⟨rfl, written⟩ := alone
      simp only [undisturbed, written, Option.all_some, decide_true, Bool.true_and, List.all_eq_true,
        Bool.or_eq_true]
      intro entry listed
      refine .inl (.inr (PoolState.coolsUntil_iff.mpr ⟨entry.2, ?_, le_rfl⟩))
      exact AList.mem_lookup_iff.mpr listed

theorem rewritesAlone_cooldowns {w : World PoolError FileTx PoolQuery Empty PoolDir γ}
    (reached : Reachable (poolSystem x opened) rewritesAlone w) : CooldownsKept opened w.shared :=
  reachable_cooldowns (reached.mono fun _ _ => undisturbed_of_alone)

/-! ### Runs of a few processes -/

/-- Nothing moves outside the directory. -/
def PoolQuery.steady {β : Type} : PoolQuery β → β
  | .clock => 100
  | .loadPool => []
  | .envFor _ => true
  | .quota _ => ⟨true, some 50, none⟩
  | .probe _ => (true, "ok")

def steadyPool : PoolWorld Unit where
  answer _ q b _ := b = q.steady

def coolingOps : List (PoolProg Unit) :=
  [do let _ ← quotaCached ⟨"account", "codex"⟩ true,
    do let _ ← coolUntilTimestamp "account" (some 1000),
    do let _ ← quotaCached ⟨"account", "codex"⟩ true]

theorem coolingOps_known : ∀ op ∈ coolingOps, PoolOp op := by
  rintro op (_ | ⟨_, _ | ⟨_, _ | ⟨_, ⟨⟩⟩⟩⟩)
  · exact .quotaCached _ _
  · exact .coolUntilTimestamp _ _
  · exact .quotaCached _ _

def coolingWorld (schedule : List Turn) : World PoolError FileTx PoolQuery Empty PoolDir Unit :=
  (World.boot ⟨.missing, none⟩ () coolingOps).play (poolSystem steadyPool .missing)
    (fun env q => (q.steady, env)) schedule

def orderly : List Turn :=
  List.replicate 6 (.step 0) ++ List.replicate 3 (.step 1) ++ List.replicate 6 (.step 2)

def overlapping : List Turn :=
  List.replicate 3 (.step 0) ++ List.replicate 3 (.step 1) ++ List.replicate 3 (.step 0)

theorem orderly_cooldown_kept :
    deadlines .missing "account" (coolingWorld orderly).shared.trace = [1000] ∧
      (writes (coolingWorld orderly).shared.trace).length = 3 ∧
      CooldownsKept .missing (coolingWorld orderly).shared := by
  have first : Reachable (poolSystem steadyPool .missing) (fun s e => undisturbed s e = true)
      (World.boot ⟨.missing, none⟩ () coolingOps) :=
    World.boot_reachable rfl coolingOps coolingOps_known
  have passes : (World.boot ⟨.missing, none⟩ () coolingOps).passes (poolSystem steadyPool .missing)
      (fun env q => (q.steady, env)) undisturbed orderly := by decide +kernel
  refine ⟨by decide +kernel, by decide +kernel, ?_⟩
  · apply (pool_state_kept steadyPool .missing).2
    exact World.passes_reachable (fun _ _ => rfl) orderly first passes

theorem overlapping_cooldown_lost :
    ¬ ∀ w, Reachable (poolSystem steadyPool .missing) anyEvent w →
      CooldownsKept .missing w.shared := by
  intro all
  have reached : Reachable (poolSystem steadyPool .missing) anyEvent (coolingWorld overlapping) :=
    World.play_reachable (fun _ _ => rfl) overlapping
      (World.boot_reachable rfl coolingOps coolingOps_known)
  have kept := all _ reached "account" 1000
  have lost : 1000 ∈ deadlines .missing "account" (coolingWorld overlapping).shared.trace ∧
      passed 1000 (coolingWorld overlapping).shared.trace = false ∧
      (coolingWorld overlapping).shared.store.read.coolsUntil "account" 1000 = false := by
    decide +kernel
  exact nomatch (kept lost.1 lost.2.1).symm.trans lost.2.2

end SightMesh
