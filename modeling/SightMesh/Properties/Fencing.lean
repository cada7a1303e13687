import Mathlib.Data.List.Infix
import SightMesh.Discipline.Launching
import SightMesh.Programs.Scripted
import SightMesh.Properties.WakeDelivery

/-! Requests and writes against the task fences, over every interleaving. -/
namespace SightMesh

open Concurrency Database Python

variable {γ β : Type} {py : Library} {x : Executor γ}

def Tx.guard : Tx β → Option TaskId
  | .prepareCheckpoint seen .. => some seen.taskId
  | tx => tx.mover

theorem Issued.guarded {H : Set LockKey} {s : Shared Tx Query Store γ} {tx : Tx β}
    (h : Issued py H s tx) {t : TaskId} (guard : tx.guard = some t) : .task t ∈ H := by
  cases tx with
  | prepareCheckpoint =>
    cases guard
    exact h
  | _ => exact h.fenced guard

def past (s : Shared Tx Query Store γ) : Set Store :=
  {db | ∃ earlier, earlier <:+ s.trace ∧ db = replay s.store.ownershipShared earlier}

theorem past_commit (tx : Tx β) (s : Shared Tx Query Store γ) :
    past s ⊆ past (s.commit (kernel py x) tx) := by
  rintro db ⟨earlier, before, rfl⟩
  refine ⟨earlier, before.trans (List.suffix_cons _ _), ?_⟩
  exact congrArg (replay · earlier) (tx.exec_wiring s.store).symm

theorem past_call (q : Query β) (s : Shared Tx Query Store γ) (b : β) (env : γ) :
    past s ⊆ past (s.call q b env) := by
  rintro db ⟨earlier, before, rfl⟩
  exact ⟨earlier, before.trans (List.suffix_cons _ _), rfl⟩

theorem store_mem_past {w : KernelWorld γ} (reached : Reachable (kernel py x) anyEvent w) :
    w.shared.store ∈ past w.shared :=
  ⟨w.shared.trace, List.suffix_refl _, reachable_replayed reached⟩

/-- The world outside does not raise the refusal of `TaskStore._require_fence`. -/
def Executor.Foreign (x : Executor γ) : Prop :=
  ∀ {β : Type} env (q : Query β) b env', x.answer env q b env' → q.raised b ≠ some unfenced

theorem kernel_fits {launching strict : Prop} (foreign : strict → x.Foreign)
    (stores : Set Store) :
    (manners launching strict stores).Fits (kernel py x) anyEvent fun s => past s ⊆ stores where
  committed tx s foreseen := (past_commit tx s).trans foreseen
  called q s b env foreseen := (past_call q s b env).trans foreseen
  results tx reached foreseen :=
    ⟨_, foreseen (past_commit tx _ (store_mem_past reached)), rfl⟩
  answers q b env _ answered _ held := foreign held _ q b env answered

theorem KernelOp.obeys {launching strict : Prop} {stores : Set Store} {op : Kernel Unit}
    (known : KernelOp py op) (allowed : launching) (nonempty : stores.Nonempty) :
    Obeys launching strict stores ∅ op := by
  have open_ := unfenced_empty
  cases known with
  | startAll => exact obeys_startAll allowed open_ (Set.notMem_empty _)
  | replace => exact obeys_replace allowed nonempty open_
  | complete => exact obeys_complete nonempty open_
  | blocked => exact obeys_blocked nonempty open_
  | cancel => exact obeys_cancel nonempty open_
  | sendAll => exact obeys_sendAll nonempty open_
  | checkpoint => exact obeys_checkpoint nonempty open_
  | reconcileProviderOutcome => exact obeys_reconcileProviderOutcome allowed open_
  | reconcileProviderOutcomes => exact obeys_reconcileProviderOutcomes allowed open_
  | reconcileKernel => exact obeys_reconcileKernel open_
  | sweepAdmission => exact obeys_sweepAdmission open_
  | reconcileSuperseded => exact obeys_reconcileSuperseded open_

theorem reachable_minds {strict : Prop} (foreign : strict → x.Foreign) {w : KernelWorld γ}
    (reached : Reachable (kernel py x) anyEvent w) {p : ℕ} {P : Kernel Unit}
    (running : w.procs p = some P) :
    P.Minds (manners True strict (past w.shared)) (fun H _ => H = ∅ ∧ True)
      (fun H e => H = ∅ ∧ (manners True strict (past w.shared)).raises e) (w.held p) :=
  (kernel_fits foreign _).reachable
    (fun _ known => known.obeys trivial ⟨_, store_mem_past reached⟩) reached subset_rfl running

/-- What a process is doing respects its fences. -/
structure World.Fenced (w : KernelWorld γ) (p : ℕ) : Prop where
  requests : ∀ (β : Type) (q : Query β) k, w.procs p = some (.call q k) → q.remote →
    ∀ t, .task t ∉ w.held p
  writes : ∀ (β : Type) (tx : Tx β) k t, w.procs p = some (.commit tx k) → tx.guard = some t →
    .task t ∈ w.held p
  unrefused : w.procs p ≠ some (.fail unfenced)

/-- No request is sent under a task fence. -/
theorem requests_unfenced {w : KernelWorld γ} (reached : Reachable (kernel py x) anyEvent w)
    {p : ℕ} {q : Query β} {k : β → Kernel Unit} (asking : w.procs p = some (.call q k))
    (remote : q.remote) (t : TaskId) : .task t ∉ w.held p :=
  (reachable_minds False.elim reached asking).1.1 remote t

theorem writes_fenced {w : KernelWorld γ} (reached : Reachable (kernel py x) anyEvent w)
    {p : ℕ} {tx : Tx β} {k : β → Kernel Unit} (pending : w.procs p = some (.commit tx k))
    {t : TaskId} (guard : tx.guard = some t) : .task t ∈ w.held p :=
  (reachable_issued reached pending).guarded guard

/-- As long as no name has meant two tasks to its caller, no request is sent under a task fence,
every write that checks a fence is made with it, and the check refuses nothing. -/
theorem fences_respected (foreign : x.Foreign) {w : KernelWorld γ}
    (reached : Reachable (kernel py x) anyEvent w) (stable : ¬ Renamed (past w.shared)) (p : ℕ) :
    World.Fenced w p where
  requests _ _ _ asking remote := requests_unfenced reached asking remote
  writes _ _ _ _ pending guard := writes_fenced reached pending guard
  unrefused failed := stable ((reachable_minds (fun _ => foreign) reached failed).2 trivial rfl)

/-! ### Scripted runs -/

theorem scripted_foreign : Script.calm.executor.Foreign := by
  intro β calls q b next answered
  obtain rfl : b = Script.calm.reply calls q := congrArg Prod.fst answered
  cases q <;> simp [Query.raised, raisedBy, Script.reply, Script.calm, launched, notFound, noAnswer,
    unfenced]

theorem Meant.row {stores : Set Store} {caller : Option SessionId} {key : String}
    {task : TaskRecord} (meant : Meant stores caller key task) :
    ∃ db ∈ stores, ∃ row ∈ db.tasks.rows, row.taskId = task.taskId := by
  obtain ⟨_, _, db, known, found⟩ := meant
  obtain ⟨row, at_key, rfl⟩ := Option.map_eq_some_iff.mp found
  exact ⟨db, known, row, List.mem_of_find?_eq_some at_key, rfl⟩

theorem stable_of_single {stores : Set Store} {t : TaskId}
    (single : ∀ db ∈ stores, ∀ row ∈ db.tasks.rows, row.taskId = t) : ¬ Renamed stores := by
  rintro ⟨caller, key, one, other, meant, again, apart⟩
  obtain ⟨db, known, row, listed, first⟩ := meant.row
  obtain ⟨db', known', row', listed', second⟩ := again.row
  apply apart
  rw [← first, ← second, single db known row listed, single db' known' row' listed']

def launchingWorld : ScriptWorld :=
  Script.calm.run [startWorker] (steps 0 25)

def onlyWorker (w : ScriptWorld) : Bool :=
  w.shared.trace.tails.all fun earlier =>
    (replay w.shared.store.ownershipShared earlier).tasks.rows.all fun row => row.taskId = workerId

set_option maxRecDepth 100000 in
theorem launching_fenced :
    ((launchingWorld.asking 0).any fun q => q.2.kind = .launch) ∧ World.Fenced launchingWorld 0 := by
  have reached : Reachable (kernel asciiLibrary Script.calm.executor) anyEvent launchingWorld :=
    Script.calm.run_reachable (by simp [startWorker, startOne, KernelOp.startAll]) _
  have only : onlyWorker launchingWorld = true := by decide +kernel
  have stable : ¬ Renamed (past launchingWorld.shared) := by
    apply stable_of_single (t := workerId)
    rintro _ ⟨earlier, before, rfl⟩ row listed
    have checked := List.all_eq_true.mp only earlier ((List.mem_tails earlier _).mpr before)
    exact of_decide_eq_true (List.all_eq_true.mp checked row listed)
  exact ⟨by decide +kernel, fences_respected scripted_foreign reached stable 0⟩

/-- The boss is launched and not yet active when its session starts a worker; a replacement of the
worker has found it by its name; the boss is active and starts a worker of the same name. -/
def renamedOps : List (Kernel Unit) :=
  [startBoss, startOne (some (sessionOf bossId 1)) "worker" 0,
    startOne (some (sessionOf bossId 1)) "worker" 0,
    replace asciiLibrary "owner" (some (sessionOf bossId 1)) "worker" (some "again")]

theorem renamedOps_known : ∀ op ∈ renamedOps, KernelOp asciiLibrary op := by
  simp [renamedOps, startBoss, startOne, KernelOp.startAll, KernelOp.replace]

def renamedWorld : ScriptWorld :=
  Script.calm.run renamedOps
    (steps 0 31 ++ steps 1 10 ++ steps 3 3 ++ steps 0 3 ++ steps 2 40 ++ steps 3 4)

def refused (w : ScriptWorld) (p : ℕ) : Bool :=
  match w.procs p with
  | some (.fail (.taskStore message)) => message = "Lifecycle state writes require the task fence"
  | _ => false

set_option maxRecDepth 100000 in
theorem renamed_replacement_refused :
    ¬ ∀ (w : ScriptWorld) (p : ℕ),
      Reachable (kernel asciiLibrary Script.calm.executor) anyEvent w → World.Fenced w p := by
  intro all
  have reached : Reachable (kernel asciiLibrary Script.calm.executor) anyEvent renamedWorld :=
    Script.calm.run_reachable renamedOps_known _
  have unrefused := (all renamedWorld 3 reached).unrefused
  have failed : refused renamedWorld 3 = true := by decide +kernel
  unfold refused at failed
  split at failed
  · rename_i at_fail
    rw [at_fail, of_decide_eq_true failed] at unrefused
    exact unrefused rfl
  · exact nomatch failed

end SightMesh
