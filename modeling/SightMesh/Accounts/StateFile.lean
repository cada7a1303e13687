import Mathlib.Data.List.AList
import SightMesh.Kernel.Records

/-! The state file of the credential pool: cooldowns and the two caches, read and rewritten whole.
A rewrite fills one temporary file, shared by every process, and renames it. -/
namespace SightMesh

abbrev AccountId := String

structure Usage where
  known : Bool
  remaining : Option ℚ
  /-- As `parse_iso` reads it. -/
  resetsAt : Option Time
  deriving DecidableEq

structure QuotaEntry where
  recordedAt : Time
  data : Usage
  deriving DecidableEq

structure ProbeEntry where
  recordedAt : Time
  ok : Bool
  reason : String
  deriving DecidableEq

structure PoolState where
  cooldowns : AList fun _ : AccountId => Time
  probes : AList fun _ : AccountId => ProbeEntry
  quota : AList fun _ : AccountId => QuotaEntry

theorem PoolState.ext_entries {a b : PoolState} : a = b ↔
    a.cooldowns.entries = b.cooldowns.entries ∧ a.probes.entries = b.probes.entries ∧
      a.quota.entries = b.quota.entries := by
  rw [PoolState.mk.injEq, AList.ext_iff, AList.ext_iff, AList.ext_iff]

instance : DecidableEq PoolState := fun _ _ => decidable_of_iff _ PoolState.ext_entries.symm

/-- What `load_state` answers where there is no file, or none that can be read. -/
def PoolState.default : PoolState := ⟨∅, ∅, ∅⟩

/-- The deadline `cool_until_timestamp` writes: a cooldown never shortens. -/
def PoolState.extended (state : PoolState) (accountId : AccountId) (requested : Time) : Time :=
  max requested ((state.cooldowns.lookup accountId).getD 0)

inductive PoolUpdate where
  | cool (accountId : AccountId) (requested : Time)
  | clear (accountId : AccountId)
  | quota (accountId : AccountId) (entry : QuotaEntry)
  | probe (accountId : AccountId) (entry : ProbeEntry)

def PoolUpdate.apply (state : PoolState) : PoolUpdate → PoolState
  | .cool accountId requested => { state with
      cooldowns := state.cooldowns.insert accountId (state.extended accountId requested)
      probes := state.probes.erase accountId }
  | .clear accountId => { state with
      cooldowns := state.cooldowns.erase accountId
      probes := state.probes.erase accountId }
  | .quota accountId entry => { state with quota := state.quota.insert accountId entry }
  | .probe accountId entry => { state with probes := state.probes.insert accountId entry }

inductive StateFile where
  | missing
  | unreadable
  | holds (state : PoolState)

structure PoolDir where
  file : StateFile
  tmp : Option PoolState

def PoolDir.read (dir : PoolDir) : PoolState :=
  match dir.file with
  | .missing | .unreadable => .default
  | .holds state => state

inductive PoolError where
  | fileNotFound

/-- The steps on the directory. A rewrite carries the state it was computed from, which no file
shows. -/
inductive FileTx : Type → Type 1 where
  | load : FileTx PoolState
  | writeTmp (loaded : PoolState) (update : PoolUpdate) : FileTx Unit
  | rename (loaded : PoolState) (update : PoolUpdate) : FileTx (Except PoolError Unit)

/-- A rename takes whatever the temporary file holds. -/
def FileTx.exec {β : Type} (tx : FileTx β) (dir : PoolDir) : PoolDir × β :=
  match tx with
  | .load => (dir, dir.read)
  | .writeTmp loaded update => ({ dir with tmp := some (update.apply loaded) }, ())
  | .rename _ _ =>
    match dir.tmp with
    | none => (dir, .error .fileNotFound)
    | some state => (⟨.holds state, none⟩, .ok ())

/-! ### Deadlines -/

def PoolState.coolsUntil (state : PoolState) (accountId : AccountId) (moment : Time) : Bool :=
  (state.cooldowns.lookup accountId).any fun deadline => decide (moment ≤ deadline)

def PoolUpdate.clears (update : PoolUpdate) (accountId : AccountId) : Bool :=
  match update with
  | .clear cleared => cleared = accountId
  | _ => false

theorem PoolState.coolsUntil_iff {state : PoolState} {accountId : AccountId} {moment : Time} :
    state.coolsUntil accountId moment = true ↔
      ∃ deadline, state.cooldowns.lookup accountId = some deadline ∧ moment ≤ deadline := by
  simp [coolsUntil, Option.any_eq_true]

theorem PoolState.coolsUntil_mono {state : PoolState} {accountId : AccountId} {a b : Time}
    (cools : state.coolsUntil accountId b = true) (earlier : a ≤ b) :
    state.coolsUntil accountId a = true := by
  obtain ⟨deadline, found, later⟩ := coolsUntil_iff.mp cools
  exact coolsUntil_iff.mpr ⟨deadline, found, earlier.trans later⟩

theorem PoolUpdate.coolsUntil_cool (state : PoolState) (accountId : AccountId) (requested : Time) :
    ((PoolUpdate.cool accountId requested).apply state).coolsUntil accountId
      (state.extended accountId requested) = true := by
  simp [apply, PoolState.coolsUntil]

/-- No update shortens a cooldown of the state it is applied to, but the one that clears it. -/
theorem PoolUpdate.coolsUntil_apply {state : PoolState} {accountId : AccountId} {moment : Time}
    (update : PoolUpdate) (cools : state.coolsUntil accountId moment = true)
    (spares : update.clears accountId = false) :
    (update.apply state).coolsUntil accountId moment = true := by
  obtain ⟨deadline, found, later⟩ := PoolState.coolsUntil_iff.mp cools
  cases update with
  | cool cooled requested =>
    by_cases same : accountId = cooled
    · subst same
      apply PoolState.coolsUntil_mono (coolsUntil_cool state accountId requested)
      simp [PoolState.extended, found, later]
    · simp [apply, PoolState.coolsUntil, AList.lookup_insert_ne same, found, later]
  | clear cleared =>
    have apart : accountId ≠ cleared := by
      rintro rfl
      simp [clears] at spares
    simp [apply, PoolState.coolsUntil, AList.lookup_erase_ne apart, found, later]
  | quota => exact cools
  | probe => exact cools

end SightMesh
