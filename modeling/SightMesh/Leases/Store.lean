import Mathlib.Data.List.Sort
import SightMesh.Kernel.Records

/-! The lease files and the workspace mappings of `leases.py`. Every operation runs under one file
lock, so it is one step; the clock it reads may move while it runs. Paths are resolved, and a file is
found under its undigested identity: the digest decides only where it stands in the directory. -/
namespace SightMesh

open Database Python

/-- The tokens in the order they are drawn; no two draws are alike. -/
abbrev Token := ℕ

structure LeaseIdentity where
  repoPath : String
  worktreePath : String
  deriving DecidableEq

structure Lease where
  token : Token
  owner : String
  repoPath : String
  worktreePath : Option String
  createdAt : Time
  expiresAt : Time
  hostname : String
  workspaceId : Option WorkspaceId
  sessionId : Option SessionId

namespace Lease

/-- `_identity_key`, before it is digested. -/
def identity (lease : Lease) : LeaseIdentity := ⟨lease.repoPath, lease.worktreePath.getD ""⟩

def live (lease : Lease) (now : Time) : Bool := now < lease.expiresAt

def conflicts (lease : Lease) (repoPath : String) (worktreePath : Option String) : Bool :=
  if lease.repoPath ≠ repoPath then
    (present lease.worktreePath).isSome && (present worktreePath).isSome &&
      lease.worktreePath = worktreePath
  else if lease.worktreePath = none ∨ worktreePath = none then true
  else lease.worktreePath = worktreePath

theorem conflicts_symm (a b : Lease) :
    a.conflicts b.repoPath b.worktreePath = b.conflicts a.repoPath a.worktreePath := by
  unfold conflicts
  by_cases same : a.repoPath = b.repoPath
  · simp [same, or_comm, eq_comm]
  · simp [same, Ne.symm same, Bool.and_comm, eq_comm]

/-- Leases without a conflict are different files. -/
theorem identity_ne {a b : Lease} (free : a.conflicts b.repoPath b.worktreePath = false) :
    a.identity ≠ b.identity := by
  intro same
  simp only [identity, LeaseIdentity.mk.injEq] at same
  obtain ⟨repo, worktree⟩ := same
  cases own : a.worktreePath with
  | none => simp [conflicts, repo, own] at free
  | some owned =>
    cases wanted : b.worktreePath with
    | none => simp [conflicts, repo, wanted] at free
    | some directory =>
      simp only [own, wanted, Option.getD_some] at worktree
      simp [conflicts, repo, own, wanted, worktree] at free

end Lease

/-- A mapping file: the workspace it is named after, and the token it holds. -/
structure WorkspaceMapping where
  workspaceId : WorkspaceId
  token : Token

inductive LeaseError where
  /-- `ttl_seconds must be positive` -/
  | ttl
  /-- `Repository or worktree is already owned by … until …` -/
  | owned (owner : String) (expiresAt : Time)
  /-- `Repository is already owned by … until …` -/
  | repositoryOwned (owner : String) (expiresAt : Time)
  /-- `No lease found for token` -/
  | notFound
  /-- `Lease owner does not match` -/
  | owner
  /-- `Lease workspace does not match` -/
  | workspace
  /-- `No lease found for workspace …` -/
  | noMapping (workspaceId : WorkspaceId)
  /-- `Workspace lease mapping has no lease record: …` -/
  | noRecord (workspaceId : WorkspaceId)
  deriving DecidableEq

structure LeaseStore where
  leases : Table Lease.identity
  workspaces : Table WorkspaceMapping.workspaceId
  drawn : ℕ

namespace LeaseStore

def empty : LeaseStore := ⟨.empty, .empty, 0⟩

abbrev Answered (α : Type) := LeaseStore × Except LeaseError α

def listed (place : LeaseIdentity → ℕ) (s : LeaseStore) : List Lease :=
  s.leases.rows.insertionSort fun a b => place a.identity ≤ place b.identity

@[simp] theorem mem_listed {place : LeaseIdentity → ℕ} {s : LeaseStore} {lease : Lease} :
    lease ∈ s.listed place ↔ lease ∈ s.leases.rows := by
  simp [listed]

def find (place : LeaseIdentity → ℕ) (s : LeaseStore) (token : Token) : Option Lease :=
  (s.listed place).find? fun lease => lease.token = token

def mapped (s : LeaseStore) (workspaceId : WorkspaceId) : Option Token :=
  (s.workspaces.get workspaceId).map WorkspaceMapping.token

def write (s : LeaseStore) (lease : Lease) : LeaseStore := { s with leases := s.leases.put lease }

def map (s : LeaseStore) (workspaceId : WorkspaceId) (token : Token) : LeaseStore :=
  { s with workspaces := s.workspaces.put ⟨workspaceId, token⟩ }

def remove (s : LeaseStore) (lease : Lease) : LeaseStore where
  leases := s.leases.erase lease.identity
  workspaces :=
    match present lease.workspaceId with
    | none => s.workspaces
    | some workspaceId => s.workspaces.erase workspaceId
  drawn := s.drawn

def checkOwner (lease : Lease) (owner : Option String) (workspaceId : Option WorkspaceId) :
    Except LeaseError Unit :=
  if (present owner).isSome ∧ some lease.owner ≠ owner then .error .owner
  else if (present workspaceId).isSome ∧ lease.workspaceId ≠ workspaceId then .error .workspace
  else .ok ()

def prune (clock : ℕ → Time) (refuses : Lease → Option LeaseError) :
    ℕ → List Lease → LeaseStore → Answered Unit
  | _, [], s => (s, .ok ())
  | i, lease :: rest, s =>
    if !lease.live (clock i) then prune clock refuses (i + 1) rest (s.remove lease)
    else
      match refuses lease with
      | some e => (s, .error e)
      | none => prune clock refuses (i + 1) rest s

def refusesAcquire (repoPath : String) (worktreePath : Option String) (lease : Lease) :
    Option LeaseError :=
  if lease.conflicts repoPath worktreePath then some (.owned lease.owner lease.expiresAt) else none

def grant (s : LeaseStore) (lease : Lease) : LeaseStore :=
  match present lease.workspaceId with
  | none => s.write lease
  | some workspaceId => (s.write lease).map workspaceId lease.token

/-- `acquire`; the first reading of the clock is taken before the lock. -/
def acquire (place : LeaseIdentity → ℕ) (clock : ℕ → Time) (owner hostname repoPath : String)
    (worktreePath : Option String) (ttlSeconds : ℤ) (workspaceId : Option WorkspaceId)
    (sessionId : Option SessionId) (s : LeaseStore) : Answered Lease :=
  if ttlSeconds ≤ 0 then (s, .error .ttl)
  else
    let lease : Lease :=
      { token := s.drawn
        owner, repoPath, hostname, workspaceId, sessionId
        worktreePath := present worktreePath
        createdAt := clock 0
        expiresAt := clock 0 + ttlSeconds }
    let drawn := { s with drawn := s.drawn + 1 }
    let pruned := prune clock (refusesAcquire repoPath (present worktreePath)) 1
      (s.listed place) drawn
    match pruned.2 with
    | .error e => (pruned.1, .error e)
    | .ok () => (pruned.1.grant lease, .ok lease)

def assertSpawnAllowed (place : LeaseIdentity → ℕ) (clock : ℕ → Time) (repoPath : String)
    (useWorktree : Bool) (s : LeaseStore) : Answered Unit :=
  prune clock (fun lease =>
    if lease.repoPath = repoPath ∧ (useWorktree = false ∨ lease.worktreePath = none) then
      some (.repositoryOwned lease.owner lease.expiresAt) else none) 0 (s.listed place) s

def renewed (clock : ℕ → Time) (ttlSeconds : ℤ) (lease : Lease) : Lease :=
  { lease with expiresAt := clock 0 + ttlSeconds }

def renew (place : LeaseIdentity → ℕ) (clock : ℕ → Time) (token : Token) (ttlSeconds : ℤ)
    (owner : Option String) (workspaceId : Option WorkspaceId) (s : LeaseStore) : Answered Lease :=
  if ttlSeconds ≤ 0 then (s, .error .ttl)
  else
    match s.find place token with
    | none => (s, .error .notFound)
    | some lease =>
      match checkOwner lease owner workspaceId with
      | .error e => (s, .error e)
      | .ok () => (s.write (renewed clock ttlSeconds lease), .ok (renewed clock ttlSeconds lease))

def renewWorkspace (place : LeaseIdentity → ℕ) (clock : ℕ → Time) (workspaceId : WorkspaceId)
    (ttlSeconds : ℤ) (s : LeaseStore) : Answered (Option Lease) :=
  if ttlSeconds ≤ 0 then (s, .error .ttl)
  else
    match s.mapped workspaceId with
    | none => (s, .ok none)
    | some token =>
      match s.find place token with
      | none => (s, .error (.noRecord workspaceId))
      | some lease =>
        match checkOwner lease none (some workspaceId) with
        | .error e => (s, .error e)
        | .ok () =>
          (s.write (renewed clock ttlSeconds lease), .ok (some (renewed clock ttlSeconds lease)))

def attachWorkspace (place : LeaseIdentity → ℕ) (token : Token) (workspaceId : WorkspaceId)
    (sessionId : Option SessionId) (s : LeaseStore) : Answered Lease :=
  match s.find place token with
  | none => (s, .error .notFound)
  | some lease =>
    let attached := { lease with
      workspaceId := some workspaceId
      sessionId := (present sessionId).or lease.sessionId }
    ((s.write attached).map workspaceId token, .ok attached)

def releaseLocked (place : LeaseIdentity → ℕ) (token : Token) (owner : Option String)
    (workspaceId : Option WorkspaceId) (s : LeaseStore) : Answered Lease :=
  match s.find place token with
  | none => (s, .error .notFound)
  | some lease =>
    match checkOwner lease owner workspaceId with
    | .error e => (s, .error e)
    | .ok () => (s.remove lease, .ok lease)

def releaseWorkspace (place : LeaseIdentity → ℕ) (workspaceId : WorkspaceId) (s : LeaseStore) :
    Answered Lease :=
  match s.mapped workspaceId with
  | none => (s, .error (.noMapping workspaceId))
  | some token => s.releaseLocked place token none (some workspaceId)

def releaseWorkspaceIfPresent (place : LeaseIdentity → ℕ) (workspaceId : WorkspaceId)
    (s : LeaseStore) : Answered (Option Lease) :=
  match s.mapped workspaceId with
  | none => (s, .ok none)
  | some token =>
    let released := s.releaseLocked place token none (some workspaceId)
    (released.1, released.2.map some)

def recoverStale (place : LeaseIdentity → ℕ) (clock : ℕ → Time) (s : LeaseStore) : LeaseStore :=
  (prune clock (fun _ => none) 0 (s.listed place) s).1

end LeaseStore

/-- The operations on the lease directory; the reads of it are left out. -/
inductive LeaseCall where
  | acquire (clock : ℕ → Time) (owner hostname repoPath : String) (worktreePath : Option String)
      (ttlSeconds : ℤ) (workspaceId : Option WorkspaceId) (sessionId : Option SessionId)
  | assertSpawnAllowed (clock : ℕ → Time) (repoPath : String) (useWorktree : Bool)
  | renew (clock : ℕ → Time) (token : Token) (ttlSeconds : ℤ) (owner : Option String)
      (workspaceId : Option WorkspaceId)
  | renewWorkspace (clock : ℕ → Time) (workspaceId : WorkspaceId) (ttlSeconds : ℤ)
  | attachWorkspace (token : Token) (workspaceId : WorkspaceId) (sessionId : Option SessionId)
  | release (token : Token) (owner : Option String) (workspaceId : Option WorkspaceId)
  | releaseWorkspace (workspaceId : WorkspaceId)
  | releaseWorkspaceIfPresent (workspaceId : WorkspaceId)
  | recoverStale (clock : ℕ → Time)

def LeaseCall.exec (place : LeaseIdentity → ℕ) (s : LeaseStore) : LeaseCall → LeaseStore
  | acquire clock owner hostname repoPath worktreePath ttlSeconds workspaceId sessionId =>
    (s.acquire place clock owner hostname repoPath worktreePath ttlSeconds workspaceId sessionId).1
  | assertSpawnAllowed clock repoPath useWorktree =>
    (s.assertSpawnAllowed place clock repoPath useWorktree).1
  | renew clock token ttlSeconds owner workspaceId =>
    (s.renew place clock token ttlSeconds owner workspaceId).1
  | renewWorkspace clock workspaceId ttlSeconds =>
    (s.renewWorkspace place clock workspaceId ttlSeconds).1
  | attachWorkspace token workspaceId sessionId =>
    (s.attachWorkspace place token workspaceId sessionId).1
  | release token owner workspaceId => (s.releaseLocked place token owner workspaceId).1
  | releaseWorkspace workspaceId => (s.releaseWorkspace place workspaceId).1
  | releaseWorkspaceIfPresent workspaceId => (s.releaseWorkspaceIfPresent place workspaceId).1
  | recoverStale clock => s.recoverStale place clock

end SightMesh
