import SightMesh.Database.Run
import SightMesh.Leases.Changes

/-! Who owns what under the leases: no two conflict, no directory has two owners unless a repository
is taken as a worktree, and the workspace mappings follow the leases. -/
namespace SightMesh

open Database Python

variable {place : LeaseIdentity → ℕ} {s : LeaseStore}

/-! ### Conflicts -/

namespace LeaseStore

/-- No two leases conflict, live or not. -/
def Apart (s : LeaseStore) : Prop :=
  ∀ a ∈ s.leases.rows, ∀ b ∈ s.leases.rows, a ≠ b →
    a.conflicts b.repoPath b.worktreePath = false

/-- No two leases that are live at one time conflict. -/
def ConflictFree (s : LeaseStore) : Prop :=
  ∀ now, ∀ a ∈ s.leases.rows, ∀ b ∈ s.leases.rows, a.live now = true → b.live now = true → a ≠ b →
    a.conflicts b.repoPath b.worktreePath = false

theorem Apart.trims {s' : LeaseStore} (apart : s.Apart) (trims : s.Trims s') : s'.Apart :=
  fun a mem b mem' => apart a (trims.kept mem) b (trims.kept mem')

theorem Apart.rewrite (apart : s.Apart) {lease next : Lease} (known : lease ∈ s.leases.rows)
    (repo : next.repoPath = lease.repoPath) (worktree : next.worktreePath = lease.worktreePath) :
    (s.write next).Apart := by
  have same : next.identity = lease.identity := by simp [Lease.identity, repo, worktree]
  have others : ∀ l ∈ s.leases.rows, l.identity ≠ next.identity →
      l.conflicts next.repoPath next.worktreePath = false := by
    intro l mem other
    rw [repo, worktree]
    exact apart l mem lease known fun eq => other (eq ▸ same.symm)
  intro a mem b mem' differ
  simp only [leases_write, Table.mem_put] at mem mem'
  obtain rfl | ⟨mem, other⟩ := mem
  · obtain rfl | ⟨mem', other'⟩ := mem'
    · exact absurd rfl differ
    · rw [Lease.conflicts_symm]
      exact others b mem' other'
  · obtain rfl | ⟨mem', other'⟩ := mem'
    · exact others a mem other
    · exact apart a mem b mem' differ

theorem Apart.grant (apart : s.Apart) {lease : Lease} (free : ∀ l ∈ s.leases.rows,
    l.conflicts lease.repoPath lease.worktreePath = false) : (s.grant lease).Apart := by
  intro a mem b mem' differ
  rw [leases_grant, Table.mem_put] at mem mem'
  obtain rfl | ⟨mem, other⟩ := mem
  · obtain rfl | ⟨mem', other'⟩ := mem'
    · exact absurd rfl differ
    · rw [Lease.conflicts_symm]
      exact free b mem'
  · obtain rfl | ⟨mem', other'⟩ := mem'
    · exact free a mem
    · exact apart a mem b mem' differ

end LeaseStore

theorem LeaseCall.apart (call : LeaseCall) (apart : s.Apart) : (call.exec place s).Apart := by
  have outcome : call.Outcome place s (call.exec place s) := call.exec_outcome
  generalize call.exec place s = s' at outcome ⊢
  cases outcome with
  | trimmed trims => exact apart.trims trims
  | renewed expiresAt known => exact apart.rewrite known rfl rfl
  | attached workspaceId asked session found =>
    exact apart.rewrite (LeaseStore.mem_of_find found).1 rfl rfl
  | acquired _ free trims _ kept repo worktree =>
    refine (apart.trims trims).grant fun l mem => ?_
    rw [repo, worktree]
    exact free l ((kept l).mp mem)

/-- Whatever operations run, in whatever order and however the clock moves, no two live leases
conflict. -/
theorem live_leases_apart (place : LeaseIdentity → ℕ) (calls : List LeaseCall) :
    Throughout (LeaseCall.exec place) LeaseStore.ConflictFree .empty calls := by
  rintro before after rfl
  have apart : (play (LeaseCall.exec place) .empty before).Apart := by
    have passes : Passes (LeaseCall.exec place) (fun _ _ => True) .empty before :=
      passes_of_forall (fun _ _ => trivial) _ _
    refine play_invariant ?_ (fun s call apart _ => call.apart apart) passes
    exact fun a mem => nomatch mem
  exact fun _ a mem b mem' _ _ => apart a mem b mem'

/-! ### Directories -/

namespace Lease

def directory (lease : Lease) : String := (present lease.worktreePath).getD lease.repoPath

/-- The lease and a request are after one directory, the one as a worktree and the other as the
repository it is. -/
def crosses (lease : Lease) (repoPath : String) (worktreePath : Option String) : Bool :=
  match present lease.worktreePath, present worktreePath with
  | some owned, none => owned = repoPath
  | none, some wanted => lease.repoPath = wanted
  | _, _ => false

end Lease

/-- Two leases without a conflict own one directory only where they cross. -/
theorem Lease.directory_iff {a b : Lease} (free : a.conflicts b.repoPath b.worktreePath = false) :
    a.directory = b.directory ↔ a.crosses b.repoPath b.worktreePath = true := by
  unfold conflicts at free
  unfold directory crosses
  cases own : present a.worktreePath with
  | none =>
    cases wanted : present b.worktreePath with
    | some directory => simp
    | none =>
      simp only [Option.getD_none, Bool.false_eq_true, iff_false]
      intro same
      obtain none_a | empty_a := present_eq_none own
      · simp [same, none_a] at free
      · obtain none_b | empty_b := present_eq_none wanted
        · simp [same, none_b] at free
        · simp [same, empty_a, empty_b] at free
  | some owned =>
    have at_a := eq_some_of_present own
    cases wanted : present b.worktreePath with
    | none => simp
    | some directory =>
      have at_b := eq_some_of_present wanted
      simp only [Option.getD_some, Bool.false_eq_true, iff_false]
      rintro rfl
      by_cases same : a.repoPath = b.repoPath
      · simp [same, at_a, at_b] at free
      · rw [at_a] at own
        simp [same, at_a, at_b, own] at free

namespace LeaseStore

def OwnedOnce (s : LeaseStore) : Prop :=
  ∀ now, ∀ a ∈ s.leases.rows, ∀ b ∈ s.leases.rows, a.live now = true → b.live now = true →
    a.directory = b.directory → a = b

end LeaseStore

/-- The call is granted a directory that a live lease owns in the other role. -/
def LeaseCall.takesCrossed (place : LeaseIdentity → ℕ) (s : LeaseStore) : LeaseCall → Bool
  | .acquire clock _ _ repoPath worktreePath ttlSeconds _ _ =>
    0 < ttlSeconds ∧ s.Free place clock repoPath worktreePath ∧
      ∃ l ∈ LeaseStore.foundLive clock 1 (s.listed place),
        l.crosses repoPath (present worktreePath) = true
  | _ => false

namespace LeaseStore

/-- No two leases own the same directory. -/
def Distinct (s : LeaseStore) : Prop :=
  ∀ a ∈ s.leases.rows, ∀ b ∈ s.leases.rows, a.directory = b.directory → a = b

theorem Distinct.rewrite (distinct : s.Distinct) {lease next : Lease}
    (known : lease ∈ s.leases.rows) (repo : next.repoPath = lease.repoPath)
    (worktree : next.worktreePath = lease.worktreePath) : (s.write next).Distinct := by
  have same : next.identity = lease.identity := by simp [Lease.identity, repo, worktree]
  have others : ∀ l ∈ s.leases.rows, l.identity ≠ next.identity →
      l.directory ≠ next.directory := by
    intro l mem other at_once
    have at_lease : l.directory = lease.directory := by
      simpa [Lease.directory, repo, worktree] using at_once
    exact other (distinct l mem lease known at_lease ▸ same.symm)
  intro a mem b mem' at_once
  simp only [leases_write, Table.mem_put] at mem mem'
  obtain rfl | ⟨mem, other⟩ := mem
  · obtain rfl | ⟨mem', other'⟩ := mem'
    · rfl
    · exact absurd at_once.symm (others b mem' other')
  · obtain rfl | ⟨mem', other'⟩ := mem'
    · exact absurd at_once (others a mem other)
    · exact distinct a mem b mem' at_once

theorem Distinct.grant (distinct : s.Distinct) {lease : Lease}
    (free : ∀ l ∈ s.leases.rows, l.directory ≠ lease.directory) : (s.grant lease).Distinct := by
  intro a mem b mem' at_once
  rw [leases_grant, Table.mem_put] at mem mem'
  obtain rfl | ⟨mem, other⟩ := mem
  · obtain rfl | ⟨mem', other'⟩ := mem'
    · rfl
    · exact absurd at_once.symm (free b mem')
  · obtain rfl | ⟨mem', other'⟩ := mem'
    · exact absurd at_once (free a mem)
    · exact distinct a mem b mem' at_once

end LeaseStore

theorem LeaseCall.distinct (call : LeaseCall) (distinct : s.Distinct)
    (straight : call.takesCrossed place s = false) : (call.exec place s).Distinct := by
  have outcome : call.Outcome place s (call.exec place s) := call.exec_outcome
  generalize call.exec place s = s' at outcome ⊢
  cases outcome with
  | trimmed trims => exact fun a mem b mem' => distinct a (trims.kept mem) b (trims.kept mem')
  | renewed expiresAt known => exact distinct.rewrite known rfl rfl
  | attached workspaceId asked session found =>
    exact distinct.rewrite (LeaseStore.mem_of_find found).1 rfl rfl
  | @acquired clock _ _ repoPath worktreePath _ _ _ s' lease positive free trims _ kept repo
      worktree =>
    have distinct' : s'.Distinct := fun a mem b mem' =>
      distinct a (trims.kept mem) b (trims.kept mem')
    refine distinct'.grant fun l mem at_once => ?_
    have live := (kept l).mp mem
    have crossed : l.crosses repoPath (present worktreePath) = true := by
      rw [← repo, ← worktree]
      refine (Lease.directory_iff ?_).mp at_once
      rw [repo, worktree]
      exact free l live
    simp only [LeaseCall.takesCrossed, positive, free, true_and, decide_eq_false_iff_not,
      not_exists, not_and] at straight
    exact straight l live crossed

theorem Lease.conflicts_self (lease : Lease) :
    lease.conflicts lease.repoPath lease.worktreePath = true := by
  simp [conflicts]

theorem LeaseCall.straight_of_owned (call : LeaseCall) (owned : (call.exec place s).OwnedOnce) :
    call.takesCrossed place s = false := by
  cases call with
  | acquire clock owner hostname repoPath worktreePath ttlSeconds workspaceId sessionId =>
    by_contra crossed
    simp only [takesCrossed, Bool.not_eq_false, decide_eq_true_eq] at crossed
    obtain ⟨positive, free, l, live, crossed⟩ := crossed
    obtain ⟨s', lease, ran, _, _, kept, repo, worktree, _⟩ :=
      LeaseStore.acquire_granted owner hostname workspaceId sessionId positive free
    have unlike : l ≠ lease := by
      rintro rfl
      have clash := free l live
      rw [← repo, ← worktree, l.conflicts_self] at clash
      exact nomatch clash
    have spared : l.conflicts lease.repoPath lease.worktreePath = false := by
      rw [repo, worktree]
      exact free l live
    have at_once : l.directory = lease.directory := by
      refine (Lease.directory_iff spared).mpr ?_
      rwa [repo, worktree]
    have early : min l.expiresAt lease.expiresAt - 1 < min l.expiresAt lease.expiresAt :=
      sub_one_lt _
    simp only [exec, ran] at owned
    refine unlike (owned (min l.expiresAt lease.expiresAt - 1) l ?_ lease ?_ ?_ ?_ at_once)
    · rw [LeaseStore.leases_grant, Table.mem_put]
      exact .inr ⟨(kept l).mpr live, Lease.identity_ne spared⟩
    · rw [LeaseStore.leases_grant, Table.mem_put]
      exact .inl rfl
    · simpa [Lease.live] using lt_of_lt_of_le early (min_le_left _ _)
    · simpa [Lease.live] using lt_of_lt_of_le early (min_le_right _ _)
  | _ => rfl

/-- No directory has two live owners in any state of a run if and only if no call is granted a
repository that a live lease owns as its worktree, or the other way round. -/
theorem directories_owned_once_iff (place : LeaseIdentity → ℕ) (calls : List LeaseCall) :
    Throughout (LeaseCall.exec place) LeaseStore.OwnedOnce .empty calls ↔
      Passes (LeaseCall.exec place) (fun s call => call.takesCrossed place s = false)
        .empty calls := by
  constructor
  · exact fun owned => owned.passes fun s call _ after => call.straight_of_owned after
  · intro straight
    have distinct : Throughout (LeaseCall.exec place) LeaseStore.Distinct .empty calls :=
      throughout_of_step (fun a mem => nomatch mem) (fun s call => call.distinct) straight
    intro before after split now a mem b mem' _ _
    exact distinct before after split a mem b mem'

def crossedCalls : List LeaseCall :=
  [.acquire (fun _ => 0) "first" "host" "/repo" (some "/worktree") 60 none none,
    .acquire (fun _ => 0) "second" "host" "/worktree" none 60 none none]

theorem crossed_worktree_taken :
    ¬ ∀ (place : LeaseIdentity → ℕ) (calls : List LeaseCall),
      Throughout (LeaseCall.exec place) LeaseStore.OwnedOnce .empty calls := by
  intro all
  have owned := all (fun _ => 0) crossedCalls crossedCalls [] (by simp) 0
  have taken : ∃ a ∈ (play (LeaseCall.exec fun _ => 0) .empty crossedCalls).leases.rows,
      ∃ b ∈ (play (LeaseCall.exec fun _ => 0) .empty crossedCalls).leases.rows,
        a.live 0 ∧ b.live 0 ∧ a.directory = b.directory ∧ a.repoPath ≠ b.repoPath := by
    decide +kernel
  obtain ⟨a, mem, b, mem', live, live', at_once, differ⟩ := taken
  exact differ (congrArg Lease.repoPath (owned a mem b mem' live live' at_once))

end SightMesh
