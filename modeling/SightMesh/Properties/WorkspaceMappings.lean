import SightMesh.Database.Run
import SightMesh.Leases.Changes

/-! The workspace mappings and the leases: which mapping names which lease. -/
namespace SightMesh

open Database Python

variable {place : LeaseIdentity → ℕ} {s : LeaseStore}

namespace LeaseStore

/-- Every mapping names a lease that records the workspace, and every lease that records a workspace
is the one its mapping names. -/
structure Corresponds (s : LeaseStore) : Prop where
  named : ∀ workspaceId token, s.mapped workspaceId = some token →
    ∃ lease ∈ s.leases.rows, lease.token = token ∧ lease.workspaceId = some workspaceId
  recorded : ∀ lease ∈ s.leases.rows, ∀ workspaceId, present lease.workspaceId = some workspaceId →
    s.mapped workspaceId = some lease.token

/-- A mapping goes only with the lease it names. -/
def SparesMappings (a b : LeaseStore) : Prop :=
  ∀ workspaceId token, a.mapped workspaceId = some token →
    (∃ lease ∈ b.leases.rows, lease.token = token) → b.mapped workspaceId = some token

/-- What carries the correspondence over the calls. -/
structure Matched (s : LeaseStore) : Prop extends s.Corresponds where
  unique : ∀ a ∈ s.leases.rows, ∀ b ∈ s.leases.rows, a.token = b.token → a = b
  drawn : ∀ lease ∈ s.leases.rows, lease.token < s.drawn
  nonempty : s.mapped "" = none

@[simp] theorem mapped_map (s : LeaseStore) (workspaceId w : WorkspaceId) (token : Token) :
    (s.map workspaceId token).mapped w =
      if w = workspaceId then some token else s.mapped w := by
  simp only [mapped, map, Table.get_put]
  split <;> rfl

@[simp] theorem mapped_write (s : LeaseStore) (lease : Lease) (w : WorkspaceId) :
    (s.write lease).mapped w = s.mapped w := rfl

theorem mapped_remove (s : LeaseStore) (lease : Lease) (w : WorkspaceId) :
    (s.remove lease).mapped w = if present lease.workspaceId = some w then none else s.mapped w := by
  unfold remove mapped
  cases recorded : present lease.workspaceId with
  | none => simp
  | some workspaceId =>
    simp only [Table.get_erase, Option.some.injEq, eq_comm (a := w)]
    split <;> rfl

theorem eq_of_identity {a b : Lease} (mem : a ∈ s.leases.rows) (mem' : b ∈ s.leases.rows)
    (same : a.identity = b.identity) : a = b :=
  List.inj_on_of_nodup_map s.leases.unique mem mem' same

namespace Matched

theorem ne_empty (matched : s.Matched) {w : WorkspaceId} {token : Token}
    (mapped : s.mapped w = some token) : w ≠ "" := by
  rintro rfl
  exact nomatch matched.nonempty.symm.trans mapped

theorem remove (matched : s.Matched) {lease : Lease} (known : lease ∈ s.leases.rows) :
    (s.remove lease).Matched := by
  refine ⟨⟨?_, ?_⟩, ?_, ?_, ?_⟩
  · intro w token mapped
    rw [mapped_remove] at mapped
    split at mapped
    · exact nomatch mapped
    · rename_i other
      obtain ⟨l, mem, rfl, recorded⟩ := matched.named w token mapped
      refine ⟨l, mem_leases_remove.mpr ⟨mem, fun same => other ?_⟩, rfl, recorded⟩
      rw [← eq_of_identity mem known same, recorded]
      exact present_of_ne (matched.ne_empty mapped)
  · intro l mem w recorded
    obtain ⟨mem, differ⟩ := mem_leases_remove.mp mem
    have mapped := matched.recorded l mem w recorded
    rw [mapped_remove, if_neg]
    · exact mapped
    · intro same
      have shared := matched.recorded lease known w same
      have tokens : l.token = lease.token := Option.some.inj (mapped.symm.trans shared)
      exact differ (congrArg Lease.identity (matched.unique l mem lease known tokens))
  · intro a mem b mem'
    exact matched.unique a (mem_leases_remove.mp mem).1 b (mem_leases_remove.mp mem').1
  · exact fun l mem => matched.drawn l (mem_leases_remove.mp mem).1
  · rw [mapped_remove]
    split
    · rfl
    · exact matched.nonempty

theorem spares_remove (matched : s.Matched) {lease : Lease} (known : lease ∈ s.leases.rows) :
    s.SparesMappings (s.remove lease) := by
  rintro w _ mapped ⟨l, mem, rfl⟩
  obtain ⟨mem, differ⟩ := mem_leases_remove.mp mem
  rw [mapped_remove, if_neg]
  · exact mapped
  · intro same
    have shared := matched.recorded lease known w same
    have tokens : l.token = lease.token := Option.some.inj (mapped.symm.trans shared)
    exact differ (congrArg Lease.identity (matched.unique l mem lease known tokens))

theorem trims (matched : s.Matched) {s' : LeaseStore} (trims : s.Trims s') :
    s'.Matched ∧ s.SparesMappings s' := by
  induction trims with
  | refl => exact ⟨matched, fun _ _ mapped _ => mapped⟩
  | draw _ ih =>
    obtain ⟨matched', spares⟩ := ih
    refine ⟨⟨⟨matched'.named, matched'.recorded⟩, matched'.unique, ?_, matched'.nonempty⟩, spares⟩
    exact fun l mem => (matched'.drawn l mem).trans (Nat.lt_succ_self _)
  | remove _ known ih =>
    obtain ⟨matched', spares⟩ := ih
    refine ⟨matched'.remove known, fun w token mapped => ?_⟩
    rintro ⟨l, mem, named⟩
    have still := spares w token mapped ⟨l, (mem_leases_remove.mp mem).1, named⟩
    exact matched'.spares_remove known w token still ⟨l, mem, named⟩

theorem other_token (matched : s.Matched) {lease next l : Lease} (known : lease ∈ s.leases.rows)
    (identity : next.identity = lease.identity) (mem : l ∈ s.leases.rows)
    (differ : l.identity ≠ next.identity) : l.token ≠ lease.token := by
  intro same
  exact differ (matched.unique l mem lease known same ▸ identity.symm)

theorem unique_write (matched : s.Matched) {lease next : Lease} (known : lease ∈ s.leases.rows)
    (identity : next.identity = lease.identity) (token : next.token = lease.token) :
    ∀ a ∈ (s.write next).leases.rows, ∀ b ∈ (s.write next).leases.rows, a.token = b.token → a = b := by
  intro a mem b mem' same
  simp only [leases_write, Table.mem_put] at mem mem'
  obtain rfl | ⟨mem, differ⟩ := mem
  · obtain rfl | ⟨mem', differ'⟩ := mem'
    · rfl
    · exact absurd (same.symm.trans token) (matched.other_token known identity mem' differ')
  · obtain rfl | ⟨mem', differ'⟩ := mem'
    · exact absurd (same.trans token) (matched.other_token known identity mem differ)
    · exact matched.unique a mem b mem' same

theorem drawn_write (matched : s.Matched) {lease next : Lease} (known : lease ∈ s.leases.rows)
    (token : next.token = lease.token) : ∀ l ∈ (s.write next).leases.rows, l.token < s.drawn := by
  intro l mem
  obtain rfl | ⟨mem, _⟩ := Table.mem_put.mp mem
  · rw [token]
    exact matched.drawn lease known
  · exact matched.drawn l mem

theorem renewed (matched : s.Matched) {lease : Lease} (known : lease ∈ s.leases.rows)
    (expiresAt : Time) : (s.write { lease with expiresAt }).Matched := by
  refine ⟨⟨?_, ?_⟩, matched.unique_write known rfl rfl, matched.drawn_write known rfl,
    matched.nonempty⟩
  · intro w token mapped
    obtain ⟨l, mem, rfl, recorded⟩ := matched.named w token mapped
    by_cases same : l.identity = lease.identity
    · obtain rfl := eq_of_identity mem known same
      exact ⟨_, Table.mem_put.mpr (.inl rfl), rfl, recorded⟩
    · exact ⟨l, Table.mem_put.mpr (.inr ⟨mem, same⟩), rfl, recorded⟩
  · intro l mem w recorded
    obtain rfl | ⟨mem, _⟩ := Table.mem_put.mp mem
    · exact matched.recorded lease known w recorded
    · exact matched.recorded l mem w recorded

theorem attached (matched : s.Matched) {lease : Lease} (known : lease ∈ s.leases.rows)
    {workspaceId : WorkspaceId} (session : Option SessionId) (name : workspaceId ≠ "")
    (loose : ∀ w, present lease.workspaceId = some w → w = workspaceId)
    (free : ∀ l ∈ s.leases.rows, l.workspaceId = some workspaceId → l.token = lease.token) :
    ((s.write { lease with workspaceId := some workspaceId, sessionId := session }).map workspaceId
      lease.token).Matched := by
  refine ⟨⟨?_, ?_⟩, matched.unique_write known rfl rfl, matched.drawn_write known rfl, ?_⟩
  · intro w token mapped
    rw [mapped_map] at mapped
    split at mapped
    · rename_i same
      cases mapped
      exact ⟨_, Table.mem_put.mpr (.inl rfl), rfl, congrArg some same.symm⟩
    · rename_i other
      obtain ⟨l, mem, rfl, recorded⟩ := matched.named w token mapped
      have differ : l.identity ≠ lease.identity := by
        intro same
        obtain rfl := eq_of_identity mem known same
        apply other
        apply loose
        rw [recorded]
        exact present_of_ne (matched.ne_empty mapped)
      exact ⟨l, Table.mem_put.mpr (.inr ⟨mem, differ⟩), rfl, recorded⟩
  · intro l mem w recorded
    rw [mapped_map]
    obtain rfl | ⟨stored, differ⟩ := Table.mem_put.mp mem
    · have same : w = workspaceId := by
        rw [present_of_ne name] at recorded
        exact (Option.some.inj recorded).symm
      rw [if_pos same]
    · rw [if_neg]
      · exact matched.recorded l stored w recorded
      · rintro rfl
        have taken := free l stored (Option.filter_eq_some_iff.mp recorded).1
        exact matched.other_token known rfl stored differ taken
  · rw [mapped_map, if_neg (Ne.symm name)]
    exact matched.nonempty

theorem granted (matched : s.Matched) {lease : Lease}
    (free : ∀ l ∈ s.leases.rows, l.identity ≠ lease.identity)
    (token : ∀ l ∈ s.leases.rows, l.token < lease.token) (drawn : lease.token < s.drawn)
    (loose : ∀ l ∈ s.leases.rows, ∀ w, present lease.workspaceId = some w →
      l.workspaceId ≠ some w) : (s.grant lease).Matched := by
  have old : ∀ l, l ∈ (s.write lease).leases.rows ↔ l = lease ∨ l ∈ s.leases.rows := by
    intro l
    rw [leases_write, Table.mem_put]
    constructor
    · rintro (rfl | ⟨mem, _⟩)
      · exact .inl rfl
      · exact .inr mem
    · rintro (rfl | mem)
      · exact .inl rfl
      · exact .inr ⟨mem, free l mem⟩
  have unique : ∀ a ∈ (s.write lease).leases.rows, ∀ b ∈ (s.write lease).leases.rows,
      a.token = b.token → a = b := by
    intro a mem b mem' same
    obtain rfl | stored := (old a).mp mem
    · obtain rfl | stored' := (old b).mp mem'
      · rfl
      · exact absurd same.symm (token b stored').ne
    · obtain rfl | stored' := (old b).mp mem'
      · exact absurd same (token a stored).ne
      · exact matched.unique a stored b stored' same
  have bounded : ∀ l ∈ (s.write lease).leases.rows, l.token < s.drawn := by
    intro l mem
    obtain rfl | mem := (old l).mp mem
    · exact drawn
    · exact matched.drawn l mem
  unfold grant
  cases recorded : present lease.workspaceId with
  | none =>
    refine ⟨⟨?_, ?_⟩, unique, bounded, matched.nonempty⟩
    · intro w t mapped
      obtain ⟨l, mem, named⟩ := matched.named w t mapped
      exact ⟨l, (old l).mpr (.inr mem), named⟩
    · intro l mem w known
      obtain rfl | mem := (old l).mp mem
      · exact nomatch recorded.symm.trans known
      · exact matched.recorded l mem w known
  | some workspaceId =>
    obtain ⟨own, name⟩ := Option.filter_eq_some_iff.mp recorded
    refine ⟨⟨?_, ?_⟩, unique, bounded, ?_⟩
    · intro w t mapped
      rw [mapped_map] at mapped
      split at mapped
      · rename_i same
        cases mapped
        exact ⟨lease, (old lease).mpr (.inl rfl), rfl, own.trans (congrArg some same.symm)⟩
      · obtain ⟨l, mem, named⟩ := matched.named w t mapped
        exact ⟨l, (old l).mpr (.inr mem), named⟩
    · intro l mem w known
      rw [mapped_map]
      obtain rfl | stored := (old l).mp mem
      · rw [if_pos (Option.some.inj (known.symm.trans recorded))]
      · rw [if_neg]
        · exact matched.recorded l stored w known
        · rintro rfl
          exact loose l stored w recorded (Option.filter_eq_some_iff.mp known).1
    · rw [mapped_map, if_neg]
      · exact matched.nonempty
      · rintro rfl
        simp at name

end Matched

end LeaseStore

/-- The call names a workspace whose mapping it does not own: it is granted a lease for a workspace
that a live lease records, or attaches a lease that has another workspace, or to a workspace that
another lease records, or to one without a name. -/
def LeaseCall.remaps (place : LeaseIdentity → ℕ) (s : LeaseStore) : LeaseCall → Bool
  | .acquire clock _ _ repoPath worktreePath ttlSeconds workspaceId _ =>
    0 < ttlSeconds ∧ s.Free place clock repoPath worktreePath ∧ (present workspaceId).isSome ∧
      ∃ l ∈ LeaseStore.foundLive clock 1 (s.listed place), l.workspaceId = workspaceId
  | .attachWorkspace token workspaceId _ =>
    (s.find place token).any fun lease =>
      workspaceId = "" ∨ (present lease.workspaceId).any (· ≠ workspaceId) ∨
        ∃ l ∈ s.leases.rows, l.token ≠ token ∧ l.workspaceId = some workspaceId
  | _ => false

theorem LeaseCall.matched (call : LeaseCall) (matched : s.Matched)
    (owned : call.remaps place s = false) :
    (call.exec place s).Matched ∧ s.SparesMappings (call.exec place s) := by
  have outcome : call.Outcome place s (call.exec place s) := call.exec_outcome
  generalize call.exec place s = s' at outcome ⊢
  cases outcome with
  | trimmed trims => exact matched.trims trims
  | renewed expiresAt known => exact ⟨matched.renewed known expiresAt, fun _ _ mapped _ => mapped⟩
  | @attached lease workspaceId asked session found =>
    have known := (LeaseStore.mem_of_find found).1
    simp only [remaps, found, Option.any_some, decide_eq_false_iff_not, not_or, not_exists, not_and,
      Option.any_eq_true, not_not, decide_eq_true_eq, ne_eq] at owned
    obtain ⟨name, loose, free⟩ := owned
    constructor
    · refine matched.attached known session name loose fun l mem recorded => ?_
      by_contra other
      exact free l mem other recorded
    · intro w token mapped _
      rw [LeaseStore.mapped_map, LeaseStore.mapped_write]
      split
      · rename_i same
        obtain ⟨l, mem, rfl, recorded⟩ := matched.named w token mapped
        by_contra other
        exact free l mem (fun eq => other (congrArg some eq.symm)) (same ▸ recorded)
      · exact mapped
  | @acquired clock _ _ repoPath worktreePath _ workspaceId _ s' lease positive free trims drawn kept repo
      worktree token workspace =>
    obtain ⟨matched', spares⟩ := matched.trims trims
    have loose : ∀ l ∈ s'.leases.rows, ∀ w, present lease.workspaceId = some w →
        l.workspaceId ≠ some w := by
      intro l mem w recorded own
      have live := (kept l).mp mem
      rw [workspace] at recorded
      have named : workspaceId = some w := (Option.filter_eq_some_iff.mp recorded).1
      have taken : ∃ l ∈ LeaseStore.foundLive clock 1 (s.listed place), l.workspaceId = workspaceId :=
        ⟨l, live, own.trans named.symm⟩
      simp [remaps, positive, free, recorded, taken] at owned
    constructor
    · refine matched'.granted ?_ ?_ ?_ loose
      · intro l mem
        refine Lease.identity_ne ?_
        rw [repo, worktree]
        exact free l ((kept l).mp mem)
      · intro l mem
        rw [token]
        exact matched.drawn l (trims.kept mem)
      · rw [token, drawn]
        exact Nat.lt_succ_self _
    · rintro w t mapped ⟨l, mem, named⟩
      obtain ⟨first, known, first_token, _⟩ := matched.named w t mapped
      have older : t < lease.token := by
        rw [token, ← first_token]
        exact matched.drawn first known
      have stored : l ∈ s'.leases.rows := by
        rw [LeaseStore.leases_grant, Table.mem_put] at mem
        obtain rfl | ⟨stored, _⟩ := mem
        · exact absurd named older.ne'
        · exact stored
      have still := spares w t mapped ⟨l, stored, named⟩
      obtain ⟨holder, held, _, recorded⟩ := matched'.named w t still
      unfold LeaseStore.grant
      split
      · exact still
      · rename_i own
        rw [LeaseStore.mapped_map, if_neg]
        · exact still
        · rintro rfl
          exact loose holder held w own recorded

def byLength (identity : LeaseIdentity) : ℕ := identity.repoPath.length

def renewedCalls : List LeaseCall :=
  [.acquire (fun _ => 0) "first" "host" "/repo" none 60 (some "a") none,
    .acquire (fun _ => 10) "second" "host" "/other" none 60 (some "b") none,
    .renewWorkspace (fun _ => 30) "b" 60, .releaseWorkspace "a"]

def movedCalls : List LeaseCall :=
  [.acquire (fun _ => 0) "first" "host" "/repo" none 60 (some "a") none,
    .attachWorkspace 0 "b" none]

end SightMesh
