import SightMesh.Leases.Store

/-! What one call can do to the lease directory. -/
namespace SightMesh

open Database Python

variable {place : LeaseIdentity → ℕ} {clock : ℕ → Time} {refuses : Lease → Option LeaseError}
  {s : LeaseStore}

namespace LeaseStore

@[simp] theorem leases_write (s : LeaseStore) (lease : Lease) :
    (s.write lease).leases = s.leases.put lease := rfl

@[simp] theorem leases_map (s : LeaseStore) (workspaceId : WorkspaceId) (token : Token) :
    (s.map workspaceId token).leases = s.leases := rfl

theorem leases_grant (s : LeaseStore) (lease : Lease) :
    (s.grant lease).leases = s.leases.put lease := by
  unfold grant
  split <;> rfl

@[simp] theorem mem_leases_remove {lease l : Lease} :
    l ∈ (s.remove lease).leases.rows ↔ l ∈ s.leases.rows ∧ l.identity ≠ lease.identity :=
  Table.mem_erase

/-- Tokens are drawn and leases removed, and nothing else. -/
inductive Trims (s : LeaseStore) : LeaseStore → Prop
  | refl : Trims s s
  | draw {s' : LeaseStore} : Trims s s' → Trims s { s' with drawn := s'.drawn + 1 }
  | remove {s' : LeaseStore} {lease : Lease} : Trims s s' → lease ∈ s'.leases.rows →
      Trims s (s'.remove lease)

theorem Trims.trans {mid s' : LeaseStore} (first : s.Trims mid) (second : mid.Trims s') :
    s.Trims s' := by
  induction second with
  | refl => exact first
  | draw _ ih => exact ih.draw
  | remove _ known ih => exact ih.remove known

theorem Trims.kept {s' : LeaseStore} (trims : s.Trims s') {lease : Lease} (kept : lease ∈ s'.leases.rows) :
    lease ∈ s.leases.rows := by
  induction trims with
  | refl => exact kept
  | draw _ ih => exact ih kept
  | remove _ _ ih => exact ih (mem_leases_remove.mp kept).1

/-! ### The pruning loop -/

theorem prune_trims (i : ℕ) {list : List Lease} (known : ∀ l ∈ list, l ∈ s.leases.rows)
    (apart : (list.map Lease.identity).Nodup) : s.Trims (prune clock refuses i list s).1 := by
  induction list generalizing i s with
  | nil => exact .refl
  | cons lease rest ih =>
    obtain ⟨fresh, apart⟩ := List.nodup_cons.mp apart
    have later : ∀ l ∈ rest, l ∈ s.leases.rows := fun l mem => known l (List.mem_cons_of_mem _ mem)
    unfold prune
    split
    · have removed : ∀ l ∈ rest, l ∈ (s.remove lease).leases.rows := by
        intro l mem
        refine mem_leases_remove.mpr ⟨later l mem, fun same => fresh ?_⟩
        exact same ▸ List.mem_map_of_mem mem
      exact (Trims.refl.remove (known lease List.mem_cons_self)).trans (ih (i + 1) removed apart)
    · split
      · exact .refl
      · exact ih (i + 1) later apart

theorem prune_spares (i : ℕ) {list : List Lease} {l : Lease} (known : l ∈ s.leases.rows)
    (apart : l.identity ∉ list.map Lease.identity) :
    l ∈ (prune clock refuses i list s).1.leases.rows := by
  induction list generalizing i s with
  | nil => exact known
  | cons lease rest ih =>
    simp only [List.map_cons, List.mem_cons, not_or] at apart
    unfold prune
    split
    · exact ih (i + 1) (mem_leases_remove.mpr ⟨known, apart.1⟩) apart.2
    · split
      · exact known
      · exact ih (i + 1) known apart.2

/-- The leases the loop finds live, each at the reading of the clock it takes for it. -/
def foundLive (clock : ℕ → Time) : ℕ → List Lease → List Lease
  | _, [] => []
  | i, lease :: rest =>
    if lease.live (clock i) then lease :: foundLive clock (i + 1) rest
    else foundLive clock (i + 1) rest

theorem foundLive_sublist (i : ℕ) (list : List Lease) : (foundLive clock i list).Sublist list := by
  induction list generalizing i with
  | nil => exact List.Sublist.refl []
  | cons lease rest ih =>
    unfold foundLive
    split
    · exact (ih (i + 1)).cons_cons lease
    · exact (ih (i + 1)).cons lease

/-- The loop ends if none of the leases it finds live refuses. -/
theorem prune_ok_iff (i : ℕ) (list : List Lease) :
    (prune clock refuses i list s).2 = .ok () ↔
      ∀ l ∈ foundLive clock i list, refuses l = none := by
  induction list generalizing i s with
  | nil => simp [prune, foundLive]
  | cons lease rest ih =>
    by_cases live : lease.live (clock i) = true
    · cases refused : refuses lease with
      | none => simp [prune, foundLive, live, refused, ih]
      | some e => simp [prune, foundLive, live, refused]
    · simp [prune, foundLive, live, ih]

theorem prune_keeps (i : ℕ) {list : List Lease} (known : ∀ l ∈ list, l ∈ s.leases.rows)
    (apart : (list.map Lease.identity).Nodup)
    (ran : (prune clock refuses i list s).2 = .ok ()) {l : Lease} (mem : l ∈ list) :
    l ∈ (prune clock refuses i list s).1.leases.rows ↔ l ∈ foundLive clock i list := by
  induction list generalizing i s with
  | nil => exact nomatch mem
  | cons lease rest ih =>
    obtain ⟨fresh, apart'⟩ := List.nodup_cons.mp apart
    have later : ∀ l ∈ rest, l ∈ s.leases.rows := fun l mem => known l (List.mem_cons_of_mem _ mem)
    have other : ∀ l ∈ rest, l.identity ≠ lease.identity := by
      intro l mem same
      exact fresh (same ▸ List.mem_map_of_mem mem)
    have removed : ∀ l ∈ rest, l ∈ (s.remove lease).leases.rows :=
      fun l mem => mem_leases_remove.mpr ⟨later l mem, other l mem⟩
    by_cases live : lease.live (clock i) = true
    · cases refused : refuses lease with
      | some e => simp [prune, live, refused] at ran
      | none =>
        simp only [prune, foundLive, live, refused, Bool.not_true, Bool.false_eq_true, if_false,
          if_true, List.mem_cons] at ran mem ⊢
        obtain rfl | mem := mem
        · have kept : l ∈ (prune clock refuses (i + 1) rest s).1.leases.rows :=
            prune_spares (i + 1) (known l List.mem_cons_self) fresh
          simp [kept]
        · have differ : l ≠ lease := fun eq => other l mem (congrArg Lease.identity eq)
          rw [ih (i + 1) later apart' ran mem]
          simp [differ]
    · simp only [prune, foundLive, live, Bool.not_false, Bool.false_eq_true, if_false, if_true,
        List.mem_cons] at ran mem ⊢
      obtain rfl | mem := mem
      · have trims : (s.remove l).Trims (prune clock refuses (i + 1) rest (s.remove l)).1 :=
          prune_trims (i + 1) removed apart'
        have gone : l ∉ (prune clock refuses (i + 1) rest (s.remove l)).1.leases.rows := by
          intro kept
          exact (mem_leases_remove.mp (trims.kept kept)).2 rfl
        have unseen : l ∉ foundLive clock (i + 1) rest := by
          intro seen
          exact fresh (List.mem_map_of_mem ((foundLive_sublist (i + 1) rest).mem seen))
        simp [gone, unseen]
      · exact ih (i + 1) removed apart' ran mem

theorem listed_apart (place : LeaseIdentity → ℕ) (s : LeaseStore) :
    ((s.listed place).map Lease.identity).Nodup :=
  ((List.perm_insertionSort _ _).map Lease.identity).nodup_iff.mpr s.leases.unique

theorem prune_listed_trims (i : ℕ) : s.Trims (prune clock refuses i (s.listed place) s).1 :=
  prune_trims i (fun _ => mem_listed.mp) (s.listed_apart place)

theorem mem_of_find {token : Token} {lease : Lease} (found : s.find place token = some lease) :
    lease ∈ s.leases.rows ∧ lease.token = token := by
  constructor
  · exact mem_listed.mp (List.mem_of_find?_eq_some found)
  · simpa using List.find?_some found

theorem prune_drawn (i : ℕ) (list : List Lease) :
    (prune clock refuses i list s).1.drawn = s.drawn := by
  induction list generalizing i s with
  | nil => rfl
  | cons lease rest ih =>
    unfold prune
    split
    · exact ih (i + 1)
    · split
      · rfl
      · exact ih (i + 1)

/-- Nothing that `acquire` finds live conflicts with the request. -/
def Free (place : LeaseIdentity → ℕ) (clock : ℕ → Time) (repoPath : String)
    (worktreePath : Option String) (s : LeaseStore) : Prop :=
  ∀ l ∈ foundLive clock 1 (s.listed place), l.conflicts repoPath (present worktreePath) = false

instance (clock : ℕ → Time) (repoPath : String) (worktreePath : Option String) (s : LeaseStore) :
    Decidable (s.Free place clock repoPath worktreePath) :=
  inferInstanceAs (Decidable (∀ l ∈ foundLive clock 1 (s.listed place), _))

section

variable {repoPath : String} {worktreePath : Option String} {ttlSeconds : ℤ} (owner hostname : String)
  (workspaceId : Option WorkspaceId) (sessionId : Option SessionId)

theorem acquire_refused (taken : ttlSeconds ≤ 0 ∨ ¬ s.Free place clock repoPath worktreePath) :
    s.Trims (s.acquire place clock owner hostname repoPath worktreePath ttlSeconds workspaceId
      sessionId).1 := by
  unfold acquire
  by_cases positive : ttlSeconds ≤ 0
  · rw [if_pos positive]
    exact .refl
  · rw [if_neg positive]
    dsimp only
    split
    · exact Trims.refl.draw.trans (prune_trims 1 (fun _ => mem_listed.mp) (s.listed_apart place))
    · rename_i ran
      refine absurd (fun l live => ?_) (taken.resolve_left positive)
      simpa [refusesAcquire] using (prune_ok_iff 1 _).mp ran l live

theorem acquire_granted (positive : 0 < ttlSeconds)
    (free : s.Free place clock repoPath worktreePath) :
    ∃ s' lease, (s.acquire place clock owner hostname repoPath worktreePath ttlSeconds workspaceId
        sessionId).1 = s'.grant lease ∧ s.Trims s' ∧ s'.drawn = s.drawn + 1 ∧
      (∀ l, l ∈ s'.leases.rows ↔ l ∈ foundLive clock 1 (s.listed place)) ∧
      lease.repoPath = repoPath ∧ lease.worktreePath = present worktreePath ∧
      lease.token = s.drawn ∧ lease.workspaceId = workspaceId := by
  have known : ∀ l ∈ s.listed place,
      l ∈ ({ s with drawn := s.drawn + 1 } : LeaseStore).leases.rows := fun _ => mem_listed.mp
  have trims : s.Trims (prune clock (refusesAcquire repoPath (present worktreePath)) 1
      (s.listed place) { s with drawn := s.drawn + 1 }).1 :=
    Trims.refl.draw.trans (prune_trims 1 known (s.listed_apart place))
  have ran : (prune clock (refusesAcquire repoPath (present worktreePath)) 1
      (s.listed place) { s with drawn := s.drawn + 1 }).2 = .ok () := by
    refine (prune_ok_iff 1 _).mpr fun l live => ?_
    simp [refusesAcquire, free l live]
  unfold acquire
  rw [if_neg (not_le.mpr positive)]
  dsimp only
  rw [ran]
  refine ⟨_, _, rfl, trims, prune_drawn .., fun l => ?_, rfl, rfl, rfl, rfl⟩
  by_cases mem : l ∈ s.listed place
  · exact prune_keeps 1 known (s.listed_apart place) ran mem
  · constructor
    · exact fun kept => absurd (mem_listed.mpr (trims.kept kept)) mem
    · exact fun live => absurd ((foundLive_sublist 1 _).mem live) mem

end

theorem releaseLocked_trims (token : Token) (owner : Option String)
    (workspaceId : Option WorkspaceId) : s.Trims (s.releaseLocked place token owner workspaceId).1 := by
  unfold releaseLocked
  split
  · exact .refl
  · rename_i lease found
    split
    · exact .refl
    · exact Trims.refl.remove (mem_of_find found).1

end LeaseStore

/-! ### One call -/

/-- What a call leaves: leases are removed; or one is given another expiry, one another workspace, or
a new one is granted that conflicts with none of those that were live when they were looked at. -/
inductive LeaseCall.Outcome (place : LeaseIdentity → ℕ) (s : LeaseStore) :
    LeaseCall → LeaseStore → Prop
  | trimmed {call : LeaseCall} {s' : LeaseStore} : s.Trims s' → Outcome place s call s'
  | renewed {call : LeaseCall} {lease : Lease} (expiresAt : Time) : lease ∈ s.leases.rows →
      Outcome place s call (s.write { lease with expiresAt })
  | attached {lease : Lease} (workspaceId : WorkspaceId) (asked session : Option SessionId) :
      s.find place lease.token = some lease →
      Outcome place s (.attachWorkspace lease.token workspaceId asked)
        ((s.write { lease with workspaceId := some workspaceId, sessionId := session }).map
          workspaceId lease.token)
  | acquired {clock : ℕ → Time} {owner hostname repoPath : String} {worktreePath : Option String}
      {ttlSeconds : ℤ} {workspaceId : Option WorkspaceId} {sessionId : Option SessionId}
      {s' : LeaseStore} {lease : Lease} : 0 < ttlSeconds →
      s.Free place clock repoPath worktreePath → s.Trims s' → s'.drawn = s.drawn + 1 →
      (∀ l, l ∈ s'.leases.rows ↔ l ∈ LeaseStore.foundLive clock 1 (s.listed place)) →
      lease.repoPath = repoPath → lease.worktreePath = present worktreePath →
      lease.token = s.drawn → lease.workspaceId = workspaceId →
      Outcome place s (.acquire clock owner hostname repoPath worktreePath ttlSeconds workspaceId
        sessionId) (s'.grant lease)

theorem LeaseCall.exec_outcome (call : LeaseCall) : call.Outcome place s (call.exec place s) := by
  cases call with
  | acquire clock owner hostname repoPath worktreePath ttlSeconds workspaceId sessionId =>
    by_cases granted : 0 < ttlSeconds ∧ s.Free place clock repoPath worktreePath
    · obtain ⟨positive, free⟩ := granted
      obtain ⟨s', lease, ran, trims, drawn, kept, repo, worktree, token, workspace⟩ :=
        LeaseStore.acquire_granted owner hostname workspaceId sessionId positive free
      simp only [exec, ran]
      exact .acquired positive free trims drawn kept repo worktree token workspace
    · refine .trimmed (LeaseStore.acquire_refused _ _ _ _ ?_)
      rwa [not_and_or, not_lt] at granted
  | assertSpawnAllowed => exact .trimmed (LeaseStore.prune_listed_trims _)
  | recoverStale => exact .trimmed (LeaseStore.prune_listed_trims _)
  | release => exact .trimmed (LeaseStore.releaseLocked_trims ..)
  | releaseWorkspace workspaceId =>
    simp only [exec, LeaseStore.releaseWorkspace]
    split
    · exact .trimmed .refl
    · exact .trimmed (LeaseStore.releaseLocked_trims ..)
  | releaseWorkspaceIfPresent workspaceId =>
    simp only [exec, LeaseStore.releaseWorkspaceIfPresent]
    split
    · exact .trimmed .refl
    · exact .trimmed (LeaseStore.releaseLocked_trims ..)
  | renew clock token ttlSeconds owner workspaceId =>
    simp only [exec, LeaseStore.renew]
    split
    · exact .trimmed .refl
    split
    · exact .trimmed .refl
    · rename_i lease found
      split
      · exact .trimmed .refl
      · exact .renewed _ (LeaseStore.mem_of_find found).1
  | renewWorkspace clock workspaceId ttlSeconds =>
    simp only [exec, LeaseStore.renewWorkspace]
    split
    · exact .trimmed .refl
    split
    · exact .trimmed .refl
    split
    · exact .trimmed .refl
    · rename_i lease found
      split
      · exact .trimmed .refl
      · exact .renewed _ (LeaseStore.mem_of_find found).1
  | attachWorkspace token workspaceId sessionId =>
    simp only [exec, LeaseStore.attachWorkspace]
    split
    · exact .trimmed .refl
    · rename_i lease found
      obtain ⟨_, rfl⟩ := LeaseStore.mem_of_find found
      exact .attached workspaceId sessionId _ found

end SightMesh
