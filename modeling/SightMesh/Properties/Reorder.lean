import SightMesh.Accounts.Reorder

/-! What a reordering leaves of the pool. -/
namespace SightMesh

open Python

namespace Pool

/-- `after` has the accounts of the provider in the wanted order, where they stood before, and
everything else as it was. -/
structure Rearranged (before after : Pool) (provider : String) (wanted : List AccountId) :
    Prop where
  order : (after.accountsFor provider).map PoolEntry.id = wanted
  places : after.listed.map (counts provider) = before.listed.map (counts provider)
  others : ∀ (i : ℕ) (entry : PoolEntry), before.listed[i]? = some entry →
    counts provider entry = false → after.listed[i]? = some entry
  whole : after.listed.Perm before.listed
  selection : ∀ (other : String) (verify : Bool), other ≠ "" → other ≠ provider →
    after.selects other verify = before.selects other verify

/-- Refused and unchanged, or rearranged. -/
def Reorders (pool : Pool) (provider : String) (wanted : List AccountId) : Prop :=
  match pool.reorder provider wanted with
  | .error _ => False
  | .ok (after, some _) => after = pool
  | .ok (after, none) => Rearranged pool after provider wanted

/-- The pool has a list of accounts, and where the provider is empty, so that every account counts
for it, those that hold an empty one lead the pool and only their order is to change. -/
structure Orderable (pool : Pool) (provider : String) (wanted : List AccountId) : Prop where
  present : pool.accounts = none → wanted ≠ []
  named : provider = "" → wanted.Perm (pool.listed.map PoolEntry.id) →
    ∃ lead rest, pool.listed = lead ++ rest ∧ (∀ entry ∈ lead, holds "" entry) ∧
      (∀ entry ∈ rest, holds "" entry = false) ∧
      wanted.drop lead.length = rest.map PoolEntry.id

theorem reorder_ok {pool : Pool} {provider : String} {wanted : List AccountId}
    {ordered : List PoolEntry}
    (listed : wanted.Perm ((pool.accountsFor provider).map PoolEntry.id))
    (found : wanted.filterMap pool.find = ordered) : pool.reorder provider wanted =
      match pool.accounts with
      | none => .error "'accounts'"
      | some accounts => .ok (⟨some (refill (holds provider) accounts ordered)⟩, none) := by
  have accepted : ¬ sorted wanted ≠ sorted ((pool.accountsFor provider).map PoolEntry.id) :=
    not_not.mpr (sorted_eq_iff.mpr listed)
  rw [reorder]
  dsimp only
  rw [if_neg accepted, found]
  cases pool.accounts with
  | none => rfl
  | some accounts => simp only [assign_slots]

theorem reorder_refused {pool : Pool} {provider : String} {wanted : List AccountId}
    (listed : ¬ wanted.Perm ((pool.accountsFor provider).map PoolEntry.id)) :
    ∃ message, pool.reorder provider wanted = .ok (pool, some message) := by
  have refused : sorted wanted ≠ sorted ((pool.accountsFor provider).map PoolEntry.id) :=
    mt sorted_eq_iff.mp listed
  exact ⟨_, by rw [reorder, if_pos refused]⟩

/-! ### A named provider -/

theorem accountsFor_named {provider : String} (named : provider ≠ "") (pool : Pool) :
    pool.accountsFor provider = pool.listed.filter (holds provider) := by
  apply List.filter_congr
  intro entry _
  simp [counts, holds, named]

theorem accountsFor_empty (pool : Pool) : pool.accountsFor "" = pool.listed := by
  simp [accountsFor, counts]

theorem rearranged_of_named {pool : Pool} {provider : String} (named : provider ≠ "")
    {ordered : List PoolEntry} (shuffled : ordered.Perm (pool.accountsFor provider)) :
    Rearranged pool ⟨some (refill (holds provider) pool.listed ordered)⟩ provider
      (ordered.map PoolEntry.id) := by
  have same : counts provider = holds provider := by
    funext entry
    simp [counts, holds, named]
  rw [accountsFor_named named] at shuffled
  have fits : ∀ entry ∈ ordered, holds provider entry := by
    intro entry mem
    exact (List.mem_filter.mp (shuffled.mem_iff.mp mem)).2
  constructor
  · rw [accountsFor_named named]
    exact congrArg _ (filter_refill fits shuffled.length_eq)
  · rw [same]
    exact refill_places fits
  · intro i entry there apart
    rw [same] at apart
    exact refill_get_of_not_chosen there apart
  · exact refill_perm fits shuffled
  · intro other verify stated different
    apply selects_congr stated
    rw [accountsFor_named stated, accountsFor_named stated]
    apply filter_refill_of_apart _ fits
    intro entry here
    have provided : entry.provider = some provider := by simpa [holds] using here
    simpa [holds, provided] using Ne.symm different

/-! ### The entries a wanted list finds -/

section
variable {pool : Pool} (distinct : (pool.listed.map PoolEntry.id).Nodup)
include distinct

theorem find_of_mem {entry : PoolEntry} (mem : entry ∈ pool.listed) :
    pool.find entry.id = some entry := by
  obtain ⟨found, there, same⟩ : ∃ found, pool.find entry.id = some found ∧ found.id = entry.id := by
    cases there : pool.find entry.id with
    | none =>
      have absent := List.find?_eq_none.mp there entry mem
      simp at absent
    | some found => exact ⟨found, rfl, by simpa using List.find?_some there⟩
  rw [there, List.inj_on_of_nodup_map distinct (List.mem_of_find?_eq_some there) mem same]

theorem filterMap_find {entries : List PoolEntry} (known : ∀ entry ∈ entries, entry ∈ pool.listed) :
    (entries.map PoolEntry.id).filterMap pool.find = entries := by
  induction entries with
  | nil => rfl
  | cons entry rest ih =>
    rw [List.map_cons, List.filterMap_cons, find_of_mem distinct (known entry (by simp)),
      ih fun later mem => known later (by simp [mem])]

theorem entries_inj {entries entries' : List PoolEntry}
    (known : ∀ entry ∈ entries, entry ∈ pool.listed)
    (known' : ∀ entry ∈ entries', entry ∈ pool.listed)
    (same : entries.map PoolEntry.id = entries'.map PoolEntry.id) : entries = entries' := by
  rw [← filterMap_find distinct known, same, filterMap_find distinct known']

theorem ordered_of_perm {provider : String} {wanted : List AccountId}
    (listed : wanted.Perm ((pool.accountsFor provider).map PoolEntry.id)) :
    ∃ ordered, ordered.Perm (pool.accountsFor provider) ∧ ordered.map PoolEntry.id = wanted ∧
      wanted.filterMap pool.find = ordered := by
  have image := congrFun (congrFun (List.eq_map_comp_perm PoolEntry.id) wanted)
    (pool.accountsFor provider)
  obtain ⟨ordered, same, shuffled⟩ := image.mpr listed
  refine ⟨ordered, shuffled, same.symm, ?_⟩
  rw [same]
  exact filterMap_find distinct fun entry mem =>
    (List.mem_filter.mp (shuffled.mem_iff.mp mem)).1

/-! ### An empty provider -/

/-- Every account counts for it, and only those that hold it are written. -/
theorem rearranged_empty_iff {ordered : List PoolEntry} (shuffled : ordered.Perm pool.listed) :
    Rearranged pool ⟨some (refill (holds "") pool.listed ordered)⟩ "" (ordered.map PoolEntry.id) ↔
      ∃ lead rest, pool.listed = lead ++ rest ∧ (∀ entry ∈ lead, holds "" entry) ∧
        (∀ entry ∈ rest, holds "" entry = false) ∧
        (ordered.map PoolEntry.id).drop lead.length = rest.map PoolEntry.id := by
  have known : ∀ entry ∈ ordered, entry ∈ pool.listed := fun entry => shuffled.mem_iff.mp
  have unique : ordered.Nodup := shuffled.nodup_iff.mpr distinct.of_map
  have stands : ∀ lead rest, pool.listed = lead ++ rest →
      ((ordered.map PoolEntry.id).drop lead.length = rest.map PoolEntry.id ↔
        ordered.drop lead.length = rest) := by
    intro lead rest split
    rw [← List.map_drop]
    refine ⟨fun same => entries_inj distinct ?_ ?_ same, fun same => by rw [same]⟩
    · exact fun entry mem => known entry (List.mem_of_mem_drop mem)
    · exact fun entry mem => split ▸ List.mem_append_right lead mem
  constructor
  · intro rearranged
    have order := rearranged.order
    rw [accountsFor_empty] at order
    have same : refill (holds "") pool.listed ordered = ordered :=
      entries_inj distinct (fun entry => rearranged.whole.mem_iff.mp) known order
    obtain ⟨lead, rest, split, led, left, fits⟩ :=
      (refill_eq_self_iff unique shuffled.length_eq).mp same
    exact ⟨lead, rest, split, led, left, (stands lead rest split).mpr fits⟩
  · rintro ⟨lead, rest, split, led, left, fits⟩
    have fits' := (stands lead rest split).mp fits
    have same : refill (holds "") pool.listed ordered = ordered :=
      (refill_eq_self_iff unique shuffled.length_eq).mpr ⟨lead, rest, split, led, left, fits'⟩
    rw [same]
    constructor
    · rw [accountsFor_empty]
      rfl
    · have every : counts "" = fun _ => true := by
        funext entry
        simp [counts]
      show ordered.map (counts "") = pool.listed.map (counts "")
      rw [every, List.map_const', List.map_const', shuffled.length_eq]
    · intro i entry _ apart
      simp [counts] at apart
    · exact shuffled
    · intro other verify stated _
      apply selects_congr stated
      rw [accountsFor_named stated, accountsFor_named stated]
      -- only the leading accounts move, and they hold an empty provider
      have moved : (ordered.take lead.length).Perm lead := by
        rw [split, ← List.take_append_drop lead.length ordered, fits'] at shuffled
        exact (List.perm_append_right_iff rest).mp shuffled
      have apart : ∀ entry, holds "" entry → holds other entry = false := by
        intro entry here
        have provided : entry.provider = some "" := by simpa [holds] using here
        simpa [holds, provided] using Ne.symm stated
      have none_of_lead : ∀ entries : List PoolEntry, (∀ entry ∈ entries, entry ∈ lead) →
          entries.filter (holds other) = [] := by
        intro entries among
        rw [List.filter_eq_nil_iff]
        intro entry mem
        simp [apart entry (led entry (among entry mem))]
      show ordered.filter (holds other) = pool.listed.filter (holds other)
      rw [split, List.filter_append, none_of_lead lead fun _ => id, ← fits',
        ← none_of_lead (ordered.take lead.length) fun entry => moved.mem_iff.mp,
        ← List.filter_append, List.take_append_drop]

end

/-- **Reordering.** A wanted list is refused and the pool stays as it is, or the provider's accounts
take the wanted order in the positions they had and everything else stays, just when the pool is
orderable. -/
theorem reorders_iff {pool : Pool} (distinct : (pool.listed.map PoolEntry.id).Nodup)
    (provider : String) (wanted : List AccountId) :
    Reorders pool provider wanted ↔ Orderable pool provider wanted := by
  by_cases listed : wanted.Perm ((pool.accountsFor provider).map PoolEntry.id)
  · obtain ⟨ordered, shuffled, rfl, found⟩ := ordered_of_perm distinct listed
    have done := reorder_ok listed found
    cases stored : pool.accounts with
    | none =>
      rw [stored] at done
      have nothing : ordered.map PoolEntry.id = [] := by
        have absent : pool.accountsFor provider = [] := by
          simp [accountsFor, Pool.listed, stored]
        rw [absent] at shuffled
        rw [shuffled.eq_nil, List.map_nil]
      simp only [Reorders, done, false_iff]
      exact fun orderable => orderable.present stored nothing
    | some accounts =>
      have same : pool.listed = accounts := by simp [Pool.listed, stored]
      rw [stored] at done
      simp only [← same] at done
      simp only [Reorders, done]
      by_cases named : provider = ""
      · subst named
        rw [accountsFor_empty] at shuffled listed
        rw [rearranged_empty_iff distinct shuffled]
        constructor
        · intro leads
          exact ⟨by simp [stored], fun _ _ => leads⟩
        · intro orderable
          exact orderable.named rfl listed
      · refine iff_of_true (rearranged_of_named named shuffled) ⟨by simp [stored], ?_⟩
        exact fun empty => absurd empty named
  · obtain ⟨message, refused⟩ := reorder_refused listed
    simp only [Reorders, refused, true_iff]
    constructor
    · rintro stored rfl
      have absent : pool.accountsFor provider = [] := by
        simp [accountsFor, Pool.listed, stored]
      exact listed (by simp [absent])
    · rintro rfl whole
      rw [accountsFor_empty] at listed
      exact absurd whole listed

/-! ### Two pools -/

def mixedPool : Pool := ⟨some [⟨"claude-a", some "claude", []⟩, ⟨"codex-a", some "codex", []⟩,
  ⟨"claude-b", some "claude", []⟩]⟩

theorem mixedPool_reorders : Reorders mixedPool "claude" ["claude-b", "claude-a"] := by
  refine (reorders_iff ?_ _ _).mpr ⟨nofun, ?_⟩
  · decide
  · exact fun empty => absurd empty (by decide)

def blankPool : Pool := ⟨some [⟨"claude-a", some "claude", []⟩, ⟨"spare", some "", []⟩]⟩

/-- An empty provider takes a list of every account: accepted, and nothing moves; or an account is
written over. -/
theorem empty_provider_not_reordered :
    (mixedPool.listed.map PoolEntry.id).Nodup ∧
      ¬ Reorders mixedPool "" ["codex-a", "claude-a", "claude-b"] ∧
      (blankPool.listed.map PoolEntry.id).Nodup ∧
      (blankPool.reorder "" ["claude-a", "spare"]).map
          (fun done => (done.1.listed.map PoolEntry.id, done.2)) =
        .ok (["claude-a", "claude-a"], none) := by
  refine ⟨by decide, ?_, by decide, by decide +kernel⟩
  have kept : (mixedPool.reorder "" ["codex-a", "claude-a", "claude-b"]).map
      (fun done => (done.1.listed.map PoolEntry.id, done.2)) =
        .ok (["claude-a", "codex-a", "claude-b"], none) := by decide +kernel
  intro reorders
  rw [Reorders] at reorders
  cases done : mixedPool.reorder "" ["codex-a", "claude-a", "claude-b"] with
  | error e =>
    rw [done] at kept
    exact nomatch kept
  | ok outcome =>
    obtain ⟨after, message⟩ := outcome
    rw [done] at kept reorders
    obtain ⟨ids, rfl⟩ : after.listed.map PoolEntry.id = ["claude-a", "codex-a", "claude-b"] ∧
        message = none := by simpa [Except.map] using kept
    have order := reorders.order
    rw [accountsFor_empty, ids] at order
    simp at order

end Pool
end SightMesh
