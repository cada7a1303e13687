import Mathlib.Data.List.Perm.Subperm
import Mathlib.Logic.Relation

/-! Chains of links, where every element has at most one successor. -/
namespace Database

open Relation

variable {α : Type*}

def LinksTo (next : α → Option α) (a b : α) : Prop := next a = some b

/-- No chain comes back to an element. -/
def Acyclic (next : α → Option α) : Prop := ∀ a, ¬ TransGen (LinksTo next) a a

theorem acyclic_empty {next : α → Option α} (empty : ∀ a, next a = none) : Acyclic next := by
  intro a cycle
  obtain ⟨b, step, _⟩ := TransGen.head'_iff.mp cycle
  exact nomatch (empty a).symm.trans step

/-- Where a link is added, what is reached from its end was reached before, unless its end reaches
its start. -/
theorem reached_before {next next' : α → Option α} {a b c : α}
    (same : ∀ x ≠ a, next' x = next x) (apart : ¬ ReflTransGen (LinksTo next) b a)
    (reached : ReflTransGen (LinksTo next') b c) : ReflTransGen (LinksTo next) b c := by
  induction reached with
  | refl => exact .refl
  | tail _ step ih =>
    rename_i x y _
    have other : x ≠ a := by
      rintro rfl
      exact apart ih
    apply ih.tail
    rw [LinksTo, ← same x other]
    exact step

theorem chain_cases {next next' : α → Option α} {a b x y : α} (same : ∀ x ≠ a, next' x = next x)
    (new : next' a = some b) (chain : TransGen (LinksTo next') x y) :
    TransGen (LinksTo next) x y ∨
      ReflTransGen (LinksTo next') x a ∧ ReflTransGen (LinksTo next') b y := by
  induction chain with
  | single step =>
    rename_i z
    by_cases taken : x = a
    · subst taken
      cases Option.some.inj (new.symm.trans step)
      exact .inr ⟨.refl, .refl⟩
    · apply Or.inl
      apply TransGen.single
      rw [LinksTo, ← same x taken]
      exact step
  | tail chain step ih =>
    rename_i y z
    by_cases taken : y = a
    · subst taken
      cases Option.some.inj (new.symm.trans step)
      exact .inr ⟨chain.to_reflTransGen, .refl⟩
    · rcases ih with old | ⟨first, last⟩
      · apply Or.inl
        apply old.tail
        rw [LinksTo, ← same y taken]
        exact step
      · exact .inr ⟨first, last.tail step⟩

/-- A link closes no cycle if its end does not reach its start. -/
theorem Acyclic.link {next next' : α → Option α} {a b : α} (acyclic : Acyclic next)
    (same : ∀ x ≠ a, next' x = next x) (new : next' a = some b)
    (apart : ¬ ReflTransGen (LinksTo next) b a) : Acyclic next' := by
  intro c cycle
  rcases chain_cases same new cycle with old | ⟨first, last⟩
  · exact acyclic c old
  · exact apart (reached_before same apart (last.trans first))

section Walk

variable [DecidableEq α]

/-- Does the chain from `current` meet an element seen? The walk ends after `fuel` steps. -/
def meets (next : α → Option α) : ℕ → List α → α → Bool
  | 0, _, _ => true
  | fuel + 1, seen, current =>
    current ∈ seen ||
      match next current with
      | none => false
      | some further => meets next fuel (current :: seen) further

theorem meets_of_reached {next : α → Option α} {fuel : ℕ} {seen : List α} {current target : α}
    (mem : target ∈ seen) (reached : ReflTransGen (LinksTo next) current target) :
    meets next fuel seen current = true := by
  induction fuel generalizing seen current with
  | zero => rfl
  | succ fuel ih =>
    rw [meets]
    by_cases here : current ∈ seen
    · simp [here]
    rcases ReflTransGen.cases_head reached with rfl | ⟨further, step, rest⟩
    · exact absurd mem here
    · rw [show next current = some further from step]
      have later := ih (List.mem_cons_of_mem current mem) rest
      simp [later]

/-- With as much fuel as there are links, the walk of an acyclic chain meets only what it started
from. -/
theorem reached_of_meets {next : α → Option α} (acyclic : Acyclic next) {keys : List α}
    (linked : ∀ a b, next a = some b → a ∈ keys) {target : α} {fuel : ℕ} {visited : List α}
    {current : α} (enough : keys.length < visited.length + fuel) (fresh : visited.Nodup)
    (known : visited ⊆ keys) (before : ∀ v ∈ visited, TransGen (LinksTo next) v current)
    (met : meets next fuel (visited ++ [target]) current = true) :
    ReflTransGen (LinksTo next) current target := by
  induction fuel generalizing visited current with
  | zero =>
    have few := (List.subperm_of_subset fresh known).length_le
    omega
  | succ fuel ih =>
    rw [meets] at met
    by_cases here : current ∈ visited ++ [target]
    · rcases List.mem_append.mp here with again | last
      · exact absurd (before current again) (acyclic current)
      · rw [List.mem_singleton.mp last]
    · rw [decide_eq_false here, Bool.false_or] at met
      cases step : next current with
      | none =>
        rw [step] at met
        exact nomatch met
      | some further =>
        rw [step] at met
        have apart : current ∉ visited := fun mem => here (List.mem_append_left _ mem)
        have link : LinksTo next current further := step
        have rest : ReflTransGen (LinksTo next) further target := by
          apply @ih (current :: visited)
          · simp only [List.length_cons]
            omega
          · exact List.nodup_cons.mpr ⟨apart, fresh⟩
          · exact List.cons_subset.mpr ⟨linked _ _ step, known⟩
          · intro v mem
            rcases List.mem_cons.mp mem with rfl | mem
            · exact .single link
            · exact (before v mem).tail link
          · exact met
        exact .head link rest

end Walk

end Database
