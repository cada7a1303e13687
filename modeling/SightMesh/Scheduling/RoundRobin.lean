import Mathlib.Data.List.Rotate
import Mathlib.Data.List.Sort
import Mathlib.Data.Nat.ModEq
import Mathlib.Order.Basic

/-! Turns around a circle of `n` places. Each turn serves some of them in a row, and the next takes
up where it left off; so whoever waits has fewer places ahead of it after every turn. -/
namespace RoundRobin

variable {α : Type} {n p : ℕ}

/-- A turn: it begins at a place and serves that many. -/
structure Turn where
  start : ℕ
  reach : ℕ

def Turn.served (turn : Turn) (xs : List α) : List α := (xs.rotate turn.start).take turn.reach

/-- The next turn takes up where this one left off, unless this one has served everyone. -/
def Turn.Follows (n : ℕ) (turn next : Turn) : Prop :=
  n ≤ turn.reach ∨ next.start % n = (turn.start + turn.reach) % n

/-- How many are served before the place is. -/
def Turn.ahead (n p : ℕ) (turn : Turn) : ℕ := (p + (n - turn.start % n)) % n

theorem Turn.ahead_lt_size (turn : Turn) (place : p < n) : turn.ahead n p < n :=
  Nat.mod_lt _ (by omega)

theorem Turn.start_add_ahead (turn : Turn) (place : p < n) :
    (turn.ahead n p + turn.start) % n = p := by
  have within : turn.start % n < n := Nat.mod_lt _ (by omega)
  calc (turn.ahead n p + turn.start) % n
      = (p + (n - turn.start % n) + turn.start % n) % n := by
        rw [Turn.ahead, Nat.mod_add_mod, Nat.add_mod_mod]
    _ = (p + n) % n := by congr 1; omega
    _ = p := by rw [Nat.add_mod_right, Nat.mod_eq_of_lt place]

theorem Turn.served_nodup (turn : Turn) {xs : List α} (nodup : xs.Nodup) :
    (turn.served xs).Nodup :=
  (List.nodup_rotate.mpr nodup).sublist (List.take_sublist _ _)

theorem Turn.mem_served (turn : Turn) {xs : List α} (place : p < xs.length)
    (reached : turn.ahead xs.length p < turn.reach) : xs[p] ∈ turn.served xs := by
  have within : turn.ahead xs.length p < (xs.rotate turn.start).length := by
    rw [List.length_rotate]
    exact turn.ahead_lt_size place
  have found : (xs.rotate turn.start)[turn.ahead xs.length p] = xs[p] := by
    rw [List.getElem_rotate]
    congr 1
    exact turn.start_add_ahead place
  rw [← found]
  exact List.mem_take_iff_getElem.mpr ⟨_, lt_min reached within, rfl⟩

theorem Turn.Follows.ahead_lt {turn next : Turn} (follows : turn.Follows n next) (place : p < n)
    (serves : 0 < turn.reach) (missed : turn.reach ≤ turn.ahead n p) :
    next.ahead n p < turn.ahead n p := by
  have bound := turn.ahead_lt_size place
  rcases follows with all | resumed
  · omega
  · have before := turn.start_add_ahead place
    have after := next.start_add_ahead place
    -- both counts lead from where the next turn starts to the same place
    have same : next.ahead n p ≡ turn.ahead n p - turn.reach [MOD n] := by
      refine Nat.ModEq.add_right_cancel' next.start ?_
      calc (next.ahead n p + next.start) % n = (turn.ahead n p + turn.start) % n := by
            rw [after, before]
        _ = (turn.ahead n p - turn.reach + (turn.start + turn.reach)) % n := by congr 1; omega
        _ = (turn.ahead n p - turn.reach + next.start) % n := by
            rw [Nat.add_mod, ← resumed, ← Nat.add_mod]
    have equal : next.ahead n p = turn.ahead n p - turn.reach :=
      Nat.ModEq.eq_of_lt_of_lt same (next.ahead_lt_size place) (by omega)
    omega

/-- A count that falls with every miss comes to a hit within as many turns as it can fall. -/
theorem hit_within {hit : ℕ → Prop} {count : ℕ → ℕ} (bound : ∀ k, count k < n)
    (falls : ∀ k, ¬ hit k → count (k + 1) < count k) (first : ℕ) :
    ∃ k, first ≤ k ∧ k < first + n ∧ hit k := by
  have step (left : ℕ) : ∀ k, count k < left → ∃ i, k ≤ i ∧ i < k + left ∧ hit i := by
    induction left with
    | zero => exact fun k none => absurd none (Nat.not_lt_zero _)
    | succ left ih =>
      intro k few
      by_cases now : hit k
      · exact ⟨k, le_refl k, by omega, now⟩
      · have fewer := falls k now
        obtain ⟨i, later, soon, found⟩ := ih (k + 1) (by omega)
        exact ⟨i, by omega, by omega, found⟩
  exact step n first (bound first)

theorem served_within {turns : ℕ → Turn} {xs : List α} (serves : ∀ k, 0 < (turns k).reach)
    (follows : ∀ k, (turns k).Follows xs.length (turns (k + 1))) {x : α} (waits : x ∈ xs)
    (first : ℕ) : ∃ k, first ≤ k ∧ k < first + xs.length ∧ x ∈ (turns k).served xs := by
  obtain ⟨p, place, rfl⟩ := List.getElem_of_mem waits
  refine hit_within (fun k => (turns k).ahead_lt_size place) (fun k missed => ?_) first
  refine (follows k).ahead_lt place (serves k) (Nat.le_of_not_lt fun reached => ?_)
  exact missed ((turns k).mem_served place reached)

/-! ### Starting after a mark -/

section Sorted

variable [LinearOrder α] {xs : List α}

/-- The first place past the mark, or the beginning when there is none. -/
def startAfter (xs : List α) (mark : α) : ℕ :=
  match xs.findIdx? fun x => decide (mark < x) with
  | some place => place
  | none => 0

/-- Past a mark that is one of the places comes the next place of the circle. -/
theorem startAfter_getElem (sorted : xs.Pairwise (· < ·)) (place : p < xs.length) :
    startAfter xs xs[p] % xs.length = (p + 1) % xs.length := by
  have earlier : ∀ i, (h : i < xs.length) → i ≤ p → ¬ xs[p] < xs[i] := by
    intro i h le
    rcases Nat.lt_or_eq_of_le le with before | rfl
    · exact not_lt_of_gt (List.pairwise_iff_getElem.mp sorted i p h place before)
    · exact lt_irrefl _
  unfold startAfter
  cases found : xs.findIdx? fun x => decide (xs[p] < x) with
  | none =>
    have last : p + 1 = xs.length := by
      by_contra more
      have next : p + 1 < xs.length := by omega
      have above := List.pairwise_iff_getElem.mp sorted p (p + 1) place next (by omega)
      have below := List.findIdx?_eq_none_iff.mp found xs[p + 1] (List.getElem_mem next)
      simp [above] at below
    simp [last]
  | some i =>
    obtain ⟨within, above, least⟩ := List.findIdx?_eq_some_iff_getElem.mp found
    have past : p < i := by
      by_contra le
      exact earlier i within (by omega) (by simpa using above)
    have next : i = p + 1 := by
      by_contra skipped
      have between := least (p + 1) (by omega)
      have greater := List.pairwise_iff_getElem.mp sorted p (p + 1) place (by omega) (by omega)
      simp [greater] at between
    rw [next]

theorem startAfter_le (xs : List α) (mark : α) : startAfter xs mark ≤ xs.length := by
  unfold startAfter
  cases found : xs.findIdx? fun x => decide (mark < x) with
  | none => exact Nat.zero_le _
  | some i => exact le_of_lt (List.findIdx?_eq_some_iff_getElem.mp found).1

end Sorted

end RoundRobin
