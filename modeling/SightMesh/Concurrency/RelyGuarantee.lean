import Mathlib.Data.Set.Insert
import SightMesh.Concurrency.Pool

/-! Rely and guarantee reasoning for a pool of processes. A protocol says what every step of
every process keeps (`inv`, `evolves`), what a lock keeps still while somebody else holds it
(`frozen`), and what must hold when a transaction or a query is issued (`pre`, `preCall`).
A program that respects the protocol on its own respects it in every interleaving. -/
namespace Concurrency

open Prog

variable {ε : Type} {T Q : Type → Type 1} {κ σ γ α β : Type}

structure Protocol (S : System ε T Q κ σ γ) where
  inv : Shared T Q σ γ → Prop
  evolves : Shared T Q σ γ → Shared T Q σ γ → Prop
  frozen : κ → Shared T Q σ γ → Shared T Q σ γ → Prop
  pre : Set κ → {β : Type} → T β → Shared T Q σ γ → Prop
  preCall : Set κ → {β : Type} → Q β → Shared T Q σ γ → Prop
  evolves_refl : ∀ s, evolves s s
  evolves_trans : ∀ {a b c}, evolves a b → evolves b c → evolves a c
  frozen_refl : ∀ l s, frozen l s s
  frozen_trans : ∀ {l a b c}, evolves a b → evolves b c → frozen l a b → frozen l b c → frozen l a c
  init : ∀ s e, S.start s e → inv ⟨s, e, []⟩
  commit : ∀ {H : Set κ} {β : Type} {tx : T β} {s}, inv s → pre H tx s →
    inv (s.commit S tx) ∧ evolves s (s.commit S tx) ∧ ∀ l ∉ H, frozen l s (s.commit S tx)
  call : ∀ {H : Set κ} {β : Type} {q : Q β} {s b env}, inv s → preCall H q s →
    S.answer s.env q b env →
    inv (s.call q b env) ∧ evolves s (s.call q b env) ∧ ∀ l ∉ H, frozen l s (s.call q b env)

namespace Protocol

variable {S : System ε T Q κ σ γ} (R : Protocol S)

/-- What the other processes can have done while this one held `H`. -/
def rely (H : Set κ) (s s' : Shared T Q σ γ) : Prop :=
  R.evolves s s' ∧ ∀ l ∈ H, R.frozen l s s'

variable {R}

theorem rely_refl (H : Set κ) (s : Shared T Q σ γ) : R.rely H s s :=
  ⟨R.evolves_refl s, fun l _ => R.frozen_refl l s⟩

theorem rely_trans {H : Set κ} {a b c : Shared T Q σ γ} (first : R.rely H a b)
    (second : R.rely H b c) : R.rely H a c :=
  ⟨R.evolves_trans first.1 second.1,
    fun l mem => R.frozen_trans first.1 second.1 (first.2 l mem) (second.2 l mem)⟩

variable (R)

/-- `p`, holding `H` from state `s` on, issues nothing against the protocol, and ends with
`done` or raises with `raised`. Before every step the others may have moved. -/
def Safe : Prog ε T Q κ α → Set κ → (Set κ → α → Shared T Q σ γ → Prop) →
    (Set κ → ε → Shared T Q σ γ → Prop) → Shared T Q σ γ → Prop
  | .ret a, H, done, _, s => done H a s
  | .fail e, H, _, raised, s => raised H e s
  | .commit tx k, H, done, raised, s => ∀ s', R.rely H s s' → R.inv s' →
      R.pre H tx s' ∧ Safe (k (S.exec tx s'.store).2) H done raised (s'.commit S tx)
  | .call q k, H, done, raised, s => ∀ s', R.rely H s s' → R.inv s' →
      R.preCall H q s' ∧
        ∀ b env, S.answer s'.env q b env → Safe (k b) H done raised (s'.call q b env)
  | .lock l k, H, done, raised, s => ∀ s', R.rely H s s' → R.inv s' → l ∉ H →
      Safe k (insert l H) done raised s'
  | .unlock l k, H, done, raised, s => ∀ s', R.rely H s s' → R.inv s' → l ∈ H →
      Safe k (H \ {l}) done raised s'

variable {R}

/-! ### Rules for programs -/

theorem Safe.mono {p : Prog ε T Q κ α} {H : Set κ} {done done' : Set κ → α → Shared T Q σ γ → Prop}
    {raised raised' : Set κ → ε → Shared T Q σ γ → Prop} {s : Shared T Q σ γ}
    (h : R.Safe p H done raised s) (on_done : ∀ H a s, done H a s → done' H a s)
    (on_raised : ∀ H e s, raised H e s → raised' H e s) : R.Safe p H done' raised' s := by
  induction p generalizing H s with
  | ret a => exact on_done _ _ _ h
  | fail e => exact on_raised _ _ _ h
  | commit tx k ih => exact fun s' others known => ⟨(h s' others known).1, ih _ (h s' others known).2⟩
  | call q k ih =>
    exact fun s' others known => ⟨(h s' others known).1,
      fun b env answered => ih b ((h s' others known).2 b env answered)⟩
  | lock l k ih => exact fun s' others known free => ih (h s' others known free)
  | unlock l k ih => exact fun s' others known mine => ih (h s' others known mine)

theorem safe_bind {p : Prog ε T Q κ α} {f : α → Prog ε T Q κ β} {H : Set κ}
    {done : Set κ → β → Shared T Q σ γ → Prop} {raised : Set κ → ε → Shared T Q σ γ → Prop}
    {s : Shared T Q σ γ} :
    R.Safe (p.bind f) H done raised s ↔
      R.Safe p H (fun H' a s' => R.Safe (f a) H' done raised s') raised s := by
  induction p generalizing H s with
  | ret a => rfl
  | fail e => rfl
  | commit tx k ih => simp only [Prog.bind, Safe, ih]
  | call q k ih => simp only [Prog.bind, Safe, ih]
  | lock l k ih => simp only [Prog.bind, Safe, ih]
  | unlock l k ih => simp only [Prog.bind, Safe, ih]

theorem safe_handle {p : Prog ε T Q κ α} {h : ε → Prog ε T Q κ α} {H : Set κ}
    {done : Set κ → α → Shared T Q σ γ → Prop} {raised : Set κ → ε → Shared T Q σ γ → Prop}
    {s : Shared T Q σ γ} :
    R.Safe (p.handle h) H done raised s ↔
      R.Safe p H done (fun H' e s' => R.Safe (h e) H' done raised s') s := by
  induction p generalizing H s with
  | ret a => rfl
  | fail e => rfl
  | commit tx k ih => simp only [Prog.handle, Safe, ih]
  | call q k ih => simp only [Prog.handle, Safe, ih]
  | lock l k ih => simp only [Prog.handle, Safe, ih]
  | unlock l k ih => simp only [Prog.handle, Safe, ih]

theorem safe_finally {p : Prog ε T Q κ α} {after : Prog ε T Q κ Unit} {H : Set κ}
    {done : Set κ → α → Shared T Q σ γ → Prop} {raised : Set κ → ε → Shared T Q σ γ → Prop}
    {s : Shared T Q σ γ} :
    R.Safe (p.finally' after) H done raised s ↔
      R.Safe p H (fun H' a s' => R.Safe after H' (fun H'' _ s'' => done H'' a s'') raised s')
        (fun H' e s' => R.Safe after H' (fun H'' _ s'' => raised H'' e s'') raised s') s := by
  induction p generalizing H s with
  | ret a => simp only [Prog.finally', safe_bind, Safe]
  | fail e => simp only [Prog.finally', safe_bind, Safe]
  | commit tx k ih => simp only [Prog.finally', Safe, ih]
  | call q k ih => simp only [Prog.finally', Safe, ih]
  | lock l k ih => simp only [Prog.finally', Safe, ih]
  | unlock l k ih => simp only [Prog.finally', Safe, ih]

/-! ### The pool -/

/-- The invariant holds, and every process is safe from the moment of its last step on. -/
def Sound (R : Protocol S) (w : World ε T Q κ σ γ) : Prop :=
  R.inv w.shared ∧ ∀ p P, w.procs p = some P → ∃ s, R.rely (w.held p) s w.shared ∧
    R.Safe P (w.held p) (fun _ _ _ => True) (fun _ _ _ => True) s

theorem Sound.safe_now {w : World ε T Q κ σ γ} (h : R.Sound w) {p : ℕ} {P : Prog ε T Q κ Unit}
    (running : w.procs p = some P) : ∃ s, R.rely (w.held p) s w.shared ∧
      R.Safe P (w.held p) (fun _ _ _ => True) (fun _ _ _ => True) s :=
  h.2 p P running

theorem Sound.moved {w : World ε T Q κ σ γ} (h : R.Sound w) {p : ℕ} {P : Prog ε T Q κ Unit}
    {next : Shared T Q σ γ} (kept : R.inv next) (forward : R.evolves w.shared next)
    (fixed : ∀ l ∉ w.held p, R.frozen l w.shared next)
    (safe : R.Safe P (w.held p) (fun _ _ _ => True) (fun _ _ _ => True) next) :
    R.Sound ({ w with shared := next }.put p P) := by
  refine ⟨kept, fun q P' running => ?_⟩
  by_cases same : q = p
  · subst same
    obtain rfl : P = P' := by simpa [World.put] using running
    exact ⟨next, rely_refl _ _, safe⟩
  · have running : w.procs q = some P' := by
      simpa [World.put, Function.update_of_ne same] using running
    obtain ⟨s, others, safe⟩ := h.safe_now running
    have apart : ∀ l ∈ w.held q, l ∉ w.held p := fun l hq hp => by
      have : some q = some p := hq.symm.trans hp
      exact same (Option.some.inj this)
    exact ⟨s, rely_trans others ⟨forward, fun l mem => fixed l (apart l mem)⟩, safe⟩

/-- A transaction about to be issued meets its precondition in the state it will see. -/
theorem Sound.pending_commit {w : World ε T Q κ σ γ} (h : R.Sound w) {p : ℕ} {tx : T β}
    {k : β → Prog ε T Q κ Unit} (at_tx : w.procs p = some (.commit tx k)) :
    R.pre (w.held p) tx w.shared := by
  obtain ⟨s, others, safe⟩ := h.safe_now at_tx
  exact (safe w.shared others h.1).1

theorem Sound.pending_call {w : World ε T Q κ σ γ} (h : R.Sound w) {p : ℕ} {q : Q β}
    {k : β → Prog ε T Q κ Unit} (at_q : w.procs p = some (.call q k)) :
    R.preCall (w.held p) q w.shared := by
  obtain ⟨s, others, safe⟩ := h.safe_now at_q
  exact (safe w.shared others h.1).1

variable [DecidableEq κ]

theorem Sound.step {w w' : World ε T Q κ σ γ}
    (ops_safe : ∀ op, S.ops op → ∀ s, R.Safe op ∅ (fun _ _ _ => True) (fun _ _ _ => True) s)
    (h : R.Sound w) (step : Step S anyEvent w w') : R.Sound w' := by
  cases step with
  | @spawn p op known idle unlocked =>
    refine ⟨h.1, fun q P running => ?_⟩
    by_cases same : q = p
    · subst same
      obtain rfl : op = P := by simpa [World.put] using running
      have empty : (w.put q op).held q = ∅ := Set.eq_empty_iff_forall_notMem.mpr unlocked
      exact ⟨w.shared, rely_refl _ _, empty ▸ ops_safe op known w.shared⟩
    · have running : w.procs q = some P := by
        simpa [World.put, Function.update_of_ne same] using running
      exact h.safe_now running
  | @commit p β tx k at_tx _ =>
    obtain ⟨s, others, safe⟩ := h.safe_now at_tx
    obtain ⟨allowed, rest⟩ := safe w.shared others h.1
    obtain ⟨kept, forward, fixed⟩ := R.commit h.1 allowed
    exact h.moved kept forward fixed rest
  | @call p β q k b env at_q answered _ =>
    obtain ⟨s, others, safe⟩ := h.safe_now at_q
    obtain ⟨allowed, rest⟩ := safe w.shared others h.1
    obtain ⟨kept, forward, fixed⟩ := R.call h.1 allowed answered
    exact h.moved kept forward fixed (rest b env answered)
  | @lock p l k at_l free =>
    refine ⟨h.1, fun q P running => ?_⟩
    by_cases same : q = p
    · subst same
      obtain rfl : k = P := by simpa [World.put] using running
      obtain ⟨s, others, safe⟩ := h.safe_now at_l
      have unheld : l ∉ w.held q := by simp [World.held, free]
      have grown : ({ w with holder := Function.update w.holder l (some q) }.put q k).held q =
          insert l (w.held q) := by
        ext m
        by_cases eq : m = l
        · subst eq; simp [World.held, World.put]
        · simp [World.held, World.put, eq]
      exact ⟨w.shared, rely_refl _ _, grown ▸ safe w.shared others h.1 unheld⟩
    · have running : w.procs q = some P := by
        simpa [World.put, Function.update_of_ne same] using running
      have unchanged : ({ w with holder := Function.update w.holder l (some p) }.put p k).held q =
          w.held q := by
        ext m
        by_cases eq : m = l
        · subst eq; simp [World.held, World.put, free, Ne.symm same]
        · simp [World.held, World.put, eq]
      exact unchanged ▸ h.safe_now running
  | @unlock p l k at_l mine =>
    refine ⟨h.1, fun q P running => ?_⟩
    by_cases same : q = p
    · subst same
      obtain rfl : k = P := by simpa [World.put] using running
      obtain ⟨s, others, safe⟩ := h.safe_now at_l
      have shrunk : ({ w with holder := Function.update w.holder l none }.put q k).held q =
          w.held q \ {l} := by
        ext m
        by_cases eq : m = l
        · subst eq; simp [World.held, World.put]
        · simp [World.held, World.put, eq]
      exact ⟨w.shared, rely_refl _ _, shrunk ▸ safe w.shared others h.1 mine⟩
    · have running : w.procs q = some P := by
        simpa [World.put, Function.update_of_ne same] using running
      have unchanged : ({ w with holder := Function.update w.holder l none }.put p k).held q =
          w.held q := by
        ext m
        by_cases eq : m = l
        · subst eq; simp [World.held, World.put, mine, Ne.symm same]
        · simp [World.held, World.put, eq]
      exact unchanged ▸ h.safe_now running
  | @stop p =>
    refine ⟨h.1, fun q P running => ?_⟩
    by_cases same : q = p
    · subst same
      simp [World.stop] at running
    · have running : w.procs q = some P := by
        simpa [World.stop, Function.update_of_ne same] using running
      have unchanged : (w.stop p).held q = w.held q := by
        ext m
        simp only [World.held, World.stop, Set.mem_ofPred_eq]
        split
        · rename_i mine
          simp [mine, Ne.symm same]
        · rfl
      exact unchanged ▸ h.safe_now running

theorem sound (ops_safe : ∀ op, S.ops op → ∀ s,
      R.Safe op ∅ (fun _ _ _ => True) (fun _ _ _ => True) s)
    {w : World ε T Q κ σ γ} (h : Reachable S anyEvent w) : R.Sound w := by
  induction h with
  | start first => exact ⟨R.init _ _ first, fun _ _ running => by simp at running⟩
  | step _ step ih => exact ih.step ops_safe step

end Protocol

end Concurrency
