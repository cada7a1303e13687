import SightMesh.Concurrency.Rules

/-! Calls that another party carries out, over a channel that may lose the call or its answer. -/
namespace Concurrency

variable {ε : Type} {T Q : Type → Type 1} {κ σ γ β : Type}

inductive Fate (ε : Type) where
  | answered
  /-- It never arrived. -/
  | refused (e : ε)
  /-- It was carried out, and its answer never arrived. -/
  | lost (e : ε)
  deriving DecidableEq

/-- The other party's own transaction, as the caller sees it. -/
def Prog.remote (fate : Q (Fate ε)) (tx : T (Except ε β)) : Prog ε T Q κ β :=
  .call fate fun
    | .answered => .run tx
    | .refused e => .fail e
    | .lost e => .commit tx fun _ => .fail e

namespace Protocol

variable {S : System ε T Q κ σ γ} {R : Protocol S} {H : Set κ} {s : Shared T Q σ γ}

/-- A call is made under what it needs wherever it is carried out, and ends with what it leaves
there only where it is answered. -/
theorem Keeps.remote {fate : Q (Fate ε)} {tx : T (Except ε β)}
    {done : β → Shared T Q σ γ → Prop} (asked : ∀ s', R.inv s' → R.preCall H fate s')
    (h : ∀ s', R.evolves s s' → R.inv s' → R.pre H tx s' ∧
      ∀ b, (S.exec tx s'.store).2 = .ok b → done b (s'.commit S tx)) :
    R.Keeps H s (Prog.remote fate tx) done := by
  refine .of_safe fun s₁ others known => ⟨asked s₁ known, fun answer env answered => ?_⟩
  have later := R.evolves_trans others.1 (R.call known (asked s₁ known) answered).2.1
  cases answer with
  | refused e => exact rfl
  | answered =>
    have runs : R.Keeps H (s₁.call fate .answered env) (Prog.run tx) done :=
      .run fun s₂ others₂ known₂ => h s₂ (R.evolves_trans later others₂.1) known₂
    exact Safe.mono runs (fun _ _ _ known => known.2) fun _ _ _ known => known.2
  | lost e =>
    intro s₂ others₂ known₂
    exact ⟨(h s₂ (R.evolves_trans later others₂.1) known₂).1, rfl⟩

end Protocol

end Concurrency
