import SightMesh.Concurrency.Solo

/-! Programs that only ask, of surroundings whose answers are fixed: what they come to, and whether
they ask at all. Such a program raises nothing, commits nothing and takes no lock. -/
namespace Concurrency

inductive NoTx : Type → Type 1

abbrev Reader (Q : Type → Type 1) := Prog Empty NoTx Q Empty

namespace Prog

variable {Q : Type → Type 1} {α β : Type} {answer : {β : Type} → Q β → β}

def value (answer : {β : Type} → Q β → β) : Reader Q α → α
  | .ret a => a
  | .fail e => nomatch e
  | .commit tx _ => nomatch tx
  | .call q k => (k (answer q)).value answer
  | .lock l _ => nomatch l
  | .unlock l _ => nomatch l

def Immediate (p : Reader Q α) : Prop := ∃ a, p = .ret a

@[simp] theorem value_ret (a : α) : (Prog.ret a : Reader Q α).value answer = a := rfl

@[simp] theorem value_ask (q : Q β) : (Prog.ask q : Reader Q β).value answer = answer q := rfl

@[simp] theorem value_bind (p : Reader Q α) (f : α → Reader Q β) :
    (p.bind f).value answer = (f (p.value answer)).value answer := by
  induction p with
  | ret a => rfl
  | fail e => exact nomatch e
  | commit tx k => exact nomatch tx
  | call q k ih => exact ih _
  | lock l k => exact nomatch l
  | unlock l k => exact nomatch l

/-- Whatever runs such a program alone, among answers that are those, ends with its value. -/
theorem value_of_ends {σ γ : Type} {S : System Empty NoTx Q Empty σ γ}
    {ok : Shared NoTx Q σ γ → Event NoTx Q → Prop} {s s' : Shared NoTx Q σ γ}
    (told : ∀ {β : Type} (env : γ) (q : Q β) b env', S.answer env q b env' → b = answer q)
    {p : Reader Q α} {r : Except Empty α} (run : p.Ends S ok s r s') : r = .ok (p.value answer) := by
  induction p generalizing s with
  | ret a => exact run.1
  | fail e => exact nomatch e
  | commit tx k => exact nomatch tx
  | call q k ih =>
    obtain ⟨b, env, answered, _, rest⟩ := run
    cases told _ _ _ _ answered
    exact ih _ rest
  | lock l k => exact nomatch l
  | unlock l k => exact nomatch l

end Prog

end Concurrency
