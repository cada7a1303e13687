import Mathlib.Data.Set.Basic
import Mathlib.Control.Basic

/-! Programs over a shared store. A program is the tree of what one process does to the world
outside it: transactions on the store, queries of an environment it does not control, and
named locks. Everything between two of these is a pure computation, so a crash can fall only
between them. The datatypes name no store, no environment and no lock. -/
namespace Concurrency

/-- `T β` are the transactions that return a `β`, `Q β` the queries answered by a `β`,
`κ` the lock names and `ε` the exceptions. -/
inductive Prog (ε : Type) (T Q : Type → Type 1) (κ : Type) (α : Type) : Type 1 where
  | ret (a : α)
  | fail (e : ε)
  | commit {β : Type} (tx : T β) (k : β → Prog ε T Q κ α)
  | call {β : Type} (q : Q β) (k : β → Prog ε T Q κ α)
  | lock (l : κ) (k : Prog ε T Q κ α)
  | unlock (l : κ) (k : Prog ε T Q κ α)

namespace Prog

variable {ε : Type} {T Q : Type → Type 1} {κ α β γ : Type}

def bind : Prog ε T Q κ α → (α → Prog ε T Q κ β) → Prog ε T Q κ β
  | ret a, f => f a
  | fail e, _ => fail e
  | commit tx k, f => commit tx (fun b => (k b).bind f)
  | call q k, f => call q (fun b => (k b).bind f)
  | lock l k, f => lock l (k.bind f)
  | unlock l k, f => unlock l (k.bind f)

/-- What an `except` clause does: an exception of the body continues as the handler. -/
def handle : Prog ε T Q κ α → (ε → Prog ε T Q κ α) → Prog ε T Q κ α
  | ret a, _ => ret a
  | fail e, h => h e
  | commit tx k, h => commit tx (fun b => (k b).handle h)
  | call q k, h => call q (fun b => (k b).handle h)
  | lock l k, h => lock l (k.handle h)
  | unlock l k, h => unlock l (k.handle h)

/-- What a `with` block or a `finally` clause does: both ways out pass through `after`. -/
def finally' : Prog ε T Q κ α → Prog ε T Q κ Unit → Prog ε T Q κ α
  | ret a, after => after.bind (fun _ => ret a)
  | fail e, after => after.bind (fun _ => fail e)
  | commit tx k, after => commit tx (fun b => (k b).finally' after)
  | call q k, after => call q (fun b => (k b).finally' after)
  | lock l k, after => lock l (k.finally' after)
  | unlock l k, after => unlock l (k.finally' after)

instance : Monad (Prog ε T Q κ) where
  pure := ret
  bind := bind

instance : MonadExceptOf ε (Prog ε T Q κ) where
  throw := fail
  tryCatch := handle

theorem bind_assoc (p : Prog ε T Q κ α) (f : α → Prog ε T Q κ β) (g : β → Prog ε T Q κ γ) :
    (p.bind f).bind g = p.bind fun a => (f a).bind g := by
  induction p with
  | ret a => rfl
  | fail e => rfl
  | commit tx k ih => exact congrArg (Prog.commit tx) (funext ih)
  | call q k ih => exact congrArg (Prog.call q) (funext ih)
  | lock l k ih => exact congrArg (Prog.lock l) ih
  | unlock l k ih => exact congrArg (Prog.unlock l) ih

@[simp] theorem pure_eq (a : α) : (pure a : Prog ε T Q κ α) = ret a := rfl
@[simp] theorem bind_eq (p : Prog ε T Q κ α) (f : α → Prog ε T Q κ β) : p >>= f = p.bind f := rfl
@[simp] theorem throw_eq (e : ε) : (throw e : Prog ε T Q κ α) = fail e := rfl

@[simp] theorem map_eq (g : α → β) (p : Prog ε T Q κ α) :
    g <$> p = p.bind (fun a => ret (g a)) := rfl

@[simp] theorem tryCatch_eq (p : Prog ε T Q κ α) (h : ε → Prog ε T Q κ α) :
    tryCatch p h = p.handle h := rfl

def commit' (tx : T β) : Prog ε T Q κ β := commit tx ret

def ask (q : Q β) : Prog ε T Q κ β := call q ret

def run (tx : T (Except ε β)) : Prog ε T Q κ β :=
  commit tx fun | .ok b => ret b | .error e => fail e

def query (q : Q (Except ε β)) : Prog ε T Q κ β :=
  call q fun | .ok b => ret b | .error e => fail e

/-- Hold `l` around a body, released on every way out of it. -/
def withLock (l : κ) (p : Prog ε T Q κ α) : Prog ε T Q κ α :=
  lock l (p.finally' (unlock l (ret ())))

/-- Open the gate of a held lock around a body, and take it again on every way out. -/
def released (l : κ) (p : Prog ε T Q κ α) : Prog ε T Q κ α :=
  unlock l (p.finally' (lock l (ret ())))

end Prog

end Concurrency
