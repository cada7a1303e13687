import SightMesh.Programs.Sdk

/-! The kernel as a system: any number of processes of any of these operations over one store,
each free to crash before any step, against an executor that may answer as it likes. -/
namespace SightMesh

open Python Concurrency

structure Executor (γ : Type) where
  answer : {β : Type} → γ → Query β → β → γ → Prop

inductive KernelOp (py : Library) : Kernel Unit → Prop where
  | startAll (owner : String) (cap : ℕ) (caller : Option SessionId) (swept : Bool)
      (requested : List WorkerSpec) : KernelOp py (startAll py owner cap caller swept requested)
  | replace (owner : String) (caller : Option SessionId) (worker : String)
      (prompt : Option String) : KernelOp py (replace py owner caller worker prompt)
  | complete (caller : Option SessionId) (summary worker : Option String) :
      KernelOp py (complete caller summary worker)
  | blocked (caller : Option SessionId) (reason : String) (worker : Option String) :
      KernelOp py (blocked py caller reason worker)
  | cancel (caller : Option SessionId) (worker : String) : KernelOp py (cancel caller worker)
  | sendAll (caller : Option SessionId) (entries : List (String × String × String)) :
      KernelOp py (sendAll py caller entries)
  | checkpoint (caller : Option SessionId) (text : String) (worker operationId : Option String) :
      KernelOp py (checkpoint py caller text worker operationId)
  | reconcileProviderOutcome (owner : String) (sessionId : SessionId) :
      KernelOp py (reconcileProviderOutcome py owner sessionId)
  | reconcileProviderOutcomes (owner : String) : KernelOp py (reconcileProviderOutcomes py owner)
  | reconcileKernel (baseline : TaskId → Option ℕ) : KernelOp py (reconcileKernel py baseline)
  | sweepAdmission : KernelOp py (sweepAdmission py)
  | reconcileSuperseded : KernelOp py reconcileSuperseded

/-- The system over a store that starts fresh, in either wiring of the ownership table. -/
def kernel {γ : Type} (py : Library) (x : Executor γ) :
    System KernelError Tx Query LockKey Store γ where
  exec := Tx.exec
  answer := x.answer
  ops := KernelOp py
  start db _ := ∃ ownershipShared, db = Store.initial ownershipShared

end SightMesh
