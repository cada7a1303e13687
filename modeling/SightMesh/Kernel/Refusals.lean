import SightMesh.Kernel.Guards
import SightMesh.Kernel.Transactions

/-! The refusal of a write without its task fence, and that no transaction raises it: the fence is
checked before the database is touched. -/
namespace SightMesh

open Database

variable {α β : Type}

def unfenced : KernelError := .taskStore "Lifecycle state writes require the task fence"

abbrev Fenceless (body : Txn α) : Prop := Raises (· ≠ unfenced) body

theorem fenceless_throw {e : KernelError} (other : e ≠ unfenced) :
    Fenceless (throw e : Txn α) := Raises.throw other

theorem fenceless_unless {c : Prop} [Decidable c] {e : KernelError} {rest : Txn α}
    (other : e ≠ unfenced) (inner : Fenceless rest) :
    Fenceless (if c then (throw e : Txn PUnit) >>= fun _ => rest else rest) := by
  split
  · exact (fenceless_throw other).bind fun _ => inner
  · exact inner

def beginsApart (head : String) : Bool := head.toList.head?.any (· ≠ 'L')

theorem taskStore_ne_unfenced {head rest : String} (apart : beginsApart head) :
    KernelError.taskStore (head ++ rest) ≠ unfenced := by
  intro same
  have texts := congrArg String.toList (KernelError.taskStore.inj same)
  rw [String.toList_append] at texts
  have heads := congrArg List.head? texts
  unfold beginsApart at apart
  cases begins : head.toList.head? with
  | none => simp [begins] at apart
  | some first =>
    rw [List.head?_append, begins] at heads
    have same : first = 'L' := Option.some.inj heads
    simp [begins, same] at apart

theorem fenceless_wrapping {head : String} (apart : beginsApart head) {body : Txn α}
    (inner : Fenceless body) : Fenceless (wrapping head body) := by
  intro db e raised
  unfold wrapping at raised
  split at raised
  · cases raised
    exact taskStore_ne_unfenced apart
  · cases raised
    exact taskStore_ne_unfenced apart
  · exact inner db e raised

theorem fenceless_transition {taskId : TaskId} {expectStates : List TaskState}
    {expectVersion : Option ℕ} {assign : Lifecycle → Lifecycle} {observe : Health → Health}
    {attempted : String} {now : Time} :
    Fenceless (transition taskId expectStates expectVersion assign observe attempted now) := by
  refine Raises.get.bind fun db => ?_
  split
  · exact fenceless_throw (by simp [unfenced])
  split
  · refine Raises.get.bind fun db => ?_
    dsimp only
    split
    · exact fenceless_throw (by simp [unfenced])
    · exact (Raises.modify _).bind fun _ => Raises.pure _
  · exact fenceless_throw (by simp [unfenced])

theorem fenceless_transaction {taskId : TaskId} {expectStates : List TaskState}
    {expectVersion : Option ℕ} {assign : Lifecycle → Lifecycle} {attempted : String} {now : Time} :
    Fenceless (transaction taskId expectStates expectVersion assign attempted now) :=
  fenceless_wrapping (by decide)
    fenceless_transition

theorem circuitBreaker_ne_unfenced (task : TaskRow) :
    KernelError.taskStore (circuitBreaker task) ≠ unfenced := by
  rw [circuitBreaker, String.append_assoc, String.append_assoc, String.append_assoc]
  exact taskStore_ne_unfenced (by decide)

theorem fenceless_prepareReplacement {taskId : TaskId} {target : Option Target}
    {chargeFailure : Bool} {expectVersion : Option ℕ} {now : Time} :
    Fenceless (prepareReplacement taskId target chargeFailure expectVersion now) := by
  apply fenceless_wrapping (by decide)
  refine Raises.get.bind fun db => ?_
  split
  · exact fenceless_throw (by simp [unfenced])
  dsimp only
  split
  · exact (fenceless_throw (circuitBreaker_ne_unfenced _)).bind fun _ => fenceless_transition
  · exact fenceless_transition

theorem fenceless_finish {taskId : TaskId} {state : TaskState} {result : Option String}
    {expectVersion : Option ℕ} {chargeFailure : Bool} {now : Time} :
    Fenceless (finish taskId state result expectVersion chargeFailure now) := by
  unfold finish
  split
  · exact fenceless_throw (by simp [unfenced])
  split
  · refine Raises.get.bind fun db => ?_
    split
    · exact fenceless_throw (by simp [unfenced])
    dsimp only
    split
    · exact (fenceless_throw (circuitBreaker_ne_unfenced _)).bind fun _ => by
        split
        · exact fenceless_transition
        · exact fenceless_transition
    · split
      · exact fenceless_transition
      · exact fenceless_transition
  split
  · exact fenceless_transition
  · exact fenceless_transition

theorem fenceless_finishWithWakeWithin {taskId : TaskId} {state : TaskState}
    {result : Option String} {expectVersion : Option ℕ} {chargeFailure : Bool} {now : Time} :
    Fenceless (finishWithWakeWithin taskId state result expectVersion chargeFailure now) := by
  refine fenceless_finish.bind fun record => ?_
  exact Raises.get.bind fun db => (Raises.set _).bind fun _ => Raises.pure _

theorem fenceless_reserveAll {scope : String} {parentTaskId : Option TaskId}
    {specs : List TaskSpec} {maxAttempts : ℕ} {now : Time} :
    Fenceless (reserveAll scope parentTaskId specs maxAttempts now) := by
  unfold reserveAll
  split
  · exact Raises.pure _
  apply fenceless_wrapping (by decide)
  split
  · exact fenceless_throw (by simp [unfenced])
  refine Raises.bind ?_ fun _ => Raises.mapM fun spec => ?_
  · unfold checkChildLimit
    split
    · exact Raises.pure _
    refine Raises.get.bind fun db => ?_
    split
    · exact fenceless_throw (by simp [unfenced])
    dsimp only
    split
    · apply Raises.throw
      rw [String.append_assoc, String.append_assoc]
      exact taskStore_ne_unfenced (by decide)
    · exact Raises.pure _
  · refine Raises.get.bind fun db => ?_
    split
    · split
      · apply Raises.throw
        rw [String.append_assoc]
        exact taskStore_ne_unfenced (by decide)
      · exact Raises.pure _
    · refine Raises.get.bind fun db => ?_
      dsimp only
      split
      · exact fenceless_throw (by simp [unfenced])
      · exact (Raises.modify _).bind fun _ => Raises.pure _

theorem fenceless_recordFinding {taskId : TaskId} {liveness : Option Liveness}
    {evidence : Option String} {overBudget : Bool} {now progressTimeout : Time} :
    Fenceless (recordFinding taskId liveness evidence overBudget now progressTimeout) := by
  have observed : ∀ db : Store, Fenceless (do
      let armed := recordLivenessWakes taskId now progressTimeout db
      set armed.1
      return armed.2 : Txn (List ℕ)) := fun db => (Raises.set _).bind fun _ => Raises.pure _
  have flagged : Fenceless (recordOverBudget taskId) := by
    refine Raises.get.bind fun db => ?_
    split
    · exact Raises.pure _
    · split
      · exact Raises.modify _
      · exact Raises.pure _
  have rest : Fenceless (do
      if overBudget then
        recordOverBudget taskId
      let armed := recordLivenessWakes taskId now progressTimeout (← get)
      set armed.1
      return armed.2 : Txn (List ℕ)) := by
    dsimp only
    split
    · exact flagged.bind fun _ => Raises.get.bind observed
    · exact Raises.get.bind observed
  unfold recordFinding
  dsimp only
  split
  · refine Raises.bind ?_ fun _ => rest
    unfold recordLiveness
    refine Raises.get.bind fun db => ?_
    split
    · exact fenceless_throw (by simp [unfenced])
    · split
      · exact Raises.modify _
      · exact Raises.pure _
  · exact rest

theorem fenceless_checkCheckpointOwner {current : TaskRow} {epoch version : ℕ}
    {holder : Option SessionId} :
    Fenceless (checkCheckpointOwner current epoch holder version) := by
  unfold checkCheckpointOwner
  split
  · exact fenceless_throw (by simp [unfenced])
  · exact Raises.pure _

theorem fenceless_prepareCheckpoint {task : TaskRecord} {operationId checkpoint : String}
    {facts : CheckpointFacts} :
    Fenceless (prepareCheckpointOperation task operationId checkpoint facts) := by
  unfold prepareCheckpointOperation
  dsimp only
  apply fenceless_unless (by simp [unfenced])
  refine Raises.get.bind fun db => ?_
  split
  · exact fenceless_throw (by simp [unfenced])
  split
  · apply fenceless_unless (by simp [unfenced])
    split
    · exact fenceless_checkCheckpointOwner.bind fun _ => Raises.pure _
    · exact Raises.pure _
  · refine fenceless_checkCheckpointOwner.bind fun _ => ?_
    apply fenceless_unless (by simp [unfenced])
    exact (Raises.modify _).bind fun _ => Raises.pure _

theorem fenceless_checkpointWithOccurrence {operation : CheckpointOperation} {receipt : Receipt}
    {now : Time} : Fenceless (checkpointWithOccurrence operation receipt now) := by
  unfold checkpointWithOccurrence
  refine Raises.get.bind fun db => ?_
  split
  · exact fenceless_throw (by simp [unfenced])
  dsimp only
  apply fenceless_unless (by simp [unfenced])
  refine Raises.get.bind fun db => ?_
  split
  · exact fenceless_throw (by simp [unfenced])
  split
  · exact fenceless_unless (by simp [unfenced]) (Raises.pure _)
  · refine fenceless_checkCheckpointOwner.bind fun _ => ?_
    exact fenceless_transition.bind fun _ => (Raises.modify _).bind fun _ => Raises.pure _

theorem fenceless_reserveEffect {taskId : TaskId} {epoch : ℕ} {requestHash : Launch}
    {owner : String} {ttl now : Time} :
    Fenceless (reserveEffect taskId epoch requestHash owner ttl now) := by
  have leased : ∀ effect : Effect, ∀ expired : Bool, Fenceless (do
      modify fun db => db.putEffect effect
      return (effect, expired) : Txn (Effect × Bool)) := fun _ _ =>
    (Raises.modify _).bind fun _ => Raises.pure _
  unfold reserveEffect
  refine Raises.get.bind fun db => ?_
  dsimp only
  split
  · exact leased _ _
  split
  · exact fenceless_throw (by simp [unfenced])
  · exact Raises.pure _
  split
  · split
    · refine (fenceless_throw (by simp [unfenced])).bind fun _ => ?_
      split
      · exact (fenceless_throw (by simp [unfenced])).bind fun _ => leased _ _
      · exact leased _ _
    · split
      · exact (fenceless_throw (by simp [unfenced])).bind fun _ => leased _ _
      · exact leased _ _
  · exact leased _ _

theorem fenceless_advanceEffect {taskId : TaskId} {epoch : ℕ} {assign : Effect → Effect}
    {expectStates : List EffectState} {now : Time} :
    Fenceless (advanceEffect taskId epoch assign expectStates now) := by
  refine Raises.get.bind fun db => ?_
  split
  · exact fenceless_throw (by simp [unfenced])
  split
  · exact (Raises.modify _).bind fun _ => Raises.pure _
  · exact fenceless_throw (by simp [unfenced])

theorem fenceless_markCleanupWorkspace {taskId : TaskId} {epoch : ℕ} {workspaceId : WorkspaceId}
    {now : Time} : Fenceless (markCleanupWorkspace taskId epoch workspaceId now) := by
  refine Raises.get.bind fun db => ?_
  split
  · apply Raises.throw
    rw [String.append_assoc, String.append_assoc, String.append_assoc]
    exact taskStore_ne_unfenced (by decide)
  split
  · exact (Raises.modify _).bind fun _ => Raises.pure _
  · exact Raises.pure _

theorem fenceless_linkSuccessor {source successor : SessionId} :
    Fenceless (linkSuccessor source successor) := by
  unfold linkSuccessor
  dsimp only
  apply fenceless_unless (by simp [unfenced])
  refine Raises.get.bind fun db => ?_
  split
  · exact fenceless_throw (by simp [unfenced])
  split
  · split
    · exact Raises.pure _
    · exact fenceless_throw (by simp [unfenced])
  · apply fenceless_unless (by simp [unfenced])
    exact (Raises.set _).bind fun _ => Raises.pure _

theorem fenceless_settleOutgoing {taskId : TaskId} {epoch : ℕ} {dedupeKey : String}
    {nativeId : Option String} {terminal : Bool} :
    Fenceless (settleOutgoingCommand taskId epoch dedupeKey nativeId terminal) := by
  refine Raises.get.bind fun db => ?_
  split
  · exact fenceless_throw (by simp [unfenced])
  refine (Raises.modify _).bind fun _ => ?_
  split
  · split
    · exact Raises.modify _
    · exact Raises.pure _
  · exact Raises.pure _

theorem fenceless_lossEvidence {task : TaskRecord} {reason payload : String} {now : Time} :
    Fenceless (lossEvidence task reason payload now) := by
  unfold lossEvidence
  refine Raises.get.bind fun db => ?_
  dsimp only
  split
  on_goal 1 => split
  on_goal 1 => refine (Raises.modify _).bind fun _ => ?_
  all_goals
    refine Raises.get.bind fun db => ?_
    split
    · apply Raises.throw
      rw [String.append_assoc]
      exact taskStore_ne_unfenced (by decide)
    split
    · exact Raises.modify _
    · exact Raises.pure _

theorem recordLoss_ne_unfenced {task : TaskRecord} {reason payload : String} {now : Time}
    {db : Store} {e : KernelError}
    (raised : (recordLoss task reason payload now db).2 = .error e) : e ≠ unfenced := by
  unfold recordLoss at raised
  split at raised
  · rename_i ran
    cases raised
    exact fenceless_lossEvidence _ _ ran
  split at raised
  · cases raised
    simp [unfenced]
  dsimp only at raised
  split at raised
  · exact nomatch raised
  · rename_i ran
    cases raised
    exact fenceless_finishWithWakeWithin _ _ ran

/-! ### The transactions -/

/-- The transaction does not raise the refusal. -/
def Tx.Fenceless (tx : Tx (Answer β)) : Prop :=
  ∀ db e, (tx.exec db).2 = .error e → e ≠ unfenced

theorem Fenceless.atomically {body : Txn α} (h : Fenceless body) {db : Store} {e : KernelError}
    (raised : (atomically body db).2 = .error e) : e ≠ unfenced := by
  obtain ⟨a, db', _, left⟩ | ⟨e', ran, left⟩ := atomically_cases body db
  · rw [left] at raised
    exact nomatch raised
  · rw [left] at raised
    cases raised
    exact h db e ran

namespace Tx

variable {taskId : TaskId} {epoch : ℕ} {seen : TaskRecord} {now : Time}

theorem reserveAll_fenceless {scope : String} {parent : Option TaskId} {specs : List TaskSpec}
    {maxAttempts : ℕ} : (Tx.reserveAll scope parent specs maxAttempts now).Fenceless :=
  fun _ _ raised => fenceless_reserveAll.atomically raised

theorem activate_fenceless {site : ActivateSite} {workspaceId : WorkspaceId}
    {sessionId : SessionId} : (Tx.activate site seen workspaceId sessionId now).Fenceless :=
  fun _ _ raised => fenceless_transaction.atomically raised

theorem prepareReplacement_fenceless {target : Option Target} {chargeFailure : Bool} :
    (Tx.prepareReplacement seen target chargeFailure now).Fenceless :=
  fun _ _ raised => fenceless_prepareReplacement.atomically raised

theorem resumeReplacement_fenceless {target : Target} {automaticRecovery : Bool} :
    (Tx.resumeReplacement seen target automaticRecovery now).Fenceless :=
  fun _ _ raised => fenceless_transaction.atomically raised

theorem reissue_fenceless {resolvedSpec : TaskSpec} :
    (Tx.reissue seen resolvedSpec now).Fenceless :=
  fun _ _ raised => fenceless_transaction.atomically raised

theorem checkpointRow_fenceless {reference : String} :
    (Tx.checkpointRow seen reference now).Fenceless :=
  fun _ _ raised => fenceless_transaction.atomically raised

theorem prepareCheckpoint_fenceless {operationId checkpoint : String} {facts : CheckpointFacts} :
    (Tx.prepareCheckpoint seen operationId checkpoint facts).Fenceless :=
  fun _ _ raised => fenceless_prepareCheckpoint.atomically raised

theorem checkpointOccurrence_fenceless {operation : CheckpointOperation} {receipt : Receipt} :
    (Tx.checkpointOccurrence operation receipt now).Fenceless :=
  fun _ _ raised => fenceless_checkpointWithOccurrence.atomically raised

theorem finish_fenceless {site : FinishSite} {state : TaskState} {result : Option String}
    {chargeFailure : Bool} : (Tx.finish site seen state result chargeFailure now).Fenceless :=
  fun _ _ raised =>
    (fenceless_wrapping (by decide) fenceless_finishWithWakeWithin).atomically raised

theorem finishExpired_fenceless : (Tx.finishExpired seen now).Fenceless :=
  fun _ _ raised => fenceless_finish.atomically raised

theorem recordLoss_fenceless {reason payload : String} :
    (Tx.recordLoss seen reason payload now).Fenceless :=
  fun _ _ raised => recordLoss_ne_unfenced raised

theorem recordFinding_fenceless {liveness : Option Liveness} {evidence : Option String}
    {overBudget : Bool} {progressTimeout : Time} :
    (Tx.recordFinding seen liveness evidence overBudget now progressTimeout).Fenceless :=
  fun _ _ raised => fenceless_recordFinding.atomically raised

theorem reserve_fenceless {requestHash : Launch} {owner : String} :
    (Tx.reserve taskId epoch requestHash owner now).Fenceless :=
  fun _ _ raised => fenceless_reserveEffect.atomically raised

theorem markLaunched_fenceless {workspaceId : WorkspaceId} {sessionId : SessionId} :
    (Tx.markLaunched taskId epoch workspaceId sessionId now).Fenceless :=
  fun _ _ raised => fenceless_advanceEffect.atomically raised

theorem markTerminal_fenceless {outcome : String} {retryAt : Option Time} :
    (Tx.markTerminal taskId epoch outcome retryAt now).Fenceless :=
  fun _ _ raised => fenceless_advanceEffect.atomically raised

theorem markRefused_fenceless {reason : String} {retryAfter : Option Time} :
    (Tx.markRefused taskId epoch reason retryAfter now).Fenceless :=
  fun _ _ raised => fenceless_advanceEffect.atomically raised

theorem markSuperseded_fenceless {workspaceId : WorkspaceId} :
    (Tx.markSuperseded taskId epoch workspaceId now).Fenceless :=
  fun _ _ raised => fenceless_advanceEffect.atomically raised

theorem markCleanupWorkspace_fenceless {workspaceId : WorkspaceId} :
    (Tx.markCleanupWorkspace taskId epoch workspaceId now).Fenceless :=
  fun _ _ raised => fenceless_markCleanupWorkspace.atomically raised

theorem linkSuccessor_fenceless {source successor : SessionId} :
    (Tx.linkSuccessor source successor).Fenceless :=
  fun _ _ raised => fenceless_linkSuccessor.atomically raised

theorem settleOutgoing_fenceless {dedupeKey : String} {nativeId : Option String}
    {terminal : Bool} : (Tx.settleOutgoing taskId epoch dedupeKey nativeId terminal).Fenceless :=
  fun _ _ raised => fenceless_settleOutgoing.atomically raised

end Tx

end SightMesh
