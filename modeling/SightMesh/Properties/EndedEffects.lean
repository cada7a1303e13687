import SightMesh.Database.Run
import SightMesh.Kernel.Journal

/-! What stays of an effect once it has ended. -/
namespace SightMesh

open Database

variable {β : Type}

abbrev AnyTx := Σ β : Type, Tx β

def AnyTx.exec (db : Store) (tx : AnyTx) : Store := (tx.2.exec db).1

/-- An effect but for the workspace that is still to be cleaned up. -/
def Effect.facts (effect : Effect) : Effect := { effect with workspaceId := none, updatedAt := 0 }

/-- Every ended effect stays, and only its workspace may change. -/
def Store.KeepsEnded (a b : Store) : Prop :=
  ∀ t n row, a.effect t n = some row → row.state = .terminal →
    ∃ next, b.effect t n = some next ∧ next.facts = row.facts

theorem Store.KeepsEnded.refl (db : Store) : db.KeepsEnded db :=
  fun _ _ row known _ => ⟨row, known, rfl⟩

theorem Store.KeepsEnded.trans (a b c : Store) (first : a.KeepsEnded b) (second : b.KeepsEnded c) :
    a.KeepsEnded c := by
  intro t n row known ended
  obtain ⟨mid, known, same⟩ := first t n row known ended
  have ended : mid.state = .terminal := (congrArg Effect.state same).trans ended
  obtain ⟨last, known, same'⟩ := second t n mid known ended
  exact ⟨last, known, same'.trans same⟩

/-- The transaction writes `superseded` over another outcome of an ended effect. -/
def Tx.relabels (db : Store) : Tx β → Bool
  | .markCleanupWorkspace t n _ _ =>
    (db.effect t n).any fun e => e.state = .terminal && e.outcome ≠ some "superseded"
  | _ => false

theorem Tx.Marks.facts {tx : Tx β} {answer : β} {db : Store} {t : TaskId} {n : ℕ}
    {row next : Effect} (marks : tx.Marks row next answer) (known : db.effect t n = some row)
    (ended : row.state = .terminal) (spares : tx.relabels db = false) : next.facts = row.facts := by
  cases tx with
  | markCleanupWorkspace taskId epoch workspaceId now =>
    cases answer with
    | error e => exact marks.elim
    | ok effect =>
      obtain ⟨named, _, rfl⟩ := marks
      cases (Store.key_of_effect known).symm.trans named
      have outcome : row.outcome = some "superseded" := by
        simpa [Tx.relabels, known, ended] using spares
      simp [Effect.facts, outcome]
  | acknowledgeStop effect now =>
    obtain ⟨_, _, _, rfl⟩ := marks
    rfl
  | reserve =>
    cases answer with
    | error e => exact marks.elim
    | ok effect => exact nomatch ended.symm.trans marks.2.1
  | markRefused =>
    cases answer with
    | error e => exact marks.elim
    | ok effect => exact nomatch ended.symm.trans marks.2.1
  | retireReservation =>
    cases answer with
    | none => exact marks.elim
    | some effect => exact nomatch ended.symm.trans marks.2.1
  | markLaunched | markTerminal | markSuperseded | recordLoss =>
    cases answer with
    | error e => exact marks.elim
    | ok effect => exact absurd ended marks.2.1
  | _ => exact marks.elim

theorem markCleanupWorkspace_ended {db : Store} {t : TaskId} {n : ℕ} {row : Effect}
    (known : db.effect t n = some row) (ended : row.state = .terminal) (workspaceId : WorkspaceId)
    (now : Time) :
    ((Tx.markCleanupWorkspace t n workspaceId now).exec db).1.effect t n = some { row with
      workspaceId := some workspaceId, outcome := some "superseded", updatedAt := now } := by
  have key : (t, n) = row.key := (Store.key_of_effect known).symm
  have ran : markCleanupWorkspace t n workspaceId now db = .ok
      ({ row with workspaceId := some workspaceId, outcome := some "superseded", updatedAt := now },
        db.putEffect { row with
          workspaceId := some workspaceId, outcome := some "superseded", updatedAt := now }) := by
    simp only [markCleanupWorkspace, get_bind_run, known, ended, if_true]
    rfl
  rw [Tx.exec, atomically, ran]
  simp only [Store.effect_putEffect]
  rw [if_pos]
  exact key

theorem keepsEnded_iff (tx : Tx β) (db : Store) :
    db.KeepsEnded (tx.exec db).1 ↔ tx.relabels db = false := by
  constructor
  · intro kept
    cases tx with
    | markCleanupWorkspace t n workspaceId now =>
      by_contra relabels
      rw [Bool.not_eq_false, Tx.relabels, Option.any_eq_true] at relabels
      obtain ⟨row, known, relabels⟩ := relabels
      rw [Bool.and_eq_true, decide_eq_true_eq, decide_eq_true_eq] at relabels
      obtain ⟨next, found, same⟩ := kept t n row known relabels.1
      rw [markCleanupWorkspace_ended known relabels.1] at found
      cases found
      exact relabels.2 (congrArg Effect.outcome same).symm
    | _ => rfl
  · intro spares t n row known ended
    obtain ⟨next, found, same | marks⟩ := (tx.exec_journal db).kept t n row known
    · exact ⟨next, found, congrArg Effect.facts same⟩
    · exact ⟨next, found, marks.facts known ended spares⟩

/-- In every run of transactions, in any order and from any store, an ended effect keeps its state,
its outcome and everything else but its workspace, if and only if no cleanup workspace is attached
to an effect that ended otherwise than superseded. -/
theorem ended_effects_kept_iff (db : Store) (run : List AnyTx) :
    KeptBy AnyTx.exec Store.KeepsEnded db run ↔
      Passes AnyTx.exec (fun db tx => tx.2.relabels db = false) db run := by
  rw [keptBy_iff Store.KeepsEnded.refl Store.KeepsEnded.trans]
  simp only [AnyTx.exec, keepsEnded_iff]

def sampleLaunch (prompt : String) : Launch :=
  .workspace "repo" "main" ⟨"worker", prompt, some "codex", "PLAN", none, none, none, none⟩

def lateWorkspaceRun : List AnyTx :=
  [⟨_, .reserve "worker" 1 (sampleLaunch "do the work") "owner" 0⟩,
    ⟨_, .markTerminal "worker" 1 "rate_limited" none 1⟩,
    ⟨_, .markCleanupWorkspace "worker" 1 "workspace" 2⟩]

theorem late_workspace_relabels :
    ¬ ∀ (db : Store) (run : List AnyTx), KeptBy AnyTx.exec Store.KeepsEnded db run := by
  intro all
  have kept := all (.initial true) lateWorkspaceRun (lateWorkspaceRun.take 2)
    (lateWorkspaceRun.drop 2) [] rfl
  have before : ((play AnyTx.exec (.initial true) (lateWorkspaceRun.take 2)).effect "worker" 1).map
      (fun e => (e.state, e.outcome)) = some (.terminal, some "rate_limited") := by decide +kernel
  have after : ((play AnyTx.exec (.initial true) (lateWorkspaceRun.take 2 ++
      lateWorkspaceRun.drop 2)).effect "worker" 1).map Effect.outcome =
        some (some "superseded") := by decide +kernel
  obtain ⟨row, known, facts⟩ := Option.map_eq_some_iff.mp before
  obtain ⟨ended, outcome⟩ := Prod.mk.inj facts
  obtain ⟨next, found, same⟩ := kept _ _ row known ended
  rw [found] at after
  have relabelled : next.outcome = some "superseded" := Option.some.inj after
  have same : next.facts.outcome = row.facts.outcome := congrArg Effect.outcome same
  have same : next.outcome = row.outcome := same
  rw [relabelled, outcome] at same
  exact absurd same (by decide)

end SightMesh
