import SightMesh.Concurrency.Rules
import SightMesh.Discipline.Protocol

/-! The rules of the protocol at the primitives the programs are written with. -/
namespace SightMesh

open Concurrency Python Protocol

variable {γ α β : Type} {py : Library} {x : Executor γ} {H : Set LockKey}
  {s s' : Shared Tx Query Store γ}

/-- What the others can have done between two steps of a process that holds `H`. -/
abbrev Rely (H : Set LockKey) (s s' : Shared Tx Query Store γ) : Prop :=
  Evolves s s' ∧ ∀ l ∈ H, Frozen l s s'

theorem Rely.refl (s : Shared Tx Query Store γ) : Rely H s s :=
  ⟨.refl s, fun _ _ => .of_store rfl⟩

theorem Rely.trans {a b c : Shared Tx Query Store γ} (first : Rely H a b) (second : Rely H b c) :
    Rely H a c :=
  ⟨first.1.trans second.1, fun l held => .trans first.1 (first.2 l held) (second.2 l held)⟩

theorem Current.rely {seen : TaskRecord} (h : Current s.store seen) (others : Rely H s s')
    (held : .task seen.taskId ∈ H) : Current s'.store seen :=
  h.frozen others.1 (others.2 _ held)

theorem Snapshot.ends {db : Store} {seen : TaskRecord} (h : Snapshot db seen) :
    ∃ row, db.getById seen.taskId = some row ∧ seen.epoch ≤ row.epoch := by
  obtain ⟨row, known, _, epoch, _⟩ := h
  exact ⟨row.toTaskRecord, by simp [Store.getById, known], epoch⟩

theorem current_of_getById {db : Store} {t : TaskId} {seen : TaskRecord}
    (known : db.getById t = some seen) : Current db seen ∧ seen.taskId = t := by
  obtain ⟨row, found, rfl⟩ := Option.map_eq_some_iff.mp known
  exact ⟨current_of_task found, Store.taskId_of_task found⟩

theorem Snapshot.of_unmoved {db : Store} {seen : TaskRecord} (h : Snapshot db seen)
    (same : unmoved (db.getById seen.taskId) seen = true) : Current db seen := by
  obtain ⟨row, known, identity, _, _, still⟩ := h
  simp only [unmoved, Store.getById, known, Option.map_some, Bool.and_eq_true,
    decide_eq_true_eq] at same
  exact ⟨row, known, identity, still same.2⟩

/-! ### Primitives -/

theorem plain_read (view : Store → β) : (discipline py x).Plain (read view) :=
  ⟨fun _ _ _ => trivial, fun _ => trivial⟩

theorem plain_clock : (discipline py x).Plain clock :=
  ⟨fun _ _ _ => trivial, fun _ => trivial⟩

theorem plain_ask (q : Query β) (allowed : ∀ s : Shared Tx Query Store γ, Asks s q) :
    (discipline py x).Plain (Prog.ask q : Kernel β) :=
  ⟨fun _ s _ => allowed s, fun _ => trivial⟩

theorem plain_query (q : Query (Answer β)) (allowed : ∀ s : Shared Tx Query Store γ, Asks s q) :
    (discipline py x).Plain (query q) := by
  refine ⟨fun _ s _ => allowed s, fun b => ?_⟩
  cases b <;> trivial

theorem plain_commit {tx : Tx β} (allowed : ∀ H (s : Shared Tx Query Store γ), Issued py H s tx) :
    (discipline py x).Plain (Prog.commit' tx : Kernel β) :=
  ⟨fun H s _ => allowed H s, fun _ => trivial⟩

theorem plain_run {tx : Tx (Answer β)} (allowed : ∀ H (s : Shared Tx Query Store γ), Issued py H s tx) :
    (discipline py x).Plain (Prog.run tx : Kernel β) := by
  refine ⟨fun H s _ => allowed H s, fun b => ?_⟩
  cases b <;> trivial

theorem plain_stamped {tx : Time → Tx (Answer β)}
    (allowed : ∀ now H (s : Shared Tx Query Store γ), Issued py H s (tx now)) :
    (discipline py x).Plain (stamped tx) :=
  plain_clock.bind fun now => plain_run (allowed now)

theorem plain_safely (q : Query (Answer β)) (allowed : ∀ s : Shared Tx Query Store γ, Asks s q) :
    (discipline py x).Plain (safely q) := by
  refine (plain_ask q allowed).bind fun b => ?_
  cases b <;> trivial

theorem plain_lift (a : Answer β) : (discipline py x).Plain (lift a) := by
  cases a <;> trivial

theorem read_keeps (view : Store → β) :
    (discipline py x).Keeps H s (read view) fun a s' => a = view s'.store ∧ Rely H s s' := by
  refine Keeps.and (.commit fun s' _ _ => ⟨trivial, ?_⟩) ((plain_read view).keeps H s)
  rfl

theorem replay_keeps (view : Store → β) :
    (discipline py x).Keeps H s (read view) fun a s' => ∃ later earlier,
      s'.trace = later ++ earlier ∧ a = view (replay s'.store.ownershipShared earlier) := by
  refine .commit fun s' _ sane => ⟨trivial, [_], s'.trace, rfl, ?_⟩
  exact congrArg view sane.replayed

theorem stamped_keeps {tx : Time → Tx (Answer β)} {d : β → Shared Tx Query Store γ → Prop}
    (h : ∀ now s', Rely H s s' → Sane s' → Issued py H s' (tx now) ∧
      ∀ b, ((tx now).exec s'.store).2 = .ok b → d b (Shared.after s' (tx now))) :
    (discipline py x).Keeps H s (stamped tx) d :=
  .bind (plain_clock.keeps H s) fun now _ _ others =>
    .run fun s' later known => h now s' (Rely.trans others later) known

/-! ### Control flow -/

theorem isolated_keeps {body : Kernel Unit}
    (h : (discipline py x).Keeps H s body fun _ _ => True) :
    (discipline py x).Keeps H s (isolated body) fun _ _ => True :=
  h.handle fun _ _ _ => .ret trivial

theorem excepting_keeps {body : Kernel β} {caught : KernelError → Bool}
    {handler : KernelError → Kernel β} {done : β → Shared Tx Query Store γ → Prop}
    (h : (discipline py x).Keeps H s body done)
    (rescue : ∀ e s', Evolves s s' → (discipline py x).Keeps H s' (handler e) done) :
    (discipline py x).Keeps H s (excepting body caught handler) done := by
  refine h.handle fun e s' later => ?_
  split
  · exact rescue e s' later
  · exact .fail

theorem forEach_keeps {xs : List α} {body : α → Kernel Unit}
    (h : ∀ a ∈ xs, ∀ s', Evolves s s' →
      (discipline py x).Keeps H s' (body a) fun _ _ => True) :
    (discipline py x).Keeps H s (forEach xs body) fun _ _ => True := by
  induction xs generalizing s with
  | nil => exact .ret trivial
  | cons a xs ih =>
    refine .bind (h a List.mem_cons_self s (.refl s)) fun _ s' later _ => ih fun b mem s'' more => ?_
    exact h b (List.mem_cons_of_mem a mem) s'' (later.trans more)

theorem plain_collect {xs : List α} {body : α → Kernel β}
    (h : ∀ a ∈ xs, (discipline py x).Plain (body a)) :
    (discipline py x).Plain (collect xs body) := by
  induction xs with
  | nil => trivial
  | cons a xs ih =>
    refine (h a List.mem_cons_self).bind fun _ => ?_
    exact (ih fun b mem => h b (List.mem_cons_of_mem a mem)).bind fun _ => trivial

theorem plain_isolated {body : Kernel Unit} (h : (discipline py x).Plain body) :
    (discipline py x).Plain (isolated body) :=
  h.handle fun _ => trivial

theorem plain_forEach {xs : List α} {body : α → Kernel Unit}
    (h : ∀ a ∈ xs, (discipline py x).Plain (body a)) :
    (discipline py x).Plain (forEach xs body) := by
  induction xs with
  | nil => trivial
  | cons a xs ih =>
    exact (h a List.mem_cons_self).bind fun _ => ih fun b mem => h b (List.mem_cons_of_mem a mem)

theorem plain_keeps {p : Kernel α} (plain : (discipline py x).Plain p) (H : Set LockKey)
    (s : Shared Tx Query Store γ) : (discipline py x).Keeps H s p fun _ s' => Rely H s s' :=
  plain.keeps H s

theorem plain_safe {p : Kernel α} (plain : (discipline py x).Plain p) (H : Set LockKey)
    (s : Shared Tx Query Store γ) : (discipline py x).Keeps H s p fun _ _ => True :=
  (plain.keeps H s).trivially

theorem taskLock_keeps {t : TaskId} {body : Kernel α}
    (h : ∀ s', Evolves s s' →
      (discipline py x).Keeps (insert (.task t) H) s' body fun _ _ => True) :
    (discipline py x).Keeps H s (taskLock t body) fun _ _ => True :=
  .withLock (fun s' others _ => h s' others.1) fun _ _ _ _ _ => trivial

theorem externalIo_keeps {t : TaskId} {body : Kernel α} (plain : (discipline py x).Plain body) :
    (discipline py x).Keeps H s (externalIo t body) fun _ _ => True :=
  .released (fun s' _ => plain_safe plain _ s') fun _ _ _ _ _ => trivial

end SightMesh
