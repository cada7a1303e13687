import SightMesh.Concurrency.Attempts

/-! Programs under a monitor: an observer that reads the events of one process as they come, and may
object to one. What a program does is told by the state its monitor is in where it ends. -/
namespace Concurrency

variable {ε : Type} {T Q : Type → Type 1} {κ σ m α β : Type}

structure Monitor (T Q : Type → Type 1) (m : Type) where
  next : m → Event T Q → m
  allows : m → Event T Q → Prop

def Monitor.Accepts (M : Monitor T Q m) : m → List (Event T Q) → Prop
  | _, [] => True
  | s, e :: rest => M.allows s e ∧ M.Accepts (M.next s e) rest

def Monitor.after (M : Monitor T Q m) (s : m) (events : List (Event T Q)) : m :=
  events.foldl M.next s

/-- Whatever the program is answered, the monitor objects to nothing it does, and is in a state the
result fits where it ends. -/
def Prog.Watched (M : Monitor T Q m) : Prog ε T Q κ α → (Except ε α → m → Prop) → m → Prop
  | .ret a, done, s => done (.ok a) s
  | .fail e, done, s => done (.error e) s
  | .commit tx k, done, s =>
    ∀ b, M.allows s (.commit tx b) ∧ (k b).Watched M done (M.next s (.commit tx b))
  | .call q k, done, s =>
    ∀ b, M.allows s (.call q b) ∧ (k b).Watched M done (M.next s (.call q b))
  | .lock _ k, done, s => k.Watched M done s
  | .unlock _ k, done, s => k.Watched M done s

namespace Prog

variable {M : Monitor T Q m} {p : Prog ε T Q κ α} {done : Except ε α → m → Prop} {s : m}

@[simp] theorem watched_ret {a : α} :
    (ret a : Prog ε T Q κ α).Watched M done s ↔ done (.ok a) s := Iff.rfl

@[simp] theorem watched_fail {e : ε} :
    (fail e : Prog ε T Q κ α).Watched M done s ↔ done (.error e) s := Iff.rfl

theorem Watched.mono {done' : Except ε α → m → Prop} (h : p.Watched M done s)
    (weaker : ∀ r s, done r s → done' r s) : p.Watched M done' s := by
  induction p generalizing s with
  | ret a => exact weaker _ _ h
  | fail e => exact weaker _ _ h
  | commit tx k ih => exact fun b => ⟨(h b).1, ih b (h b).2⟩
  | call q k ih => exact fun b => ⟨(h b).1, ih b (h b).2⟩
  | lock l k ih => exact ih h
  | unlock l k ih => exact ih h

/-- A program that does nothing the monitor heeds leaves it where it is. -/
theorem Watched.of_emits {P : Event T Q → Prop} (emits : p.Emits P)
    (quiet : ∀ e, P e → M.allows s e ∧ M.next s e = s) (ended : ∀ r, done r s) :
    p.Watched M done s := by
  induction p with
  | ret a => exact ended _
  | fail e => exact ended _
  | commit tx k ih =>
    intro b
    obtain ⟨allowed, same⟩ := quiet _ (emits b).1
    rw [same]
    exact ⟨allowed, ih b (emits b).2⟩
  | call q k ih =>
    intro b
    obtain ⟨allowed, same⟩ := quiet _ (emits b).1
    rw [same]
    exact ⟨allowed, ih b (emits b).2⟩
  | lock l k ih => exact ih emits
  | unlock l k ih => exact ih emits

def andThen (M : Monitor T Q m) (f : α → Prog ε T Q κ β) (done : Except ε β → m → Prop) :
    Except ε α → m → Prop
  | .ok a, s => (f a).Watched M done s
  | .error e, s => done (.error e) s

def orElse (M : Monitor T Q m) (h : ε → Prog ε T Q κ α) (done : Except ε α → m → Prop) :
    Except ε α → m → Prop
  | .ok a, s => done (.ok a) s
  | .error e, s => (h e).Watched M done s

@[simp] theorem andThen_ok {f : α → Prog ε T Q κ β} {done : Except ε β → m → Prop} {a : α} :
    andThen M f done (.ok a) s ↔ (f a).Watched M done s := Iff.rfl

@[simp] theorem andThen_error {f : α → Prog ε T Q κ β} {done : Except ε β → m → Prop} {e : ε} :
    andThen M f done (.error e) s ↔ done (.error e) s := Iff.rfl

@[simp] theorem orElse_ok {h : ε → Prog ε T Q κ α} {a : α} :
    orElse M h done (.ok a) s ↔ done (.ok a) s := Iff.rfl

@[simp] theorem orElse_error {h : ε → Prog ε T Q κ α} {e : ε} :
    orElse M h done (.error e) s ↔ (h e).Watched M done s := Iff.rfl

@[simp] theorem watched_bind {f : α → Prog ε T Q κ β} {done : Except ε β → m → Prop} :
    (p.bind f).Watched M done s ↔ p.Watched M (andThen M f done) s := by
  induction p generalizing s with
  | ret a => rfl
  | fail e => rfl
  | commit tx k ih => exact forall_congr' fun b => and_congr Iff.rfl (ih b)
  | call q k ih => exact forall_congr' fun b => and_congr Iff.rfl (ih b)
  | lock l k ih => exact ih
  | unlock l k ih => exact ih

@[simp] theorem watched_handle {h : ε → Prog ε T Q κ α} :
    (p.handle h).Watched M done s ↔ p.Watched M (orElse M h done) s := by
  induction p generalizing s with
  | ret a => rfl
  | fail e => rfl
  | commit tx k ih => exact forall_congr' fun b => and_congr Iff.rfl (ih b)
  | call q k ih => exact forall_congr' fun b => and_congr Iff.rfl (ih b)
  | lock l k ih => exact ih
  | unlock l k ih => exact ih

theorem watched_last {last : Prog ε T Q κ Unit} {q : Prog ε T Q κ α} {r : Except ε α}
    (ends : ∀ s, q.Watched M done s ↔ done r s) : (last.bind fun _ => q).Watched M done s ↔
      last.Watched M (fun r' => done (r'.bind fun _ => r)) s := by
  induction last generalizing s with
  | ret a => exact ends s
  | fail e => rfl
  | commit tx k ih => exact forall_congr' fun b => and_congr Iff.rfl (ih b)
  | call q k ih => exact forall_congr' fun b => and_congr Iff.rfl (ih b)
  | lock l k ih => exact ih
  | unlock l k ih => exact ih

/-- A `finally` clause hands the result on, unless it raises. -/
@[simp] theorem watched_finally {last : Prog ε T Q κ Unit} :
    (p.finally' last).Watched M done s ↔
      p.Watched M (fun r => last.Watched M fun r' => done (r'.bind fun _ => r)) s := by
  induction p generalizing s with
  | ret a => exact watched_last fun _ => Iff.rfl
  | fail e => exact watched_last fun _ => Iff.rfl
  | commit tx k ih => exact forall_congr' fun b => and_congr Iff.rfl (ih b)
  | call q k ih => exact forall_congr' fun b => and_congr Iff.rfl (ih b)
  | lock l k ih => exact ih
  | unlock l k ih => exact ih

@[simp] theorem watched_ask {q : Q α} : (ask q : Prog ε T Q κ α).Watched M done s ↔
    ∀ b, M.allows s (.call q b) ∧ done (.ok b) (M.next s (.call q b)) := Iff.rfl

@[simp] theorem watched_query {q : Q (Except ε α)} :
    (query q : Prog ε T Q κ α).Watched M done s ↔
      ∀ r, M.allows s (.call q r) ∧ done r (M.next s (.call q r)) := by
  apply forall_congr'
  intro r
  cases r <;> rfl

@[simp] theorem watched_run {tx : T (Except ε α)} :
    (run tx : Prog ε T Q κ α).Watched M done s ↔
      ∀ r, M.allows s (.commit tx r) ∧ done r (M.next s (.commit tx r)) := by
  apply forall_congr'
  intro r
  cases r <;> rfl

/-- What is so under the monitor is so of every attempt, however the others move the store. -/
theorem Watched.attempt {exec : {β : Type} → T β → σ → σ × β} {others : σ → σ → Prop} {db db' : σ}
    {events : List (Event T Q)} {r : Option (Except ε α)} (watched : p.Watched M done s)
    (h : p.Attempt exec others db events r db') :
    M.Accepts s events ∧ ∀ result, r = some result → done result (M.after s events) := by
  induction p generalizing s db events with
  | ret a =>
    obtain ⟨_, rfl, rfl | rfl⟩ := h
    · refine ⟨trivial, ?_⟩
      rintro _ ⟨⟩
      exact watched
    · exact ⟨trivial, nofun⟩
  | fail e =>
    obtain ⟨_, rfl, rfl | rfl⟩ := h
    · refine ⟨trivial, ?_⟩
      rintro _ ⟨⟩
      exact watched
    · exact ⟨trivial, nofun⟩
  | commit tx k ih =>
    obtain ⟨_, rfl, rfl⟩ | ⟨mid, rest, _, rfl, more⟩ := h
    · exact ⟨trivial, nofun⟩
    · obtain ⟨accepted, ended⟩ := ih _ (watched _).2 more
      exact ⟨⟨(watched _).1, accepted⟩, ended⟩
  | call q k ih =>
    obtain ⟨_, rfl, rfl⟩ | ⟨b, rest, rfl, more⟩ := h
    · exact ⟨trivial, nofun⟩
    · obtain ⟨accepted, ended⟩ := ih b (watched b).2 more
      exact ⟨⟨(watched b).1, accepted⟩, ended⟩
  | lock l k ih => exact ih watched h
  | unlock l k ih => exact ih watched h

/-! ### Fixed answers -/

/-- The attempt that is never stopped, where every question has one answer. -/
def follow (exec : {β : Type} → T β → σ → σ × β) (answer : {β : Type} → Q β → β) :
    Prog ε T Q κ α → σ → List (Event T Q) × Except ε α × σ
  | .ret a, db => ([], .ok a, db)
  | .fail e, db => ([], .error e, db)
  | .commit tx k, db =>
    let rest := (k (exec tx db).2).follow exec answer (exec tx db).1
    (.commit tx (exec tx db).2 :: rest.1, rest.2)
  | .call q k, db =>
    let rest := (k (answer q)).follow exec answer db
    (.call q (answer q) :: rest.1, rest.2)
  | .lock _ k, db => k.follow exec answer db
  | .unlock _ k, db => k.follow exec answer db

theorem follow_attempt {exec : {β : Type} → T β → σ → σ × β} {others : σ → σ → Prop}
    {answer : {β : Type} → Q β → β} (refl : ∀ db, others db db) (db : σ) :
    p.Attempt exec others db (p.follow exec answer db).1 (some (p.follow exec answer db).2.1)
      (p.follow exec answer db).2.2 := by
  induction p generalizing db with
  | ret a => exact ⟨refl db, rfl, .inl rfl⟩
  | fail e => exact ⟨refl db, rfl, .inl rfl⟩
  | commit tx k ih => exact .inr ⟨db, _, refl db, rfl, ih _ _⟩
  | call q k ih => exact .inr ⟨answer q, _, rfl, ih _ _⟩
  | lock l k ih => exact ih db
  | unlock l k ih => exact ih db

end Prog

end Concurrency
