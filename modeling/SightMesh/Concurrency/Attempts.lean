import SightMesh.Concurrency.Pool

/-! One run of a program among others. Before every step the others may have moved the store, what
is asked may be answered in any way, and the process may stop for good. -/
namespace Concurrency

variable {ε : Type} {T Q : Type → Type 1} {κ σ α β : Type}
  {exec : {β : Type} → T β → σ → σ × β} {others : σ → σ → Prop}

def Halts (others : σ → σ → Prop) (db : σ) (events : List (Event T Q)) (r : Option (Except ε α))
    (db' : σ) : Prop :=
  others db db' ∧ events = [] ∧ r = none

/-- An attempt at a program that takes the store from `db` to `db'`: its own events, the oldest
first, and its result, none if it crashed. The locks bind nobody here. -/
def Prog.Attempt (exec : {β : Type} → T β → σ → σ × β) (others : σ → σ → Prop) :
    Prog ε T Q κ α → σ → List (Event T Q) → Option (Except ε α) → σ → Prop
  | .ret a, db, events, r, db' => others db db' ∧ events = [] ∧ (r = some (.ok a) ∨ r = none)
  | .fail e, db, events, r, db' => others db db' ∧ events = [] ∧ (r = some (.error e) ∨ r = none)
  | .commit tx k, db, events, r, db' => Halts others db events r db' ∨
      ∃ mid rest, others db mid ∧ events = .commit tx (exec tx mid).2 :: rest ∧
        (k (exec tx mid).2).Attempt exec others (exec tx mid).1 rest r db'
  | .call q k, db, events, r, db' => Halts others db events r db' ∨
      ∃ b rest, events = .call q b :: rest ∧ (k b).Attempt exec others db rest r db'
  | .lock _ k, db, events, r, db' => k.Attempt exec others db events r db'
  | .unlock _ k, db, events, r, db' => k.Attempt exec others db events r db'

/-- Every event the program can cause, whatever it is answered, is one of `P`. -/
def Prog.Emits (P : Event T Q → Prop) : Prog ε T Q κ α → Prop
  | .ret _ => True
  | .fail _ => True
  | .commit tx k => ∀ b, P (.commit tx b) ∧ (k b).Emits P
  | .call q k => ∀ b, P (.call q b) ∧ (k b).Emits P
  | .lock _ k => k.Emits P
  | .unlock _ k => k.Emits P

namespace Prog

variable {p : Prog ε T Q κ α} {f : α → Prog ε T Q κ β} {db db' : σ} {events : List (Event T Q)}
  {P : Event T Q → Prop}

/-! ### Events -/

theorem Emits.bind (first : p.Emits P) (rest : ∀ a, (f a).Emits P) : (p.bind f).Emits P := by
  induction p with
  | ret a => exact rest a
  | fail e => trivial
  | commit tx k ih => exact fun b => ⟨(first b).1, ih b (first b).2⟩
  | call q k ih => exact fun b => ⟨(first b).1, ih b (first b).2⟩
  | lock l k ih => exact ih first
  | unlock l k ih => exact ih first

theorem Emits.handle {h : ε → Prog ε T Q κ α} (body : p.Emits P) (handler : ∀ e, (h e).Emits P) :
    (p.handle h).Emits P := by
  induction p with
  | ret a => trivial
  | fail e => exact handler e
  | commit tx k ih => exact fun b => ⟨(body b).1, ih b (body b).2⟩
  | call q k ih => exact fun b => ⟨(body b).1, ih b (body b).2⟩
  | lock l k ih => exact ih body
  | unlock l k ih => exact ih body

theorem Emits.finally {after : Prog ε T Q κ Unit} (body : p.Emits P) (last : after.Emits P) :
    (p.finally' after).Emits P := by
  induction p with
  | ret a => exact last.bind fun _ => trivial
  | fail e => exact last.bind fun _ => trivial
  | commit tx k ih => exact fun b => ⟨(body b).1, ih b (body b).2⟩
  | call q k ih => exact fun b => ⟨(body b).1, ih b (body b).2⟩
  | lock l k ih => exact ih body
  | unlock l k ih => exact ih body

theorem Emits.released {l : κ} (body : p.Emits P) : (released l p).Emits P :=
  Emits.finally body trivial

theorem Emits.run {tx : T (Except ε α)} (fine : ∀ b, P (.commit tx b)) :
    (run tx : Prog ε T Q κ α).Emits P := by
  intro b
  refine ⟨fine b, ?_⟩
  cases b <;> trivial

theorem Emits.query {q : Q (Except ε α)} (fine : ∀ b, P (.call q b)) :
    (query q : Prog ε T Q κ α).Emits P := by
  intro b
  refine ⟨fine b, ?_⟩
  cases b <;> trivial

theorem Attempt.emits {r : Option (Except ε α)} (h : p.Attempt exec others db events r db')
    (emits : p.Emits P) : ∀ e ∈ events, P e := by
  induction p generalizing db events with
  | ret a => simp [h.2.1]
  | fail e => simp [h.2.1]
  | commit tx k ih =>
    obtain ⟨_, rfl, _⟩ | ⟨mid, rest, _, rfl, more⟩ := h
    · simp
    · exact List.forall_mem_cons.mpr ⟨(emits _).1, ih _ more (emits _).2⟩
  | call q k ih =>
    obtain ⟨_, rfl, _⟩ | ⟨b, rest, rfl, more⟩ := h
    · simp
    · exact List.forall_mem_cons.mpr ⟨(emits b).1, ih b more (emits b).2⟩
  | lock l k ih => exact ih h emits
  | unlock l k ih => exact ih h emits

/-! ### The store -/

/-- Where every transaction of the program does to the store what the others do, so does an
attempt. -/
theorem Attempt.moves {r : Option (Except ε α)} (h : p.Attempt exec others db events r db')
    (trans : ∀ {a b c}, others a b → others b c → others a c)
    (exec_others : ∀ {β : Type} (tx : T β) db, others db (exec tx db).1) : others db db' := by
  induction p generalizing db events with
  | ret a => exact h.1
  | fail e => exact h.1
  | commit tx k ih =>
    obtain ⟨moved, _⟩ | ⟨mid, rest, moved, _, more⟩ := h
    · exact moved
    · exact trans moved (trans (exec_others tx mid) (ih _ more))
  | call q k ih =>
    obtain ⟨moved, _⟩ | ⟨b, rest, _, more⟩ := h
    · exact moved
    · exact ih b more
  | lock l k ih => exact ih h
  | unlock l k ih => exact ih h

/-- What each commit of a kind leaves in the store, and no step takes back, is there at the end. -/
theorem Attempt.leaves {r : Option (Except ε α)} {I : σ → Prop}
    (h : p.Attempt exec others db events r db')
    (trans : ∀ {a b c}, others a b → others b c → others a c)
    (exec_others : ∀ {β : Type} (tx : T β) db, others db (exec tx db).1)
    (stable : ∀ a b, others a b → I a → I b) {tx : T β} {b : β} (done : .commit tx b ∈ events)
    (sets : ∀ db, (exec tx db).2 = b → I (exec tx db).1) : I db' := by
  induction p generalizing db events with
  | ret a => simp [h.2.1] at done
  | fail e => simp [h.2.1] at done
  | commit tx' k ih =>
    obtain ⟨_, rfl, _⟩ | ⟨mid, rest, _, rfl, more⟩ := h
    · simp at done
    · obtain here | later := List.mem_cons.mp done
      · cases here
        exact stable _ _ (more.moves trans exec_others) (sets mid rfl)
      · exact ih _ more later
  | call q k ih =>
    obtain ⟨_, rfl, _⟩ | ⟨b, rest, rfl, more⟩ := h
    · simp at done
    · exact ih b more (by simpa using done)
  | lock l k ih => exact ih h done
  | unlock l k ih => exact ih h done

/-! ### Parts -/

/-- An attempt at a sequence stops in its first part, or completes it and goes on. -/
theorem Attempt.bind {r : Option (Except ε β)} (refl : ∀ db, others db db)
    (h : (p.bind f).Attempt exec others db events r db') :
    (∃ stop : Option ε, p.Attempt exec others db events (stop.map .error) db' ∧
      r = stop.map .error) ∨
    ∃ a mid first second, events = first ++ second ∧
      p.Attempt exec others db first (some (.ok a)) mid ∧
      (f a).Attempt exec others mid second r db' := by
  induction p generalizing db events with
  | ret a => exact .inr ⟨a, db, [], events, rfl, ⟨refl db, rfl, .inl rfl⟩, h⟩
  | fail e =>
    obtain ⟨moved, none_, rfl | rfl⟩ := h
    · exact .inl ⟨some e, ⟨moved, none_, .inl rfl⟩, rfl⟩
    · exact .inl ⟨none, ⟨moved, none_, .inr rfl⟩, rfl⟩
  | commit tx k ih =>
    obtain ⟨moved, none_, rfl⟩ | ⟨mid, rest, moved, rfl, more⟩ := h
    · exact .inl ⟨none, .inl ⟨moved, none_, rfl⟩, rfl⟩
    · obtain ⟨stop, stopped, rfl⟩ | ⟨a, mid', first, second, rfl, done, next⟩ := ih _ more
      · exact .inl ⟨stop, .inr ⟨mid, rest, moved, rfl, stopped⟩, rfl⟩
      · exact .inr ⟨a, mid', _ :: first, second, rfl, .inr ⟨mid, first, moved, rfl, done⟩, next⟩
  | call q k ih =>
    obtain ⟨moved, none_, rfl⟩ | ⟨b, rest, rfl, more⟩ := h
    · exact .inl ⟨none, .inl ⟨moved, none_, rfl⟩, rfl⟩
    · obtain ⟨stop, stopped, rfl⟩ | ⟨a, mid', first, second, rfl, done, next⟩ := ih b more
      · exact .inl ⟨stop, .inr ⟨b, rest, rfl, stopped⟩, rfl⟩
      · exact .inr ⟨a, mid', _ :: first, second, rfl, .inr ⟨b, first, rfl, done⟩, next⟩
  | lock l k ih => exact ih h
  | unlock l k ih => exact ih h

/-- A gate opened around a body changes nothing an attempt can show. -/
theorem attempt_released {l : κ} {r : Option (Except ε α)} :
    (released l p).Attempt exec others db events r db' ↔
      p.Attempt exec others db events r db' := by
  show (p.finally' (lock l (ret ()))).Attempt exec others db events r db' ↔ _
  induction p generalizing db events with
  | ret a => rfl
  | fail e => rfl
  | commit tx k ih =>
    exact or_congr Iff.rfl (exists_congr fun mid => exists_congr fun rest =>
      and_congr Iff.rfl (and_congr Iff.rfl (ih _)))
  | call q k ih =>
    exact or_congr Iff.rfl (exists_congr fun b => exists_congr fun rest =>
      and_congr Iff.rfl (ih b))
  | lock l k ih => exact ih
  | unlock l k ih => exact ih

theorem attempt_commit {tx : T α} {a : α}
    (h : (commit' tx : Prog ε T Q κ α).Attempt exec others db events (some (.ok a)) db') :
    ∃ mid, others db mid ∧ events = [.commit tx a] ∧ a = (exec tx mid).2 ∧
      others (exec tx mid).1 db' := by
  obtain ⟨_, _, ended⟩ | ⟨mid, rest, moved, rfl, after, rfl, ended⟩ := h
  · exact nomatch ended
  · obtain ended | ended := ended
    · cases ended
      exact ⟨mid, moved, rfl, rfl, after⟩
    · exact nomatch ended

theorem attempt_run {tx : T (Except ε α)} {a : α}
    (h : (run tx : Prog ε T Q κ α).Attempt exec others db events (some (.ok a)) db') :
    events = [.commit tx (.ok a)] := by
  obtain ⟨_, _, ended⟩ | ⟨mid, rest, moved, rfl, more⟩ := h
  · exact nomatch ended
  · cases answer : (exec tx mid).2 with
    | ok b =>
      rw [answer] at more
      obtain ⟨_, rfl, ended | ended⟩ := more
      · cases ended
        rfl
      · exact nomatch ended
    | error e =>
      rw [answer] at more
      obtain ⟨_, _, ended | ended⟩ := more <;> exact nomatch ended

theorem attempt_query_once {q : Q (Except ε α)} {r : Option (Except ε α)}
    (h : (query q : Prog ε T Q κ α).Attempt exec others db events r db') :
    events = [] ∨ ∃ b, events = [.call q b] := by
  obtain ⟨_, rfl, _⟩ | ⟨b, rest, rfl, more⟩ := h
  · exact .inl rfl
  · cases b <;> exact .inr ⟨_, by rw [more.2.1]⟩

theorem attempt_query {q : Q (Except ε α)} {a : α}
    (h : (query q : Prog ε T Q κ α).Attempt exec others db events (some (.ok a)) db') :
    events = [.call q (.ok a)] := by
  obtain ⟨_, _, ended⟩ | ⟨b, rest, rfl, more⟩ := h
  · exact nomatch ended
  · cases b with
    | ok b =>
      obtain ⟨_, rfl, ended | ended⟩ := more
      · cases ended
        rfl
      · exact nomatch ended
    | error e =>
      obtain ⟨_, _, ended | ended⟩ := more <;> exact nomatch ended

end Prog

end Concurrency
