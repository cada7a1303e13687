import SightMesh.Concurrency.Solo

/-! Weakest preconditions of a program that runs alone: on which stores every run of it that asks
only certain questions ends, or raises, as it should. -/
namespace Concurrency

open Prog

variable {ε : Type} {T Q : Type → Type 1} {κ σ γ α β : Type} {S : System ε T Q κ σ γ}
  {asks : {β : Type} → Q β → Prop}

/-- From the store on, every run of the program by questions in `asks`, whatever they are answered,
ends with `done` or raises with `raised`. -/
def Prog.Wp (S : System ε T Q κ σ γ) (asks : {β : Type} → Q β → Prop) :
    Prog ε T Q κ α → (α → σ → Prop) → (ε → σ → Prop) → σ → Prop
  | .ret a, done, _, db => done a db
  | .fail e, _, raised, db => raised e db
  | .commit tx k, done, raised, db =>
    (k (S.exec tx db).2).Wp S asks done raised (S.exec tx db).1
  | .call q k, done, raised, db => asks q → ∀ b, (k b).Wp S asks done raised db
  | .lock _ k, done, raised, db => k.Wp S asks done raised db
  | .unlock _ k, done, raised, db => k.Wp S asks done raised db

def Event.Within (asks : {β : Type} → Q β → Prop) : Event T Q → Prop
  | .commit _ _ => True
  | .call q _ => asks q

namespace Prog

variable {done : α → σ → Prop} {raised : ε → σ → Prop} {db : σ}

theorem Wp.mono {p : Prog ε T Q κ α} {done' : α → σ → Prop} {raised' : ε → σ → Prop}
    (h : p.Wp S asks done raised db) (on_done : ∀ a db, done a db → done' a db)
    (on_raised : ∀ e db, raised e db → raised' e db) : p.Wp S asks done' raised' db := by
  induction p generalizing db with
  | ret a => exact on_done _ _ h
  | fail e => exact on_raised _ _ h
  | commit tx k ih => exact ih _ h
  | call q k ih => exact fun asked b => ih b (h asked b)
  | lock l k ih => exact ih h
  | unlock l k ih => exact ih h

theorem wp_bind {p : Prog ε T Q κ α} {f : α → Prog ε T Q κ β} {done : β → σ → Prop} :
    (p.bind f).Wp S asks done raised db ↔
      p.Wp S asks (fun a => (f a).Wp S asks done raised) raised db := by
  induction p generalizing db with
  | ret a => rfl
  | fail e => rfl
  | commit tx k ih => exact ih _
  | call q k ih => exact forall_congr' fun _ => forall_congr' fun b => ih b
  | lock l k ih => exact ih
  | unlock l k ih => exact ih

theorem wp_handle {p : Prog ε T Q κ α} {h : ε → Prog ε T Q κ α} :
    (p.handle h).Wp S asks done raised db ↔
      p.Wp S asks done (fun e => (h e).Wp S asks done raised) db := by
  induction p generalizing db with
  | ret a => rfl
  | fail e => rfl
  | commit tx k ih => exact ih _
  | call q k ih => exact forall_congr' fun _ => forall_congr' fun b => ih b
  | lock l k ih => exact ih
  | unlock l k ih => exact ih

theorem wp_finally {p : Prog ε T Q κ α} {after : Prog ε T Q κ Unit}
    (silent : ∀ (done : Unit → σ → Prop) (raised : ε → σ → Prop) db,
      after.Wp S asks done raised db ↔ done () db) :
    (p.finally' after).Wp S asks done raised db ↔ p.Wp S asks done raised db := by
  induction p generalizing db with
  | ret a => exact wp_bind.trans (silent _ _ _)
  | fail e => exact wp_bind.trans (silent _ _ _)
  | commit tx k ih => exact ih _
  | call q k ih => exact forall_congr' fun _ => forall_congr' fun b => ih b
  | lock l k ih => exact ih
  | unlock l k ih => exact ih

@[simp] theorem wp_withLock {l : κ} {p : Prog ε T Q κ α} :
    (withLock l p).Wp S asks done raised db ↔ p.Wp S asks done raised db :=
  wp_finally fun _ _ _ => Iff.rfl

@[simp] theorem wp_released {l : κ} {p : Prog ε T Q κ α} :
    (released l p).Wp S asks done raised db ↔ p.Wp S asks done raised db :=
  wp_finally fun _ _ _ => Iff.rfl

theorem Wp.run {tx : T (Except ε β)} {done : β → σ → Prop}
    (ends : ∀ b, (S.exec tx db).2 = .ok b → done b (S.exec tx db).1)
    (raises : ∀ e, (S.exec tx db).2 = .error e → raised e (S.exec tx db).1) :
    (run tx : Prog ε T Q κ β).Wp S asks done raised db := by
  rw [Prog.run, Wp]
  cases answered : (S.exec tx db).2 with
  | ok b => exact ends b answered
  | error e => exact raises e answered

theorem Wp.query {q : Q (Except ε β)} {done : β → σ → Prop} (ends : asks q → ∀ b, done b db)
    (raises : asks q → ∀ e, raised e db) :
    (query q : Prog ε T Q κ β).Wp S asks done raised db := by
  intro asked b
  cases b with
  | ok b => exact ends asked b
  | error e => exact raises asked e

theorem Wp.ask {q : Q β} {done : β → σ → Prop} (ends : asks q → ∀ b, done b db) :
    (ask q : Prog ε T Q κ β).Wp S asks done raised db := ends

/-- Every run keeps what the weakest precondition says. -/
theorem Ends.of_wp {p : Prog ε T Q κ α} {s s' : Shared T Q σ γ} {r : Except ε α}
    (run : p.Ends S (fun _ e => e.Within asks) s r s') (h : p.Wp S asks done raised s.store) :
    (∀ a, r = .ok a → done a s'.store) ∧ ∀ e, r = .error e → raised e s'.store := by
  induction p generalizing s with
  | ret a =>
    obtain ⟨rfl, rfl⟩ := run
    constructor
    · rintro _ ⟨⟩
      exact h
    · exact fun _ same => nomatch same
  | fail e =>
    obtain ⟨rfl, rfl⟩ := run
    constructor
    · exact fun _ same => nomatch same
    · rintro _ ⟨⟩
      exact h
  | commit tx k ih => exact ih _ run.2 h
  | call q k ih =>
    obtain ⟨b, env, _, asked, rest⟩ := run
    exact ih b rest (h asked b)
  | lock l k ih => exact ih run h
  | unlock l k ih => exact ih run h

end Prog

end Concurrency
