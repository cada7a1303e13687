import SightMesh.Database.Chain
import SightMesh.Database.Run
import SightMesh.Kernel.Journal
import SightMesh.Programs.Reconciler

/-! The chain of successors, and the live session at its end. -/
namespace SightMesh

open Database Python Relation

theorem Store.unseen_shrink {db : Store} {seen : List SessionId} {s : SessionId}
    {record : TerminalOwnership} (known : db.ownership s = some record) (fresh : s ∉ seen) :
    (db.ownerships.rows.filter fun r => r.sessionId ∉ s :: seen).length <
      (db.ownerships.rows.filter fun r => r.sessionId ∉ seen).length := by
  have named : record.sessionId = s := Table.key_of_get known
  have split (r : TerminalOwnership) : decide (r.sessionId ∉ s :: seen) =
      (decide (r.sessionId ≠ s) && decide (r.sessionId ∉ seen)) := by
    simp [not_or]
  simp only [split]
  rw [← List.filter_filter]
  apply List.length_filter_lt_length_iff_exists.mpr
  refine ⟨record, ?_, ?_⟩
  · simp [Table.mem_of_get known, named, fresh]
  · simp [named]

/-- The loop of `resolve_live_successor`. -/
def Store.liveAfter (db : Store) (seen : List SessionId) (current : TerminalOwnership) :
    Option SessionId :=
  match present current.successorSessionId with
  | none => none
  | some successor =>
    if _ : successor ∈ seen then none
    else match _ : db.ownership successor with
      | none => some successor
      | some record => db.liveAfter (successor :: seen) record
termination_by (db.ownerships.rows.filter fun r => r.sessionId ∉ seen).length
decreasing_by exact Store.unseen_shrink (by assumption) (by assumption)

def Store.resolveLiveSuccessor (db : Store) (sessionId : SessionId) : Option SessionId :=
  match db.ownership sessionId with
  | none => some sessionId
  | some record => db.liveAfter [sessionId] record

/-- The calls on the ownership table. -/
inductive OwnershipCall where
  | retire (sessionId : SessionId) (state : TerminalState) (reason : String)
      (logicalKey : Option String)
  | linkSuccessor (source successor : SessionId)

def OwnershipCall.exec (db : Store) : OwnershipCall → Store
  | .retire sessionId state reason logicalKey =>
    (db.insertOwnership ⟨sessionId, state, reason, logicalKey, none⟩).1
  | .linkSuccessor source successor => (atomically (SightMesh.linkSuccessor source successor) db).1

/-! ### The links of the table -/

def Store.successorOf (db : Store) (sessionId : SessionId) : Option SessionId :=
  (db.ownership sessionId).bind TerminalOwnership.successorSessionId

theorem Store.chainMeets_eq (db : Store) (fuel : ℕ) (seen : List SessionId) (current : SessionId) :
    db.chainMeets fuel seen current = meets db.successorOf fuel seen current := by
  induction fuel generalizing seen current with
  | zero => rfl
  | succ fuel ih =>
    rw [Store.chainMeets, meets]
    congr 1
    cases step : db.successorOf current with
    | none =>
      rw [Store.successorOf] at step
      rw [step]
    | some next =>
      rw [Store.successorOf] at step
      rw [step]
      exact ih _ _

/-- The session is in the table of another by links. -/
theorem Store.mem_of_successor {db : Store} {a b : SessionId} (linked : db.successorOf a = some b) :
    a ∈ db.ownerships.rows.map TerminalOwnership.sessionId := by
  obtain ⟨record, known, _⟩ := Option.bind_eq_some_iff.mp linked
  rw [← show record.sessionId = a from Table.key_of_get known]
  exact List.mem_map_of_mem (Table.mem_of_get known)

/-- On an acyclic table the walk of `link_successor` answers exactly whether the link would close a
cycle; it never runs out of steps. -/
theorem Store.chainMeets_iff {db : Store} (acyclic : Acyclic db.successorOf)
    (source successor : SessionId) :
    db.chainMeets (db.ownerships.rows.length + 2) [source] successor ↔
      ReflTransGen (LinksTo db.successorOf) successor source := by
  rw [Store.chainMeets_eq]
  constructor
  · intro met
    apply @reached_of_meets _ _ _ acyclic (db.ownerships.rows.map TerminalOwnership.sessionId)
      (fun _ _ => Store.mem_of_successor) source (db.ownerships.rows.length + 2) []
    · rw [List.length_map, List.length_nil]
      omega
    · exact List.nodup_nil
    · exact List.nil_subset _
    · exact nofun
    · exact met
  · exact meets_of_reached (List.mem_singleton_self source)

theorem Store.ownership_put (db : Store) (record : TerminalOwnership) (s : SessionId) :
    ({ db with ownerships := db.ownerships.put record } : Store).ownership s =
      if s = record.sessionId then some record else db.ownership s :=
  Table.get_put db.ownerships record s

def TerminalOwnership.linked (record : TerminalOwnership) (successor : SessionId) :
    TerminalOwnership :=
  { record with successorSessionId := some successor }

theorem linkSuccessor_cases (source successor : SessionId) (db : Store) :
    (∃ m, linkSuccessor source successor db = .error (.succession m)) ∨
    ∃ row, db.ownership source = some row ∧
      (row.successorSessionId = some successor ∧ linkSuccessor source successor db = .ok (row, db) ∨
        row.successorSessionId = none ∧ source ≠ successor ∧
        db.chainMeets (db.ownerships.rows.length + 2) [source] successor = false ∧
        linkSuccessor source successor db = .ok (row.linked successor,
          { db with ownerships := db.ownerships.put (row.linked successor) })) := by
  by_cases itself : source = successor
  · exact .inl ⟨_, by simp only [linkSuccessor, itself, if_true]; rfl⟩
  simp only [linkSuccessor, itself, if_false, get_bind_run]
  cases known : db.ownership source with
  | none => exact .inl ⟨_, rfl⟩
  | some row =>
    cases linked : row.successorSessionId with
    | some other =>
      by_cases same : other = successor
      · subst same
        refine .inr ⟨row, rfl, .inl ⟨linked, ?_⟩⟩
        simp only [if_true, linked]
        rfl
      · simp only [same, if_false, linked]
        exact .inl ⟨_, rfl⟩
    | none =>
      cases met : db.chainMeets (db.ownerships.rows.length + 2) [source] successor with
      | true =>
        simp only [linked, if_true, throw_bind_run]
        exact .inl ⟨_, rfl⟩
      | false =>
        refine .inr ⟨row, rfl, .inr ⟨linked, itself, rfl, ?_⟩⟩
        simp only [linked, Bool.false_eq_true, if_false]
        rfl

/-! ### Runs of calls -/

/-- No chain of successors comes back, the first link of a session stands, and the resolver ends at
a session that is live. -/
structure Store.WellLinked (db : Store) : Prop where
  acyclic : Acyclic db.successorOf
  first : ∀ source row successor, db.ownership source = some row →
    row.successorSessionId = some successor → ∀ other ≠ successor,
      (∃ m, linkSuccessor source other db = .error (.succession m)) ∧
        OwnershipCall.exec db (.linkSuccessor source other) = db
  resolves : ∀ s, db.resolveLiveSuccessor s = none ∨ ∃ live,
    db.resolveLiveSuccessor s = some live ∧ db.ownership live = none ∧
      ReflTransGen (LinksTo db.successorOf) s live

/-- A terminal record stays as it is, but for the one successor it may gain. -/
def Store.KeepsTerminal (a b : Store) : Prop :=
  ∀ s row, a.ownership s = some row → ∃ next, b.ownership s = some next ∧
    (next = row ∨ row.successorSessionId = none ∧ ∃ successor, next = row.linked successor)

theorem Store.KeepsTerminal.refl (db : Store) : db.KeepsTerminal db :=
  fun _ row known => ⟨row, known, .inl rfl⟩

theorem Store.KeepsTerminal.trans (a b c : Store) (first : a.KeepsTerminal b)
    (second : b.KeepsTerminal c) : a.KeepsTerminal c := by
  intro s row known
  obtain ⟨mid, known, same | ⟨open_, successor, linked⟩⟩ := first s row known
  · obtain ⟨last, found, kept⟩ := second s mid known
    rw [same] at kept
    exact ⟨last, found, kept⟩
  · obtain ⟨last, found, rfl | ⟨unlinked, _⟩⟩ := second s mid known
    · exact ⟨last, found, .inr ⟨open_, successor, linked⟩⟩
    · rw [linked] at unlinked
      exact nomatch unlinked

theorem Store.insertOwnership_keeps (db : Store) (record : TerminalOwnership) :
    db.KeepsTerminal (db.insertOwnership record).1 := by
  intro s row known
  unfold insertOwnership
  split
  · exact ⟨row, known, .inl rfl⟩
  · rename_i absent
    refine ⟨row, ?_, .inl rfl⟩
    rw [Store.ownership_put, if_neg]
    · exact known
    · rintro rfl
      exact nomatch absent.symm.trans known

theorem OwnershipCall.keeps (db : Store) (call : OwnershipCall) : db.KeepsTerminal (call.exec db) := by
  cases call with
  | retire => exact db.insertOwnership_keeps _
  | linkSuccessor source successor =>
    rw [exec, atomically]
    obtain ⟨m, ran⟩ | ⟨row, known, ⟨_, ran⟩ | ⟨open_, _, _, ran⟩⟩ :=
      linkSuccessor_cases source successor db
    · rw [ran]
      exact .refl db
    · rw [ran]
      exact .refl db
    · rw [ran]
      intro s other found
      rw [Store.ownership_put]
      have named : row.sessionId = source := Table.key_of_get known
      split
      · rename_i same
        have same : s = source := same.trans named
        subst same
        cases Option.some.inj (known.symm.trans found)
        exact ⟨_, rfl, .inr ⟨open_, successor, rfl⟩⟩
      · exact ⟨other, found, .inl rfl⟩

theorem OwnershipCall.acyclic {db : Store} (acyclic : Acyclic db.successorOf)
    (call : OwnershipCall) : Acyclic (call.exec db).successorOf := by
  cases call with
  | retire sessionId state reason logicalKey =>
    have same : (OwnershipCall.exec db (.retire sessionId state reason logicalKey)).successorOf =
        db.successorOf := by
      funext s
      rw [exec, Store.insertOwnership]
      split
      · rfl
      · rename_i absent
        rw [Store.successorOf, Store.ownership_put]
        split
        · rename_i here
          subst here
          rw [Store.successorOf, absent]
          rfl
        · rfl
    rw [same]
    exact acyclic
  | linkSuccessor source successor =>
    rw [exec, atomically]
    obtain ⟨m, ran⟩ | ⟨row, known, ⟨_, ran⟩ | ⟨_, _, apart, ran⟩⟩ :=
      linkSuccessor_cases source successor db
    · rw [ran]
      exact acyclic
    · rw [ran]
      exact acyclic
    · rw [ran]
      have named : row.sessionId = source := Table.key_of_get known
      have unreached : ¬ ReflTransGen (LinksTo db.successorOf) successor source := by
        rw [← Store.chainMeets_iff acyclic, apart]
        exact Bool.false_ne_true
      refine acyclic.link ?_ ?_ unreached
      · intro x other
        rw [Store.successorOf, Store.ownership_put, if_neg]
        · rfl
        · intro same
          exact other (same.trans named)
      · have here : source = (row.linked successor).sessionId := named.symm
        rw [Store.successorOf, Store.ownership_put, if_pos here]
        rfl

theorem Store.liveAfter_spec {db : Store} {start : SessionId} {seen : List SessionId}
    {current : TerminalOwnership} (known : db.ownership current.sessionId = some current)
    (reached : ReflTransGen (LinksTo db.successorOf) start current.sessionId) :
    db.liveAfter seen current = none ∨ ∃ live, db.liveAfter seen current = some live ∧
      db.ownership live = none ∧ ReflTransGen (LinksTo db.successorOf) start live := by
  fun_induction db.liveAfter seen current with
  | case1 => exact .inl rfl
  | case2 => exact .inl rfl
  | case3 seen current successor linked fresh absent =>
    have step : LinksTo db.successorOf current.sessionId successor := by
      rw [LinksTo, Store.successorOf, known]
      exact (Option.filter_eq_some_iff.mp linked).1
    exact .inr ⟨successor, rfl, absent, reached.tail step⟩
  | case4 seen current successor linked fresh record found ih =>
    have step : LinksTo db.successorOf current.sessionId successor := by
      rw [LinksTo, Store.successorOf, known]
      exact (Option.filter_eq_some_iff.mp linked).1
    have named : record.sessionId = successor := Table.key_of_get found
    subst named
    exact ih found (reached.tail step)

theorem Store.resolveLiveSuccessor_spec (db : Store) (s : SessionId) :
    db.resolveLiveSuccessor s = none ∨ ∃ live, db.resolveLiveSuccessor s = some live ∧
      db.ownership live = none ∧ ReflTransGen (LinksTo db.successorOf) s live := by
  unfold Store.resolveLiveSuccessor
  split
  · rename_i absent
    exact .inr ⟨s, rfl, absent, .refl⟩
  · rename_i record known
    have named : record.sessionId = s := Table.key_of_get known
    subst named
    exact Store.liveAfter_spec known .refl

theorem Store.first_link_stands {db : Store} {source successor other : SessionId}
    {row : TerminalOwnership} (known : db.ownership source = some row)
    (linked : row.successorSessionId = some successor) (different : other ≠ successor) :
    (∃ m, linkSuccessor source other db = .error (.succession m)) ∧
      OwnershipCall.exec db (.linkSuccessor source other) = db := by
  have refused : ∃ m, linkSuccessor source other db = .error (.succession m) := by
    obtain refused | ⟨found, known', ⟨same, _⟩ | ⟨open_, _⟩⟩ := linkSuccessor_cases source other db
    · exact refused
    · cases Option.some.inj (known.symm.trans known')
      exact absurd (Option.some.inj (same.symm.trans linked)) different
    · cases Option.some.inj (known.symm.trans known')
      exact nomatch open_.symm.trans linked
  refine ⟨refused, ?_⟩
  obtain ⟨m, ran⟩ := refused
  rw [OwnershipCall.exec, atomically, ran]

theorem Store.WellLinked.of_acyclic {db : Store} (acyclic : Acyclic db.successorOf) :
    db.WellLinked where
  acyclic := acyclic
  first _ _ _ known linked _ different := Store.first_link_stands known linked different
  resolves := db.resolveLiveSuccessor_spec

/-- In every run of retirements and links, in any order, the successors form chains that never come
back, the first link of a session stands, the resolver ends at a live session or at none, and a
terminal record changes by gaining its successor only. -/
theorem successions_sound (ownershipShared : Bool) (calls : List OwnershipCall) :
    Throughout OwnershipCall.exec Store.WellLinked (.initial ownershipShared) calls ∧
      KeptBy OwnershipCall.exec Store.KeepsTerminal (.initial ownershipShared) calls := by
  constructor
  · have acyclic : Throughout OwnershipCall.exec (fun db => Acyclic db.successorOf)
        (.initial ownershipShared) calls := by
      have always : Passes OwnershipCall.exec (fun _ _ => True) (.initial ownershipShared) calls :=
        passes_of_forall (fun _ _ => trivial) _ calls
      refine throughout_of_step ?_ ?_ always
      · exact acyclic_empty fun _ => rfl
      · exact fun db call acyclic _ => call.acyclic acyclic
    intro before after split
    exact .of_acyclic (acyclic before after split)
  · rw [keptBy_iff Store.KeepsTerminal.refl Store.KeepsTerminal.trans]
    exact passes_of_forall (fun db call => call.keeps db) _ calls

end SightMesh
