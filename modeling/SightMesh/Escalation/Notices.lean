import SightMesh.Escalation.Passes

/-! The session passes keep the protocol of the bridge: every lifecycle key they send has its
reason. With them every operation does, in every interleaving. -/
namespace SightMesh.Escalation

open Concurrency Python Protocol

variable {γ α β : Type} {e : Runtime} {x : Outside γ} {H : Set Empty} {s s' : MailShared γ}

theorem plain_forEach {xs : List α} {body : α → Bridge Unit}
    (round : ∀ a ∈ xs, (bookkeeping e x).Plain (body a)) :
    (bookkeeping e x).Plain (forEach xs body) := by
  induction xs with
  | nil => exact plain_ret ()
  | cons a xs ih =>
    exact (round a (by simp)).bind fun _ => ih fun b mem => round b (List.mem_cons_of_mem _ mem)

/-! ### Native commands -/

def Listed (e : Runtime) (trace : MailHistory) (command : DurableCommand) : Prop :=
  ∃ sessionId rows row, .call (.sessionCommands sessionId) (.ok rows) ∈ trace ∧ row ∈ rows ∧
    command = commandFields e.py sessionId row

theorem Listed.lifecycle {trace : MailHistory} {command : DurableCommand}
    (listed : Listed e trace command) (ordinary : command.Ordinary) (ended : command.ended) :
    Lifecycle e trace (childCommandKey command.id command.state) := by
  obtain ⟨sessionId, rows, row, read, mem, rfl⟩ := listed
  exact .command read mem ordinary ended

theorem commands_keeps (sessionId : SessionId) :
    (bookkeeping e x).Keeps H s (commands e sessionId) fun commands s' =>
      ∀ command ∈ commands, Listed e s'.trace command := by
  refine Keeps.bind (m := fun rows s' => .call (.sessionCommands sessionId) (.ok rows) ∈ s'.trace)
    (.query (fun _ _ _ => trivial) fun _ _ _ _ _ _ => List.mem_cons_self) fun rows s' _ read => ?_
  split
  · refine .ret fun command mem => ?_
    obtain ⟨row, there, rfl⟩ := List.mem_map.mp mem
    exact ⟨sessionId, rows, row, read, there, rfl⟩
  · exact .fail

theorem isNotification_keeps (command : DurableCommand) :
    (bookkeeping e x).Keeps H s command.isNotification fun notification _ =>
      notification = false → command.Ordinary := by
  unfold DurableCommand.isNotification
  split
  · rename_i key keyed
    refine .ret fun ordinary other same => ?_
    obtain rfl := Json.str.inj (keyed.symm.trans same)
    by_cases empty : key = ""
    · subst empty
      decide
    · simpa [empty] using ordinary
  · rename_i untexted
    split
    · exact .fail
    · exact .ret fun _ key keyed => absurd keyed (untexted key)

/-! ### Telling the parent -/

theorem plain_rejectInvalidRoute (me : ℕ) (child parent : SessionId) (message key : String) :
    (bookkeeping e x).Plain (rejectInvalidRoute e me child parent message key) := by
  refine (plain_park _).bind fun parked => ?_
  have remembers : (bookkeeping e x).Plain (Prog.commit' (.remember me .notified key) : Bridge Unit) :=
    plain_commit rfl
  split
  · exact (plain_resolve _).bind fun _ => remembers
  · exact remembers

theorem notifyLiveParent_keeps {me : ℕ} {parent child : SessionId} {message key : String}
    (told : isLifecycle key → Lifecycle e s.trace key) :
    (bookkeeping e x).Keeps H s (notifyLiveParent e me parent child message key) fun _ _ => True := by
  refine (keeps_of_plain (plain_commit rfl)).bind fun recalled s₁ first _ => ?_
  split
  · exact .ret trivial
  · refine (keeps_of_plain (plain_commit rfl)).bind fun settled s₂ second _ => ?_
    split
    · exact .ret trivial
    · split
      · exact keeps_of_plain (plain_rejectInvalidRoute me child parent message key)
      · refine (keeps_of_plain (plain_ask rfl)).bind fun found s₃ third _ => ?_
        cases found with
        | none => exact keeps_of_plain ((plain_park _).bind fun _ => plain_ret _)
        | some destination =>
          dsimp only
          split
          · exact keeps_of_plain (plain_rejectInvalidRoute me child parent message key)
          · refine Keeps.bind (m := fun _ _ => True) (.query (fun s' rely _ => ?_)
              fun _ _ _ _ _ _ => trivial) fun _ _ _ _ => ?_
            · have later := ((first.trans second).trans third).trans rely.1
              exact fun lifecycle => (told lifecycle).later later.grows.subset
            · refine keeps_of_plain (Plain.bind (plain_commit rfl) fun _ => ?_)
              exact (plain_resolveDedupeKey key).bind fun _ => plain_ret _

theorem reconcileChildTerminal_keeps {me : ℕ} {session : Dict} {status : String}
    (told : Lifecycle e s.trace (childTerminalKey (e.py.str (session.get "id")) status)) :
    (bookkeeping e x).Keeps H s (reconcileChildTerminal e me session status) fun _ _ => True := by
  unfold reconcileChildTerminal
  split
  · exact notifyLiveParent_keeps fun _ => told
  · exact .ret trivial

theorem wakeParentForTerminalCommands_keeps {me : ℕ} {session : Dict}
    {commands : List DurableCommand} (listed : ∀ command ∈ commands, Listed e s.trace command) :
    (bookkeeping e x).Keeps H s (wakeParentForTerminalCommands e me session commands)
      fun _ _ => True := by
  unfold wakeParentForTerminalCommands
  split
  · refine forEach_keeps fun command mem s₁ first => ?_
    refine (isNotification_keeps command).bind fun notification s₂ second ordinary => ?_
    split
    · exact .ret trivial
    · rename_i other
      split
      · rename_i ended
        refine notifyLiveParent_keeps fun _ => ?_
        exact ((listed command mem).lifecycle (ordinary (by simpa using other)) ended).later
          (first.trans second).grows.subset
      · exact .ret trivial
  · exact .ret trivial

/-! ### Signal policies -/

theorem plain_pressureOf (processes : List Dict) :
    (bookkeeping e x).Plain (pressureOf e processes) := by
  induction processes with
  | nil => exact plain_ret none
  | cons process rest ih =>
    unfold pressureOf
    split
    · exact plain_fail _
    · exact (plain_query rfl).bind fun _ => ih.bind fun _ => plain_ret _

theorem plain_statusEnded (status : Json) : (bookkeeping e x).Plain (statusEnded status) := by
  cases status with
  | arr items => exact plain_fail _
  | obj fields => exact plain_fail _
  | _ => exact plain_ret _

theorem plain_anyEnded (processes : List Dict) :
    (bookkeeping e x).Plain (anyEnded processes) := by
  induction processes with
  | nil => exact plain_ret false
  | cons process rest ih =>
    refine (plain_statusEnded _).bind fun ended => ?_
    split
    · exact plain_ret true
    · exact ih

theorem signalPolicyKey_ne (sessionId : SessionId) (condition : String) :
    signalPolicyKey sessionId condition ≠ "" := by
  unfold signalPolicyKey
  rw [String.append_assoc, String.append_assoc]
  exact append_ne_empty (by decide) _

theorem signal_keeps {session : Dict} {condition : String}
    (told : Lifecycle e s.trace (signalPolicyKey (e.py.str (session.get "id")) condition)) :
    (bookkeeping e x).Keeps H s (signal e session condition) fun _ _ => True := by
  refine (keeps_of_plain (plain_commit rfl)).bind fun known s₁ first _ => ?_
  split
  · exact .ret trivial
  · refine (escalate_keeps (by simp) ?_).bind fun _ _ _ _ => .ret trivial
    rw [orText_of_ne (signalPolicyKey_ne _ _)]
    exact fun _ => told.later first.grows.subset

theorem policy_keeps (sessionId : SessionId) :
    (bookkeeping e x).Keeps H s (read (·.policies.get sessionId)) fun policy s' =>
      ∀ condition ∈ (policy.map SignalPolicy.conditions).getD [],
        Lifecycle e s'.trace (signalPolicyKey sessionId condition) := by
  refine .commit fun s' _ sane => ⟨trivial, fun condition mem => ?_⟩
  change condition ∈ ((s'.store.policies.get sessionId).map SignalPolicy.conditions).getD [] at mem
  cases found : s'.store.policies.get sessionId with
  | none => simp [found] at mem
  | some policy =>
    rw [found] at mem
    have named : policy.sessionId = sessionId := Database.Table.key_of_get found
    rw [← named]
    exact .policy (List.mem_cons_of_mem _ (sane.policies sessionId policy found)) mem

theorem reconcileSignalPolicy_keeps (session : Dict) (commands : List DurableCommand)
    (processes : List Dict) :
    (bookkeeping e x).Keeps H s (reconcileSignalPolicy e session commands processes)
      fun _ _ => True := by
  refine (policy_keeps _).bind fun policy s₁ _ told => ?_
  dsimp only
  split
  · exact .ret trivial
  · refine (keeps_of_plain (plain_anyEnded processes)).bind fun terminal s₂ second _ => ?_
    refine (keeps_of_plain (plain_pressureOf processes)).bind fun pressure s₃ third _ => ?_
    have rounds : ∀ idle s₄, Evolves s₃ s₄ → (bookkeeping e x).Keeps H s₄
        (forEach ((policy.map SignalPolicy.conditions).getD []) fun condition => do
          if triggered e.py terminal pressure idle condition then signal e session condition)
        fun _ _ => True := by
      refine fun idle s₄ fourth => forEach_keeps fun condition mem s₅ fifth => ?_
      split
      · have later := ((second.trans third).trans fourth).trans fifth
        exact signal_keeps ((told condition mem).later later.grows.subset)
      · exact .ret trivial
    split
    · refine Keeps.bind (m := fun _ _ => True) ?_ fun idle s₄ fourth _ => rounds idle s₄ fourth
      exact keeps_of_plain (Plain.bind (plain_ask rfl) fun _ => plain_ret _)
    · exact rounds none s₃ (.refl s₃)

/-! ### The passes -/

theorem plain_cancelQuarantined (commands : List DurableCommand) :
    (bookkeeping e x).Plain (cancelQuarantined e.py commands) := by
  refine plain_forEach fun command _ => ?_
  split
  · exact plain_query rfl
  · exact plain_ret ()

theorem plain_interruptAndRequeue (me : ℕ) (command : DurableCommand) :
    (bookkeeping e x).Plain (interruptAndRequeue e.py me command) := by
  refine Plain.bind (plain_commit rfl) fun recalled => ?_
  split
  · exact plain_ret ()
  · split
    · exact plain_fail _
    · exact (plain_query rfl).bind fun _ => plain_commit rfl

theorem reconcileClaimed_keeps {me : ℕ} {session : Dict} {processes : List Dict}
    (command : DurableCommand)
    (read : .call (.executionProcesses (e.py.str (session.get "id"))) (.ok processes) ∈ s.trace) :
    (bookkeeping e x).Keeps H s (reconcileClaimed e me session processes command)
      fun _ _ => True := by
  unfold reconcileClaimed
  split
  · split
    · exact .ret trivial
    · rename_i process found
      have mem : process ∈ processes := List.mem_reverse.mp (List.mem_of_find?_eq_some found)
      split
      · exact .ret trivial
      · refine (reconcileChildTerminal_keeps (.process read mem)).bind fun _ _ _ _ => ?_
        exact keeps_of_plain (plain_interruptAndRequeue me command)
  · exact .ret trivial

theorem reconcileSession_keeps (me : ℕ) (session : Dict) :
    (bookkeeping e x).Keeps H s (reconcileSession e me session) fun _ _ => True := by
  unfold reconcileSession
  split
  · exact .fail
  · refine (commands_keeps _).bind fun rows s₁ _ listed => ?_
    refine (keeps_of_plain (plain_ask rfl)).bind fun quarantined s₂ second _ => ?_
    split
    · exact keeps_of_plain (plain_cancelQuarantined rows)
    · refine Keeps.bind (m := fun processes s' =>
        .call (.executionProcesses (e.py.str (session.get "id"))) (.ok processes) ∈ s'.trace)
        (.query (fun _ _ _ => trivial) fun _ _ _ _ _ _ => List.mem_cons_self) ?_
      intro processes s₃ third read
      have still : ∀ command ∈ rows, Listed e s₃.trace command := by
        intro command mem
        obtain ⟨sessionId, dicts, row, known, there, same⟩ := listed command mem
        exact ⟨sessionId, dicts, row, (second.trans third).grows.subset known, there, same⟩
      refine (wakeParentForTerminalCommands_keeps still).bind fun _ s₄ fourth _ => ?_
      refine (reconcileSignalPolicy_keeps session rows processes).bind fun _ s₅ fifth _ => ?_
      refine (forEach_keeps fun command _ s₆ sixth => reconcileClaimed_keeps command ?_).bind
        fun _ s₆ _ _ => ?_
      · exact ((fourth.trans fifth).trans sixth).grows.subset read
      · refine (keeps_of_plain (plain_ask rfl)).bind fun online _ _ _ => ?_
        split
        · exact keeps_of_plain (plain_query rfl)
        · exact .ret trivial

theorem reconcileSessions_keeps (me : ℕ) (sessions : List Dict) :
    (bookkeeping e x).Keeps H s (reconcileSessions e me sessions) fun _ _ => True := by
  refine (keeps_of_plain (plain_query rfl)).bind fun supported _ _ _ => ?_
  split
  · refine forEach_keeps fun session _ s' _ => ?_
    refine (reconcileSession_keeps me session).handle fun failure _ _ => ?_
    split
    · exact .ret trivial
    · exact .fail
  · exact .ret trivial

/-! ### Every operation -/

theorem discard_keeps {p : Bridge α} (kept : (bookkeeping e x).Keeps H s p fun _ _ => True) :
    (bookkeeping e x).Keeps H s (discard p) fun _ _ => True :=
  kept.bind fun _ _ _ _ => .ret trivial

theorem runner_keeps (id capability : String) (pid : ℤ) (fingerprint path : String) (expected : ℕ)
    (drafts : List Bytes) (receipt : Bytes) :
    (bookkeeping e x).Keeps H s
      (runner e id capability pid fingerprint path expected drafts receipt) fun _ _ => True := by
  have drafting : (bookkeeping e x).Plain
      (forEach drafts fun raw => Prog.ask (.writeFile path raw)) :=
    plain_forEach fun raw _ => plain_ask rfl
  have leaving : (bookkeeping e x).Plain (Prog.ask (.exitProcess pid) : Bridge Unit) :=
    plain_ask rfl
  have closing : (bookkeeping e x).Plain
      ((Prog.ask (.writeFile path receipt) : Bridge Unit).bind fun _ => Prog.ask (.exitProcess pid)) :=
    Plain.bind (plain_ask rfl) fun _ => leaving
  refine (keeps_of_plain (plain_ask rfl)).bind fun _ _ _ _ => ?_
  refine (bind_keeps id capability pid fingerprint expected).bind fun _ _ _ _ => ?_
  exact keeps_of_plain (drafting.bind fun _ => closing)

theorem isLifecycle_of_own {e : Runtime} {child : SessionId} {message : String}
    {dedupeKey : Option String} (own : ∀ key, dedupeKey = some key → isLifecycle key = false) :
    isLifecycle (orText dedupeKey (defaultDedupeKey e.py child message)) = false := by
  have default : isLifecycle (defaultDedupeKey e.py child message) = false := by
    unfold defaultDedupeKey
    rw [String.append_assoc, String.append_assoc]
    exact isLifecycle_append (by decide) _
  cases dedupeKey with
  | none => exact default
  | some key =>
    by_cases empty : key = ""
    · subst empty
      exact default
    · rw [orText_of_ne empty]
      exact own key rfl

theorem bridgeOp_keeps {op : Bridge Unit} (known : BridgeOp e op) :
    (bookkeeping e x).Keeps H s op fun _ _ => True := by
  cases known with
  | escalate child childWorkspace parent message dedupeKey own =>
    refine discard_keeps (escalate_keeps (by simp) fun lifecycle => ?_)
    exact nomatch (isLifecycle_of_own own).symm.trans lifecycle
  | park request => exact discard_keeps (keeps_of_plain (plain_park request))
  | resolve escalationId => exact discard_keeps (keeps_of_plain (plain_resolve escalationId))
  | setSignalPolicy sessionId conditions => exact keeps_of_plain (plain_stamped fun _ => rfl)
  | clearSignalPolicy sessionId => exact keeps_of_plain (plain_commit rfl)
  | subscribe runId outputRoot returnSession returnWorkspace =>
    exact discard_keeps (subscribe_keeps runId outputRoot returnSession returnWorkspace)
  | bind id capability pid fingerprint expected =>
    exact discard_keeps (bind_keeps id capability pid fingerprint expected)
  | reconcileOne id => exact discard_keeps (reconcileRun_keeps (getRun_seen id))
  | reconcileNamed value => exact discard_keeps (reconcileRun_keeps (findRun_keeps value))
  | reconcile => exact discard_keeps reconcile_keeps
  | reconcileSessions me sessions => exact reconcileSessions_keeps me sessions
  | runner id capability pid fingerprint path expected drafts receipt =>
    exact runner_keeps id capability pid fingerprint path expected drafts receipt
  | writeFile path raw => exact keeps_of_plain (plain_ask rfl)
  | exitProcess pid => exact keeps_of_plain (plain_ask rfl)

theorem bookkept {w : BridgeWorld γ} (h : Reachable (bridge e x) anyEvent w) :
    (bookkeeping e x).Sound w :=
  Protocol.sound (fun _ known _ => (bridgeOp_keeps known).safe) h

theorem sane {w : BridgeWorld γ} (h : Reachable (bridge e x) anyEvent w) : Sane e w.shared :=
  (bookkept h).1

end SightMesh.Escalation
