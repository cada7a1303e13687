import Mathlib.Data.Finset.Card
import Mathlib.Data.Finset.Image
import SightMesh.Escalation.Hosts
import SightMesh.Escalation.Notices

/-! The lifecycle keys that are ever sent, over every run of the bridge. -/
namespace SightMesh.Escalation

open Concurrency Python

variable {γ β : Type} {e : Runtime} {x : Outside γ} {trace : MailHistory}

/-! ### What was seen -/

def DurableCommand.ordinary (command : DurableCommand) : Bool :=
  match command.dedupeKey with
  | .str key => !isLifecycle key
  | _ => true

def commandsRead (e : Runtime) : MailEvent → List DurableCommand
  | .call (.sessionCommands sessionId) (.ok rows) => rows.map (commandFields e.py sessionId)
  | _ => []

/-- The ordinary commands an answer shows, with the states they have ended in. -/
def ordinaryEnded (e : Runtime) (ev : MailEvent) : List (String × String) :=
  ((commandsRead e ev).filter fun command => command.ordinary && command.ended).map fun command =>
    (command.id, command.state)

def statusesRead (e : Runtime) : MailEvent → List (SessionId × String)
  | .call (.executionProcesses sessionId) (.ok processes) =>
    processes.map fun process => (sessionId, processStatus e.py process)
  | _ => []

def conditionsSet : MailEvent → List (SessionId × String)
  | .commit (.setPolicy policy) _ => policy.conditions.map fun condition =>
      (policy.sessionId, condition)
  | _ => []

def lifecycleSent : MailEvent → List String
  | .call (.send _ _ _ _ key _) _ => if isLifecycle key then [key] else []
  | _ => []

/-- Each thing once that some event of the run shows. -/
def distinct {α : Type} [DecidableEq α] (shows : MailEvent → List α) (trace : MailHistory) :
    Finset α := (trace.flatMap shows).toFinset

theorem mem_distinct {α : Type} [DecidableEq α] {shows : MailEvent → List α} {a : α} :
    a ∈ distinct shows trace ↔ ∃ ev ∈ trace, a ∈ shows ev := by
  simp [distinct]

theorem ordinary_iff (command : DurableCommand) : command.ordinary ↔ command.Ordinary := by
  unfold DurableCommand.ordinary DurableCommand.Ordinary
  split
  · rename_i key keyed
    simp [keyed]
  · rename_i untexted
    exact iff_of_true rfl fun key keyed => absurd keyed (untexted key)

/-! ### The keys -/

theorem isLifecycle_runKey (id : String) : isLifecycle (runKey id) = false :=
  isLifecycle_append (by decide) id

/-- What is sent under a lifecycle key has its reason. -/
theorem Sane.lifecycle {s : MailShared γ} {key : String} (sane : Sane e s)
    (sent : key ∈ distinct lifecycleSent s.trace) : Lifecycle e s.trace key := by
  obtain ⟨ev, there, shown⟩ := mem_distinct.mp sent
  unfold lifecycleSent at shown
  split at shown
  · rename_i site sessionId message sender sentKey intent answer
    split at shown
    · rename_i lifecycle
      obtain rfl := List.mem_singleton.mp shown
      have told := sane.sends _ _ _ _ _ _ _ there
      cases site with
      | session | notice => exact told lifecycle
      | run id =>
        obtain ⟨_, row, known, _, keyed, _⟩ := told
        rw [keyed, (sane.rows id row known).key, isLifecycle_runKey] at lifecycle
        exact nomatch lifecycle
    · exact nomatch shown
  · exact nomatch shown

theorem Lifecycle.mem {key : String} (h : Lifecycle e trace key) :
    key ∈ (distinct (ordinaryEnded e) trace).image (fun pair => childCommandKey pair.1 pair.2) ∪
      (distinct (statusesRead e) trace).image (fun pair => childTerminalKey pair.1 pair.2) ∪
      (distinct conditionsSet trace).image (fun pair => signalPolicyKey pair.1 pair.2) := by
  simp only [Finset.mem_union, Finset.mem_image, mem_distinct]
  cases h with
  | @command sessionId rows row read mem ordinary ended =>
    refine .inl (.inl ⟨(_, _), ⟨_, read, ?_⟩, rfl⟩)
    refine List.mem_map.mpr ⟨commandFields e.py sessionId row, List.mem_filter.mpr ⟨?_, ?_⟩, rfl⟩
    · exact List.mem_map_of_mem mem
    · simp [(ordinary_iff _).mpr ordinary, ended]
  | process read mem =>
    exact .inl (.inr ⟨(_, _), ⟨_, read, List.mem_map_of_mem mem⟩, rfl⟩)
  | policy set mem =>
    exact .inr ⟨(_, _), ⟨_, set, List.mem_map_of_mem mem⟩, rfl⟩

/-- The suffix after the last mark decides what stands before it. -/
theorem append_cons_inj {α : Type} {a : α} {l l' s s' : List α} (fresh : a ∉ s) (fresh' : a ∉ s')
    (same : l ++ a :: s = l' ++ a :: s') : l = l' := by
  rcases List.append_eq_append_iff.mp same with ⟨more, rfl, rest⟩ | ⟨more, rfl, rest⟩
  · cases more with
    | nil => simp
    | cons b more =>
      obtain ⟨rfl, rfl⟩ := List.cons.inj rest
      simp at fresh
  · cases more with
    | nil => simp
    | cons b more =>
      obtain ⟨rfl, rfl⟩ := List.cons.inj rest
      simp at fresh'

theorem toList_childCommandKey (id state : String) :
    (childCommandKey id state).toList =
      "child-command:".toList ++ (id.toList ++ ':' :: state.toList) := by
  have parts : ∀ start mark : String, (start ++ id ++ mark ++ state).toList =
      start.toList ++ (id.toList ++ (mark.toList ++ state.toList)) := by
    simp
  exact parts "child-command:" ":"

theorem childCommandKey_inj {id id' state state' : String} (ended : state ∈ commandTerminalStates)
    (ended' : state' ∈ commandTerminalStates)
    (same : childCommandKey id state = childCommandKey id' state') : id = id' := by
  have plain : ∀ state ∈ commandTerminalStates, ':' ∉ state.toList := by decide
  have letters := congrArg String.toList same
  rw [toList_childCommandKey, toList_childCommandKey] at letters
  have rest := List.append_cancel_left letters
  exact String.toList_inj.mp (append_cons_inj (plain _ ended) (plain _ ended') rest)

theorem childCommandKey_ne_childTerminalKey (id state child status : String) :
    childCommandKey id state ≠ childTerminalKey child status := by
  unfold childCommandKey childTerminalKey
  rw [String.append_assoc, String.append_assoc, String.append_assoc, String.append_assoc]
  exact append_ne_of_apart (by decide) (by decide) _ _

theorem childCommandKey_ne_signalPolicyKey (id state sessionId condition : String) :
    childCommandKey id state ≠ signalPolicyKey sessionId condition := by
  unfold childCommandKey signalPolicyKey
  rw [String.append_assoc, String.append_assoc, String.append_assoc, String.append_assoc]
  exact append_ne_of_apart (by decide) (by decide) _ _

/-! ### The executor -/

/-- The executor never forgets the key a command was made under, and shows it whenever it lists the
command. -/
structure Outside.KeepsKeys (x : Outside γ) (e : Runtime) (keyOf : γ → String → Option Json) :
    Prop where
  listed : ∀ {c sessionId rows c'}, x.answer c (.sessionCommands sessionId) (.ok rows) c' →
    ∀ row ∈ rows, keyOf c' (commandFields e.py sessionId row).id =
      some (commandFields e.py sessionId row).dedupeKey
  kept : ∀ {c} {β : Type} {q : MailQuery β} {b c'}, x.answer c q b c' → ∀ id key,
    keyOf c id = some key → keyOf c' id = some key

theorem Outside.KeepsKeys.read {keyOf : γ → String → Option Json} (keeps : x.KeepsKeys e keyOf)
    {w : BridgeWorld γ} (h : Reachable (bridge e x) anyEvent w) :
    ∀ ev ∈ w.shared.trace, ∀ command ∈ commandsRead e ev,
      keyOf w.shared.env command.id = some command.dedupeKey := by
  refine h.invariant (fun s => ∀ ev ∈ s.trace, ∀ command ∈ commandsRead e ev,
    keyOf s.env command.id = some command.dedupeKey) ?_ ?_ ?_
  · exact fun _ _ _ ev mem => nomatch mem
  · intro w p β tx k _ _ _ ih ev mem command shown
    rcases List.mem_cons.mp mem with rfl | mem
    · exact nomatch shown
    · exact ih ev mem command shown
  · intro w p β q k b env _ _ answered _ ih ev mem command shown
    rcases List.mem_cons.mp mem with rfl | mem
    · unfold commandsRead at shown
      split at shown
      · rename_i same
        cases same
        obtain ⟨row, there, rfl⟩ := List.mem_map.mp shown
        exact keeps.listed answered row there
      · exact nomatch shown
    · exact keeps.kept answered _ _ (ih ev mem command shown)

/-- The lifecycle keys ever sent are no more than what the sessions showed of their own; and a
lifecycle notification that ends is no news. -/
theorem lifecycle_keys_bounded {keyOf : γ → String → Option Json} (keeps : x.KeepsKeys e keyOf)
    {w : BridgeWorld γ} (h : Reachable (bridge e x) anyEvent w) :
    (distinct lifecycleSent w.shared.trace).card ≤
      (distinct (ordinaryEnded e) w.shared.trace).card +
        (distinct (statusesRead e) w.shared.trace).card +
        (distinct conditionsSet w.shared.trace).card ∧
    ∀ id key, keyOf w.shared.env id = some (.str key) → isLifecycle key →
      ∀ state ∈ commandTerminalStates,
        childCommandKey id state ∉ distinct lifecycleSent w.shared.trace := by
  constructor
  · refine (Finset.card_le_card fun key sent => ((sane h).lifecycle sent).mem).trans ?_
    refine (Finset.card_union_le _ _).trans (Nat.add_le_add ?_ Finset.card_image_le)
    exact (Finset.card_union_le _ _).trans (Nat.add_le_add Finset.card_image_le Finset.card_image_le)
  · intro id key keyed lifecycle state ended sent
    have reason := (sane h).lifecycle sent
    generalize spelled : childCommandKey id state = sentKey at reason
    cases reason with
    | @command sessionId rows row read mem ordinary terminal =>
      have same := childCommandKey_inj ended (by simpa [DurableCommand.ended] using terminal) spelled
      have shown := keeps.read h _ read _ (List.mem_map_of_mem mem)
      rw [← same, keyed] at shown
      have carried := ordinary key (Option.some.inj shown).symm
      exact nomatch carried.symm.trans lifecycle
    | process => exact childCommandKey_ne_childTerminalKey _ _ _ _ spelled
    | policy => exact childCommandKey_ne_signalPolicyKey _ _ _ _ spelled
/-! ### A cycle of two sessions -/

def feedbackScript : MailScript :=
  { MailScript.calm with
    sessionCommands := fun sessionId =>
      if sessionId = "child" then
        .ok [[("id", .str "first"), ("state", .str "done"), ("dedupe_key", .null)]]
      else
        .ok [[("id", .str "second"), ("state", .str "done"),
          ("dedupe_key", .str "child-command:first:done")]] }

def cyclicSessions : List Dict :=
  [[("id", .str "child"), ("parent_session_id", .str "parent")],
    [("id", .str "parent"), ("parent_session_id", .str "child")]]

def feedbackKeys (_ : Host ℕ) (id : String) : Option Json :=
  if id = "first" then some .null
  else if id = "second" then some (.str "child-command:first:done") else none

theorem feedback_keeps : feedbackScript.outside.hosted.KeepsKeys scriptRuntime feedbackKeys where
  listed := by
    rintro c sessionId rows c' ⟨_, _, answered⟩ row mem
    have listed : .ok rows = feedbackScript.sessionCommands sessionId := congrArg Prod.fst answered
    simp only [feedbackScript] at listed
    split at listed
    · cases listed
      obtain rfl := List.mem_singleton.mp mem
      rfl
    · cases listed
      obtain rfl := List.mem_singleton.mp mem
      rfl
  kept _ _ _ known := known

def feedbackRun : BridgeWorld (Host ℕ) :=
  feedbackScript.run (List.replicate 2 (reconcileSessions scriptRuntime 0 cyclicSessions))
    (steps 0 40 ++ steps 1 40)

theorem feedbackRun_reachable : Reachable feedbackScript.bridged anyEvent feedbackRun :=
  feedbackScript.run_reachable
    (fun op mem => by
      obtain rfl := List.eq_of_mem_replicate mem
      exact .reconcileSessions ..) _

set_option maxRecDepth 100000 in
/-- The parent is told of the first command; that it was told is no news to the child. -/
theorem feedback_ends :
    distinct lifecycleSent feedbackRun.shared.trace = {childCommandKey "first" "done"} ∧
      (distinct lifecycleSent feedbackRun.shared.trace).card ≤
        (distinct (ordinaryEnded scriptRuntime) feedbackRun.shared.trace).card +
          (distinct (statusesRead scriptRuntime) feedbackRun.shared.trace).card +
          (distinct conditionsSet feedbackRun.shared.trace).card ∧
      childCommandKey "second" "done" ∉ distinct lifecycleSent feedbackRun.shared.trace := by
  obtain ⟨bounded, ends⟩ := lifecycle_keys_bounded feedback_keeps feedbackRun_reachable
  refine ⟨by decide +kernel, bounded, ?_⟩
  exact ends "second" "child-command:first:done" rfl (by decide) "done" (by decide)

end SightMesh.Escalation
