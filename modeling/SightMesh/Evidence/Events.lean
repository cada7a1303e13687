import SightMesh.Evidence.Usage

/-! What the events of a provider come to, told without the variables of `derive`: which thread
total came last, which message is open, which results there were. Earlier events come later in a
history. -/
namespace SightMesh.Usage

open Python Framing OrderedDict Native

variable (loads : Loads) (sourceId : Option String)

/-! ### Warnings stay -/

/-- One summary may follow the other: it keeps the warnings, and an error. -/
structure Summary.Onward (s s' : Summary) : Prop where
  warnings : s.warnings ⊆ s'.warnings
  error : s.derivationError.isSome → s'.derivationError.isSome

theorem Summary.Onward.refl (s : Summary) : s.Onward s := ⟨subset_rfl, id⟩

theorem Summary.Onward.trans {s s' s'' : Summary} (first : s.Onward s') (second : s'.Onward s'') :
    s.Onward s'' :=
  ⟨first.warnings.trans second.warnings, second.error ∘ first.error⟩

theorem Summary.onward_warn (s : Summary) (warning : UsageWarning) : s.Onward (s.warn warning) :=
  ⟨Finset.subset_insert _ _, id⟩

theorem Summary.onward_providerError (s : Summary) (error : ProviderError) :
    s.Onward (s.providerError error) := by
  constructor
  · exact subset_rfl
  · rw [Summary.providerError]
    cases s.derivationError <;> simp

theorem Summary.onward_save (s : Summary) (sample : UsageSample) : s.Onward (s.save sample) := by
  cases identity : sample.identity with
  | none =>
    rw [s.save_unidentified identity]
    exact ⟨Finset.subset_insert _ _, id⟩
  | some parts =>
    rw [s.save_identified identity]
    constructor
    · dsimp only
      split
      · exact Finset.subset_insert _ _
      · exact subset_rfl
    · exact id

theorem Summary.onward_consumeStream (s : Summary) (parent : Option String) (event : Dict) :
    s.Onward (s.consumeStream parent event) := by
  rw [Summary.consumeStream]
  split
  · split <;> exact ⟨subset_rfl, id⟩
  · split
    · exact s.onward_save _
    · split <;> exact ⟨subset_rfl, id⟩

theorem Summary.onward_consumeEvent (s : Summary) (event : Dict) :
    s.Onward (s.consumeEvent sourceId event) := by
  rw [Summary.consumeEvent]
  split
  · exact (s.onward_save _).trans (Summary.onward_save _ _)
  · split
    · exact s.onward_warn _
    · rw [Summary.consumeClaude]
      split
      · exact s.onward_save _
      · split
        · split
          · exact (s.onward_warn _).trans (Summary.onward_save _ _)
          · exact s.onward_save _
        · split
          · exact s.onward_consumeStream _ _
          · split
            · exact s.onward_warn _
            · exact Summary.Onward.refl s

theorem Summary.onward_consumeProviderLine (s : Summary) (line : List Char) :
    s.Onward (s.consumeProviderLine loads sourceId line) := by
  rw [Summary.consumeProviderLine]
  split
  · exact s.onward_consumeEvent sourceId _
  · split
    · exact (s.onward_warn _).trans (Summary.onward_providerError _ _)
    · exact Summary.Onward.refl s

theorem Summary.onward_consumePiece (s : Summary) (piece : Piece Char) :
    s.Onward (s.consumePiece loads sourceId piece) := by
  cases piece with
  | line items => exact s.onward_consumeProviderLine loads sourceId _
  | oversize => exact s.onward_providerError _

theorem Summary.onward_consumeOther (s : Summary) (record : Json) :
    s.Onward (s.consumeOther record) := by
  rw [Summary.consumeOther]
  split
  · exact Summary.Onward.refl s
  · split
    · split
      · exact s.onward_warn _
      · split
        · exact Summary.Onward.refl s
        · exact s.onward_warn _
    · exact s.onward_warn _

theorem Summary.onward_foldl {β : Type} {act : Summary → β → Summary}
    (step : ∀ s b, Summary.Onward s (act s b)) (s : Summary) (bs : List β) :
    s.Onward (bs.foldl act s) := by
  induction bs generalizing s with
  | nil => exact Summary.Onward.refl s
  | cons b rest ih => exact (step s b).trans (ih _)

/-! ### Histories -/

def isResult (event : Dict) : Bool := !isCodex event && (event.get "type").isText "result"

def lastUpdate (thread : List String) (history : List Dict) : Option Dict :=
  history.find? fun e => isCodex e && (codexLifetime e).identity = some thread

/-- The message a stream opens or, without one, closes, and the parent it is under. -/
def messageChange (event : Dict) : Option (Option String × Option String) :=
  if isCodex event || !(event.get "type").isText "stream_event" then none
  else
    let partialEvent := mapping (event.get "event")
    match parentOf event with
    | none => none
    | some parent =>
      if (partialEvent.get "type").isText "message_start" then
        (named ((mapping (partialEvent.get "message")).get "id")).map fun id => (parent, some id)
      else if (partialEvent.get "type").isText "message_stop" then some (parent, none)
      else none

def openMessage (parent : Option String) : List Dict → Option String
  | [] => none
  | event :: earlier =>
    match messageChange event with
    | some (p, message) => if p = parent then message else openMessage parent earlier
    | none => openMessage parent earlier

/-- The event has its identity: a message, a source, an open message of its stream. No result is an
error, and nothing else tells of usage. -/
def quietClaude (earlier : List Dict) (event : Dict) (parent : Option String) : Bool :=
  if (event.get "type").isText "assistant" then (messageInput event parent).identity.isSome
  else if (event.get "type").isText "result" then !failed event && (present sourceId).isSome
  else if (event.get "type").isText "stream_event" then
    !((mapping (event.get "event")).get "type").isText "message_delta" ||
      (present (openMessage parent earlier)).isSome
  else !(event.has "usage" || event.has "tokenUsage")

/-- The event names its turn and its thread, whose total does not go down. -/
def quietCodex (earlier : List Dict) (event : Dict) : Bool :=
  (codexSnapshot event).identity.isSome &&
    match (codexLifetime event).identity with
    | some thread =>
      !decreases ((lastUpdate thread earlier).map codexLifetime) (codexLifetime event)
    | none => false

def quiet (earlier : List Dict) (event : Dict) : Bool :=
  if isCodex event then quietCodex earlier event
  else
    match parentOf event with
    | some parent => quietClaude sourceId earlier event parent
    | none => false

def allQuiet : List Dict → Bool
  | [] => true
  | event :: earlier => allQuiet earlier && quiet sourceId earlier event

/-! ### What a summary has observed -/

def isResultKey : SampleKey → Bool
  | .attributed _ scope _ => scope = .executionResult
  | .unattributed _ => false

def resultKey : SampleKey := .attributed .claude .executionResult [sourceId.getD ""]

/-- Without a warning, the samples are those of the last updates, and of the last result. -/
structure Observed (updates : List String → Option UsageSample)
    (messages : Option String → Option String) (result : Option UsageSample) (s : Summary) :
    Prop where
  silent : s.warnings = ∅
  updates (thread : List String) :
    s.samples.lookup (.attributed .codex .threadLifetime thread) = updates thread
  messages (parent : Option String) : s.streamMessages.lookup parent = messages parent
  result : s.samples.filter (fun e => isResultKey e.1) =
    (result.map fun sample => (resultKey sourceId, sample)).toList
  keyed : ∀ e ∈ s.samples, ∃ parts, e.1 = .attributed e.2.provider e.2.scope parts

section
variable {sourceId} {updates : List String → Option UsageSample}
  {messages : Option String → Option String} {result : Option UsageSample} {s : Summary}
  {sample : UsageSample} {parts : List String}

theorem Observed.save_other (observed : Observed sourceId updates messages result s)
    (identity : sample.identity = some parts) (notLifetime : sample.scope ≠ .threadLifetime)
    (notResult : sample.scope ≠ .executionResult) :
    Observed sourceId updates messages result (s.save sample) := by
  have steady : decreases (s.samples.lookup (.attributed sample.provider sample.scope parts))
      sample = false := by
    rw [decreases]
    split <;> simp [notLifetime]
  rw [s.save_identified identity, steady, if_neg Bool.false_ne_true]
  constructor
  · exact observed.silent
  · intro thread
    have apart : SampleKey.attributed .codex .threadLifetime thread ≠
        .attributed sample.provider sample.scope parts := by
      intro same
      injection same with _ scope
      exact notLifetime scope.symm
    rw [lookup_put, if_neg apart]
    exact observed.updates thread
  · exact observed.messages
  · rw [filter_put, if_neg (by simpa [isResultKey] using notResult)]
    exact observed.result
  · exact forall_put ⟨parts, rfl⟩ observed.keyed

theorem Observed.save_lifetime (observed : Observed sourceId updates messages result s)
    (identity : sample.identity = some parts) (provider : sample.provider = .codex)
    (scope : sample.scope = .threadLifetime) (steady : decreases (updates parts) sample = false) :
    Observed sourceId (Function.update updates parts (some sample)) messages result
      (s.save sample) := by
  rw [s.save_identified identity, provider, scope, observed.updates, steady,
    if_neg Bool.false_ne_true]
  constructor
  · exact observed.silent
  · intro thread
    rw [lookup_put, Function.update_apply]
    by_cases same : thread = parts
    · rw [if_pos (same ▸ rfl), if_pos same]
    · rw [if_neg (by simpa using same), if_neg same]
      exact observed.updates thread
  · exact observed.messages
  · rw [filter_put, if_neg (by simp [isResultKey])]
    exact observed.result
  · exact forall_put ⟨parts, by rw [provider, scope]⟩ observed.keyed

theorem Observed.save_result (observed : Observed sourceId updates messages result s)
    (identity : sample.identity = some [sourceId.getD ""]) (provider : sample.provider = .claude)
    (scope : sample.scope = .executionResult) :
    Observed sourceId updates messages (some sample) (s.save sample) := by
  have steady (before : Option UsageSample) : decreases before sample = false := by
    rw [decreases]
    split <;> simp [scope]
  rw [s.save_identified identity, provider, scope, steady, if_neg Bool.false_ne_true]
  constructor
  · exact observed.silent
  · intro thread
    rw [lookup_put, if_neg (by simp)]
    exact observed.updates thread
  · exact observed.messages
  · rw [filter_put, if_pos (by simp [isResultKey]), observed.result]
    cases result <;> simp [put, resultKey]
  · exact forall_put ⟨_, by rw [provider, scope]⟩ observed.keyed

theorem Observed.opens (observed : Observed sourceId updates messages result s)
    (parent : Option String) (id : String) :
    Observed sourceId updates (Function.update messages parent (some id)) result
      { s with streamMessages := put parent id s.streamMessages } := by
  refine ⟨observed.silent, observed.updates, fun p => ?_, observed.result, observed.keyed⟩
  dsimp only
  rw [lookup_put, Function.update_apply, observed.messages]

theorem Observed.closes (observed : Observed sourceId updates messages result s)
    (parent : Option String) :
    Observed sourceId updates (Function.update messages parent none) result
      { s with streamMessages := drop parent s.streamMessages } := by
  refine ⟨observed.silent, observed.updates, fun p => ?_, observed.result, observed.keyed⟩
  dsimp only
  rw [lookup_drop, Function.update_apply, observed.messages]

end

def resultSample (event : Dict) : UsageSample :=
  executionResult sourceId event (parentOf event).join

abbrev Told (history : List Dict) : Summary → Prop :=
  Observed sourceId (fun thread => (lastUpdate thread history).map codexLifetime)
    (openMessage · history) ((history.find? isResult).map (resultSample sourceId))

theorem isText_iff {value : Json} {text : String} : value.isText text ↔ value = .str text := by
  cases value with
  | str s => simp [Json.isText]
  | _ => simp [Json.isText]

theorem isText_of_ne {value : Json} {text : String} (is : value.isText text) (other : String)
    (ne : text ≠ other) : value.isText other = false := by
  rw [isText_iff.mp is]
  simpa [Json.isText] using ne

variable {sourceId} {history : List Dict} {event : Dict} {s : Summary}

theorem find_isResult_cons (no : isResult event = false) :
    (event :: history).find? isResult = history.find? isResult :=
  List.find?_cons_of_neg (by simp [no])

theorem lastUpdate_cons_of_not_codex (notCodex : isCodex event = false) (thread : List String) :
    lastUpdate thread (event :: history) = lastUpdate thread history :=
  List.find?_cons_of_neg (by simp [notCodex])

theorem openMessage_cons_of_none (unchanged : messageChange event = none)
    (parent : Option String) : openMessage parent (event :: history) = openMessage parent history := by
  rw [openMessage, unchanged]

theorem openMessage_cons_of_some {p message : Option String}
    (changed : messageChange event = some (p, message)) :
    (openMessage · (event :: history)) = Function.update (openMessage · history) p message := by
  funext parent
  rw [openMessage, changed, Function.update_apply]
  by_cases same : parent = p
  · simp [same]
  · simp [same, Ne.symm same]

theorem Observed.codex_step (told : Told sourceId history s) (is : isCodex event = true)
    (calm : quietCodex history event = true) :
    Told sourceId (event :: history) (s.consumeEvent sourceId event) := by
  have change : messageChange event = none := by simp [messageChange, is]
  have result : isResult event = false := by simp [isResult, is]
  rw [quietCodex, Bool.and_eq_true] at calm
  obtain ⟨turn, steady⟩ := calm
  obtain ⟨parts, snapshot⟩ := Option.isSome_iff_exists.mp turn
  split at steady
  next thread lifetime =>
    rw [Summary.consumeEvent, if_pos is]
    have first := told.save_other snapshot (by simp [codexSnapshot]) (by simp [codexSnapshot])
    have second := first.save_lifetime lifetime rfl rfl (by simpa using steady)
    have updates : (fun t => (lastUpdate t (event :: history)).map codexLifetime) =
        Function.update (fun t => (lastUpdate t history).map codexLifetime) thread
          (some (codexLifetime event)) := by
      funext t
      rw [Function.update_apply]
      by_cases same : t = thread
      · subst same
        simp [lastUpdate, is, lifetime]
      · have elsewhere : ¬ some thread = some t := by simpa using Ne.symm same
        simp [lastUpdate, is, lifetime, elsewhere, same]
    rw [Told, updates, find_isResult_cons result]
    simp only [openMessage_cons_of_none change]
    exact second
  next => exact nomatch steady

theorem Observed.claude_cons {messages : Option String → Option String} {result : Option UsageSample}
    (told : Observed sourceId (fun t => (lastUpdate t history).map codexLifetime) messages result s)
    (notCodex : isCodex event = false) (messages' : messages = (openMessage · (event :: history)))
    (result' : result = ((event :: history).find? isResult).map (resultSample sourceId)) :
    Told sourceId (event :: history) s := by
  rw [Told, ← messages', ← result']
  simp only [lastUpdate_cons_of_not_codex notCodex]
  exact told

theorem messageChange_of_type (other : (event.get "type").isText "stream_event" = false) :
    messageChange event = none := by
  simp [messageChange, other]

theorem Observed.stream_step (told : Told sourceId history s) (notCodex : isCodex event = false)
    {parent : Option String} (under : parentOf event = some parent)
    (stream : (event.get "type").isText "stream_event")
    (calm : ((mapping (event.get "event")).get "type").isText "message_delta" = false ∨
      (present (openMessage parent history)).isSome) :
    Told sourceId (event :: history) (s.consumeStream parent (mapping (event.get "event"))) := by
  have noResult : isResult event = false := by
    simp [isResult, isText_of_ne stream "result" (by decide)]
  have same : (event :: history).find? isResult = history.find? isResult :=
    find_isResult_cons noResult
  have change : messageChange event = messageChange event := rfl
  conv at change =>
    rhs
    rw [messageChange, notCodex, stream, under]
  simp only [Bool.not_true, Bool.or_self, Bool.false_eq_true, if_false] at change
  rw [Summary.consumeStream]
  by_cases start : ((mapping (event.get "event")).get "type").isText "message_start" = true
  · rw [if_pos start] at *
    cases id : named ((mapping ((mapping (event.get "event")).get "message")).get "id") with
    | none =>
      rw [id, Option.map_none] at change
      exact told.claude_cons notCodex (funext fun p => (openMessage_cons_of_none change p).symm)
        (by rw [same])
    | some message =>
      rw [id, Option.map_some] at change
      exact (told.opens parent message).claude_cons notCodex
        (openMessage_cons_of_some change).symm (by rw [same])
  · rw [if_neg start] at *
    by_cases delta : ((mapping (event.get "event")).get "type").isText "message_delta" = true
    · rw [isText_of_ne delta "message_stop" (by decide), if_neg Bool.false_ne_true] at change
      rw [delta, Bool.true_eq_false, false_or] at calm
      obtain ⟨message, opened⟩ := Option.isSome_iff_exists.mp calm
      rw [if_pos delta, told.messages]
      have identity : (streamOutput (mapping (event.get "event")) (openMessage parent history)
          parent).identity = some [message] := by simp [streamOutput, opened]
      exact (told.save_other identity (by simp [streamOutput]) (by simp [streamOutput])).claude_cons
        notCodex (funext fun p => (openMessage_cons_of_none change p).symm) (by rw [same])
    · rw [if_neg delta]
      split
      next stop =>
        rw [if_pos stop] at change
        exact (told.closes parent).claude_cons notCodex (openMessage_cons_of_some change).symm
          (by rw [same])
      next other =>
        rw [if_neg other] at change
        exact told.claude_cons notCodex (funext fun p => (openMessage_cons_of_none change p).symm)
          (by rw [same])

theorem Observed.claude_step (told : Told sourceId history s) (notCodex : isCodex event = false)
    {parent : Option String} (under : parentOf event = some parent)
    (calm : quietClaude sourceId history event parent = true) :
    Told sourceId (event :: history) (s.consumeClaude sourceId event parent) := by
  rw [quietClaude] at calm
  rw [Summary.consumeClaude]
  by_cases assistant : (event.get "type").isText "assistant" = true
  · rw [if_pos assistant] at *
    obtain ⟨parts, identity⟩ := Option.isSome_iff_exists.mp calm
    have noResult : isResult event = false := by
      simp [isResult, isText_of_ne assistant "result" (by decide)]
    have change := messageChange_of_type (isText_of_ne assistant "stream_event" (by decide))
    exact (told.save_other identity (by simp [messageInput]) (by simp [messageInput])).claude_cons
      notCodex (funext fun p => (openMessage_cons_of_none change p).symm)
      (by rw [find_isResult_cons noResult])
  · rw [if_neg assistant] at *
    by_cases result : (event.get "type").isText "result" = true
    · rw [if_pos result] at *
      rw [Bool.and_eq_true, Bool.not_eq_true'] at calm
      obtain ⟨succeeded, source⟩ := calm
      obtain ⟨source, named⟩ := Option.isSome_iff_exists.mp source
      rw [succeeded, if_neg Bool.false_ne_true]
      have is : isResult event := by simp [isResult, notCodex, result]
      have change := messageChange_of_type (isText_of_ne result "stream_event" (by decide))
      have identity : (executionResult sourceId event parent).identity =
          some [sourceId.getD ""] := by
        rw [executionResult, named, eq_some_of_present named]
        rfl
      have sample : resultSample sourceId event = executionResult sourceId event parent := by
        simp [resultSample, under]
      exact (told.save_result identity rfl rfl).claude_cons notCodex
        (funext fun p => (openMessage_cons_of_none change p).symm)
        (by rw [List.find?_cons_of_pos is, Option.map_some, sample])
    · rw [if_neg result] at *
      have noResult : isResult event = false := by simp [isResult, result]
      by_cases stream : (event.get "type").isText "stream_event" = true
      · rw [if_pos stream] at *
        exact told.stream_step notCodex under stream (by simpa using calm)
      · rw [if_neg stream] at *
        rw [Bool.not_eq_true'] at calm
        rw [calm, if_neg Bool.false_ne_true]
        have change := messageChange_of_type (Bool.eq_false_iff.mpr stream)
        exact told.claude_cons notCodex (funext fun p => (openMessage_cons_of_none change p).symm)
          (by rw [find_isResult_cons noResult])

theorem Observed.step (told : Told sourceId history s) (calm : quiet sourceId history event = true) :
    Told sourceId (event :: history) (s.consumeEvent sourceId event) := by
  rw [quiet] at calm
  by_cases is : isCodex event = true
  · rw [if_pos is] at calm
    exact told.codex_step is calm
  · rw [if_neg is] at calm
    rw [Summary.consumeEvent, if_neg is]
    split at calm
    next parent under =>
      simp only [under]
      exact told.claude_step (Bool.eq_false_iff.mpr is) under calm
    next => exact nomatch calm

/-! ### Events that give a warning -/

theorem Summary.warn_ne_empty (s : Summary) (warning : UsageWarning) :
    (s.warn warning).warnings ≠ ∅ := Finset.insert_ne_empty _ _

theorem Summary.Onward.ne_empty {s s' : Summary} (onward : s.Onward s') (loud : s.warnings ≠ ∅) :
    s'.warnings ≠ ∅ := fun empty => loud (Finset.subset_empty.mp (empty ▸ onward.warnings))

theorem Summary.save_loud (s : Summary) {sample : UsageSample} (loud : sample.identity = none) :
    (s.save sample).warnings ≠ ∅ := by
  rw [s.save_unidentified loud]
  exact s.warn_ne_empty _

theorem Observed.codex_loud (told : Told sourceId history s) (is : isCodex event = true)
    (loud : quietCodex history event = false) :
    (s.consumeEvent sourceId event).warnings ≠ ∅ := by
  rw [Summary.consumeEvent, if_pos is]
  cases snapshot : (codexSnapshot event).identity with
  | none => exact (Summary.onward_save _ _).ne_empty (s.save_loud snapshot)
  | some parts =>
    cases lifetime : (codexLifetime event).identity with
    | none => exact Summary.save_loud _ lifetime
    | some thread =>
      have first := told.save_other snapshot (by simp [codexSnapshot]) (by simp [codexSnapshot])
      have falls : decreases ((lastUpdate thread history).map codexLifetime)
          (codexLifetime event) = true := by
        simpa [quietCodex, snapshot, lifetime] using loud
      have before : (s.save (codexSnapshot event)).samples.lookup
          (.attributed (codexLifetime event).provider (codexLifetime event).scope thread) =
            (lastUpdate thread history).map codexLifetime := first.updates thread
      rw [Summary.save_identified _ lifetime, before, falls, if_pos rfl]
      exact Finset.insert_ne_empty _ _

theorem Observed.claude_loud (told : Told sourceId history s) {parent : Option String}
    (loud : quietClaude sourceId history event parent = false) :
    (s.consumeClaude sourceId event parent).warnings ≠ ∅ := by
  rw [quietClaude] at loud
  rw [Summary.consumeClaude]
  split at loud
  next assistant =>
    rw [if_pos assistant]
    exact s.save_loud (by simpa using loud)
  next notAssistant =>
    rw [if_neg notAssistant]
    split at loud
    next result =>
      rw [if_pos result]
      by_cases failure : failed event = true
      · rw [if_pos failure]
        exact (Summary.onward_save _ _).ne_empty (s.warn_ne_empty _)
      · apply Summary.save_loud
        simpa [failure, executionResult] using loud
    next notResult =>
      rw [if_neg notResult]
      split at loud
      next stream =>
        rw [if_pos stream]
        rw [Bool.or_eq_false_iff, Bool.not_eq_false'] at loud
        have notStart := isText_of_ne loud.1 "message_start" (by decide)
        rw [Summary.consumeStream, notStart, if_neg Bool.false_ne_true, if_pos loud.1,
          told.messages]
        apply Summary.save_loud
        simpa [streamOutput] using loud.2
      next notStream =>
        rw [Bool.not_eq_false'] at loud
        rw [if_neg notStream, if_pos loud]
        exact s.warn_ne_empty _

theorem Observed.loud (told : Told sourceId history s) (loud : quiet sourceId history event = false) :
    (s.consumeEvent sourceId event).warnings ≠ ∅ := by
  rw [quiet] at loud
  by_cases is : isCodex event = true
  · rw [if_pos is] at loud
    exact told.codex_loud is loud
  · rw [if_neg is] at loud
    rw [Summary.consumeEvent, if_neg is]
    split at loud
    next parent under =>
      simp only [under]
      exact told.claude_loud loud
    next under =>
      simp only [under]
      exact s.warn_ne_empty _

/-! ### Whole histories -/

variable (sourceId) in
def Summary.ofHistory (history : List Dict) : Summary :=
  history.foldr (fun event s => s.consumeEvent sourceId event) {}

theorem told_nil : Told sourceId [] {} :=
  ⟨rfl, fun _ => rfl, fun _ => rfl, rfl, fun _ mem => nomatch mem⟩

/-- Where no event gives a warning, the summary tells of them all. -/
theorem told_of_allQuiet (calm : allQuiet sourceId history = true) :
    Told sourceId history (Summary.ofHistory sourceId history) := by
  induction history with
  | nil => exact told_nil
  | cons event earlier ih =>
    rw [allQuiet, Bool.and_eq_true] at calm
    exact (ih calm.1).step calm.2

/-- Where one does, there is a warning. -/
theorem warns_of_not_allQuiet (loud : allQuiet sourceId history = false) :
    (Summary.ofHistory sourceId history).warnings ≠ ∅ := by
  induction history with
  | nil => exact nomatch loud
  | cons event earlier ih =>
    rw [allQuiet] at loud
    cases calm : allQuiet sourceId earlier with
    | false => exact (Summary.onward_consumeEvent sourceId _ event).ne_empty (ih calm)
    | true =>
      rw [calm, Bool.true_and] at loud
      exact (told_of_allQuiet calm).loud loud

theorem Summary.save_error (s : Summary) (sample : UsageSample) :
    (s.save sample).derivationError = s.derivationError := by
  cases identity : sample.identity with
  | none => rw [s.save_unidentified identity]; rfl
  | some parts => rw [s.save_identified identity]

theorem Summary.consumeEvent_error (s : Summary) (event : Dict) :
    (s.consumeEvent sourceId event).derivationError = s.derivationError := by
  rw [Summary.consumeEvent]
  split
  · rw [Summary.save_error, Summary.save_error]
  · split
    · rfl
    · rw [Summary.consumeClaude]
      split
      · exact s.save_error _
      · split
        · rw [Summary.save_error]
          split <;> rfl
        · split
          · rw [Summary.consumeStream]
            split
            · split <;> rfl
            · split
              · exact s.save_error _
              · split <;> rfl
          · split <;> rfl

end SightMesh.Usage
