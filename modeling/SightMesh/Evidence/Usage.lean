import Mathlib.Data.Finset.Insert
import Mathlib.Data.List.DropRight
import SightMesh.Evidence.Stream
import SightMesh.Python.OrderedDict

/-! `usage.derive`: usage observations from the records of a native log. The provider's lines are
put together again across stdout records. How a line is read as JSON is a parameter. -/
namespace SightMesh.Usage

open Python Framing OrderedDict Native

/-! ### Samples -/

structure Tokens where
  input : Option ℤ := none
  output : Option ℤ := none
  cacheRead : Option ℤ := none
  cacheCreation : Option ℤ := none
  reasoning : Option ℤ := none
  total : Option ℤ := none
  deriving DecidableEq

inductive Provider where
  | codex
  | claude
  deriving DecidableEq

inductive Scope where
  | lastRequestSnapshot
  | threadLifetime
  | messageInput
  | executionResult
  | messageStreamOutput
  deriving DecidableEq

structure UsageSample where
  provider : Provider
  scope : Scope
  identity : Option (List String)
  tokens : Tokens
  parentToolUseId : Option String := none
  deriving DecidableEq

/-- The keys of `samples`. -/
inductive SampleKey where
  | unattributed (n : ℕ)
  | attributed (provider : Provider) (scope : Scope) (identity : List String)
  deriving DecidableEq

/-- The warnings, in the order of their texts. -/
inductive UsageWarning where
  | errorResultMayOmitUsage
  | invalidNativeStdout
  | invalidParentIdentity
  | threadTotalDecreasedOrReordered
  | unparsedProviderJson
  | unsupportedNativeRecord
  | unsupportedProviderUsage
  | usageIdentityUnavailable
  deriving DecidableEq

def UsageWarning.sorted : List UsageWarning :=
  [.errorResultMayOmitUsage, .invalidNativeStdout, .invalidParentIdentity,
    .threadTotalDecreasedOrReordered, .unparsedProviderJson, .unsupportedNativeRecord,
    .unsupportedProviderUsage, .usageIdentityUnavailable]

inductive ProviderError where
  | malformedProviderJson
  | providerJsonlRecordExceedsBound
  | partialProviderJsonlRecord
  deriving DecidableEq

/-! ### Readings of JSON -/

def mapping : Json → Dict
  | .obj fields => fields
  | _ => []

def count : Json → Option ℤ
  | .num (.int n) => if 0 ≤ n ∧ n ≤ 2 ^ 64 - 1 then some n else none
  | _ => none

def named : Json → Option String
  | .str s => present (some s)
  | _ => none

def identity (parts : List Json) : Option (List String) := parts.mapM named

def codex (value : Json) : Tokens :=
  let data := mapping value
  { input := count (data.get "inputTokens")
    output := count (data.get "outputTokens")
    cacheRead := count (data.get "cachedInputTokens")
    cacheCreation := count (data.get "cacheCreationTokens")
    reasoning := count (data.get "reasoningOutputTokens")
    total := count (data.get "totalTokens") }

/-- The sum, where there is every one of them. -/
def sumOfAll (counts : List (Option ℤ)) : Option ℤ := (counts.mapM id).map List.sum

def claude (value : Json) (output : Bool) : Tokens :=
  let data := mapping value
  let input := count (data.get "input_tokens")
  let out := if output then count (data.get "output_tokens") else none
  let cacheRead := count (data.get "cache_read_input_tokens")
  let cacheCreation := count (data.get "cache_creation_input_tokens")
  { input, output := out, cacheRead, cacheCreation
    total := sumOfAll [input, out, cacheRead, cacheCreation] }

/-! ### Events -/

structure Summary where
  samples : List (SampleKey × UsageSample) := []
  warnings : Finset UsageWarning := ∅
  streamMessages : List (Option String × String) := []
  derivationError : Option ProviderError := none
  deriving DecidableEq

def Summary.warn (s : Summary) (warning : UsageWarning) : Summary :=
  { s with warnings := insert warning s.warnings }

/-- `provider_error`: the first one stays. -/
def Summary.providerError (s : Summary) (error : ProviderError) : Summary :=
  { s with derivationError := s.derivationError.orElse fun _ => some error }

/-- The total of the thread goes down, as `save` finds it. -/
def decreases (previous : Option UsageSample) (sample : UsageSample) : Bool :=
  match previous.bind (·.tokens.total), sample.tokens.total with
  | some before, some after => sample.scope = .threadLifetime && decide (after < before)
  | _, _ => false

def Summary.save (s : Summary) (sample : UsageSample) : Summary :=
  match sample.identity with
  | none =>
    let s := s.warn .usageIdentityUnavailable
    { s with samples := put (.unattributed s.samples.length) sample s.samples }
  | some parts =>
    let key := .attributed sample.provider sample.scope parts
    let s :=
      if decreases (s.samples.lookup key) sample then s.warn .threadTotalDecreasedOrReordered
      else s
    { s with samples := put key sample s.samples }

section
variable (s : Summary) {sample : UsageSample} {parts : List String}

theorem Summary.save_unidentified (unidentified : sample.identity = none) :
    s.save sample =
      { s.warn .usageIdentityUnavailable with
        samples := put (.unattributed s.samples.length) sample s.samples } := by
  simp only [Summary.save, unidentified]
  rfl

theorem Summary.save_identified (identified : sample.identity = some parts) :
    s.save sample =
      { s with
        samples := put (.attributed sample.provider sample.scope parts) sample s.samples
        warnings :=
          if decreases (s.samples.lookup (.attributed sample.provider sample.scope parts)) sample
          then insert .threadTotalDecreasedOrReordered s.warnings else s.warnings } := by
  simp only [Summary.save, identified]
  split <;> rfl

end

/-- The two observations of a `thread/tokenUsage/updated` event. -/
def codexSnapshot (event : Dict) : UsageSample :=
  let params := mapping (event.get "params")
  let usage := mapping (params.get "tokenUsage")
  { provider := .codex, scope := .lastRequestSnapshot
    identity := identity [params.get "threadId", params.get "turnId"]
    tokens := codex (usage.get "last") }

def codexLifetime (event : Dict) : UsageSample :=
  let params := mapping (event.get "params")
  let usage := mapping (params.get "tokenUsage")
  { provider := .codex, scope := .threadLifetime
    identity := identity [params.get "threadId"]
    tokens := codex (usage.get "total") }

def messageInput (event : Dict) (parent : Option String) : UsageSample :=
  let message := mapping (event.get "message")
  { provider := .claude, scope := .messageInput
    identity := identity [message.get "id"]
    tokens := claude (message.get "usage") false
    parentToolUseId := parent }

def failed (event : Dict) : Bool :=
  !(event.get "subtype").isText "success" ||
    (match event.get "is_error" with
    | .bool isError => isError
    | _ => false)

def executionResult (sourceId : Option String) (event : Dict) (parent : Option String) :
    UsageSample :=
  let tokens := claude (event.get "usage") true
  { provider := .claude, scope := .executionResult
    identity := (present sourceId).map ([·])
    tokens := if failed event then { tokens with total := none } else tokens
    parentToolUseId := parent }

def streamOutput (partialEvent : Dict) (message : Option String) (parent : Option String) :
    UsageSample :=
  { provider := .claude, scope := .messageStreamOutput
    identity := (present message).map ([·])
    tokens := { output := count ((mapping (partialEvent.get "usage")).get "output_tokens") }
    parentToolUseId := parent }

def Summary.consumeStream (s : Summary) (parent : Option String) (partialEvent : Dict) : Summary :=
  if (partialEvent.get "type").isText "message_start" then
    match named ((mapping (partialEvent.get "message")).get "id") with
    | some message => { s with streamMessages := put parent message s.streamMessages }
    | none => s
  else if (partialEvent.get "type").isText "message_delta" then
    s.save (streamOutput partialEvent (s.streamMessages.lookup parent) parent)
  else if (partialEvent.get "type").isText "message_stop" then
    { s with streamMessages := drop parent s.streamMessages }
  else s

/-- `parent_tool_use_id`, or `none` where it is neither null nor a text. -/
def parentOf (event : Dict) : Option (Option String) :=
  match event.get "parent_tool_use_id" with
  | .null => some none
  | .str parent => some (some parent)
  | _ => none

def isCodex (event : Dict) : Bool := (event.get "method").isText "thread/tokenUsage/updated"

/-- `consume_event` of an event that codex did not send, with its parent. -/
def Summary.consumeClaude (s : Summary) (sourceId : Option String) (event : Dict)
    (parent : Option String) : Summary :=
  if (event.get "type").isText "assistant" then s.save (messageInput event parent)
  else if (event.get "type").isText "result" then
    (if failed event then s.warn .errorResultMayOmitUsage else s).save
      (executionResult sourceId event parent)
  else if (event.get "type").isText "stream_event" then
    s.consumeStream parent (mapping (event.get "event"))
  else if event.has "usage" || event.has "tokenUsage" then s.warn .unsupportedProviderUsage
  else s

def Summary.consumeEvent (s : Summary) (sourceId : Option String) (event : Dict) : Summary :=
  if isCodex event then (s.save (codexSnapshot event)).save (codexLifetime event)
  else
    match parentOf event with
    | none => s.warn .invalidParentIdentity
    | some parent => s.consumeClaude sourceId event parent

/-! ### Lines -/

/-- The characters `str.strip` takes for white space. -/
def isSpace (c : Char) : Bool :=
  let n := c.toNat
  (9 ≤ n && n ≤ 13) || (28 ≤ n && n ≤ 32) || n = 0x85 || n = 0xa0 || n = 0x1680 ||
    (0x2000 ≤ n && n ≤ 0x200a) || n = 0x2028 || n = 0x2029 || n = 0x202f || n = 0x205f ||
    n = 0x3000

/-- `line.lstrip().startswith("{")`. -/
def opensObject (line : List Char) : Bool := (line.dropWhile isSpace).head? = some '\x7b'

/-- `json.loads` of a text, where it raises no `ValueError`. -/
abbrev Loads := List Char → Option Json

def Summary.consumeProviderLine (s : Summary) (loads : Loads) (sourceId : Option String)
    (line : List Char) : Summary :=
  match loads line with
  | some value => s.consumeEvent sourceId (mapping value)
  | none =>
    if opensObject line then (s.warn .unparsedProviderJson).providerError .malformedProviderJson
    else s

/-- `text.encode()` has that many bytes. -/
def utf8Length (text : List Char) : ℕ := (text.map Char.utf8Size).sum

/-- `text.partition("\n")`: what is before, whether there was one, and what is after. -/
def partitionLine (text : List Char) : List Char × Bool × List Char :=
  match text.dropWhile (· ≠ '\n') with
  | [] => (text, false, [])
  | _ :: rest => (text.takeWhile (· ≠ '\n'), true, rest)

theorem partitionLine_of_notMem {text : List Char} (unmarked : '\n' ∉ text) :
    partitionLine text = (text, false, []) := by
  have all : text.dropWhile (· ≠ '\n') = [] := by
    rw [List.dropWhile_eq_nil_iff]
    intro c mem
    exact decide_eq_true fun same => unmarked (same ▸ mem)
  simp only [partitionLine, all]

theorem partitionLine_append {part : List Char} (unmarked : '\n' ∉ part) (rest : List Char) :
    partitionLine (part ++ '\n' :: rest) = (part, true, rest) := by
  have apart : ∀ c ∈ part, decide (c ≠ '\n') = true := fun c mem =>
    decide_eq_true fun same => unmarked (same ▸ mem)
  have after : (part ++ '\n' :: rest).dropWhile (· ≠ '\n') = '\n' :: rest := by
    rw [List.dropWhile_append_of_pos apart, List.dropWhile_cons_of_neg (by decide)]
  have before : (part ++ '\n' :: rest).takeWhile (· ≠ '\n') = part := by
    rw [List.takeWhile_append_of_pos apart, List.takeWhile_cons_of_neg (by decide),
      List.append_nil]
  simp only [partitionLine, after, before]

/-- There is no mark, or the text is what is before the first, the mark and the rest. -/
theorem partitionLine_cases (text : List Char) :
    ('\n' ∉ text ∧ partitionLine text = (text, false, [])) ∨
      ∃ part rest, '\n' ∉ part ∧ text = part ++ '\n' :: rest ∧
        partitionLine text = (part, true, rest) := by
  by_cases mem : '\n' ∈ text
  · obtain ⟨part, rest, rfl, unmarked⟩ := List.eq_append_cons_of_mem mem
    exact .inr ⟨part, rest, unmarked, rfl, partitionLine_append unmarked rest⟩
  · exact .inl ⟨mem, partitionLine_of_notMem mem⟩

theorem partitionLine_rest_lt {text : List Char} (nonempty : text ≠ []) :
    (partitionLine text).2.2.length < text.length := by
  rcases partitionLine_cases text with ⟨_, parted⟩ | ⟨part, rest, _, rfl, parted⟩
  · rw [parted]
    exact List.length_pos_iff.mpr nonempty
  · simp only [parted, List.length_append, List.length_cons]
    omega

/-! ### Records -/

structure Derivation where
  summary : Summary := {}
  pendingStdout : List (List Char) := []
  pendingStdoutBytes : ℕ := 0
  discardingStdout : Bool := false

variable (loads : Loads) (sourceId : Option String)

def Derivation.consumeStdout (s : Derivation) (chunk : List Char) : Derivation :=
  if empty : chunk = [] then s
  else
    let part := (partitionLine chunk).1
    let newline := (partitionLine chunk).2.1
    let rest := (partitionLine chunk).2.2
    have _shorter : rest.length < chunk.length := partitionLine_rest_lt empty
    if s.discardingStdout then
      if newline then consumeStdout { s with discardingStdout := false } rest else s
    else if maxRecordBytes < s.pendingStdoutBytes + utf8Length part then
      let s' : Derivation :=
        { s with
          summary := s.summary.providerError .providerJsonlRecordExceedsBound
          pendingStdout := []
          pendingStdoutBytes := 0 }
      if newline then consumeStdout s' rest else { s' with discardingStdout := true }
    else if newline then
      let line := (s.pendingStdout ++ [part]).flatten.rdropWhile (· = '\r')
      consumeStdout
        { s with
          summary := s.summary.consumeProviderLine loads sourceId line
          pendingStdout := []
          pendingStdoutBytes := 0 } rest
    else
      { s with
        pendingStdout := s.pendingStdout ++ [part]
        pendingStdoutBytes := s.pendingStdoutBytes + utf8Length part }
termination_by chunk.length

def Derivation.warn (s : Derivation) (warning : UsageWarning) : Derivation :=
  { s with summary := s.summary.warn warning }

def isMilestone (record : Json) : Bool := record.isText "Ready" || record.isText "Finished"

def Derivation.consume (s : Derivation) (record : Json) : Derivation :=
  if isMilestone record then s
  else
    match mapping record with
    | [(key, value)] =>
      if key = "Stdout" then
        match value with
        | .str text => s.consumeStdout loads sourceId text.toList
        | _ => s.warn .invalidNativeStdout
      else if key ∈ ["Stderr", "JsonPatch", "SessionId", "MessageId"] then s
      else s.warn .unsupportedNativeRecord
    | _ => s.warn .unsupportedNativeRecord

structure UsageReport where
  samples : List UsageSample
  warnings : List UsageWarning
  sourceId : Option String := none
  rawEnd : ℕ := 0
  afterFrame : Option ℕ := none
  captureOutcome : Option CaptureOutcome := none
  atAvailableEnd : Bool := false
  sourceError : Option String := none
  derivationError : Option ProviderError := none
  deriving DecidableEq

def UsageReport.complete (report : UsageReport) : Bool :=
  report.captureOutcome = some .complete && report.atAvailableEnd &&
    (present report.sourceError).isNone

def UsageReport.derivationComplete (report : UsageReport) : Bool :=
  report.complete && report.derivationError.isNone

def UsageReport.executionTokens (report : UsageReport) : Option ℤ :=
  let results := report.samples.filter (·.scope = .executionResult)
  if report.derivationComplete && report.warnings.isEmpty then
    match results with
    | [result] => result.tokens.total
    | _ => none
  else none

/-- The report once the records are over, and whether the last line was left unfinished. -/
def Summary.report (s : Summary) (unfinished : Bool) : UsageReport :=
  let s := if unfinished then s.providerError .partialProviderJsonlRecord else s
  { samples := s.samples.map Prod.snd
    warnings := UsageWarning.sorted.filter (· ∈ s.warnings)
    sourceId
    derivationError := s.derivationError }

def derive (records : List Json) : UsageReport :=
  let s := records.foldl (Derivation.consume loads sourceId) {}
  s.summary.report sourceId (!s.pendingStdout.isEmpty || s.discardingStdout)

/-- The report on what a reader yielded, and on how it ended. -/
def usageOf (executionId : String) (records : Native.Records) : UsageReport :=
  { derive loads (some executionId) records.yielded with
    rawEnd := records.rawEnd
    afterFrame := records.afterFrame
    captureOutcome := records.outcome
    atAvailableEnd := records.atAvailableEnd
    sourceError := records.error }

def deriveNative (lib : PageLibrary) (decode : Decode) (server : Server) (executionId : String)
    (maxPages : ℕ) : Except Fault UsageReport :=
  (nativeRecords lib decode server executionId maxPages).bind fun records =>
    match records.raised with
    | some fault => .error fault
    | none => .ok (usageOf loads executionId records)

/-! ### The reader of lines -/

/-- Lines of at most that many bytes, without the end of the line. -/
def stdoutRule : Rule Char where
  mark := '\n'
  weight c := if c = '\n' then 0 else c.utf8Size
  bound := maxRecordBytes

/-- What a piece of the provider's output does. -/
def Summary.consumePiece (s : Summary) : Piece Char → Summary
  | .line items => s.consumeProviderLine loads sourceId (items.rdropWhile (· = '\r'))
  | .oversize => s.providerError .providerJsonlRecordExceedsBound

abbrev View := Summary × Held Char

def Derivation.held (s : Derivation) : Held Char :=
  if s.discardingStdout then .skipping else .pending s.pendingStdout.flatten

def Derivation.view (s : Derivation) : View := (s.summary, s.held)

def View.consumeStdout (v : View) (chunk : List Char) : View :=
  stdoutRule.feed (Summary.consumePiece loads sourceId) v chunk

/-- The pieces that are kept are no empty ones, within the bound, and none while discarding. -/
structure Derivation.Coherent (s : Derivation) : Prop where
  bytes : s.pendingStdoutBytes = utf8Length s.pendingStdout.flatten
  unmarked : '\n' ∉ s.pendingStdout.flatten
  bounded : s.pendingStdoutBytes ≤ maxRecordBytes
  nonempty : ∀ part ∈ s.pendingStdout, part ≠ []
  none_discarding : s.discardingStdout = true → s.pendingStdout = []

theorem size_of_unmarked {text : List Char} (unmarked : '\n' ∉ text) :
    stdoutRule.size text = utf8Length text := by
  rw [Rule.size, utf8Length]
  congr 1
  apply List.map_congr_left
  intro c mem
  apply if_neg
  intro same
  exact unmarked (same ▸ mem)

def Derivation.takeRest (s : Derivation) (part : List Char) : Derivation :=
  if s.discardingStdout then s
  else if maxRecordBytes < s.pendingStdoutBytes + utf8Length part then
    { s with
      summary := s.summary.providerError .providerJsonlRecordExceedsBound
      pendingStdout := []
      pendingStdoutBytes := 0
      discardingStdout := true }
  else
    { s with
      pendingStdout := s.pendingStdout ++ [part]
      pendingStdoutBytes := s.pendingStdoutBytes + utf8Length part }

def Derivation.takeLine (s : Derivation) (part : List Char) : Derivation :=
  if s.discardingStdout then { s with discardingStdout := false }
  else if maxRecordBytes < s.pendingStdoutBytes + utf8Length part then
    { s with
      summary := s.summary.providerError .providerJsonlRecordExceedsBound
      pendingStdout := []
      pendingStdoutBytes := 0 }
  else
    { s with
      summary := s.summary.consumeProviderLine loads sourceId
        ((s.pendingStdout ++ [part]).flatten.rdropWhile (· = '\r'))
      pendingStdout := []
      pendingStdoutBytes := 0 }

theorem Derivation.consumeStdout_nil (s : Derivation) : s.consumeStdout loads sourceId [] = s := by
  rw [Derivation.consumeStdout, dif_pos rfl]

theorem Derivation.consumeStdout_rest (s : Derivation) {part : List Char} (nonempty : part ≠ [])
    (unmarked : '\n' ∉ part) : s.consumeStdout loads sourceId part = s.takeRest part := by
  rw [Derivation.consumeStdout, dif_neg nonempty, takeRest]
  simp only [partitionLine_of_notMem unmarked, Bool.false_eq_true, if_false]

theorem Derivation.consumeStdout_line (s : Derivation) {part : List Char}
    (unmarked : '\n' ∉ part) (rest : List Char) :
    s.consumeStdout loads sourceId (part ++ '\n' :: rest) =
      (s.takeLine loads sourceId part).consumeStdout loads sourceId rest := by
  rw [Derivation.consumeStdout, dif_neg (by simp), takeLine]
  simp only [partitionLine_append unmarked, if_true]
  split
  · rfl
  · split <;> rfl

variable {s : Derivation} {part : List Char}

theorem Derivation.Coherent.size_held (coherent : s.Coherent) :
    stdoutRule.size s.pendingStdout.flatten = s.pendingStdoutBytes := by
  rw [size_of_unmarked coherent.unmarked, coherent.bytes]

theorem Derivation.Coherent.takeRest (coherent : s.Coherent) (nonempty : part ≠ [])
    (unmarked : '\n' ∉ part) : (s.takeRest part).Coherent := by
  rw [Derivation.takeRest]
  split
  · exact coherent
  · split
    · exact ⟨rfl, List.not_mem_nil, Nat.zero_le _, (fun _ mem => nomatch mem), fun _ => rfl⟩
    next keeps fits =>
      constructor
      · simp [utf8Length, coherent.bytes]
      · simpa using ⟨by simpa using coherent.unmarked, unmarked⟩
      · exact Nat.not_lt.mp fits
      · intro p mem
        rcases List.mem_append.mp mem with old | new
        · exact coherent.nonempty p old
        · exact List.mem_singleton.mp new ▸ nonempty
      · exact fun discarding => absurd discarding keeps

variable (part) in
theorem Derivation.Coherent.takeLine (coherent : s.Coherent) :
    (s.takeLine loads sourceId part).Coherent := by
  rw [Derivation.takeLine]
  split
  next discards =>
    exact ⟨coherent.bytes, coherent.unmarked, coherent.bounded, coherent.nonempty,
      fun no => nomatch no⟩
  next keeps =>
    split <;>
      exact ⟨rfl, List.not_mem_nil, Nat.zero_le _, (fun _ mem => nomatch mem), fun _ => rfl⟩

theorem Derivation.Coherent.takeRest_view (coherent : s.Coherent) (unmarked : '\n' ∉ part) :
    (s.takeRest part).view = s.view.consumeStdout loads sourceId part := by
  have size := size_of_unmarked unmarked
  simp only [Derivation.takeRest, Derivation.view, View.consumeStdout, Rule.feed, Derivation.held]
  by_cases discards : s.discardingStdout = true
  · simp only [if_pos discards, stdoutRule.run_skipping unmarked, List.foldl_nil]
  · simp only [if_neg discards]
    by_cases exceeded : maxRecordBytes < s.pendingStdoutBytes + utf8Length part
    · have run := stdoutRule.run_exceeds unmarked (coherent.size_held.trans_le coherent.bounded)
        (by rwa [coherent.size_held, size])
      simp only [if_pos exceeded, run, List.foldl_cons, List.foldl_nil, Summary.consumePiece,
        if_true]
    · have run := stdoutRule.run_fits s.pendingStdout.flatten unmarked
        (by rw [coherent.size_held, size]; exact Nat.not_lt.mp exceeded)
      simp only [if_neg exceeded, run, List.foldl_nil, if_neg discards, List.flatten_append,
        List.flatten_singleton]

theorem Derivation.Coherent.takeLine_view (coherent : s.Coherent) (unmarked : '\n' ∉ part) :
    (s.takeLine loads sourceId part).view =
      s.view.consumeStdout loads sourceId (part ++ ['\n']) := by
  have size := size_of_unmarked unmarked
  have ends : stdoutRule.run .skipping ['\n'] = (.pending [], []) := stdoutRule.run_mark_skipping
  rw [View.consumeStdout, Rule.feed_append]
  simp only [Derivation.takeLine, Derivation.view, Rule.feed, Derivation.held]
  by_cases discards : s.discardingStdout = true
  · simp [if_pos discards, stdoutRule.run_skipping unmarked, ends,
      coherent.none_discarding discards]
  · simp only [if_neg discards]
    by_cases exceeded : maxRecordBytes < s.pendingStdoutBytes + utf8Length part
    · have run := stdoutRule.run_exceeds unmarked (coherent.size_held.trans_le coherent.bounded)
        (by rwa [coherent.size_held, size])
      simp [if_pos exceeded, run, ends, discards, Summary.consumePiece]
    · have run := stdoutRule.run_fits s.pendingStdout.flatten unmarked
        (by rw [coherent.size_held, size]; exact Nat.not_lt.mp exceeded)
      have fits : stdoutRule.size (s.pendingStdout.flatten ++ part) ≤ maxRecordBytes := by
        rw [Rule.size_append, coherent.size_held, size]
        exact Nat.not_lt.mp exceeded
      have line : stdoutRule.run (.pending (s.pendingStdout.flatten ++ part)) ['\n'] =
          (.pending [], [.line (s.pendingStdout.flatten ++ part)]) := stdoutRule.run_mark fits
      simp [if_neg exceeded, run, line, discards, Summary.consumePiece]

/-- The loop over the lines of a chunk is the machine on its characters. -/
theorem Derivation.Coherent.consumeStdout (coherent : s.Coherent) (chunk : List Char) :
    (s.consumeStdout loads sourceId chunk).Coherent ∧
      (s.consumeStdout loads sourceId chunk).view = s.view.consumeStdout loads sourceId chunk := by
  induction size : chunk.length using Nat.strongRecOn generalizing s chunk with
  | ind n ih =>
    rcases partitionLine_cases chunk with ⟨unmarked, _⟩ | ⟨part, rest, unmarked, rfl, _⟩
    · by_cases nonempty : chunk = []
      · subst nonempty
        rw [Derivation.consumeStdout_nil]
        exact ⟨coherent, rfl⟩
      · rw [s.consumeStdout_rest loads sourceId nonempty unmarked]
        exact ⟨coherent.takeRest nonempty unmarked, coherent.takeRest_view loads sourceId unmarked⟩
    · rw [s.consumeStdout_line loads sourceId unmarked]
      have shorter : rest.length < n := by
        rw [← size, List.length_append, List.length_cons]
        omega
      have later :=
        ih rest.length shorter (Derivation.Coherent.takeLine loads sourceId part coherent) rest rfl
      refine ⟨later.1, ?_⟩
      rw [later.2, coherent.takeLine_view loads sourceId unmarked, View.consumeStdout,
        View.consumeStdout, View.consumeStdout, ← Rule.feed_append,
        List.append_assoc, List.singleton_append]

/-! ### The log as the machine sees it -/

def stdoutOf (record : Json) : Option (List Char) :=
  match mapping record with
  | [(key, .str text)] => if key = "Stdout" then some text.toList else none
  | _ => none

def Summary.consumeOther (s : Summary) (record : Json) : Summary :=
  if isMilestone record then s
  else
    match mapping record with
    | [(key, _)] =>
      if key = "Stdout" then s.warn .invalidNativeStdout
      else if key ∈ ["Stderr", "JsonPatch", "SessionId", "MessageId"] then s
      else s.warn .unsupportedNativeRecord
    | _ => s.warn .unsupportedNativeRecord

def View.consume (v : View) (record : Json) : View :=
  match stdoutOf record with
  | some text => v.consumeStdout loads sourceId text
  | none => (v.1.consumeOther record, v.2)

variable {record : Json}

theorem isMilestone_of_stdoutOf {text : List Char} (stdout : stdoutOf record = some text) :
    isMilestone record = false := by
  cases record with
  | obj fields => rfl
  | _ => exact nomatch stdout

theorem Derivation.consume_stdout {text : List Char} (stdout : stdoutOf record = some text) :
    s.consume loads sourceId record = s.consumeStdout loads sourceId text := by
  rw [Derivation.consume, isMilestone_of_stdoutOf stdout, if_neg Bool.false_ne_true]
  rw [stdoutOf] at stdout
  split at stdout
  next key text' one =>
    split at stdout
    next named =>
      cases stdout
      simp only [one, if_pos named]
    next => exact nomatch stdout
  next => exact nomatch stdout

theorem Derivation.consume_other (other : stdoutOf record = none) :
    s.consume loads sourceId record = { s with summary := s.summary.consumeOther record } := by
  rw [Derivation.consume, Summary.consumeOther]
  by_cases milestone : isMilestone record = true
  · rw [if_pos milestone, if_pos milestone]
  · rw [if_neg milestone, if_neg milestone]
    rw [stdoutOf] at other
    split
    next key value one =>
      by_cases named : key = "Stdout"
      · rw [if_pos named, if_pos named]
        cases value with
        | str text => simp [one, named] at other
        | _ => rfl
      · rw [if_neg named, if_neg named]
        split <;> rfl
    next => rfl

theorem Derivation.Coherent.consume (coherent : s.Coherent) (record : Json) :
    (s.consume loads sourceId record).Coherent ∧
      (s.consume loads sourceId record).view = s.view.consume loads sourceId record := by
  cases stdout : stdoutOf record with
  | some text =>
    rw [Derivation.consume_stdout loads sourceId stdout, View.consume, stdout]
    exact coherent.consumeStdout loads sourceId text
  | none =>
    rw [Derivation.consume_other loads sourceId stdout, View.consume, stdout]
    exact ⟨⟨coherent.bytes, coherent.unmarked, coherent.bounded, coherent.nonempty,
      coherent.none_discarding⟩, rfl⟩

theorem Derivation.Coherent.unfinished (coherent : s.Coherent) :
    (!s.pendingStdout.isEmpty || s.discardingStdout) = s.held.unfinished := by
  rw [Derivation.held]
  by_cases discards : s.discardingStdout = true
  · simp [discards, Held.unfinished]
  · cases pieces : s.pendingStdout with
    | nil => simp [discards, Held.unfinished]
    | cons part more =>
      have nonempty : part ≠ [] := coherent.nonempty part (pieces ▸ List.mem_cons_self)
      simp [discards, nonempty, Held.unfinished]

def View.run (records : List Json) : View :=
  records.foldl (View.consume loads sourceId) ({}, .pending [])

def View.report (v : View) : UsageReport := v.1.report sourceId v.2.unfinished

theorem derive_eq (records : List Json) :
    derive loads sourceId records = (View.run loads sourceId records).report sourceId := by
  have along (records : List Json) : ∀ (s : Derivation), s.Coherent →
      (records.foldl (Derivation.consume loads sourceId) s).Coherent ∧
        (records.foldl (Derivation.consume loads sourceId) s).view =
          records.foldl (View.consume loads sourceId) s.view := by
    induction records with
    | nil => exact fun s coherent => ⟨coherent, rfl⟩
    | cons record rest ih =>
      intro s coherent
      have now := coherent.consume loads sourceId record
      rw [List.foldl_cons, List.foldl_cons, ← now.2]
      exact ih _ now.1
  have start : Derivation.Coherent {} :=
    ⟨rfl, List.not_mem_nil, Nat.zero_le _, (fun _ mem => nomatch mem), fun no => nomatch no⟩
  obtain ⟨coherent, view⟩ := along records {} start
  calc derive loads sourceId records
      = ((records.foldl (Derivation.consume loads sourceId) {}).view).report sourceId := by
        rw [derive, coherent.unfinished]
        rfl
    _ = (View.run loads sourceId records).report sourceId := by
        rw [view]
        rfl

end SightMesh.Usage
