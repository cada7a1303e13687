import SightMesh.Evidence.Events

/-! When a log answers for the tokens of its execution, and with what. -/
namespace SightMesh.Usage

open Python Framing OrderedDict Native

variable (loads : Loads) (sourceId : Option String)

/-! ### What the log holds -/

def supported (record : Json) : Bool :=
  isMilestone record || (stdoutOf record).isSome ||
    match mapping record with
    | [(key, _)] => key ∈ ["Stderr", "JsonPatch", "SessionId", "MessageId"]
    | _ => false

def stdoutText (records : List Json) : List Char := (records.filterMap stdoutOf).flatten

/-- The lines of the provider, and what follows the last of them. -/
def providerLines (records : List Json) : List (List Char) × List Char :=
  cut '\n' [] (stdoutText records)

def trimmed (line : List Char) : List Char := line.rdropWhile (· = '\r')

def readable (line : List Char) : Bool :=
  (loads (trimmed line)).isSome || !opensObject (trimmed line)

def eventOf (line : List Char) : Option Dict := (loads (trimmed line)).map mapping

def providerEvents (records : List Json) : List Dict :=
  (providerLines records).1.filterMap (eventOf loads)

/-- Nothing is amiss with the log as a whole: the capture is complete, every record is a known one,
the provider's lines end, fit, and are JSON where they should be, and no event gives a warning. -/
structure Sound (records : Native.Records) : Prop where
  complete : records.outcome = some .complete
  atEnd : records.atAvailableEnd = true
  noError : present records.error = none
  supported : ∀ record ∈ records.yielded, supported record = true
  within : stdoutRule.Within [] (stdoutText records.yielded)
  ended : (providerLines records.yielded).2 = []
  readable : ∀ line ∈ (providerLines records.yielded).1, readable loads line = true
  quiet : allQuiet sourceId (providerEvents loads records.yielded).reverse = true

/-! ### Records -/

variable {loads sourceId} {record : Json} {records : List Json}

theorem consumeOther_of_supported (s : Summary) (other : stdoutOf record = none)
    (known : supported record = true) : s.consumeOther record = s := by
  rw [Summary.consumeOther]
  split
  · rfl
  next noMilestone =>
    rw [supported, other, Bool.eq_false_iff.mpr noMilestone] at known
    cases fields : mapping record with
    | nil => simp [fields] at known
    | cons field rest =>
      obtain ⟨key, value⟩ := field
      cases rest with
      | nil =>
        have listed : key ∈ ["Stderr", "JsonPatch", "SessionId", "MessageId"] := by
          simpa [fields] using known
        have notStdout : key ≠ "Stdout" := by
          rintro rfl
          exact absurd listed (by decide)
        simp only [if_neg notStdout, if_pos listed]
      | cons => simp [fields] at known

theorem consumeOther_of_not_supported (s : Summary) (unknown : supported record = false) :
    (s.consumeOther record).warnings ≠ ∅ := by
  rw [supported, Bool.or_eq_false_iff, Bool.or_eq_false_iff] at unknown
  rw [Summary.consumeOther, unknown.1.1, if_neg Bool.false_ne_true]
  split
  next key value one =>
    have unlisted : key ∉ ["Stderr", "JsonPatch", "SessionId", "MessageId"] := by
      simpa [one] using unknown.2
    rw [if_neg unlisted]
    split <;> exact s.warn_ne_empty _
  next => exact s.warn_ne_empty _

theorem View.foldl_of_supported (v : View) (known : ∀ record ∈ records, supported record = true) :
    records.foldl (View.consume loads sourceId) v =
      v.consumeStdout loads sourceId (stdoutText records) := by
  induction records generalizing v with
  | nil => rfl
  | cons record rest ih =>
    rw [List.forall_mem_cons] at known
    rw [List.foldl_cons, ih _ known.2, View.consume, stdoutText, stdoutText]
    cases stdout : stdoutOf record with
    | some text =>
      rw [List.filterMap_cons_some stdout, List.flatten_cons]
      simp only [View.consumeStdout, Rule.feed_append]
    | none =>
      rw [List.filterMap_cons_none stdout]
      simp only [consumeOther_of_supported v.1 stdout known.1]

theorem View.onward_consumeStdout (v : View) (text : List Char) :
    v.1.Onward (v.consumeStdout loads sourceId text).1 :=
  Summary.onward_foldl (Summary.onward_consumePiece loads sourceId) _ _

theorem View.onward_consume (v : View) (record : Json) :
    v.1.Onward (v.consume loads sourceId record).1 := by
  rw [View.consume]
  split
  · exact v.onward_consumeStdout _
  · exact v.1.onward_consumeOther record

theorem View.onward_foldl (v : View) (records : List Json) :
    v.1.Onward (records.foldl (View.consume loads sourceId) v).1 := by
  induction records generalizing v with
  | nil => exact Summary.Onward.refl _
  | cons record rest ih => exact (v.onward_consume record).trans (ih _)

theorem View.warns_of_not_supported (v : View) (mem : record ∈ records)
    (unknown : supported record = false) :
    (records.foldl (View.consume loads sourceId) v).1.warnings ≠ ∅ := by
  obtain ⟨before, after, rfl⟩ := List.append_of_mem mem
  rw [List.foldl_append, List.foldl_cons]
  apply (View.onward_foldl _ after).ne_empty
  have other : stdoutOf record = none := by
    rw [supported, Bool.or_eq_false_iff, Bool.or_eq_false_iff] at unknown
    simpa using unknown.1.2
  rw [View.consume, other]
  exact consumeOther_of_not_supported _ unknown

/-! ### Lines -/

theorem foldl_consumePiece_error (s : Summary) {pieces : List (Piece Char)}
    (mem : Piece.oversize ∈ pieces) :
    (pieces.foldl (Summary.consumePiece loads sourceId) s).derivationError.isSome := by
  obtain ⟨before, after, rfl⟩ := List.append_of_mem mem
  rw [List.foldl_append, List.foldl_cons]
  apply (Summary.onward_foldl (Summary.onward_consumePiece loads sourceId) _ after).error
  rw [Summary.consumePiece, Summary.providerError]
  cases (before.foldl (Summary.consumePiece loads sourceId) s).derivationError <;> rfl

theorem foldl_lines_of_readable (s : Summary) {lines : List (List Char)}
    (reads : ∀ line ∈ lines, readable loads line = true) :
    (lines.map Piece.line).foldl (Summary.consumePiece loads sourceId) s =
      (lines.filterMap (eventOf loads)).foldl (fun s e => s.consumeEvent sourceId e) s := by
  induction lines generalizing s with
  | nil => rfl
  | cons line rest ih =>
    rw [List.forall_mem_cons] at reads
    rw [List.map_cons, List.foldl_cons, ih _ reads.2, Summary.consumePiece,
      Summary.consumeProviderLine]
    cases value : loads (trimmed line) with
    | some value' =>
      have event : eventOf loads line = some (mapping value') := by rw [eventOf, value]; rfl
      rw [List.filterMap_cons_some event, List.foldl_cons]
      rw [trimmed] at value
      rw [value]
    | none =>
      have event : eventOf loads line = none := by rw [eventOf, value]; rfl
      have apart : opensObject (trimmed line) = false := by
        simpa [readable, value] using reads.1
      rw [List.filterMap_cons_none event]
      rw [trimmed] at value apart
      rw [value]
      simp only [apart, if_neg Bool.false_ne_true]

theorem warns_of_not_readable (s : Summary) {lines : List (List Char)} {line : List Char}
    (mem : line ∈ lines) (broken : readable loads line = false) :
    ((lines.map Piece.line).foldl (Summary.consumePiece loads sourceId) s).warnings ≠ ∅ := by
  obtain ⟨before, after, rfl⟩ := List.append_of_mem mem
  rw [List.map_append, List.foldl_append, List.map_cons, List.foldl_cons]
  apply (Summary.onward_foldl (Summary.onward_consumePiece loads sourceId) _ _).ne_empty
  rw [readable, Bool.or_eq_false_iff, Bool.not_eq_false'] at broken
  rw [trimmed] at broken
  rw [Summary.consumePiece, Summary.consumeProviderLine, Option.not_isSome_iff_eq_none.mp
    (Bool.eq_false_iff.mp broken.1)]
  simp only [broken.2, if_true]
  exact Summary.warn_ne_empty _ _

/-! ### The answer -/

variable (loads) in
def lastResult (records : List Json) : Option Dict :=
  (providerEvents loads records).reverse.find? isResult

def resultTotal (event : Dict) : Option ℤ := (claude (event.get "usage") true).total

theorem UsageWarning.mem_sorted (warning : UsageWarning) : warning ∈ UsageWarning.sorted := by
  cases warning <;> decide

theorem sorted_isEmpty (warnings : Finset UsageWarning) :
    (UsageWarning.sorted.filter (· ∈ warnings)).isEmpty = true ↔ warnings = ∅ := by
  rw [List.isEmpty_iff, List.filter_eq_nil_iff, Finset.eq_empty_iff_forall_notMem]
  simp [UsageWarning.mem_sorted]

theorem Sound.run {executionId : String} {records : Native.Records}
    (sound : Sound loads (some executionId) records) :
    View.run loads (some executionId) records.yielded =
      (Summary.ofHistory (some executionId) (providerEvents loads records.yielded).reverse,
        .pending []) := by
  have ended := sound.ended
  rw [providerLines] at ended
  have ran := stdoutRule.run_of_within sound.within
  have held : (cut stdoutRule.mark [] (stdoutText records.yielded)).2 = [] := ended
  rw [held] at ran
  rw [View.run, View.foldl_of_supported _ sound.supported, View.consumeStdout, Rule.feed, ran,
    Summary.ofHistory, List.foldr_reverse, providerEvents]
  exact Prod.ext (foldl_lines_of_readable {} sound.readable) rfl

theorem Summary.ofHistory_error (history : List Dict) :
    (Summary.ofHistory sourceId history).derivationError = none := by
  induction history with
  | nil => rfl
  | cons event earlier ih => exact (Summary.consumeEvent_error _ event).trans ih

theorem Observed.results {updates : List String → Option UsageSample}
    {messages : Option String → Option String} {result : Option UsageSample} {s : Summary}
    (observed : Observed sourceId updates messages result s) :
    (s.samples.map Prod.snd).filter (·.scope = .executionResult) = result.toList := by
  have scopes : ∀ e ∈ s.samples, (decide (e.2.scope = .executionResult)) = isResultKey e.1 := by
    intro e mem
    obtain ⟨parts, key⟩ := observed.keyed e mem
    rw [key, isResultKey]
  rw [List.filter_map]
  have same : s.samples.filter ((fun sample => decide (sample.scope = .executionResult)) ∘ Prod.snd)
      = s.samples.filter (fun e => isResultKey e.1) := List.filter_congr scopes
  rw [same, observed.result]
  cases result <;> rfl

theorem failed_of_quiet {earlier : List Dict} {event : Dict} (calm : quiet sourceId earlier event = true)
    (here : isResult event = true) : failed event = false := by
  rw [isResult, Bool.and_eq_true, Bool.not_eq_true'] at here
  have notAssistant := isText_of_ne here.2 "assistant" (by decide)
  rw [quiet, here.1, if_neg Bool.false_ne_true] at calm
  split at calm
  · rw [quietClaude, notAssistant, if_neg Bool.false_ne_true, if_pos here.2, Bool.and_eq_true,
      Bool.not_eq_true'] at calm
    exact calm.1
  · cases calm

theorem failed_of_allQuiet {history : List Dict} (calm : allQuiet sourceId history = true)
    {event : Dict} (mem : event ∈ history) (here : isResult event = true) : failed event = false := by
  induction history with
  | nil => cases mem
  | cons last earlier ih =>
    rw [allQuiet, Bool.and_eq_true] at calm
    rcases List.mem_cons.mp mem with rfl | mem
    · exact failed_of_quiet calm.2 here
    · exact ih calm.1 mem

theorem resultSample_total {history : List Dict} {last : Dict}
    (calm : allQuiet sourceId history = true) (found : history.find? isResult = some last) :
    (resultSample sourceId last).tokens.total = resultTotal last := by
  have succeeded := failed_of_allQuiet calm (List.mem_of_find?_eq_some found) (List.find?_some found)
  simp only [resultSample, executionResult, succeeded, Bool.false_eq_true, if_false, resultTotal]

theorem UsageReport.executionTokens_eq_some_iff {report : UsageReport} {n : ℤ} :
    report.executionTokens = some n ↔
      report.complete = true ∧ report.derivationError = none ∧ report.warnings.isEmpty = true ∧
        ∃ result, report.samples.filter (·.scope = .executionResult) = [result] ∧
          result.tokens.total = some n := by
  rw [UsageReport.executionTokens, UsageReport.derivationComplete]
  by_cases derived : (report.complete && report.derivationError.isNone &&
      report.warnings.isEmpty) = true
  · rw [if_pos derived]
    rw [Bool.and_eq_true, Bool.and_eq_true, Option.isNone_iff_eq_none] at derived
    split
    next result one => simp [derived, one]
    next other =>
      constructor
      · exact fun no => nomatch no
      · rintro ⟨_, _, _, result, one, _⟩
        exact absurd one (other result)
  · rw [if_neg derived]
    constructor
    · exact fun no => nomatch no
    · rintro ⟨complete, noError, silent, _⟩
      simp [complete, noError, silent] at derived

theorem View.report_error (v : View) :
    (v.report sourceId).derivationError = none ↔
      v.1.derivationError = none ∧ v.2.unfinished = false := by
  rw [View.report, Summary.report]
  cases v.2.unfinished <;> cases error : v.1.derivationError <;>
    simp [Summary.providerError, error]

theorem View.report_samples (v : View) : (v.report sourceId).samples = v.1.samples.map Prod.snd := by
  rw [View.report, Summary.report]
  cases v.2.unfinished <;> rfl

theorem View.report_warnings (v : View) :
    (v.report sourceId).warnings = UsageWarning.sorted.filter (· ∈ v.1.warnings) := by
  rw [View.report, Summary.report]
  cases v.2.unfinished <;> rfl

theorem sound_of_silent {executionId : String} {records : Native.Records}
    (complete : (usageOf loads executionId records).complete = true)
    (noError : (View.run loads (some executionId) records.yielded).1.derivationError = none)
    (silent : (View.run loads (some executionId) records.yielded).1.warnings = ∅)
    (finished : (View.run loads (some executionId) records.yielded).2.unfinished = false) :
    Sound loads (some executionId) records := by
  have known : ∀ record ∈ records.yielded, supported record = true := by
    intro record mem
    rw [← Bool.not_eq_false]
    exact fun unknown => View.warns_of_not_supported _ mem unknown silent
  have ran : View.run loads (some executionId) records.yielded =
      stdoutRule.feed (Summary.consumePiece loads (some executionId)) ({}, .pending [])
        (stdoutText records.yielded) := View.foldl_of_supported _ known
  rw [ran, Rule.feed] at noError silent finished
  dsimp only at noError silent finished
  have within : stdoutRule.Within [] (stdoutText records.yielded) := by
    by_contra exceeded
    have error := @foldl_consumePiece_error loads (some executionId) {} _
      (stdoutRule.oversize_of_not_within (Nat.zero_le _) exceeded)
    rw [noError] at error
    cases error
  rw [stdoutRule.run_of_within within] at silent finished
  have reads : ∀ line ∈ (providerLines records.yielded).1, readable loads line = true := by
    intro line mem
    rw [← Bool.not_eq_false]
    exact fun broken => warns_of_not_readable _ mem broken silent
  have ended : (providerLines records.yielded).2 = [] := by
    have rest : (cut stdoutRule.mark [] (stdoutText records.yielded)).2 = [] := by
      simpa [Held.unfinished] using finished
    exact rest
  have calm : allQuiet (some executionId) (providerEvents loads records.yielded).reverse = true := by
    rw [← Bool.not_eq_false]
    intro loud
    apply warns_of_not_allQuiet loud
    rw [Summary.ofHistory, List.foldr_reverse, providerEvents, ← foldl_lines_of_readable {} reads]
    exact silent
  rw [UsageReport.complete, Bool.and_eq_true, Bool.and_eq_true, decide_eq_true_iff,
    Option.isNone_iff_eq_none] at complete
  exact ⟨complete.1.1, complete.1.2, complete.2, known, within, ended, reads, calm⟩

/-- A log answers with a count where it is sound and its last result has one. -/
theorem executionTokens_eq_some_iff {executionId : String} {records : Native.Records} {n : ℤ} :
    (usageOf loads executionId records).executionTokens = some n ↔
      Sound loads (some executionId) records ∧
        (lastResult loads records.yielded).bind resultTotal = some n := by
  have derived : derive loads (some executionId) records.yielded =
      (View.run loads (some executionId) records.yielded).report (some executionId) := derive_eq ..
  have noError : (usageOf loads executionId records).derivationError =
      (derive loads (some executionId) records.yielded).derivationError := rfl
  have warnings : (usageOf loads executionId records).warnings =
      (derive loads (some executionId) records.yielded).warnings := rfl
  have samples : (usageOf loads executionId records).samples =
      (derive loads (some executionId) records.yielded).samples := rfl
  rw [UsageReport.executionTokens_eq_some_iff, noError, warnings, samples, derived,
    View.report_error, View.report_warnings, sorted_isEmpty, View.report_samples]
  constructor
  · rintro ⟨complete, ⟨error, finished⟩, silent, result, one, total⟩
    have sound := sound_of_silent complete error silent finished
    refine ⟨sound, ?_⟩
    rw [sound.run, (told_of_allQuiet sound.quiet).results] at one
    cases found : lastResult loads records.yielded with
    | none =>
      rw [lastResult] at found
      rw [found] at one
      exact nomatch one
    | some last =>
      rw [lastResult] at found
      rw [found] at one
      cases one
      rw [Option.bind_some, ← resultSample_total sound.quiet found]
      exact total
  · rintro ⟨sound, total⟩
    rw [Option.bind_eq_some_iff] at total
    obtain ⟨last, found, total⟩ := total
    rw [lastResult] at found
    have told := told_of_allQuiet sound.quiet
    rw [sound.run]
    refine ⟨?_, ⟨Summary.ofHistory_error _, rfl⟩, told.silent,
      resultSample (some executionId) last, ?_, ?_⟩
    · simp [UsageReport.complete, usageOf, sound.complete, sound.atEnd, sound.noError]
    · rw [told.results, found]
      rfl
    · rw [resultSample_total sound.quiet found]
      exact total

/-- The four counters of a result are there, and that is their sum. -/
def Counts (result : Dict) (n : ℤ) : Prop :=
  ∃ input output cacheRead cacheCreation,
    count ((mapping (result.get "usage")).get "input_tokens") = some input ∧
    count ((mapping (result.get "usage")).get "output_tokens") = some output ∧
    count ((mapping (result.get "usage")).get "cache_read_input_tokens") = some cacheRead ∧
    count ((mapping (result.get "usage")).get "cache_creation_input_tokens") =
      some cacheCreation ∧
    n = input + output + cacheRead + cacheCreation

theorem sumOfAll_eq_some_iff {a b c d : Option ℤ} {n : ℤ} :
    sumOfAll [a, b, c, d] = some n ↔
      ∃ w x y z, a = some w ∧ b = some x ∧ c = some y ∧ d = some z ∧ n = w + x + y + z := by
  cases a <;> cases b <;> cases c <;> cases d <;> simp [sumOfAll, add_assoc, eq_comm]

theorem resultTotal_eq_some_iff {event : Dict} {n : ℤ} :
    resultTotal event = some n ↔ Counts event n := sumOfAll_eq_some_iff

/-- Whenever there is a count, the log holds a result, no result of it is an error, and the count is
the sum of the counters of the last one, which replaces those before it. -/
theorem executionTokens_last_result {executionId : String} {records : Native.Records} {n : ℤ}
    (counted : (usageOf loads executionId records).executionTokens = some n) :
    (∀ result ∈ (providerEvents loads records.yielded).filter isResult, failed result = false) ∧
      ∃ last, ((providerEvents loads records.yielded).filter isResult).getLast? = some last ∧
        Counts last n := by
  obtain ⟨sound, total⟩ := executionTokens_eq_some_iff.mp counted
  obtain ⟨last, found, total⟩ := Option.bind_eq_some_iff.mp total
  constructor
  · intro result mem
    obtain ⟨mem, here⟩ := List.mem_filter.mp mem
    exact failed_of_allQuiet sound.quiet (List.mem_reverse.mpr mem) here
  · refine ⟨last, ?_, resultTotal_eq_some_iff.mp total⟩
    rw [← List.head?_reverse, ← List.filter_reverse, List.head?_filter]
    exact found

/-! ### A result that is recorded twice -/

def successLine : List Char :=
  ['\x7b', '"', 't', 'y', 'p', 'e', '"', ':', '"', 'r', 'e', 's', 'u', 'l', 't', '"', ',', '"', 's',
    'u', 'b', 't', 'y', 'p', 'e', '"', ':', '"', 's', 'u', 'c', 'c', 'e', 's', 's', '"', ',', '"',
    'u', 's', 'a', 'g', 'e', '"', ':', '\x7b', '"', 'i', 'n', 'p', 'u', 't', '_', 't', 'o', 'k',
    'e', 'n', 's', '"', ':', '1', ',', '"', 'o', 'u', 't', 'p', 'u', 't', '_', 't', 'o', 'k', 'e',
    'n', 's', '"', ':', '2', ',', '"', 'c', 'a', 'c', 'h', 'e', '_', 'r', 'e', 'a', 'd', '_', 'i',
    'n', 'p', 'u', 't', '_', 't', 'o', 'k', 'e', 'n', 's', '"', ':', '3', ',', '"', 'c', 'a', 'c',
    'h', 'e', '_', 'c', 'r', 'e', 'a', 't', 'i', 'o', 'n', '_', 'i', 'n', 'p', 'u', 't', '_', 't',
    'o', 'k', 'e', 'n', 's', '"', ':', '4', '\x7d', '\x7d']

def success : Dict :=
  [("type", .str "result"), ("subtype", .str "success"),
    ("usage", .obj [("input_tokens", .num (.int 1)), ("output_tokens", .num (.int 2)),
      ("cache_read_input_tokens", .num (.int 3)), ("cache_creation_input_tokens", .num (.int 4))])]

def readsSuccess : Loads := fun line => if line = successLine then some (.obj success) else none

def twiceRecorded : Native.Records where
  rawEnd := 354
  compressedEnd := 2
  afterFrame := some 1
  outcome := some .complete
  atAvailableEnd := true
  yielded :=
    [.obj [("Stdout", .str (String.ofList (successLine ++ ['\n'])))],
      .obj [("Stdout", .str (String.ofList (successLine ++ ['\n'])))]]

theorem twiceRecorded_lines :
    providerLines twiceRecorded.yielded = ([successLine, successLine], []) := by
  have text : stdoutText twiceRecorded.yielded =
      successLine ++ '\n' :: (successLine ++ ['\n']) := by
    simp [stdoutText, twiceRecorded, stdoutOf, mapping]
  rw [providerLines, text]
  decide +kernel

theorem eventOf_successLine : eventOf readsSuccess successLine = some success := by
  have same : trimmed successLine = successLine := by decide +kernel
  rw [eventOf, same, readsSuccess, if_pos rfl]
  rfl

theorem twiceRecorded_events :
    providerEvents readsSuccess twiceRecorded.yielded = [success, success] := by
  rw [providerEvents, twiceRecorded_lines]
  simp [eventOf_successLine]

theorem twiceRecorded_sound : Sound readsSuccess (some "e") twiceRecorded where
  complete := rfl
  atEnd := rfl
  noError := rfl
  supported := by
    intro record mem
    simp only [twiceRecorded, List.mem_cons, List.not_mem_nil, or_false, or_self] at mem
    subst mem
    simp [supported, stdoutOf, mapping]
  within := by
    have lines : cut stdoutRule.mark [] (stdoutText twiceRecorded.yielded) =
        ([successLine, successLine], []) := twiceRecorded_lines
    rw [Rule.Within, lines]
    decide +kernel
  ended := by rw [twiceRecorded_lines]
  readable := by
    rw [twiceRecorded_lines]
    decide +kernel
  quiet := by
    rw [twiceRecorded_events]
    decide +kernel

theorem twiceRecorded_counted :
    (usageOf readsSuccess "e" twiceRecorded).executionTokens = some 10 := by
  have counted : (lastResult readsSuccess twiceRecorded.yielded).bind resultTotal = some 10 := by
    rw [lastResult, twiceRecorded_events]
    decide +kernel
  exact executionTokens_eq_some_iff.mpr ⟨twiceRecorded_sound, counted⟩

theorem twiceRecorded_last :
    (providerEvents readsSuccess twiceRecorded.yielded).filter isResult = [success, success] ∧
      ∃ last, ((providerEvents readsSuccess twiceRecorded.yielded).filter isResult).getLast? =
        some last ∧ Counts last 10 := by
  refine ⟨?_, (executionTokens_last_result twiceRecorded_counted).2⟩
  rw [twiceRecorded_events]
  rfl

theorem twiceRecorded_not_main_loop :
    ¬ ∀ n, (usageOf readsSuccess "e" twiceRecorded).executionTokens = some n →
      ∃ result, (providerEvents readsSuccess twiceRecorded.yielded).filter isResult = [result] ∧
        result.get "parent_tool_use_id" = .null ∧ failed result = false ∧ Counts result n := by
  intro means
  obtain ⟨result, only, _⟩ := means 10 twiceRecorded_counted
  rw [twiceRecorded_events] at only
  have twice : ([success, success].filter isResult).length = 2 := by decide +kernel
  rw [only] at twice
  exact nomatch twice

end SightMesh.Usage
