import SightMesh.Concurrency.Solo
import SightMesh.Executor.Liveness

/-! What the progress evidence comes to once the executor has answered: the computation of
`gatherEvidence`, over the three answers as they arrive. An answer is any JSON, and no answer is a
read that failed. -/
namespace SightMesh

open Python Concurrency

variable {α β : Type} {py : Library} {now : Time}

structure ExecutorAnswers where
  processes : Option Json
  snapshot : String → Option Json
  queueStatus : Option Json

def asObject : Json → Option Dict
  | .obj fields => some fields
  | _ => none

def eligibleItem (item : Json) : Bool :=
  match item with
  | .obj row => !(Dict.get row "dropped").truthy && !(Dict.get row "run_reason").isText "devserver"
  | _ => false

def eligibleRows (answer : Option Json) : List Dict :=
  match answer with
  | some (.arr items) => (items.filter eligibleItem).filterMap asObject
  | _ => []

def snapshotOf (py : Library) (answers : ExecutorAnswers) (current : Option Dict) : Option Dict :=
  current.bind fun process =>
    (answers.snapshot (py.str ((process.get "id").orElse' (.str "")))).bind asObject

def queuedMailOf (answers : ExecutorAnswers) (typed : Dict) : Answer (Option Bool) :=
  if (typed.get "turn_ended").truthy then
    match answers.queueStatus.bind asObject with
    | none => .ok none
    | some status => queuedMail status
  else .ok none

structure Reading where
  rows : List Dict
  moments : List Time
  checkpoint : Option Time
  bytes : Option ℕ
  current : Option Dict
  snapshot : Option Dict
  tokens : ℕ
  activity : Option Time
  queued : Option Bool

def Reading.evidence (py : Library) (previousOutputBytes : Option ℕ) (reading : Reading) :
    ProgressEvidence :=
  let typed := typedMarkers reading.snapshot
  let degraded : Bool := (match typed.get "lost_reason" with | .null => true | _ => false) &&
    (reading.current.bind (degradedLoss py)).isSome
  { lastActivityAt := maxBy (fun a b => decide (a < b)) (reading.moments ++ reading.activity.toList)
    observed := true
    processAlive := !(runningProcesses py reading.rows).isEmpty
    streamAlive := streamAlive reading.snapshot
    outputGrowing := match previousOutputBytes, reading.bytes with
      | some before, some bytes => decide (before < bytes)
      | _, _ => false
    outputUnmeasured := reading.bytes.isSome && previousOutputBytes.isNone
    parked := (typed.get "parked").truthy
    turnEnded := (typed.get "turn_ended").truthy
    lifecycleCalled := (typed.get "lifecycle_called").truthy
    queuedMail := reading.queued.getD false
    lostReason := lossAttribution py typed reading.current
    turns := (reading.rows.filter fun p => (p.get "run_reason").isText "codingagent").length
    tokens := reading.tokens
    outputBytes := reading.bytes
    confidence := if typed.isEmpty then "degraded" else "typed"
    sources := ["execution_processes"] ++
      (if reading.checkpoint.isSome then ["checkpoint"] else []) ++
      (if reading.bytes.isSome then ["output_bytes"] else []) ++
      (if reading.snapshot.isSome then ["normalized_snapshot"] else []) ++
      (if reading.activity.isSome then ["transcript"] else []) ++
      (if reading.queued.isSome then ["queue_status"] else []) ++
      (if degraded then ["process_status"] else []) }

/-- The checkpoint, where it can be a moment of this run; the kernel's own times are no integers. -/
def checkpointOf (now : Time) (checkpointAt : Option Time) : Answer (Option Time) :=
  match checkpointAt with
  | none => .ok none
  | some at' => plausibleMoment (.num (.finite at')) now

/-- `gather_evidence` of the answers. -/
def evidenceFrom (py : Library) (answers : ExecutorAnswers) (now : Time)
    (checkpointAt : Option Time) (previousOutputBytes : Option ℕ) : Answer ProgressEvidence :=
  let rows := eligibleRows answers.processes
  if rows.isEmpty then do
    let checkpoint ← checkpointOf now checkpointAt
    return .unread checkpoint (if checkpointAt.isSome then ["checkpoint"] else [])
  else do
    let (moments, checkpoint, bytes) ← rowEvidence py now checkpointAt rows
    let current ← currentExecution py rows now
    let snapshot := snapshotOf py answers current
    let (tokens, activity) ← snapshotEvidence now snapshot
    let queued ← queuedMailOf answers (typedMarkers snapshot)
    return Reading.evidence py previousOutputBytes
      ⟨rows, moments, checkpoint, bytes, current, snapshot, tokens, activity, queued⟩

/-! ### Where the coercions raise -/

/-- An integer that no float can hold. -/
def hugeInteger : Json → Bool
  | .num (.int n) => overflows n
  | _ => false

/-- A loop over the values that stops at the first it accepts meets a huge integer. -/
def meetsHuge (accepted : Json → Bool) : List Json → Bool
  | [] => false
  | value :: rest => hugeInteger value || !accepted value && meetsHuge accepted rest

/-- The value, unless something on the way to it has raised. -/
def settled (raises : Bool) (value : α) : Answer α :=
  if raises then .error overflowError else .ok value

@[simp] theorem settled_false (value : α) : settled false value = .ok value := rfl

@[simp] theorem settled_true (value : α) : settled true value = .error overflowError := rfl

theorem settled_mapM {f : α → Answer β} {raises : α → Bool} {g : α → β}
    (same : ∀ a, f a = settled (raises a) (g a)) (xs : List α) :
    xs.mapM f = settled (xs.any raises) (xs.map g) := by
  induction xs with
  | nil => rfl
  | cons a xs ih =>
    rw [List.mapM_cons, same a, ih, List.any_cons, List.map_cons]
    cases raises a with
    | true => rfl
    | false => cases xs.any raises with
      | true => rfl
      | false => rfl

/-! ### What each reading comes to -/

/-- What is left of `_plausible` where it does not raise. -/
def plausibleTime (value : Json) (now : Time) : Option Time :=
  (plausibleMoment value now).toOption.join

theorem plausibleMoment_eq (value : Json) (now : Time) :
    plausibleMoment value now = settled (hugeInteger value) (plausibleTime value now) := by
  unfold plausibleTime
  cases value with
  | num n =>
    cases n with
    | int n =>
      by_cases huge : overflows n
      · simp [plausibleMoment, hugeInteger, huge]
      · simp [plausibleMoment, hugeInteger, huge, Except.toOption]
    | _ => rfl
  | _ => rfl

def fieldMoment (py : Library) (value : Json) (now : Time) : Option Time :=
  match value with
  | .str raw => (py.fromisoformat (raw.replace "Z" "+00:00")).bind fun parsed =>
      plausibleTime (.num (.finite parsed.utc)) now
  | value => plausibleTime value now

def stampFields : List String := ["completed_at", "updated_at", "started_at", "created_at"]

def stampOf (py : Library) (process : Dict) (now : Time) : Option Time :=
  stampFields.findSome? fun name => fieldMoment py (process.get name) now

def stampRaises (py : Library) (process : Dict) (now : Time) : Bool :=
  meetsHuge (fun value => (fieldMoment py value now).isSome) (stampFields.map process.get)

theorem timestamp_round (process : Dict) (name : String) (names : List String) :
    timestamp.first py process now (name :: names) =
      if hugeInteger (process.get name) then .error overflowError
      else match fieldMoment py (process.get name) now with
        | some moment => .ok (some moment)
        | none => timestamp.first py process now names := by
  rw [timestamp.first]
  cases process.get name with
  | str raw =>
    dsimp only [fieldMoment, hugeInteger]
    cases py.fromisoformat (raw.replace "Z" "+00:00") with
    | none => rfl
    | some parsed =>
      simp only [Option.map_some, Option.bind_some, plausibleMoment_eq, hugeInteger]
      cases plausibleTime (.num (.finite parsed.utc)) now with
      | none => rfl
      | some moment => rfl
  | num n =>
    simp only [plausibleMoment_eq, fieldMoment]
    cases hugeInteger (.num n) with
    | true => rfl
    | false => cases plausibleTime (.num n) now with
      | none => rfl
      | some moment => rfl
  | _ => rfl

theorem timestamp_eq (py : Library) (process : Dict) (now : Time) :
    timestamp py process now = settled (stampRaises py process now) (stampOf py process now) := by
  have step (names : List String) : timestamp.first py process now names =
      settled (meetsHuge (fun value => (fieldMoment py value now).isSome) (names.map process.get))
        (names.findSome? fun name => fieldMoment py (process.get name) now) := by
    induction names with
    | nil => rfl
    | cons name names ih =>
      rw [timestamp_round, List.map_cons, meetsHuge, List.findSome?_cons, ih]
      cases hugeInteger (process.get name) with
      | true => rfl
      | false =>
        cases fieldMoment py (process.get name) now with
        | none => rfl
        | some moment => rfl
  exact step stampFields

/-- What is left of `_non_negative_int` where it does not raise. -/
def counted (value : Json) : Option ℕ := (nonNegativeInt value).toOption.join

def bytesOf (process : Dict) : Option ℕ :=
  if process.has "output_bytes" then counted (process.get "output_bytes") else none

def bytesRaise (process : Dict) : Bool :=
  process.has "output_bytes" && hugeInteger (process.get "output_bytes")

theorem nonNegativeInt_eq (value : Json) :
    nonNegativeInt value = settled (hugeInteger value) (counted value) := by
  unfold counted
  cases value with
  | num n =>
    cases n with
    | int n =>
      by_cases huge : overflows n
      · simp [nonNegativeInt, hugeInteger, huge]
      · simp [nonNegativeInt, hugeInteger, huge, Except.toOption]
    | _ => rfl
  | _ => rfl

def addBytes (total value : Option ℕ) : Option ℕ :=
  match value with
  | none => total
  | some value => some (total.getD 0 + value)

def totalBytes (rows : List Dict) : Option ℕ := (rows.map bytesOf).foldl addBytes none

theorem outputBytes_eq (rows : List Dict) :
    outputBytes rows = settled (rows.any bytesRaise) (totalBytes rows) := by
  have step (rows : List Dict) (total : Option ℕ) :
      rows.foldlM (fun total p => do
        if p.has "output_bytes" then
          match ← nonNegativeInt (p.get "output_bytes") with
          | none => return total
          | some value => return some (total.getD 0 + value)
        else return total) total =
      settled (rows.any bytesRaise) ((rows.map bytesOf).foldl addBytes total) := by
    induction rows generalizing total with
    | nil => rfl
    | cons row rows ih =>
      rw [List.foldlM_cons, List.any_cons, List.map_cons, List.foldl_cons]
      by_cases has : row.has "output_bytes"
      · rw [if_pos has, nonNegativeInt_eq]
        simp only [bytesRaise, bytesOf, has, if_true, Bool.true_and]
        cases hugeInteger (row.get "output_bytes") with
        | true => rfl
        | false =>
          cases counted (row.get "output_bytes") with
          | none => exact ih total
          | some value => exact ih _
      · simp only [bytesRaise, bytesOf, has, Bool.false_eq_true, if_false, Bool.false_and,
          Bool.false_or]
        exact ih total
  exact step rows none

def checkpointMoment (now : Time) (checkpointAt : Option Time) : Option Time :=
  checkpointAt.bind fun at' => plausibleTime (.num (.finite at')) now

theorem checkpointOf_eq (now : Time) (checkpointAt : Option Time) :
    checkpointOf now checkpointAt = .ok (checkpointMoment now checkpointAt) := by
  cases checkpointAt with
  | none => rfl
  | some at' => rfl

def rowRaises (py : Library) (now : Time) (process : Dict) : Bool :=
  stampRaises py process now || bytesRaise process

theorem any_or (f g : α → Bool) (xs : List α) :
    (xs.any fun a => f a || g a) = (xs.any f || xs.any g) := by
  induction xs with
  | nil => rfl
  | cons a xs ih => simp [ih, Bool.or_assoc, Bool.or_left_comm]

theorem rowEvidence_eq (py : Library) (now : Time) (checkpointAt : Option Time) (rows : List Dict) :
    rowEvidence py now checkpointAt rows = settled (rows.any (rowRaises py now))
      (rows.filterMap (stampOf py · now) ++ (checkpointMoment now checkpointAt).toList,
        checkpointMoment now checkpointAt, totalBytes rows) := by
  have moments : rows.filterMap (stampOf py · now) = (rows.map (stampOf py · now)).filterMap id := by
    simp [List.filterMap_map]
  unfold rowEvidence
  rw [settled_mapM (timestamp_eq py · now), outputBytes_eq, moments]
  change _ = settled (rows.any fun row => stampRaises py row now || bytesRaise row) _
  rw [any_or]
  cases rows.any (stampRaises py · now) with
  | true => rfl
  | false =>
    cases rows.any bytesRaise with
    | true => cases checkpointAt with
      | none => rfl
      | some at' => rfl
    | false => cases checkpointAt with
      | none => rfl
      | some at' => rfl

/-- The keys by which `_current_execution` picks. -/
def executionKey (py : Library) (now : Time) (process : Dict) : Option ℚ × String :=
  (some ((stampOf py process now).getD 0), py.str ((process.get "id").orElse' (.str "")))

def candidates (py : Library) (rows : List Dict) : List Dict :=
  if (runningProcesses py rows).isEmpty then rows else runningProcesses py rows

/-- What is left of `_current_execution` where it does not raise. -/
def currentOf (py : Library) (rows : List Dict) (now : Time) : Option Dict :=
  (maxBy (fun a b => earlierKey a.1 b.1)
    ((candidates py rows).map fun p => (executionKey py now p, p))).map Prod.snd

theorem currentExecution_eq (py : Library) (rows : List Dict) (now : Time) :
    currentExecution py rows now =
      settled ((candidates py rows).any (stampRaises py · now)) (currentOf py rows now) := by
  have key (process : Dict) : (do
      let at' ← timestamp py process now
      return ((some (at'.getD 0), py.str ((process.get "id").orElse' (.str ""))), process) :
        Answer ((Option ℚ × String) × Dict)) =
      settled (stampRaises py process now) (executionKey py now process, process) := by
    rw [timestamp_eq]
    cases stampRaises py process now with
    | true => rfl
    | false => rfl
  have picks : currentExecution py rows now = ((candidates py rows).mapM fun process => do
      let at' ← timestamp py process now
      return ((some (at'.getD 0), py.str ((process.get "id").orElse' (.str ""))), process)) >>=
        fun keyed => return (maxBy (fun a b => earlierKey a.1 b.1) keyed).map Prod.snd := rfl
  rw [picks, settled_mapM key]
  cases (candidates py rows).any (stampRaises py · now) with
  | true => rfl
  | false => rfl

def tokenCount (wrapped : Json) : Option Json := do
  let fields ← asObject wrapped
  let content ← asObject (Dict.get fields "content")
  let entry ← asObject (Dict.get content "entry_type")
  if (Dict.get entry "type").isText "token_usage_info" then some (Dict.get entry "total_tokens")
  else none

def tokenCounts (snapshot : Dict) : List Json :=
  match snapshot.get "entries" with
  | .arr entries => entries.filterMap tokenCount
  | _ => []

def tokensRaise (snapshot : Dict) : Bool :=
  meetsHuge (fun value => (counted value).isSome) (tokenCounts snapshot)

def tokensOf (snapshot : Dict) : ℕ := ((tokenCounts snapshot).findSome? counted).getD 0

theorem snapshotTokens_round (wrapped : Json) (entries : List Json) :
    snapshotTokens.first (wrapped :: entries) =
      match tokenCount wrapped with
      | none => snapshotTokens.first entries
      | some value =>
        if hugeInteger value then .error overflowError
        else match counted value with
          | some used => .ok used
          | none => snapshotTokens.first entries := by
  cases wrapped with
  | obj fields =>
    conv_lhs => unfold snapshotTokens.first
    simp only [tokenCount, asObject, Option.bind_eq_bind, Option.bind_some]
    cases Dict.get fields "content" with
    | obj content =>
      simp only [Option.bind_some]
      cases Dict.get content "entry_type" with
      | obj entry =>
        simp only [Option.bind_some]
        by_cases usage : (Dict.get entry "type").isText "token_usage_info"
        · simp only [usage, if_true, nonNegativeInt_eq]
          cases hugeInteger (Dict.get entry "total_tokens") with
          | true => rfl
          | false => cases counted (Dict.get entry "total_tokens") with
            | none => rfl
            | some used => rfl
        · simp only [usage]
          rfl
      | _ => rfl
    | _ => rfl
  | _ => rfl

theorem snapshotTokens_eq (snapshot : Dict) :
    snapshotTokens snapshot = settled (tokensRaise snapshot) (tokensOf snapshot) := by
  have step (entries : List Json) : snapshotTokens.first entries =
      settled (meetsHuge (fun value => (counted value).isSome) (entries.filterMap tokenCount))
        (((entries.filterMap tokenCount).findSome? counted).getD 0) := by
    induction entries with
    | nil => rfl
    | cons wrapped entries ih =>
      rw [snapshotTokens_round, List.filterMap_cons, ih]
      cases tokenCount wrapped with
      | none => rfl
      | some value =>
        dsimp only
        rw [meetsHuge, List.findSome?_cons]
        cases hugeInteger value with
        | true => rfl
        | false => cases counted value with
          | none => rfl
          | some used => rfl
  unfold snapshotTokens tokensRaise tokensOf tokenCounts
  cases snapshot.get "entries" with
  | arr entries => exact step entries
  | _ => rfl

def activityOf (now : Time) (snapshot : Dict) : Option Time :=
  plausibleTime (Dict.get snapshot "last_activity_at") now

def snapshotRaises (snapshot : Dict) : Bool :=
  tokensRaise snapshot || hugeInteger (Dict.get snapshot "last_activity_at")

theorem snapshotEvidence_eq (now : Time) (snapshot : Option Dict) :
    snapshotEvidence now snapshot = settled (snapshot.any snapshotRaises)
      ((snapshot.map tokensOf).getD 0, snapshot.bind (activityOf now)) := by
  cases snapshot with
  | none => rfl
  | some fields =>
    simp only [snapshotEvidence, snapshotTokens_eq, plausibleMoment_eq, Option.any_some,
      snapshotRaises]
    cases tokensRaise fields with
    | true => rfl
    | false => cases hugeInteger (Dict.get fields "last_activity_at") with
      | true => rfl
      | false => rfl

def mailDepth : Json → Option Bool
  | .bool b => some b
  | .num (.int n) => some (0 < n)
  | .num (.finite q) => some (0 < q)
  | .arr items => some !items.isEmpty
  | _ => none

def queueFields : List String := ["pending", "queued", "depth"]

def queueRaises (status : Dict) : Bool :=
  meetsHuge (fun value => (mailDepth value).isSome) (queueFields.map status.get)

def queuedOf (status : Dict) : Option Bool :=
  queueFields.findSome? fun name => mailDepth (status.get name)

theorem queuedMail_eq (status : Dict) :
    queuedMail status =
      settled (queueRaises status) (queuedOf status) := by
  have step (names : List String) : queuedMail.first status names =
      settled (meetsHuge (fun value => (mailDepth value).isSome) (names.map status.get))
        (names.findSome? fun name => mailDepth (status.get name)) := by
    induction names with
    | nil => rfl
    | cons name names ih =>
      rw [queuedMail.first, ih, List.map_cons, meetsHuge, List.findSome?_cons]
      cases status.get name with
      | num n =>
        cases n with
        | int n =>
          by_cases huge : overflows n
          · simp [hugeInteger, huge]
          · simp [hugeInteger, huge, mailDepth]
        | _ => rfl
      | _ => rfl
  exact step queueFields

/-- The queue is read only where a turn has ended. -/
def queueRead (answers : ExecutorAnswers) (snapshot : Option Dict) : Option Dict :=
  if ((typedMarkers snapshot).get "turn_ended").truthy then answers.queueStatus.bind asObject
  else none

theorem queuedMailOf_eq (answers : ExecutorAnswers) (snapshot : Option Dict) :
    queuedMailOf answers (typedMarkers snapshot) =
      settled ((queueRead answers snapshot).any queueRaises)
        ((queueRead answers snapshot).bind queuedOf) := by
  unfold queuedMailOf queueRead
  split
  · cases answers.queueStatus.bind asObject with
    | none => rfl
    | some status => exact queuedMail_eq status
  · rfl

/-! ### The whole reading -/

def snapshotRead (py : Library) (answers : ExecutorAnswers) (now : Time) : Option Dict :=
  snapshotOf py answers (currentOf py (eligibleRows answers.processes) now)

def gatheringRaises (py : Library) (answers : ExecutorAnswers) (now : Time) : Bool :=
  (eligibleRows answers.processes).any (rowRaises py now) ||
    (snapshotRead py answers now).any snapshotRaises ||
      (queueRead answers (snapshotRead py answers now)).any queueRaises

def readingOf (py : Library) (answers : ExecutorAnswers) (now : Time)
    (checkpointAt : Option Time) : Reading where
  rows := eligibleRows answers.processes
  moments := (eligibleRows answers.processes).filterMap (stampOf py · now) ++
    (checkpointMoment now checkpointAt).toList
  checkpoint := checkpointMoment now checkpointAt
  bytes := totalBytes (eligibleRows answers.processes)
  current := currentOf py (eligibleRows answers.processes) now
  snapshot := snapshotRead py answers now
  tokens := ((snapshotRead py answers now).map tokensOf).getD 0
  activity := (snapshotRead py answers now).bind (activityOf now)
  queued := (queueRead answers (snapshotRead py answers now)).bind queuedOf

def evidenceOf (py : Library) (answers : ExecutorAnswers) (now : Time) (checkpointAt : Option Time)
    (previousOutputBytes : Option ℕ) : ProgressEvidence :=
  if (eligibleRows answers.processes).isEmpty then
    .unread (checkpointMoment now checkpointAt) (if checkpointAt.isSome then ["checkpoint"] else [])
  else (readingOf py answers now checkpointAt).evidence py previousOutputBytes

theorem candidates_subset (rows : List Dict) : candidates py rows ⊆ rows := by
  unfold candidates
  split
  · exact fun _ mem => mem
  · exact fun _ mem => (List.mem_filter.mp mem).1

/-- Gathering the evidence raises where something it reads does, and else comes to the evidence. -/
theorem evidenceFrom_eq (py : Library) (answers : ExecutorAnswers) (now : Time)
    (checkpointAt : Option Time) (previousOutputBytes : Option ℕ) :
    evidenceFrom py answers now checkpointAt previousOutputBytes =
      settled (gatheringRaises py answers now)
        (evidenceOf py answers now checkpointAt previousOutputBytes) := by
  by_cases none_ : (eligibleRows answers.processes).isEmpty
  · have rows : eligibleRows answers.processes = [] := List.isEmpty_iff.mp none_
    have snapshot : snapshotRead py answers now = none := by
      rw [snapshotRead, rows]
      rfl
    have quiet : gatheringRaises py answers now = false := by
      rw [gatheringRaises, rows, snapshot]
      rfl
    rw [evidenceFrom, evidenceOf, if_pos none_, if_pos none_, checkpointOf_eq, quiet]
    rfl
  · rw [evidenceFrom, evidenceOf, if_neg none_, if_neg none_, rowEvidence_eq, currentExecution_eq,
      gatheringRaises]
    by_cases rows : (eligibleRows answers.processes).any (rowRaises py now)
    · rw [rows]
      rfl
    · have current : (candidates py (eligibleRows answers.processes)).any (stampRaises py · now) =
          false := by
        rw [List.any_eq_false]
        intro row mem
        have fine := List.any_eq_false.mp (Bool.eq_false_iff.mpr rows) row (candidates_subset _ mem)
        rw [rowRaises, Bool.or_eq_true, not_or] at fine
        exact fine.1
      rw [Bool.eq_false_iff.mpr rows, current]
      change (snapshotEvidence now (snapshotRead py answers now) >>= fun counted =>
        queuedMailOf answers (typedMarkers (snapshotRead py answers now)) >>= fun queued =>
          .ok (Reading.evidence py previousOutputBytes { readingOf py answers now checkpointAt with
            tokens := counted.1, activity := counted.2, queued := queued })) = _
      rw [snapshotEvidence_eq, queuedMailOf_eq]
      cases (snapshotRead py answers now).any snapshotRaises with
      | true => rfl
      | false => cases (queueRead answers (snapshotRead py answers now)).any queueRaises with
        | true => rfl
        | false => rfl

/-! ### The program that asks -/

section Program

variable {σ γ : Type} {S : System KernelError Tx Query LockKey σ γ}
  {ok : Shared Tx Query σ γ → Event Tx Query → Prop} {s s' : Shared Tx Query σ γ} {r : Answer α}

theorem ends_safely {q : Query (Answer β)} {f : Option β → Kernel α}
    (run : Prog.Ends S ok ((safely q).bind f) s r s') :
    ∃ (answer : Option β) (mid : Shared Tx Query σ γ), (f answer).Ends S ok mid r s' := by
  obtain ⟨answer, env, _, _, rest⟩ := run
  cases answer with
  | ok value => exact ⟨some value, _, rest⟩
  | error failure => exact ⟨none, _, rest⟩

theorem ends_lift {a : Answer β} {f : β → Kernel α} (run : Prog.Ends S ok ((lift a).bind f) s r s') :
    (∃ e, a = .error e ∧ r = .error e) ∨ ∃ value, a = .ok value ∧ (f value).Ends S ok s r s' := by
  cases a with
  | ok value => exact .inr ⟨value, rfl, run⟩
  | error e => exact .inl ⟨e, rfl, run.1⟩

/-- The client hands on the rows of a list that are objects. -/
def listedRows (rows : List Dict) : Json := .arr (rows.map .obj)

theorem eligibleRows_listed (rows : List Dict) :
    eligibleRows (some (listedRows rows)) = eligibleProcesses rows := by
  change ((rows.map .obj).filter eligibleItem).filterMap asObject = _
  rw [List.filter_map, List.filterMap_map]
  exact List.filterMap_some

theorem ends_readSnapshot {current : Option Dict} {f : Option Dict → Kernel α}
    (run : Prog.Ends S ok ((readSnapshot py current).bind f) s r s') :
    ∃ (answer : Option Json) (mid : Shared Tx Query σ γ),
      (f (current.bind fun _ => answer.bind asObject)).Ends S ok mid r s' := by
  cases current with
  | none => exact ⟨none, s, run⟩
  | some process =>
    rw [readSnapshot, Prog.bind_eq, Prog.bind_assoc] at run
    obtain ⟨answer, mid, rest⟩ := ends_safely run
    refine ⟨answer, mid, ?_⟩
    cases answer with
    | none => exact rest
    | some value => cases value with
      | _ => exact rest

theorem ends_readQueuedMail {sessionId : SessionId} {typed : Dict} {f : Option Bool → Kernel α}
    (run : Prog.Ends S ok ((readQueuedMail sessionId typed).bind f) s r s') :
    ∃ (status : Option Dict) (mid : Shared Tx Query σ γ), ∀ processes snapshot,
      (∃ e, queuedMailOf ⟨processes, snapshot, status.map .obj⟩ typed = .error e ∧ r = .error e) ∨
        ∃ queued, queuedMailOf ⟨processes, snapshot, status.map .obj⟩ typed = .ok queued ∧
          (f queued).Ends S ok mid r s' := by
  unfold readQueuedMail at run
  by_cases ended : (typed.get "turn_ended").truthy
  · rw [if_pos ended, Prog.bind_eq, Prog.bind_assoc] at run
    obtain ⟨status, mid, rest⟩ := ends_safely run
    refine ⟨status, mid, fun processes snapshot => ?_⟩
    rw [queuedMailOf, if_pos ended]
    cases status with
    | none => exact .inr ⟨none, rfl, rest⟩
    | some fields => exact ends_lift rest
  · rw [if_neg ended] at run
    refine ⟨none, s, fun processes snapshot => ?_⟩
    rw [queuedMailOf, if_neg ended]
    exact .inr ⟨none, rfl, run⟩

/-- What the program comes to is the evidence of what it was answered. -/
theorem gatherEvidence_ends {sessionId : SessionId} {checkpointAt : Option Time}
    {previousOutputBytes : Option ℕ} {r : Answer ProgressEvidence}
    (run : (gatherEvidence py sessionId now checkpointAt previousOutputBytes).Ends S ok s r s') :
    ∃ answers, r = evidenceFrom py answers now checkpointAt previousOutputBytes := by
  obtain ⟨listed, mid, rest⟩ := ends_safely run
  have rows (snapshot : String → Option Json) (status : Option Json) :
      eligibleRows (ExecutorAnswers.mk (listed.map listedRows) snapshot status).processes =
        eligibleProcesses (listed.getD []) := by
    cases listed with
    | none => rfl
    | some rows => exact eligibleRows_listed rows
  by_cases none_ : (eligibleProcesses (listed.getD [])).isEmpty
  · dsimp only at rest
    rw [if_pos none_] at rest
    refine ⟨⟨listed.map listedRows, fun _ => none, none⟩, ?_⟩
    rw [evidenceFrom, rows, if_pos none_]
    obtain ⟨e, checked, rfl⟩ | ⟨checkpoint, checked, rest⟩ := ends_lift rest
    · have failed : checkpointOf now checkpointAt = .error e := checked
      rw [checkpointOf_eq] at failed
      exact nomatch failed
    · have known : checkpointOf now checkpointAt = .ok checkpoint := checked
      rw [rest.1, known]
      rfl
  · dsimp only at rest
    rw [if_neg none_] at rest
    obtain ⟨e, measured, rfl⟩ | ⟨⟨moments, checkpoint, bytes⟩, measured, rest⟩ := ends_lift rest
    · refine ⟨⟨listed.map listedRows, fun _ => none, none⟩, ?_⟩
      rw [evidenceFrom, rows, if_neg none_, measured]
      rfl
    obtain ⟨e, picked, rfl⟩ | ⟨current, picked, rest⟩ := ends_lift rest
    · refine ⟨⟨listed.map listedRows, fun _ => none, none⟩, ?_⟩
      rw [evidenceFrom, rows, if_neg none_, measured, picked]
      rfl
    obtain ⟨snapshot, mid', rest⟩ := ends_readSnapshot rest
    obtain ⟨e, counted, rfl⟩ | ⟨⟨tokens, activity⟩, counted, rest⟩ := ends_lift rest
    · refine ⟨⟨listed.map listedRows, fun _ => snapshot, none⟩, ?_⟩
      rw [evidenceFrom, rows, if_neg none_, measured, picked]
      change _ = (snapshotEvidence now (current.bind fun _ => snapshot.bind asObject)) >>= _
      rw [counted]
      rfl
    obtain ⟨status, mid'', rest⟩ := ends_readQueuedMail rest
    refine ⟨⟨listed.map listedRows, fun _ => snapshot, status.map .obj⟩, ?_⟩
    rw [evidenceFrom, rows, if_neg none_, measured, picked]
    change _ = (snapshotEvidence now (current.bind fun _ => snapshot.bind asObject)) >>= _
    rw [counted]
    change _ = (queuedMailOf ⟨listed.map listedRows, fun _ => snapshot, status.map .obj⟩
      (typedMarkers (current.bind fun _ => snapshot.bind asObject))) >>= _
    obtain ⟨e, mail, rfl⟩ | ⟨queued, mail, rest⟩ := rest (listed.map listedRows) fun _ => snapshot
    · rw [mail]
      rfl
    · rw [mail, rest.1]
      rfl

end Program

end SightMesh
