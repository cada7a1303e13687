import SightMesh.Executor.Evidence
import SightMesh.Programs.Scripted

/-! What an executor can answer so that the classification of its session raises: an integer that
no float can hold, in a field that is read. -/
namespace SightMesh

open Python

variable {py : Library} {answers : ExecutorAnswers} {now : Time}

/-! ### What is read -/

/-- The loop over the values comes to a huge integer before it has accepted one. -/
def FirstHuge (accepted : Json → Bool) (values : List Json) : Prop :=
  ∃ before value after, values = before ++ value :: after ∧ hugeInteger value ∧
    ∀ other ∈ before, accepted other = false

theorem meetsHuge_iff {accepted : Json → Bool} {values : List Json} :
    meetsHuge accepted values = true ↔ FirstHuge accepted values := by
  induction values with
  | nil =>
    constructor
    · exact fun met => nomatch met
    · rintro ⟨before, value, after, split, _⟩
      simp at split
  | cons first rest ih =>
    rw [meetsHuge, Bool.or_eq_true, Bool.and_eq_true, Bool.not_eq_true', ih]
    constructor
    · rintro (huge | ⟨refused, before, value, after, rfl, huge, all⟩)
      · exact ⟨[], first, rest, rfl, huge, by simp⟩
      · exact ⟨first :: before, value, after, rfl, huge, by simpa [refused] using all⟩
    · rintro ⟨before, value, after, split, huge, all⟩
      cases before with
      | nil =>
        obtain ⟨rfl, rfl⟩ := List.cons.inj split
        exact .inl huge
      | cons first' before =>
        obtain ⟨rfl, rfl⟩ := List.cons.inj split
        exact .inr ⟨all _ List.mem_cons_self, before, value, after, rfl, huge,
          fun other mem => all other (List.mem_cons_of_mem _ mem)⟩

/-- A row that counts carries a huge integer: among its times before the first plausible one, or as
its output bytes. -/
def HugeRow (py : Library) (now : Time) (row : Dict) : Prop :=
  FirstHuge (fun value => (fieldMoment py value now).isSome) (stampFields.map row.get) ∨
    row.has "output_bytes" ∧ hugeInteger (row.get "output_bytes")

/-- The snapshot carries one: among its token counts before the first that counts, or as its last
activity. -/
def HugeSnapshot (snapshot : Dict) : Prop :=
  FirstHuge (fun value => (counted value).isSome) (tokenCounts snapshot) ∨
    hugeInteger (snapshot.get "last_activity_at")

/-- The queue status carries one, among its depths before the first that answers. -/
def HugeQueue (status : Dict) : Prop :=
  FirstHuge (fun value => (mailDepth value).isSome) (queueFields.map status.get)

/-- A huge integer stands in a field that is read: of an eligible row, of the snapshot of the
current execution, or of the queue status where the turn has ended. -/
def ReadsHuge (py : Library) (answers : ExecutorAnswers) (now : Time) : Prop :=
  (∃ row ∈ eligibleRows answers.processes, HugeRow py now row) ∨
    (∃ snapshot, snapshotRead py answers now = some snapshot ∧ HugeSnapshot snapshot) ∨
    ∃ status, queueRead answers (snapshotRead py answers now) = some status ∧ HugeQueue status

theorem gatheringRaises_iff : gatheringRaises py answers now = true ↔ ReadsHuge py answers now := by
  unfold gatheringRaises ReadsHuge
  rw [Bool.or_eq_true, Bool.or_eq_true, or_assoc]
  refine or_congr ?_ (or_congr ?_ ?_)
  · simp only [List.any_eq_true, rowRaises, stampRaises, bytesRaise, HugeRow, Bool.or_eq_true,
      Bool.and_eq_true, meetsHuge_iff]
  · simp only [Option.any_eq_true, snapshotRaises, tokensRaise, HugeSnapshot, Bool.or_eq_true,
      meetsHuge_iff]
  · simp only [Option.any_eq_true, queueRaises, HugeQueue, meetsHuge_iff]

/-! ### The payload -/

mutual

def strict : Json → Bool
  | .num .nan | .num (.infinity _) => false
  | .arr items => strictItems items
  | .obj fields => strictFields fields
  | _ => true

def strictItems : List Json → Bool
  | [] => true
  | value :: rest => strict value && strictItems rest

def strictFields : List (String × Json) → Bool
  | [] => true
  | (_, value) :: rest => strict value && strictFields rest

end

def strictDumps (py : Library) (value : Json) : Answer String :=
  if strict value then .ok (py.dumps value)
  else .error (.value "Out of range float values are not JSON compliant")

def Finding.body (finding : Finding) : Json :=
  let seconds := fun (value : Option Time) => match value with
    | some q => Json.num (.finite q)
    | none => Json.null
  .obj ([
    ("confidence", .str finding.evidence.confidence),
    ("sources", .arr (finding.evidence.sources.map .str)),
    ("silent_for", seconds (finding.evidence.silentFor finding.now)),
    ("observed", .bool finding.evidence.observed),
    ("process_alive", .bool finding.evidence.processAlive),
    ("stream_alive", match finding.evidence.streamAlive with | some b => .bool b | none => .null),
    ("output_growing", .bool finding.evidence.outputGrowing),
    ("turns", .num (.int finding.evidence.turns)),
    ("tokens", .num (.int finding.evidence.tokens)),
    ("cost", .null),
    ("reason", .str finding.reason.name)] ++
    if finding.overBudget then [("over_budget", .bool true)] else [])

theorem Finding.payload_eq (finding : Finding) : finding.payload py = py.dumps finding.body := rfl

theorem Finding.body_strict (finding : Finding) : strict finding.body = true := by
  have texts (sources : List String) : strictItems (sources.map .str) = true := by
    induction sources with
    | nil => rfl
    | cons source rest ih => exact ih
  unfold Finding.body
  simp only [strict, List.cons_append, List.nil_append, strictFields, texts, Bool.true_and]
  cases finding.evidence.silentFor finding.now with
  | none =>
    cases finding.evidence.streamAlive with
    | none => cases finding.overBudget <;> rfl
    | some alive => cases finding.overBudget <;> rfl
  | some silent =>
    cases finding.evidence.streamAlive with
    | none => cases finding.overBudget <;> rfl
    | some alive => cases finding.overBudget <;> rfl

/-- `Finding.payload`, where a number that JSON has not would raise. -/
def Finding.strictPayload (py : Library) (finding : Finding) : Answer String :=
  strictDumps py finding.body

/-- The finding of a pass: the evidence gathered, classified and held against the budget. -/
def findingFrom (py : Library) (answers : ExecutorAnswers) (now : Time)
    (checkpointAt : Option Time) (previousOutputBytes : Option ℕ) (policy : DetectionPolicy) :
    Answer Finding := do
  let evidence ← evidenceFrom py answers now checkpointAt previousOutputBytes
  return ⟨classify evidence now policy, evidence, now, overBudget evidence policy.budget⟩

def hugeRow : Json := .obj [("id", .str "p"), ("updated_at", .num (.int (2 ^ 1024)))]

end SightMesh
