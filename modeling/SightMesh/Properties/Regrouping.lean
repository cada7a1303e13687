import SightMesh.Properties.ExecutionTokens

/-! However the provider's output is cut into stdout records, the same usage is derived. -/
namespace SightMesh.Usage

open Python Framing

variable (loads : Loads) (sourceId : Option String)

/-- The stdout text before the first of the other records, and each of these with the stdout text
between it and the next. -/
def sections : List Json → List Char × List (Json × List Char)
  | [] => ([], [])
  | record :: rest =>
    match stdoutOf record with
    | some text => (text ++ (sections rest).1, (sections rest).2)
    | none => ([], (record, (sections rest).1) :: (sections rest).2)

/-- One of the other records, and then the text that follows it. -/
def View.consumeSection (v : View) (part : Json × List Char) : View :=
  View.consumeStdout loads sourceId (v.1.consumeOther part.1, v.2) part.2

theorem View.foldl_sections (v : View) (records : List Json) :
    records.foldl (View.consume loads sourceId) v =
      (sections records).2.foldl (View.consumeSection loads sourceId)
        (v.consumeStdout loads sourceId (sections records).1) := by
  induction records generalizing v with
  | nil => rfl
  | cons record rest ih =>
    rw [List.foldl_cons, ih, View.consume, sections]
    cases stdoutOf record with
    | some text => simp only [View.consumeStdout, Rule.feed_append]
    | none => simp only [View.consumeStdout, Rule.feed_nil, List.foldl_cons, View.consumeSection]

/-- Two logs whose stdout text is the same between any two of the other records, however it is cut
into records, give the same report. -/
theorem derive_regrouped {records records' : List Json}
    (same : sections records = sections records') :
    derive loads sourceId records = derive loads sourceId records' := by
  rw [derive_eq, derive_eq, View.run, View.run, View.foldl_sections, View.foldl_sections, same]

def wholeRecords : List Json :=
  [.obj [("Stdout", .str (String.ofList (successLine ++ ['\r', '\n'])))], .str "Finished"]

def cutRecords : List Json :=
  [.obj [("Stdout", .str (String.ofList (successLine.take 40)))],
    .obj [("Stdout", .str (String.ofList (successLine.drop 40 ++ ['\r'])))],
    .obj [("Stdout", .str (String.ofList ['\n']))], .str "Finished"]

/-- Both tell of the result, with its count. -/
theorem derive_regrouped_crlf :
    derive readsSuccess (some "e") wholeRecords = derive readsSuccess (some "e") cutRecords ∧
      (derive readsSuccess (some "e") wholeRecords).samples.map (·.tokens.total) = [some 10] := by
  constructor
  · apply derive_regrouped
    have whole : successLine ++ ['\r', '\n'] =
        successLine.take 40 ++ (successLine.drop 40 ++ ['\r', '\n']) := by
      rw [← List.append_assoc, List.take_append_drop]
    simp [sections, stdoutOf, mapping, wholeRecords, cutRecords, whole]
  · decide +kernel

end SightMesh.Usage
