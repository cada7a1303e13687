import Mathlib.Data.List.Perm.Subperm
import SightMesh.Properties.Redaction

/-! What the redaction of a structure leaves of its texts, beside what the redaction of prose leaves
of them. -/
namespace SightMesh.Escalation

open Python Pattern

/-! ### Where the characters of a text go -/

/-- Characters with their places in the text that was given; one that a substitution wrote has
none. -/
abbrev Traced := List (Char × Option ℕ)

def traced (text : List Char) : Traced := text.zipIdx.map fun (c, i) => (c, some i)

def Traced.chars (t : Traced) : List Char := t.map Prod.fst

def Traced.places (t : Traced) : List ℕ := t.filterMap Prod.snd

def written (mark : List Char) : Traced := mark.map fun c => (c, none)

/-- A substitution, and how many characters of a match stand before its credential. -/
structure Remover where
  redaction : Redaction
  before : Match → ℕ

/-- The first group stays, the rest of a match is written anew. Beside the text that comes of it,
the places of the credentials that are gone. -/
def Remover.follow (r : Remover) : List Piece → Traced → Traced × List ℕ
  | [], _ => ([], [])
  | .kept _ :: pieces, t =>
    let rest := r.follow pieces (t.drop 1)
    (t.take 1 ++ rest.1, rest.2)
  | .hit found :: pieces, t =>
    let here := t.take found.text.length
    let rest := r.follow pieces (t.drop found.text.length)
    let stays := (group found 1).length
    (here.take stays ++ written ((r.redaction.template found).drop stays) ++ rest.1,
      Traced.places (here.drop (r.before found)) ++ rest.2)

def Remover.pass (r : Remover) (t : Traced) : Traced × List ℕ :=
  r.follow (r.redaction.pattern.pieces 0 [] t.chars) t

def passes : List Remover → Traced → Traced × List ℕ
  | [], t => (t, [])
  | r :: rest, t =>
    let after := passes rest (r.pass t).1
    (after.1, (r.pass t).2 ++ after.2)

/-- A match starts with its first group, and so does what it is replaced with. -/
def Remover.Reads (r : Remover) : Prop :=
  ∀ past rest found, r.redaction.pattern.matchAt ⟨past, rest⟩ = some found →
    found.text ≠ [] ∧ (∃ after, rest = found.text ++ after) ∧
      (∃ mark, r.redaction.template found = group found 1 ++ mark) ∧
      (∃ more, found.text = group found 1 ++ more) ∧ (group found 1).length ≤ r.before found

@[simp] theorem Traced.chars_append (t u : Traced) :
    Traced.chars (t ++ u) = t.chars ++ u.chars := List.map_append

@[simp] theorem Traced.places_append (t u : Traced) :
    Traced.places (t ++ u) = t.places ++ u.places := List.filterMap_append

@[simp] theorem chars_written (mark : List Char) : (written mark).chars = mark := by
  simp [Traced.chars, written, Function.comp_def]

@[simp] theorem places_written (mark : List Char) : (written mark).places = [] := by
  simp [Traced.places, written]

theorem Remover.follow_kept (r : Remover) (c : Char) (pieces : List Piece) (x : Char × Option ℕ)
    (t : Traced) :
    r.follow (.kept c :: pieces) (x :: t) =
      ([x] ++ (r.follow pieces t).1, (r.follow pieces t).2) := by
  simp [Remover.follow]

theorem Remover.follow_hit (r : Remover) (found : Match) (pieces : List Piece) {here : Traced}
    (length : here.length = found.text.length) (later : Traced) :
    r.follow (.hit found :: pieces) (here ++ later) =
      (here.take (group found 1).length ++
          written ((r.redaction.template found).drop (group found 1).length) ++
          (r.follow pieces later).1,
        Traced.places (here.drop (r.before found)) ++ (r.follow pieces later).2) := by
  rw [Remover.follow, ← length, List.take_left, List.drop_left]

theorem take_drop_sublist {α : Type} {k b : ℕ} (within : k ≤ b) (xs : List α) :
    (xs.take k ++ xs.drop b).Sublist xs := by
  have rest : (xs.drop b).Sublist (xs.drop k) := by
    rw [← Nat.add_sub_cancel' within, ← List.drop_drop]
    exact List.drop_sublist _ _
  calc (xs.take k ++ xs.drop b).Sublist (xs.take k ++ xs.drop k) := rest.append_left _
    _ = xs := List.take_append_drop k xs

/-- The traced substitution writes what the substitution writes, and each place is in what comes of
it, or gone with a credential, or neither. -/
theorem Remover.Reads.follow {r : Remover} (reads : r.Reads) (past : List Char) (t : Traced) :
    let after := r.follow (r.redaction.pattern.pieces 0 past t.chars) t
    Traced.chars after.1 = r.redaction.pattern.replaced r.redaction.template past t.chars ∧
      (Traced.places after.1 ++ after.2).Subperm t.places := by
  induction size : t.length using Nat.strongRecOn generalizing past t with
  | ind n ih =>
    cases t with
    | nil => exact ⟨rfl, List.Subperm.refl _⟩
    | cons x t =>
      cases read : r.redaction.pattern.matchAt ⟨past, Traced.chars (x :: t)⟩ with
      | none =>
        have first : Traced.chars (x :: t) = x.1 :: Traced.chars t := rfl
        rw [first] at read ⊢
        obtain ⟨chars, places⟩ := ih t.length (by simp [← size]) (x.1 :: past) t rfl
        rw [replaced, pieces_kept read, r.follow_kept]
        constructor
        · rw [Traced.chars_append, chars]
          rfl
        · have split : Traced.places (x :: t) = Traced.places [x] ++ Traced.places t :=
            Traced.places_append [x] t
          rw [split, Traced.places_append, List.append_assoc]
          exact (List.subperm_append_left (Traced.places [x])).mpr places
      | some found =>
        obtain ⟨some_, ⟨after, rest⟩, ⟨mark, template⟩, ⟨more, text⟩, within⟩ := reads _ _ _ read
        generalize x :: t = whole at *
        let here : Traced := whole.take found.text.length
        let later : Traced := whole.drop found.text.length
        have split : whole = here ++ later := (List.take_append_drop _ _).symm
        have hereChars : here.chars = found.text := by
          rw [Traced.chars, List.map_take]
          exact (congrArg (List.take _) rest).trans List.take_left
        have length : here.length = found.text.length := by
          rw [← hereChars, Traced.chars, List.length_map]
        rw [split, Traced.chars_append, hereChars] at read ⊢
        have shorter : later.length < n := by
          rw [← size, split, List.length_append, length]
          exact Nat.lt_add_of_pos_left (List.length_pos_iff.mpr some_)
        obtain ⟨chars, places⟩ := ih _ shorter (found.text.reverse ++ past) later rfl
        rw [replaced, pieces_hit read some_, r.follow_hit _ _ length]
        constructor
        · have stays : Traced.chars (here.take (group found 1).length) = group found 1 := by
            rw [Traced.chars, List.map_take]
            exact (congrArg (List.take _) (hereChars.trans text)).trans List.take_left
          rw [Traced.chars_append, Traced.chars_append, stays, chars_written, template,
            List.drop_left, chars, List.flatMap_cons, Piece.fill, template]
          rfl
        · have ends := (take_drop_sublist within here).filterMap Prod.snd
          rw [List.filterMap_append] at ends
          rw [Traced.places_append, Traced.places_append, places_written, List.append_nil,
            Traced.places_append, List.append_assoc]
          refine List.Subperm.trans ?_ (ends.subperm.append places)
          dsimp only
          rw [List.append_assoc]
          exact ((List.perm_append_comm_assoc _ _ _).append_left _).subperm

theorem Remover.Reads.chars_pass {r : Remover} (reads : r.Reads) (t : Traced) :
    (r.pass t).1.chars = r.redaction.sub t.chars := (reads.follow [] t).1

theorem Remover.Reads.places_pass {r : Remover} (reads : r.Reads) (t : Traced) :
    ((r.pass t).1.places ++ (r.pass t).2).Subperm t.places := (reads.follow [] t).2

variable {removers : List Remover}

theorem chars_passes (read : ∀ r ∈ removers, r.Reads) (t : Traced) :
    (passes removers t).1.chars = applyAll (removers.map Remover.redaction) t.chars := by
  induction removers generalizing t with
  | nil => rfl
  | cons r rest ih =>
    rw [List.forall_mem_cons] at read
    rw [passes, ih read.2, read.1.chars_pass]
    rfl

theorem places_passes (read : ∀ r ∈ removers, r.Reads) (t : Traced) :
    ((passes removers t).1.places ++ (passes removers t).2).Subperm t.places := by
  induction removers generalizing t with
  | nil =>
    rw [passes, List.append_nil]
  | cons r rest ih =>
    rw [List.forall_mem_cons] at read
    have later := (List.subperm_append_right (r.pass t).2).mpr (ih read.2 (r.pass t).1)
    rw [passes]
    refine List.Subperm.trans ?_ (later.trans (read.1.places_pass t))
    rw [List.append_assoc]
    exact (List.perm_append_comm.append_left _).subperm

theorem passes_append (removers more : List Remover) (t : Traced) :
    passes (removers ++ more) t =
      ((passes more (passes removers t).1).1,
        (passes removers t).2 ++ (passes more (passes removers t).1).2) := by
  induction removers generalizing t with
  | nil => rfl
  | cons r rest ih =>
    rw [List.cons_append, passes, ih, passes, List.append_assoc]

theorem chars_traced (text : List Char) : (traced text).chars = text := by
  simp [traced, Traced.chars, Function.comp_def]

theorem places_traced (text : List Char) : (traced text).places.Nodup := by
  have places : (traced text).places = text.zipIdx.map Prod.snd := by
    simp [traced, Traced.places, List.filterMap_map]
  rw [places, List.zipIdx_map_snd]
  exact List.nodup_range'

/-! ### The substitutions of the redaction -/

def blanksAfter (found : Match) : ℕ :=
  ((found.text.drop (group found 1).length).takeWhile isSpace).length

def separatorAfter (found : Match) : ℕ :=
  let rest := found.text.drop ((group found 1).length + blanksAfter found + 1)
  blanksAfter found + 1 + (rest.takeWhile isSpace).length

/-- The four substitutions that every text goes through. -/
def Redactor.inlineRemovers (lib : Redactor) : List Remover :=
  [{ redaction := urlUserinfo lib, before := fun found => (group found 1).length },
    { redaction := schemes lib, before := fun found => (group found 1).length + blanksAfter found },
    { redaction := prefixedTokens, before := fun _ => 0 },
    { redaction := dottedTokens, before := fun _ => 0 }]

/-- The two that only prose goes through. -/
def Redactor.lineRemovers (lib : Redactor) : List Remover :=
  [{ redaction := headers lib,
     before := fun found => (group found 1).length + separatorAfter found },
    { redaction := assignments lib,
      before := fun found => (group found 1).length + separatorAfter found }]

variable {lib : Redactor}

theorem Redactor.inlineRemovers_read (lib : Redactor) : ∀ r ∈ lib.inlineRemovers, r.Reads := by
  simp only [Redactor.inlineRemovers, List.forall_mem_cons, List.not_mem_nil, false_implies,
    implies_true, and_true]
  refine ⟨?_, ?_, ?_, ?_⟩
  · intro past rest found read
    obtain ⟨scheme, user, after, rfl, _, _, rfl⟩ := urlUserinfo_found read
    exact ⟨by simp, ⟨after, by simp⟩, ⟨['*', '*', '*', '@'], rfl⟩,
      ⟨user ++ ['@'], List.append_assoc _ _ _⟩, le_rfl⟩
  · intro past rest found read
    obtain ⟨w, blanks, value, after, rfl, _, _, _, some_, _, rfl⟩ := schemes_found read
    exact ⟨by simp [some_], ⟨after, by simp⟩, ⟨' ' :: redactedMark, rfl⟩,
      ⟨blanks ++ value, List.append_assoc _ _ _⟩, Nat.le_add_right _ _⟩
  · intro past rest found read
    obtain ⟨_, first, more, after, rfl, _, rfl⟩ := prefixedTokens_found read
    exact ⟨by simp, ⟨after, by simp⟩, ⟨_, rfl⟩, ⟨_, rfl⟩, le_rfl⟩
  · intro past rest found read
    obtain ⟨_, front, more, after, rfl, _, _, rfl⟩ := dottedTokens_found read
    exact ⟨by simp, ⟨after, by simp⟩, ⟨_, rfl⟩, ⟨_, rfl⟩, le_rfl⟩

theorem Redactor.lineRemovers_read (lib : Redactor) : ∀ r ∈ lib.lineRemovers, r.Reads := by
  simp only [Redactor.lineRemovers, List.forall_mem_cons, List.not_mem_nil, false_implies,
    implies_true, and_true]
  constructor
  · intro past rest found read
    obtain ⟨w, blanks, more, line, after, rfl, _, _, _, _, _, rfl⟩ := headers_found read
    exact ⟨by simp, ⟨after, by simp⟩, ⟨':' :: ' ' :: redactedMark, rfl⟩,
      ⟨blanks ++ ':' :: more ++ line, by simp [group]⟩, Nat.le_add_right _ _⟩
  · intro past rest found read
    obtain ⟨w, blanks, sep, more, value, after, rfl, _, _, _, _, _, rfl⟩ := assignments_found read
    exact ⟨by simp, ⟨after, by simp⟩, ⟨sep :: ' ' :: redactedMark, List.append_assoc w [sep] _⟩,
      ⟨blanks ++ sep :: more ++ value, by simp [group]⟩, Nat.le_add_right _ _⟩

def Redactor.inline (lib : Redactor) (text : String) : Traced × List ℕ :=
  passes lib.inlineRemovers (traced text.toList)

def Redactor.prose (lib : Redactor) (text : String) : Traced × List ℕ :=
  passes (lib.inlineRemovers ++ lib.lineRemovers) (traced text.toList)

theorem left_chars (text : String) :
    (lib.inline text).1.chars = (lib.redactString text none).toList ∧
      (lib.prose text).1.chars = (lib.redactProse text).toList := by
  constructor
  · rw [Redactor.inline, chars_passes lib.inlineRemovers_read, chars_traced]
    simp [Redactor.redactString, Redactor.inlineRedactions, Redactor.inlineRemovers]
  · have read : ∀ r ∈ lib.inlineRemovers ++ lib.lineRemovers, r.Reads :=
      List.forall_mem_append.mpr ⟨lib.inlineRemovers_read, lib.lineRemovers_read⟩
    rw [Redactor.prose, chars_passes read, chars_traced]
    simp [Redactor.redactProse, Redactor.redactString, Redactor.inlineRedactions,
      Redactor.inlineRemovers, Redactor.lineRemovers, applyAll]

/-! ### Texts in structures -/

/-- The value at a place, by the numbers of the fields and items that lead there. -/
def valueAt : Json → List ℕ → Option Json
  | payload, [] => some payload
  | .obj fields, i :: path => fields[i]?.bind fun field => valueAt field.2 path
  | .arr items, i :: path => items[i]?.bind fun item => valueAt item path
  | _, _ :: _ => none

def Redactor.coveredAt (lib : Redactor) : Json → List ℕ → Bool
  | .obj fields, i :: path =>
    fields[i]?.any fun field => lib.secretKey field.1 || lib.coveredAt field.2 path
  | .arr items, i :: path => items[i]?.any fun item => lib.coveredAt item path
  | _, _ => false

theorem redactFields_eq_map (fields : List (String × Json)) :
    lib.redactFields fields = fields.map fun field =>
      (field.1, if lib.secretKey field.1 then .str "[REDACTED]"
        else lib.redactStructured (some field.1) field.2) := by
  induction fields with
  | nil => rfl
  | cons field rest ih =>
    rw [Redactor.redactFields, ih, List.map_cons]

theorem redactItems_eq_map (key : Option String) (items : List Json) :
    lib.redactItems key items = items.map (lib.redactStructured key) := by
  induction items with
  | nil => rfl
  | cons item rest ih => rw [Redactor.redactItems, ih, List.map_cons]

theorem valueAt_redactStructured {payload : Json} {path : List ℕ} {text : String}
    {key : Option String} (plain : key.any lib.secretKey = false)
    (found : valueAt payload path = some (.str text)) :
    if lib.coveredAt payload path then
      ∀ s, valueAt (lib.redactStructured key payload) path = some (.str s) → s = "[REDACTED]"
    else
      valueAt (lib.redactStructured key payload) path = some (.str (lib.redactString text none)) := by
  induction path generalizing payload key with
  | nil =>
    cases Option.some.inj found
    have uncovered : lib.coveredAt (.str text) [] = false := by
      rw [Redactor.coveredAt] <;> simp
    rw [uncovered, if_neg Bool.false_ne_true, valueAt, Redactor.redactStructured]
    simp [plain, Redactor.redactString]
  | cons i path ih =>
    cases payload with
    | obj fields =>
      rw [valueAt] at found
      obtain ⟨field, listed, found⟩ := Option.bind_eq_some_iff.mp found
      rw [Redactor.coveredAt, listed, Option.any_some, Redactor.redactStructured, valueAt,
        redactFields_eq_map, List.getElem?_map, listed, Option.map_some, Option.bind_some]
      dsimp only
      cases secret : lib.secretKey field.1 with
      | true =>
        rw [Bool.true_or, if_pos rfl, if_pos rfl]
        intro s written
        cases path with
        | nil =>
          cases Option.some.inj written
          rfl
        | cons j path => simp [valueAt] at written
      | false =>
        have plain' : (some field.1).any lib.secretKey = false := secret
        simp only [Bool.false_or, Bool.false_eq_true, if_false]
        exact ih plain' found
    | arr items =>
      rw [valueAt] at found
      obtain ⟨item, listed, found⟩ := Option.bind_eq_some_iff.mp found
      rw [Redactor.coveredAt, listed, Option.any_some, Redactor.redactStructured, valueAt,
        redactItems_eq_map, List.getElem?_map, listed, Option.map_some, Option.bind_some]
      exact ih plain found
    | _ => simp [valueAt] at found

/-! ### Spans of credentials -/

theorem toList_mark : "[REDACTED]".toList = redactedMark := by decide +kernel

/-- What becomes visible of the text at a place of a structure. -/
def Redactor.shown (lib : Redactor) (payload : Json) (path : List ℕ) (text : String) : Traced :=
  if lib.coveredAt payload path then written redactedMark else (lib.inline text).1

/-- Every character of a credential that prose loses is gone from the text in the structure. -/
def Redactor.Hides (lib : Redactor) (payload : Json) (path : List ℕ) (text : String) : Prop :=
  ∀ i ∈ (lib.prose text).2, i ∉ (lib.shown payload path text).places

/-- The patterns for headers and for assignments find no credential in what the other four leave of
the text, but for what these have written. -/
def Redactor.InlineSuffices (lib : Redactor) (text : String) : Prop :=
  (passes lib.lineRemovers (lib.inline text).1).2 = []

instance (text : String) : Decidable (lib.InlineSuffices text) :=
  inferInstanceAs (Decidable (_ = _))

theorem hides_iff (payload : Json) (path : List ℕ) (text : String) :
    lib.Hides payload path text ↔ lib.coveredAt payload path = true ∨ lib.InlineSuffices text := by
  have gone : (lib.prose text).2 =
      (lib.inline text).2 ++ (passes lib.lineRemovers (lib.inline text).1).2 := by
    rw [Redactor.prose, passes_append]
    rfl
  rw [Redactor.Hides, gone, Redactor.shown]
  cases lib.coveredAt payload path with
  | true =>
    rw [if_pos rfl, places_written]
    exact iff_of_true (fun _ _ => List.not_mem_nil) (.inl rfl)
  | false =>
    rw [if_neg nofun, or_iff_right nofun, Redactor.InlineSuffices]
    constructor
    · intro hides
      apply List.eq_nil_iff_forall_not_mem.mpr
      intro i removed
      have later := places_passes lib.lineRemovers_read (lib.inline text).1
      exact hides i (List.mem_append_right _ removed)
        (later.subset (List.mem_append_right _ removed))
    · intro none_ i removed shows
      rw [none_, List.append_nil] at removed
      obtain ⟨ordered, perm, sub⟩ :=
        places_passes (lib.inlineRemovers_read) (traced text.toList)
      have nodup := perm.nodup_iff.mp (sub.nodup (places_traced text.toList))
      exact (List.nodup_append.mp nodup).2.2 i shows i removed rfl

/-- What `redact_credentials` returns for a structure, given as a value or as a text, what becomes of
the text at a place of it, and when that hides all that prose would. -/
theorem redactCredentials_hides_iff {payload : Json} (structured : IsStructure payload)
    {path : List ℕ} {text : String} (found : valueAt payload path = some (.str text)) :
    let out := lib.redactStructured none payload
    lib.redactPayload payload = .ok out ∧
      (∀ given, lib.loads given = .value payload →
        lib.redactPayload (.str given) = (lib.dumps out).map .str) ∧
      (∀ s, valueAt out path = some (.str s) → s.toList = (lib.shown payload path text).chars) ∧
      (lib.Hides payload path text ↔
        lib.coveredAt payload path = true ∨ lib.InlineSuffices text) := by
  refine ⟨?_, ?_, ?_, hides_iff payload path text⟩
  · cases payload with
    | obj fields => rfl
    | arr items => rfl
    | _ => exact structured.elim
  · intro given loaded
    cases payload with
    | obj fields => rw [Redactor.redactPayload, Redactor.redactCredentials, loaded]
    | arr items => rw [Redactor.redactPayload, Redactor.redactCredentials, loaded]
    | _ => exact structured.elim
  · intro s shows
    have plain : (none : Option String).any lib.secretKey = false := rfl
    have left := valueAt_redactStructured plain found
    rw [Redactor.shown]
    cases covered : lib.coveredAt payload path with
    | true =>
      rw [covered, if_pos rfl] at left
      rw [left s shows, if_pos rfl, chars_written, toList_mark]
    | false =>
      rw [covered, if_neg Bool.false_ne_true, shows] at left
      have same : s = lib.redactString text none := Json.str.inj (Option.some.inj left)
      rw [if_neg Bool.false_ne_true, (left_chars text).1, same]

/-! A note that is given inside of an object. -/

def note (text : String) : Json := .obj [("note", .str text)]

theorem bearer_note_hides : asciiRedactor.Hides (note "Bearer abc") [0] "Bearer abc" := by
  have read :=
    @redactCredentials_hides_iff asciiRedactor (note "Bearer abc") trivial [0] "Bearer abc" rfl
  exact read.2.2.2.mpr (.inr (by decide +kernel))

theorem password_note_not_hides :
    ¬ asciiRedactor.Hides (note "password=hunter2") [0] "password=hunter2" := by
  rw [hides_iff]
  decide +kernel

end SightMesh.Escalation
