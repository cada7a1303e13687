import Mathlib.Data.List.Basic

/-! Regular expressions as Python's `re` runs them: a backtracking search that tries the longest
repetition and the first alternative first, and substitution over the matches from left to right.
A repetition is of one class of characters. -/
namespace Python

inductive Pattern where
  /-- A test of the characters before and after, which reads nothing: `\b`, `(?<!…)`, `(?!…)`. -/
  | edge (test : Option Char → Option Char → Bool)
  | one (among : Char → Bool)
  /-- `[…]*`, `[…]+`, `[…]{8,}`. -/
  | many (among : Char → Bool) (least : ℕ)
  | seq (first second : Pattern)
  | alt (first second : Pattern)
  | group (inner : Pattern)

structure Cursor where
  past : List Char
  rest : List Char

namespace Cursor

/-- The text between two places. -/
def upTo (c later : Cursor) : List Char := c.rest.take (c.rest.length - later.rest.length)

theorem upTo_eq {past rest past' after text : List Char} (same : rest = text ++ after) :
    (⟨past, rest⟩ : Cursor).upTo ⟨past', after⟩ = text := by
  simp [upTo, same]

end Cursor

structure Match where
  text : List Char
  groups : List (List Char)

namespace Pattern

variable {β : Type}

/-- The longest run first, then one character less at a time. -/
def runMany (among : Char → Bool) (next : Cursor → Option β) : ℕ → List Char → List Char → Option β
  | least, past, [] => if least = 0 then next ⟨past, []⟩ else none
  | least, past, c :: rest =>
    (if among c then runMany among next (least - 1) (c :: past) rest else none).or
      (if least = 0 then next ⟨past, c :: rest⟩ else none)

def run : Pattern → Cursor → List (List Char) → (Cursor → List (List Char) → Option β) → Option β
  | edge test, c, groups, next => if test c.past.head? c.rest.head? then next c groups else none
  | one among, c, groups, next =>
    match c.rest with
    | [] => none
    | x :: rest => if among x then next ⟨x :: c.past, rest⟩ groups else none
  | many among least, c, groups, next => runMany among (next · groups) least c.past c.rest
  | seq first second, c, groups, next =>
    first.run c groups fun later groups => second.run later groups next
  | alt first second, c, groups, next => (first.run c groups next).or (second.run c groups next)
  | group inner, c, groups, next =>
    inner.run c groups fun later groups => next later (groups ++ [c.upTo later])

/-- `pattern.match` at a place. -/
def matchAt (pattern : Pattern) (c : Cursor) : Option Match :=
  pattern.run c [] fun later groups => some ⟨c.upTo later, groups⟩

inductive Piece where
  | kept (c : Char)
  | hit (found : Match)

/-- What a search from left to right makes of a text, where `skip` characters belong to the last
match. For patterns that match no empty text. -/
def pieces (pattern : Pattern) : ℕ → List Char → List Char → List Piece
  | _, _, [] => []
  | skip + 1, past, c :: rest => pieces pattern skip (c :: past) rest
  | 0, past, c :: rest =>
    match pattern.matchAt ⟨past, c :: rest⟩ with
    | none => .kept c :: pieces pattern 0 (c :: past) rest
    | some found => .hit found :: pieces pattern (found.text.length - 1) (c :: past) rest

def Piece.fill (template : Match → List Char) : Piece → List Char
  | kept c => [c]
  | hit found => template found

def Piece.found : Piece → Option Match
  | kept _ => none
  | hit found => some found

/-- The matches from a place on. -/
def matches' (pattern : Pattern) (past rest : List Char) : List Match :=
  (pattern.pieces 0 past rest).filterMap Piece.found

/-- The text from a place on, with each match replaced. -/
def replaced (pattern : Pattern) (template : Match → List Char) (past rest : List Char) :
    List Char :=
  (pattern.pieces 0 past rest).flatMap (Piece.fill template)

def finditer (pattern : Pattern) (text : List Char) : List Match := pattern.matches' [] text

def sub (pattern : Pattern) (template : Match → List Char) (text : List Char) : List Char :=
  pattern.replaced template [] text

/-! ### What a search that succeeds has read -/

section Inversion

variable {next : Cursor → List (List Char) → Option β} {groups : List (List Char)} {out : β}
  {among : Char → Bool} {least : ℕ} {past rest : List Char}

theorem runMany_some {next : Cursor → Option β}
    (found : runMany among next least past rest = some out) :
    ∃ text after, rest = text ++ after ∧ (∀ x ∈ text, among x) ∧ least ≤ text.length ∧
      next ⟨text.reverse ++ past, after⟩ = some out := by
  induction rest generalizing least past with
  | nil =>
    rw [runMany] at found
    split at found
    · exact ⟨[], [], rfl, by simp, by omega, found⟩
    · cases found
  | cons c rest ih =>
    rw [runMany, Option.or_eq_some_iff] at found
    obtain longer | ⟨_, here⟩ := found
    · split at longer
      · rename_i fits
        obtain ⟨text, after, rfl, all, enough, through⟩ := ih longer
        refine ⟨c :: text, after, rfl, ?_, ?_, by simpa using through⟩
        · simpa [fits] using all
        · simp
          omega
      · cases longer
    · split at here
      · exact ⟨[], c :: rest, rfl, by simp, by omega, here⟩
      · cases here

theorem runMany_through {next : Cursor → Option β} (through : ∀ c, (next c).isSome)
    (past rest : List Char) : (runMany among next 0 past rest).isSome := by
  induction rest generalizing past with
  | nil => simpa [runMany] using through _
  | cons c rest ih => simp [runMany, through]

/-- Where whatever follows goes through, a repetition ends before a character that is not of its
class. -/
theorem runMany_greedy {next : Cursor → Option β} (through : ∀ c, (next c).isSome)
    (found : runMany among next least past rest = some out) :
    ∃ text after, rest = text ++ after ∧ (∀ x ∈ text, among x) ∧ least ≤ text.length ∧
      (∀ x ∈ after.head?, among x = false) ∧ next ⟨text.reverse ++ past, after⟩ = some out := by
  induction rest generalizing least past with
  | nil =>
    rw [runMany] at found
    split at found
    · exact ⟨[], [], rfl, by simp, by omega, by simp, found⟩
    · cases found
  | cons c rest ih =>
    rw [runMany, Option.or_eq_some_iff] at found
    obtain longer | ⟨short, here⟩ := found
    · split at longer
      · rename_i fits
        obtain ⟨text, after, rfl, all, enough, ends, there⟩ := ih longer
        refine ⟨c :: text, after, rfl, ?_, ?_, ends, by simpa using there⟩
        · simpa [fits] using all
        · simp
          omega
      · cases longer
    · split at here
      · rename_i done
        refine ⟨[], c :: rest, rfl, by simp, by omega, ?_, here⟩
        rintro x ⟨⟩
        by_contra fits
        rw [Bool.not_eq_false] at fits
        have more : (runMany among next 0 (c :: past) rest).isSome :=
          runMany_through through (c :: past) rest
        subst done
        rw [if_pos fits] at short
        simp [short] at more
      · cases here

theorem run_edge {test : Option Char → Option Char → Bool} {c : Cursor}
    (found : (edge test).run c groups next = some out) :
    test c.past.head? c.rest.head? ∧ next c groups = some out := by
  rw [run] at found
  split at found
  · exact ⟨‹_›, found⟩
  · cases found

theorem run_one (found : (one among).run ⟨past, rest⟩ groups next = some out) :
    ∃ x after, rest = x :: after ∧ among x ∧ next ⟨x :: past, after⟩ groups = some out := by
  cases rest with
  | nil => cases found
  | cons x after =>
    simp only [run] at found
    split at found
    · exact ⟨x, after, rfl, ‹_›, found⟩
    · cases found

theorem run_many (found : (many among least).run ⟨past, rest⟩ groups next = some out) :
    ∃ text after, rest = text ++ after ∧ (∀ x ∈ text, among x) ∧ least ≤ text.length ∧
      next ⟨text.reverse ++ past, after⟩ groups = some out :=
  runMany_some found

theorem run_alt {first second : Pattern} {c : Cursor}
    (found : (alt first second).run c groups next = some out) :
    first.run c groups next = some out ∨ second.run c groups next = some out := by
  rw [run, Option.or_eq_some_iff] at found
  exact found.imp_right And.right

end Inversion

/-! ### Substitution -/

section Substitution

variable {pattern : Pattern} {template : Match → List Char} {past rest : List Char} {c : Char}

theorem pieces_skip (pattern : Pattern) (past text rest : List Char) :
    pattern.pieces text.length past (text ++ rest) =
      pattern.pieces 0 (text.reverse ++ past) rest := by
  induction text generalizing past with
  | nil => rfl
  | cons c text ih => simp [pieces, ih]

/-- The pieces after a match are those from the place where it ends. -/
theorem pieces_hit {found : Match} (here : pattern.matchAt ⟨past, found.text ++ rest⟩ = some found)
    (reads : found.text ≠ []) :
    pattern.pieces 0 past (found.text ++ rest) =
      .hit found :: pattern.pieces 0 (found.text.reverse ++ past) rest := by
  cases text : found.text with
  | nil => exact absurd text reads
  | cons c tail =>
    rw [text] at here
    simp only [List.cons_append, pieces] at here ⊢
    rw [here]
    simp [text, pieces_skip]

theorem pieces_kept (missed : pattern.matchAt ⟨past, c :: rest⟩ = none) :
    pattern.pieces 0 past (c :: rest) = .kept c :: pattern.pieces 0 (c :: past) rest := by
  simp [pieces, missed]

/-- What a search from a place on comes to: every match is what it is replaced with and the text
stays, or the text is changed, and is first changed at a place with `changes`. -/
theorem replaced_cases (changes : List Char → List Char → List Char → Prop)
    (step : ∀ past rest found, pattern.matchAt ⟨past, rest⟩ = some found →
      found.text ≠ [] ∧ ∃ after, rest = found.text ++ after ∧
        (template found = found.text ∨
          ∃ mid old new, found.text ++ after = mid ++ old ∧
            template found ++ pattern.replaced template (found.text.reverse ++ past) after =
              mid ++ new ∧ changes (mid.reverse ++ past) old new))
    (past rest : List Char) :
    ((∀ found ∈ pattern.matches' past rest, template found = found.text) ∧
        pattern.replaced template past rest = rest) ∨
      ∃ mid old new, rest = mid ++ old ∧ pattern.replaced template past rest = mid ++ new ∧
        changes (mid.reverse ++ past) old new := by
  induction total : rest.length using Nat.strongRecOn generalizing past rest with
  | ind size ih =>
    cases rest with
    | nil => exact .inl ⟨by simp [matches', pieces], rfl⟩
    | cons c rest =>
      cases here : pattern.matchAt ⟨past, c :: rest⟩ with
      | none =>
        have kept := pieces_kept here
        obtain ⟨all, stays⟩ | ⟨mid, old, new, split, changed, how⟩ :=
          ih rest.length (by simp [← total]) (c :: past) rest rfl
        · left
          constructor
          · simpa [matches', kept, Piece.found] using all
          · simpa [replaced, kept, Piece.fill] using stays
        · right
          refine ⟨c :: mid, old, new, by simp [split], ?_, by simpa using how⟩
          simpa [replaced, kept, Piece.fill] using changed
      | some found =>
        obtain ⟨reads, after, split, first⟩ := step past (c :: rest) found here
        rw [split] at here ⊢
        have hit := pieces_hit here reads
        have left_over : pattern.replaced template past (found.text ++ after) =
            template found ++ pattern.replaced template (found.text.reverse ++ past) after := by
          simp [replaced, hit, Piece.fill]
        rw [left_over]
        obtain same | changed := first
        · have shorter : after.length < size := by
            have positive := List.length_pos_iff.mpr reads
            rw [← total, split, List.length_append]
            omega
          obtain ⟨all, stays⟩ | ⟨mid, old, new, rfl, changed, how⟩ :=
            ih after.length shorter (found.text.reverse ++ past) after rfl
          · left
            constructor
            · simpa [matches', hit, Piece.found, same] using all
            · rw [stays, same]
          · right
            refine ⟨found.text ++ mid, old, new, by simp, ?_, by simpa using how⟩
            rw [changed, same, List.append_assoc]
        · exact .inr changed

theorem replaced_self
    (reads : ∀ past rest found, pattern.matchAt ⟨past, rest⟩ = some found →
      found.text ≠ [] ∧ ∃ after, rest = found.text ++ after)
    (same : ∀ found ∈ pattern.matches' past rest, template found = found.text) :
    pattern.replaced template past rest = rest := by
  induction total : rest.length using Nat.strongRecOn generalizing past rest with
  | ind size ih =>
    cases rest with
    | nil => rfl
    | cons c rest =>
      cases here : pattern.matchAt ⟨past, c :: rest⟩ with
      | none =>
        have kept := pieces_kept here
        have later : pattern.replaced template (c :: past) rest = rest := by
          refine ih rest.length (by simp [← total]) ?_ rfl
          simpa [matches', kept, Piece.found] using same
        simpa [replaced, kept, Piece.fill] using later
      | some found =>
        obtain ⟨some_text, after, split⟩ := reads past (c :: rest) found here
        rw [split] at here same ⊢
        have hit := pieces_hit here some_text
        have shorter : after.length < size := by
          have positive := List.length_pos_iff.mpr some_text
          rw [← total, split, List.length_append]
          omega
        have all : template found = found.text ∧
            ∀ other ∈ pattern.matches' (found.text.reverse ++ past) after,
              template other = other.text := by
          simpa [matches', hit, Piece.found] using same
        have later := ih after.length shorter all.2 rfl
        simp only [replaced, hit, List.flatMap_cons, Piece.fill] at later ⊢
        rw [later, all.1]

theorem replaced_head (missed : pattern.matchAt ⟨past, rest⟩ = none) :
    (pattern.replaced template past rest).head? = rest.head? := by
  cases rest with
  | nil => rfl
  | cons c rest => simp [replaced, pieces_kept missed, Piece.fill]

end Substitution

end Pattern

end Python
