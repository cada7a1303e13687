import Mathlib
import SightMesh.Escalation.Redaction

/-! What the patterns of the redaction read. -/
namespace SightMesh.Escalation

open Python Pattern

variable {lib : Redactor} {β : Type} {past rest : List Char} {groups : List (List Char)}
  {next : Cursor → List (List Char) → Option β} {out : β} {found : Match}

theorem space_folded {c : Char} (blank : isSpace c) : (folded c).isLower = false := by
  simp only [isSpace, Bool.or_eq_true, Bool.and_eq_true, decide_eq_true_eq, List.mem_cons,
    List.not_mem_nil, or_false] at blank
  have plain : c.toLower = c := by
    unfold Char.toLower
    refine dif_neg ?_
    rintro ⟨above, below⟩
    have above : 65 ≤ c.toNat := above
    have below : c.toNat ≤ 90 := below
    omega
  rw [folded, if_neg (by omega), if_neg (by omega), if_neg (by omega), plain, Char.isLower,
    Bool.and_eq_false_iff, decide_eq_false_iff_not, decide_eq_false_iff_not]
  by_contra letter
  rw [not_or, not_not, not_not] at letter
  have above : 97 ≤ c.toNat := letter.1
  have below : c.toNat ≤ 122 := letter.2
  omega

/-! ### What each pattern reads -/

theorem run_inOrder_cons (pattern : Pattern) (patterns : List Pattern) (c : Cursor) :
    (inOrder (pattern :: patterns)).run c groups next =
      pattern.run c groups fun later groups => (inOrder patterns).run later groups next := by
  cases patterns with
  | nil => simp [inOrder, run]
  | cons second others => rfl

@[simp] theorem run_inOrder_nil (c : Cursor) :
    (inOrder []).run c groups next = next c groups := by
  simp [inOrder, run]

theorem run_anyOf {patterns : List Pattern} {c : Cursor}
    (read : (anyOf patterns).run c groups next = some out) :
    ∃ pattern ∈ patterns, pattern.run c groups next = some out := by
  induction patterns with
  | nil => simp [anyOf, run] at read
  | cons pattern patterns ih =>
    cases patterns with
    | nil => exact ⟨pattern, List.mem_singleton_self _, read⟩
    | cons second others =>
      obtain first | later := run_alt read
      · exact ⟨pattern, List.mem_cons_self, first⟩
      · obtain ⟨other, known, read⟩ := ih later
        exact ⟨other, List.mem_cons_of_mem _ known, read⟩

theorem run_letters (f : Char → Char) {letters : List Char}
    (read : (inOrder (letters.map fun l => .one (f · = l))).run ⟨past, rest⟩ groups next =
      some out) :
    ∃ text after, rest = text ++ after ∧ text.map f = letters ∧
      next ⟨text.reverse ++ past, after⟩ groups = some out := by
  induction letters generalizing past rest with
  | nil => exact ⟨[], rest, rfl, rfl, by simpa using read⟩
  | cons l letters ih =>
    rw [List.map_cons, run_inOrder_cons] at read
    obtain ⟨x, after, rfl, same, read⟩ := run_one read
    obtain ⟨text, after, rfl, spelled, through⟩ := ih read
    exact ⟨x :: text, after, rfl, by simpa [spelled] using same, by simpa using through⟩

theorem run_word {text : String} (read : (word text).run ⟨past, rest⟩ groups next = some out) :
    ∃ w after, rest = w ++ after ∧ w.map folded = text.toList ∧
      next ⟨w.reverse ++ past, after⟩ groups = some out :=
  run_letters folded read

/-- The text is one of these words, whatever its case. -/
def Spells (words : List String) (text : List Char) : Prop :=
  ∃ w ∈ words, text.map folded = w.toList

def wordEnds : List (Char × Char) :=
  [('e', 'r'), ('i', 'c'), ('o', 'n'), ('i', 'e'), ('e', 'n'), ('e', 't'), ('r', 'd'), ('a', 'l'),
    ('e', 'y')]

def endsWord (spelled : List Char) : Bool :=
  match spelled.reverse with
  | x :: y :: _ => (y, x) ∈ wordEnds
  | _ => false

/-- A keyword starts with a letter and has one of these ends. -/
structure Keyword (w : List Char) : Prop where
  starts : ∃ first more, w = first :: more ∧ (folded first).isLower
  ends : endsWord (w.map folded)

theorem Spells.keyword {words : List String} {w : List Char} (spelled : Spells words w)
    (all : words.all fun word =>
      (word.toList.head?.any Char.isLower) && endsWord word.toList) : Keyword w := by
  obtain ⟨word, listed, same⟩ := spelled
  have good := List.all_eq_true.mp all word listed
  rw [← same, Bool.and_eq_true] at good
  refine ⟨?_, good.2⟩
  cases w with
  | nil => simp at good
  | cons first more => exact ⟨first, more, rfl, by simpa using good.1⟩

theorem run_words (words : List String)
    (read : (anyOf (words.map word)).run ⟨past, rest⟩ groups next = some out) :
    ∃ w after, rest = w ++ after ∧ Spells words w ∧
      next ⟨w.reverse ++ past, after⟩ groups = some out := by
  obtain ⟨_, known, read⟩ := run_anyOf read
  obtain ⟨text, listed, rfl⟩ := List.mem_map.mp known
  obtain ⟨w, after, split, spelled, through⟩ := run_word read
  exact ⟨w, after, split, ⟨text, listed, spelled⟩, through⟩

theorem run_literal {text : String} (read : (literal text).run ⟨past, rest⟩ groups next = some out) :
    ∃ after, rest = text.toList ++ after ∧
      next ⟨text.toList.reverse ++ past, after⟩ groups = some out := by
  obtain ⟨w, after, rfl, same, through⟩ := run_letters id read
  rw [List.map_id] at same
  subst same
  exact ⟨after, rfl, through⟩

theorem urlUserinfo_found (read : (urlUserinfo lib).pattern.matchAt ⟨past, rest⟩ = some found) :
    ∃ scheme user after, rest = scheme ++ "://".toList ++ user ++ '@' :: after ∧ user ≠ [] ∧
      (∀ x ∈ user, x ≠ '/' ∧ isSpace x = false ∧ x ≠ '@') ∧
      found = ⟨scheme ++ "://".toList ++ user ++ ['@'], [scheme ++ "://".toList]⟩ := by
  unfold urlUserinfo matchAt at read
  rw [run_inOrder_cons, run, run_inOrder_cons] at read
  obtain ⟨_, read⟩ := run_edge read
  rw [run_inOrder_cons] at read
  obtain ⟨first, after, rfl, _, read⟩ := run_one read
  rw [run_inOrder_cons] at read
  obtain ⟨more, after, rfl, _, _, read⟩ := run_many read
  rw [run_inOrder_cons] at read
  obtain ⟨after, rfl, read⟩ := run_literal read
  rw [run_inOrder_nil, run_inOrder_cons] at read
  obtain ⟨user, after, rfl, plain, long, read⟩ := run_many read
  rw [run_inOrder_cons] at read
  obtain ⟨after, rfl, read⟩ := run_literal read
  rw [run_inOrder_nil] at read
  refine ⟨first :: more, user, after, by simp, ?_, by simpa [and_assoc] using plain, ?_⟩
  · rintro rfl
    simp at long
  · rw [← Option.some.inj read, Match.mk.injEq]
    exact ⟨Cursor.upTo_eq (by simp), congrArg ([·]) (Cursor.upTo_eq (by simp))⟩

theorem schemes_found (read : (schemes lib).pattern.matchAt ⟨past, rest⟩ = some found) :
    ∃ w blanks value after, rest = w ++ blanks ++ value ++ after ∧
      Spells ["bearer", "basic"] w ∧
      blanks ≠ [] ∧ (∀ x ∈ blanks, isSpace x) ∧ value ≠ [] ∧
      (∀ x ∈ value, (folded x).isLower || x.isDigit || x ∈ "._~+/=-".toList) ∧
      found = ⟨w ++ blanks ++ value, [w]⟩ := by
  unfold schemes matchAt at read
  rw [run_inOrder_cons] at read
  obtain ⟨_, read⟩ := run_edge read
  rw [run_inOrder_cons, run] at read
  obtain ⟨w, after, rfl, spelled, read⟩ := run_words ["bearer", "basic"] read
  rw [run_inOrder_cons] at read
  obtain ⟨blanks, after, rfl, spaced, some_blank, read⟩ := run_many read
  obtain ⟨value, after, rfl, fits, long, read⟩ := run_many read
  refine ⟨w, blanks, value, after, by simp, spelled, ?_, spaced, ?_, fits, ?_⟩
  · rintro rfl
    simp at some_blank
  · rintro rfl
    simp at long
  · rw [← Option.some.inj read, Match.mk.injEq]
    exact ⟨Cursor.upTo_eq (by simp), congrArg ([·]) (Cursor.upTo_eq (by simp))⟩

/-- What a token may begin with. -/
def tokenStarts : List Char := ['s', 'g', 'x', 'A', 'p', 'n']

theorem run_prefix {text : String} (starts : text.toList.head?.any (· ∈ tokenStarts))
    (read : (literal text).run ⟨past, rest⟩ groups next = some out) :
    ∃ first more after, rest = first :: more ++ after ∧ first ∈ tokenStarts ∧
      next ⟨(first :: more).reverse ++ past, after⟩ groups = some out := by
  obtain ⟨after, rfl, through⟩ := run_literal read
  cases split : text.toList with
  | nil => simp [split] at starts
  | cons first more =>
    rw [split] at through starts
    exact ⟨first, more, after, rfl, by simpa using starts, through⟩

theorem prefixedTokens_found (read : prefixedTokens.pattern.matchAt ⟨past, rest⟩ = some found) :
    (∀ x ∈ past.head?, x.isAlphanum = false ∧ x ≠ '_') ∧
      ∃ first more after, rest = first :: more ++ after ∧
        first ∈ tokenStarts ∧ found = ⟨first :: more, []⟩ := by
  unfold prefixedTokens matchAt at read
  rw [run_inOrder_cons] at read
  obtain ⟨free, read⟩ := run_edge read
  constructor
  · intro x here
    simp_all
  rw [run_inOrder_cons] at read
  obtain ⟨pattern, known, read⟩ := run_anyOf read
  obtain ⟨first, more, after, rfl, kind, read⟩ : ∃ first more after, rest = first :: more ++ after ∧
      first ∈ tokenStarts ∧
      (inOrder [.many tokenChar 1]).run ⟨(first :: more).reverse ++ past, after⟩ []
        (fun later groups => some ⟨(⟨past, rest⟩ : Cursor).upTo later, groups⟩) = some found := by
    simp only [List.mem_cons, List.not_mem_nil, or_false] at known
    obtain rfl | rfl | rfl | rfl | rfl | rfl | rfl | rfl | rfl := known
    case inr.inr.inr.inr.inr.inl =>
      rw [run_inOrder_cons] at read
      obtain ⟨first, more, after, rfl, kind, read⟩ := run_prefix (by decide) read
      rw [run_inOrder_cons] at read
      obtain ⟨letter, after, rfl, _, read⟩ := run_one read
      obtain ⟨after, rfl, read⟩ := run_literal read
      refine ⟨first, more ++ letter :: "-".toList, after, by simp, kind, ?_⟩
      simpa using read
    all_goals exact run_prefix (by decide) read
  obtain ⟨value, after, rfl, fits, long, read⟩ := run_many read
  refine ⟨first, more ++ value, after, by simp, kind, ?_⟩
  rw [← Option.some.inj read, Match.mk.injEq]
  exact ⟨Cursor.upTo_eq (by simp), rfl⟩

theorem dottedTokens_found (read : dottedTokens.pattern.matchAt ⟨past, rest⟩ = some found) :
    (∀ x ∈ past.head?, tokenChar x = false) ∧
      ∃ front more after, rest = front ++ '.' :: more ++ after ∧ 8 ≤ front.length ∧
        (∀ x ∈ front, tokenChar x) ∧ found = ⟨front ++ '.' :: more, []⟩ := by
  unfold dottedTokens matchAt at read
  rw [run_inOrder_cons] at read
  obtain ⟨free, read⟩ := run_edge read
  constructor
  · intro x here
    simp_all
  rw [run_inOrder_cons] at read
  obtain ⟨front, after, rfl, fits, long, read⟩ := run_many read
  rw [run_inOrder_cons] at read
  obtain ⟨after, rfl, read⟩ := run_literal read
  rw [run_inOrder_cons] at read
  obtain ⟨second, after, rfl, _, _, read⟩ := run_many read
  rw [run_inOrder_cons] at read
  obtain ⟨after, rfl, read⟩ := run_literal read
  rw [run_inOrder_cons] at read
  obtain ⟨third, after, rfl, _, _, read⟩ := run_many read
  obtain ⟨_, read⟩ := run_edge read
  refine ⟨front, second ++ '.' :: third, after, by simp, long, fits, ?_⟩
  rw [← Option.some.inj read, Match.mk.injEq]
  exact ⟨Cursor.upTo_eq (by simp), rfl⟩

theorem headers_found (read : (headers lib).pattern.matchAt ⟨past, rest⟩ = some found) :
    ∃ w blanks more line after, rest = w ++ blanks ++ ':' :: more ++ line ++ after ∧
      Spells ["authorization", "cookie"] w ∧
      (∀ x ∈ blanks, isSpace x) ∧ (∀ x ∈ more, isSpace x) ∧ (∀ x ∈ line, lineChar x) ∧
      (∀ x ∈ after.head?, lineChar x = false) ∧
      found = ⟨w ++ blanks ++ ':' :: more ++ line, [w]⟩ := by
  unfold headers matchAt at read
  rw [run_inOrder_cons] at read
  obtain ⟨_, read⟩ := run_edge read
  rw [run_inOrder_cons, run] at read
  obtain ⟨w, after, rfl, spelled, read⟩ := run_words ["authorization", "cookie"] read
  rw [run_inOrder_cons] at read
  obtain ⟨_, read⟩ := run_edge read
  rw [run_inOrder_cons] at read
  obtain ⟨blanks, after, rfl, spaced, _, read⟩ := run_many read
  rw [run_inOrder_cons] at read
  obtain ⟨x, after, rfl, same, read⟩ := run_one read
  obtain rfl : x = ':' := by simpa using same
  rw [run_inOrder_cons] at read
  obtain ⟨more, after, rfl, spaced', _, read⟩ := run_many read
  obtain ⟨line, after, rfl, fits, _, ends, read⟩ := runMany_greedy (fun _ => rfl) read
  refine ⟨w, blanks, more, line, after, by simp, spelled, spaced, spaced', fits, ends, ?_⟩
  rw [← Option.some.inj read, Match.mk.injEq]
  exact ⟨Cursor.upTo_eq (by simp), congrArg ([·]) (Cursor.upTo_eq (by simp))⟩

/-- What follows an assignment: its first character is not blank, and if it is a bracket then the
value goes on to a blank, a comma or a semicolon. -/
def Assigned (value after : List Char) : Prop :=
  ∃ first more, value = first :: more ∧ isSpace first = false ∧
    (first = '[' → (∀ x ∈ value, bareChar x) ∧ ∀ x ∈ after.head?, bareChar x = false)

theorem run_assignedValue (through : ∀ c, (next c groups).isSome)
    (read : assignedValue.run ⟨past, rest⟩ groups next = some out) :
    ∃ value after, rest = value ++ after ∧ Assigned value after ∧
      next ⟨value.reverse ++ past, after⟩ groups = some out := by
  obtain ⟨pattern, known, read⟩ := run_anyOf read
  have quoted : ∀ (mark : Char) (inner : Char → Bool), isSpace mark = false → mark ≠ '[' →
      (inOrder [.one (· = mark), .many inner 0, .one (· = mark)]).run ⟨past, rest⟩ groups next =
        some out →
      ∃ value after, rest = value ++ after ∧ Assigned value after ∧
        next ⟨value.reverse ++ past, after⟩ groups = some out := by
    intro mark inner solid other read
    rw [run_inOrder_cons] at read
    obtain ⟨x, after, rfl, same, read⟩ := run_one read
    obtain rfl : x = mark := by simpa using same
    rw [run_inOrder_cons] at read
    obtain ⟨text, after, rfl, _, _, read⟩ := run_many read
    obtain ⟨y, after, rfl, _, read⟩ := run_one read
    refine ⟨x :: text ++ [y], after, by simp, ⟨x, text ++ [y], by simp, solid, ?_⟩, by simpa using read⟩
    intro bracket
    exact absurd bracket other
  simp only [List.mem_cons, List.not_mem_nil, or_false] at known
  obtain rfl | rfl | rfl := known
  · exact quoted '"' _ (by decide) (by decide) read
  · exact quoted '\'' _ (by decide) (by decide) read
  · obtain ⟨text, after, rfl, fits, long, ends, read⟩ := runMany_greedy through read
    refine ⟨text, after, rfl, ?_, read⟩
    cases text with
    | nil => simp at long
    | cons first more =>
      have solid := fits first List.mem_cons_self
      refine ⟨first, more, rfl, ?_, fun _ => ⟨fits, ends⟩⟩
      simp only [bareChar, Bool.and_eq_true, Bool.not_eq_true'] at solid
      exact solid.1.1

theorem run_credentialWord (read : credentialWord.run ⟨past, rest⟩ groups next = some out) :
    ∃ w after, rest = w ++ after ∧ Keyword w ∧ next ⟨w.reverse ++ past, after⟩ groups = some out := by
  obtain ⟨pattern, known, read⟩ := run_anyOf read
  have plain : ∀ text, [text].all (fun word =>
        (word.toList.head?.any Char.isLower) && endsWord word.toList) →
      (word text).run ⟨past, rest⟩ groups next = some out →
      ∃ w after, rest = w ++ after ∧ Keyword w ∧
        next ⟨w.reverse ++ past, after⟩ groups = some out := by
    intro text good read
    obtain ⟨w, after, split, spelled, read⟩ := run_word read
    have known : Spells [text] w := ⟨text, List.mem_singleton_self _, spelled⟩
    exact ⟨w, after, split, known.keyword good, read⟩
  simp only [List.mem_cons, List.not_mem_nil, or_false] at known
  obtain rfl | rfl | rfl | rfl | rfl := known
  case inr.inr.inr.inr =>
    rw [run_inOrder_cons] at read
    obtain ⟨api, after, rfl, spelledApi, read⟩ := run_word read
    rw [run_inOrder_cons] at read
    obtain ⟨mark, rest', rfl, marked⟩ : ∃ mark rest', after = mark ++ rest' ∧
        (inOrder [word "key"]).run ⟨mark.reverse ++ (api.reverse ++ past), rest'⟩ groups next =
          some out := by
      obtain some_mark | none_read := run_alt read
      · obtain ⟨x, rest', rfl, _, marked⟩ := run_one some_mark
        exact ⟨[x], rest', rfl, marked⟩
      · exact ⟨[], after, rfl, (run_edge none_read).2⟩
    obtain ⟨key, after, rfl, spelledKey, through⟩ := run_word marked
    refine ⟨api ++ mark ++ key, after, by simp, ⟨?_, ?_⟩, by simpa using through⟩
    · cases api with
      | nil => simp at spelledApi
      | cons first more =>
        have starts : folded first = 'a' := by simpa using congrArg List.head? spelledApi
        exact ⟨first, more ++ mark ++ key, by simp, by rw [starts]; decide⟩
    · simp [endsWord, spelledKey, wordEnds]
  all_goals exact plain _ (by decide) read

/-- `_redact_string`'s values may have a scheme before them. -/
theorem run_value (through : ∀ c, (next c groups).isSome)
    (read : (Pattern.alt (inOrder [anyOf [word "bearer", word "basic"], spaces 1, assignedValue])
      assignedValue).run ⟨past, rest⟩ groups next = some out) :
    ∃ value after, rest = value ++ after ∧ Assigned value after ∧
      next ⟨value.reverse ++ past, after⟩ groups = some out := by
  obtain schemed | plain := run_alt read
  · rw [run_inOrder_cons] at schemed
    obtain ⟨w, after, rfl, spelled, read⟩ := run_words ["bearer", "basic"] schemed
    rw [run_inOrder_cons] at read
    obtain ⟨blanks, after, rfl, _, _, read⟩ := run_many read
    obtain ⟨value, after, rfl, _, read⟩ := run_assignedValue through read
    refine ⟨w ++ blanks ++ value, after, by simp, ?_, by simpa using read⟩
    obtain ⟨first, more, rfl, letter⟩ := (spelled.keyword (by decide)).starts
    refine ⟨first, more ++ blanks ++ value, by simp, ?_, ?_⟩
    · exact Bool.eq_false_iff.mpr fun blank => by simp [space_folded blank] at letter
    · rintro rfl
      exact absurd letter (by decide)
  · exact run_assignedValue through plain

theorem assignments_found (read : (assignments lib).pattern.matchAt ⟨past, rest⟩ = some found) :
    ∃ w blanks sep more value after,
      rest = w ++ blanks ++ sep :: more ++ value ++ after ∧ Keyword w ∧
      (∀ x ∈ blanks, isSpace x) ∧ sep ∈ [':', '='] ∧ (∀ x ∈ more, isSpace x) ∧
      Assigned value after ∧ found = ⟨w ++ blanks ++ sep :: more ++ value, [w, [sep]]⟩ := by
  unfold assignments matchAt at read
  rw [run_inOrder_cons] at read
  obtain ⟨_, read⟩ := run_edge read
  rw [run_inOrder_cons, run] at read
  obtain ⟨w, after, rfl, keyword, read⟩ := run_credentialWord read
  rw [run_inOrder_cons] at read
  obtain ⟨_, read⟩ := run_edge read
  rw [run_inOrder_cons] at read
  obtain ⟨blanks, after, rfl, spaced, _, read⟩ := run_many read
  rw [run_inOrder_cons, run] at read
  obtain ⟨sep, after, rfl, isSep, read⟩ := run_one read
  rw [run_inOrder_cons] at read
  obtain ⟨more, after, rfl, spaced', _, read⟩ := run_many read
  obtain ⟨value, after, rfl, assigned, read⟩ := run_value (fun _ => rfl) read
  refine ⟨w, blanks, sep, more, value, after, by simp, keyword, spaced, by simpa using isSep,
    spaced', assigned, ?_⟩
  rw [← Option.some.inj read, Match.mk.injEq]
  exact ⟨Cursor.upTo_eq (by simp), congrArg₂ (fun a b => [a, b]) (Cursor.upTo_eq (by simp))
    (Cursor.upTo_eq (by simp))⟩

end SightMesh.Escalation
