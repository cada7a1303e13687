import SightMesh.Escalation.Redacted

/-! Which texts the redaction leaves as they are: a substitution that changes a text raises its
score, so nothing that follows can restore it. -/
namespace SightMesh.Escalation

open Python Pattern

variable {lib : Redactor} {past rest old new : List Char} {found : Match}

/-! ### The score of a text -/

def redactedTail : List Char := ['R', 'E', 'D', 'A', 'C', 'T', 'E', 'D', ']']

def prefers (wanted : List Char) : List Char → ℕ
  | [] => 0
  | c :: _ => wanted.length - wanted.idxOf c

/-- After a mark: the end of a text or of a line, then what ends a value. -/
def prefersEnd : List Char → ℕ
  | [] => 3
  | c :: _ => if lineChar c = false then 3 else if bareChar c = false then 2 else if c = '[' then 1 else 0

/-- The starts of a mark in reverse, each with what comes next. -/
def insideMark : List (List Char × Char) :=
  [(['R', '['], 'E'), (['E', 'R', '['], 'D'), (['D', 'E', 'R', '['], 'A'),
    (['A', 'D', 'E', 'R', '['], 'C'), (['C', 'A', 'D', 'E', 'R', '['], 'T'),
    (['T', 'C', 'A', 'D', 'E', 'R', '['], 'E'), (['E', 'T', 'C', 'A', 'D', 'E', 'R', '['], 'D'),
    (['D', 'E', 'T', 'C', 'A', 'D', 'E', 'R', '['], ']')]

def awaited (past : List Char) : Option Char :=
  (insideMark.find? fun entry => entry.1.isPrefixOf past).map Prod.snd

/-- How far a text is, from a place on, towards what the redaction writes there. What it may write is
known from the characters before. -/
def rank (past rest : List Char) : ℕ :=
  match awaited past with
  | some c => prefers [c] rest
  | none =>
    match past with
    | ']' :: _ => prefersEnd rest
    | '[' :: _ => if redactedTail.isPrefixOf rest then 2 else prefers ['['] rest
    | ':' :: _ => prefers [' ', '['] rest
    | '=' :: _ => prefers [' ', '['] rest
    | ' ' :: _ => prefers ['['] rest
    | '/' :: _ => prefers ['*', '['] rest
    | '*' :: more => prefers [if more.take 2 = ['*', '*'] then '@' else '*', '['] rest
    | _ => prefers [':', '=', ' ', '['] rest

/-- The ranks from a place on. -/
def score : List Char → List Char → List ℕ
  | past, [] => [rank past []]
  | past, c :: rest => rank past (c :: rest) :: score (c :: past) rest

theorem awaited_none
    (outside : ∀ front ∈ insideMark.map Prod.fst, ¬front.isPrefixOf past) : awaited past = none := by
  unfold awaited
  rw [Option.map_eq_none_iff, List.find?_eq_none]
  exact fun entry listed => outside entry.1 (List.mem_map_of_mem listed)

theorem awaited_of_head {c : Char} (other : c ∉ ['R', 'E', 'D', 'A', 'C', 'T']) :
    awaited (c :: past) = none := by
  refine awaited_none ?_
  intro front listed starts
  simp only [insideMark, List.map_cons, List.map_nil, List.mem_cons, List.not_mem_nil,
    or_false] at listed
  rcases listed with rfl | rfl | rfl | rfl | rfl | rfl | rfl | rfl
  all_goals
    simp only [List.isPrefixOf, Bool.and_eq_true, beq_iff_eq] at starts
    obtain ⟨rfl, _⟩ := starts
    exact other (by decide)

theorem prefers_le (wanted rest : List Char) : prefers wanted rest ≤ wanted.length := by
  cases rest with
  | nil => exact Nat.zero_le _
  | cons c rest => exact Nat.sub_le _ _

theorem prefers_first {c : Char} (wanted new : List Char) (other : old.head? ≠ some c) :
    prefers (c :: wanted) old < prefers (c :: wanted) (c :: new) := by
  have best : prefers (c :: wanted) (c :: new) = wanted.length + 1 := by
    simp [prefers]
  rw [best]
  cases old with
  | nil => exact Nat.succ_pos _
  | cons x old =>
    have apart : c ≠ x := by
      rintro rfl
      exact other rfl
    simp only [prefers, List.length_cons, List.idxOf_cons_ne _ apart]
    omega

theorem rank_head {c : Char} (elsewhere : past.head? ≠ some '[') :
    rank past (c :: old) = rank past (c :: new) := by
  unfold rank
  split
  · rfl
  split
  case h_2 => simp at elsewhere
  all_goals rfl

theorem score_cons (past rest : List Char) : ∃ tail, score past rest = rank past rest :: tail := by
  cases rest with
  | nil => exact ⟨[], rfl⟩
  | cons c rest => exact ⟨_, rfl⟩

theorem rank_inside {mid wanted : List Char} {c : Char} (some_mid : mid ≠ [])
    (split : redactedTail = mid ++ c :: wanted) (old new : List Char) :
    rank (mid.reverse ++ '[' :: past) new ≤ rank (mid.reverse ++ '[' :: past) (c :: old) := by
  have size : mid.length + wanted.length = 8 := by
    have total := congrArg List.length split
    simp [redactedTail] at total
    omega
  have whole : mid = redactedTail.take mid.length := by
    rw [split]
    simp
  have here : c :: wanted = redactedTail.drop mid.length := by
    rw [split]
    simp
  have positive := List.length_pos_iff.mpr some_mid
  have bound : mid.length ≤ 8 := by omega
  generalize mid.length = n at whole here positive bound
  subst whole
  interval_cases n
  all_goals
    cases here
    exact prefers_le _ _

/-- What comes later raises no rank that is there already. -/
theorem rank_mono {mid : List Char} (some_mid : mid ≠ [])
    (rises : rank (mid.reverse ++ past) old < rank (mid.reverse ++ past) new) :
    rank past (mid ++ old) ≤ rank past (mid ++ new) := by
  by_cases bracket : past.head? = some '['
  · obtain ⟨past, rfl⟩ := List.head?_eq_some_iff.mp bracket
    have bracketed : ∀ rest, rank ('[' :: past) rest =
        if redactedTail.isPrefixOf rest then 2 else prefers ['['] rest := fun _ => rfl
    have same_head : prefers ['['] (mid ++ old) = prefers ['['] (mid ++ new) := by
      cases mid with
      | nil => exact absurd rfl some_mid
      | cons c mid => rfl
    have small := prefers_le ['['] (mid ++ old)
    rw [bracketed, bracketed, ← same_head]
    by_cases starts : redactedTail.isPrefixOf (mid ++ old)
    · have kept : redactedTail.isPrefixOf (mid ++ new) := by
        rw [List.isPrefixOf_iff_prefix] at starts ⊢
        obtain within | beyond := List.prefix_or_prefix_of_prefix starts (List.prefix_append mid old)
        · exact within.trans (List.prefix_append mid new)
        · obtain ⟨wanted, split⟩ := beyond
          cases wanted with
          | nil =>
            rw [← split, List.append_nil]
            exact List.prefix_append mid new
          | cons c wanted =>
            rw [← split, List.prefix_append_right_inj] at starts
            obtain ⟨after, rfl⟩ := starts
            exact absurd rises (not_lt.mpr (rank_inside some_mid split.symm _ new))
      rw [if_pos starts, if_pos kept]
    · rw [if_neg starts]
      split
      · simp at small
        omega
      · exact le_rfl
  · cases mid with
    | nil => exact absurd rfl some_mid
    | cons c mid => exact (rank_head bracket).le

theorem score_rises (mid : List Char)
    (rises : rank (mid.reverse ++ past) old < rank (mid.reverse ++ past) new) :
    score past (mid ++ old) < score past (mid ++ new) := by
  induction mid generalizing past with
  | nil =>
    obtain ⟨_, here⟩ := score_cons past old
    obtain ⟨_, there⟩ := score_cons past new
    simp only [List.nil_append, here, there]
    exact List.cons_lt_cons_iff.mpr (.inl rises)
  | cons c mid ih =>
    have later := rank_mono (List.cons_ne_nil c mid) rises
    have tail : score (c :: past) (mid ++ old) < score (c :: past) (mid ++ new) :=
      ih (by simpa using rises)
    simp only [List.cons_append, score] at later ⊢
    obtain more | same := later.lt_or_eq
    · exact List.cons_lt_cons_iff.mpr (.inl more)
    · exact List.cons_lt_cons_iff.mpr (.inr ⟨same, tail⟩)

/-! ### One substitution -/

/-- Every match is already what it would be replaced with. -/
def Redaction.Leaves (redaction : Redaction) (past rest : List Char) : Prop :=
  ∀ found ∈ redaction.pattern.matches' past rest, redaction.template found = found.text

/-- The text with one match replaced, and with whatever the later ones come to. -/
def Redaction.Changes (redaction : Redaction) (past after : List Char) (found : Match) : Prop :=
  ∃ mid old new, found.text ++ after = mid ++ old ∧
    redaction.template found ++
        redaction.pattern.replaced redaction.template (found.text.reverse ++ past) after =
      mid ++ new ∧ rank (mid.reverse ++ past) old < rank (mid.reverse ++ past) new

def Redaction.Raises (redaction : Redaction) : Prop :=
  ∀ past rest found, redaction.pattern.matchAt ⟨past, rest⟩ = some found →
    found.text ≠ [] ∧ ∃ after, rest = found.text ++ after ∧
      (redaction.template found = found.text ∨ redaction.Changes past after found)

theorem Redaction.Raises.sub_cases {redaction : Redaction} (raises : redaction.Raises)
    (text : List Char) :
    (redaction.Leaves [] text ∧ redaction.sub text = text) ∨
      score [] text < score [] (redaction.sub text) := by
  obtain left | ⟨mid, old, new, rfl, changed, rises⟩ :=
    replaced_cases (fun past old new => rank past old < rank past new) raises [] text
  · exact .inl left
  · right
    have result : redaction.sub (mid ++ old) = mid ++ new := changed
    rw [result]
    exact score_rises mid rises

theorem mark_cases (mark body : List Char) :
    (∃ tail, body = mark ++ tail) ∨ ∃ mid c wanted old, mark = mid ++ c :: wanted ∧
      body = mid ++ old ∧ old.head? ≠ some c := by
  induction mark generalizing body with
  | nil => exact .inl ⟨body, rfl⟩
  | cons c mark ih =>
    by_cases here : body.head? = some c
    · obtain ⟨body, rfl⟩ := List.head?_eq_some_iff.mp here
      obtain ⟨tail, rfl⟩ | ⟨mid, d, wanted, old, rfl, rfl, other⟩ := ih body
      · exact .inl ⟨tail, rfl⟩
      · exact .inr ⟨c :: mid, d, wanted, old, rfl, rfl, other⟩
    · exact .inr ⟨[], c, mark, body, rfl, rfl, here⟩

/-! ### User names in URLs -/

theorem url_rank {mid wanted : List Char} {c : Char} (split : ['*', '*', '*', '@'] = mid ++ c :: wanted)
    (other : old.head? ≠ some c) :
    rank (mid.reverse ++ '/' :: past) old < rank (mid.reverse ++ '/' :: past) (c :: new) := by
  have whole : mid = ['*', '*', '*', '@'].take mid.length := by
    rw [split]
    simp
  have here : c :: wanted = ['*', '*', '*', '@'].drop mid.length := by
    rw [split]
    simp
  have bound : mid.length ≤ 3 := by
    have total := congrArg List.length split
    simp at total
    omega
  generalize mid.length = n at whole here bound
  subst whole
  interval_cases n
  all_goals
    cases here
    exact prefers_first ['['] new other

theorem takeWhile_ends {p : Char → Bool} {text after : List Char} (fits : ∀ x ∈ text, p x)
    (ends : ∀ x ∈ after.head?, p x = false) : (text ++ after).takeWhile p = text := by
  rw [List.takeWhile_append_of_pos fits]
  cases after with
  | nil => simp
  | cons x after => simp [ends x rfl]

theorem urlUserinfo_raises : (urlUserinfo lib).Raises := by
  intro past rest found here
  obtain ⟨scheme, user, after, rfl, some_user, plain, rfl⟩ := urlUserinfo_found here
  refine ⟨by simp, after, by simp, ?_⟩
  obtain ⟨tail, same⟩ | ⟨mid, c, wanted, old, split, body, other⟩ :=
    mark_cases ['*', '*', '*', '@'] (user ++ '@' :: after)
  · left
    have starred : user = ['*', '*', '*'] := by
      have upTo : (user ++ '@' :: after).takeWhile (· ≠ '@') = user :=
        takeWhile_ends (fun x known => by simpa using (plain x known).2.2) (by simp)
      rw [← upTo, same]
      simp
    rw [starred]
    simp [urlUserinfo, group]
  · right
    refine ⟨scheme ++ "://".toList ++ mid, old, c :: wanted ++
      (urlUserinfo lib).pattern.replaced (urlUserinfo lib).template
        ((scheme ++ "://".toList ++ user ++ ['@']).reverse ++ past) after, ?_, ?_, ?_⟩
    · simpa using body
    · simp [urlUserinfo, group, split]
    · simpa using url_rank split other

/-! ### Bearer tokens -/

/-- After a keyword, a separator is better than a blank, and a blank better than a bracket. -/
theorem rank_word {w : List Char} (ends : endsWord (w.map folded)) (rest : List Char) :
    rank (w.reverse ++ past) rest = prefers [':', '=', ' ', '['] rest := by
  unfold endsWord at ends
  rw [← List.map_reverse] at ends
  match w.reverse, ends with
  | x :: y :: tail, known =>
    have known : (folded y, folded x) ∈ wordEnds := by simpa using known
    have last : folded x ∈ wordEnds.map Prod.snd := List.mem_map_of_mem known
    have outside : awaited (x :: y :: (tail ++ past)) = none := by
      refine awaited_none ?_
      intro front listed starts
      simp only [insideMark, List.map_cons, List.map_nil, List.mem_cons, List.not_mem_nil,
        or_false] at listed
      rcases listed with rfl | rfl | rfl | rfl | rfl | rfl | rfl | rfl
      all_goals
        simp only [List.isPrefixOf, Bool.and_eq_true, beq_iff_eq] at starts
        obtain ⟨rfl, rfl, _⟩ := starts
        exact absurd known (by decide)
    simp only [List.cons_append, rank, outside]
    split
    case h_8 => rfl
    all_goals
      rename_i same
      obtain ⟨rfl, _⟩ := List.cons.inj same
      exact absurd last (by decide)

theorem prefers_zero {wanted : List Char} (none_wanted : ∀ c ∈ old.head?, c ∉ wanted) :
    prefers wanted old = 0 := by
  cases old with
  | nil => rfl
  | cons c old => simp [prefers, List.idxOf_of_notMem (none_wanted c rfl)]

theorem space_apart {c d : Char} (blank : isSpace c) (solid : isSpace d = false) : c ≠ d := by
  rintro rfl
  rw [blank] at solid
  cases solid

theorem schemes_raises : (schemes lib).Raises := by
  intro past rest found here
  obtain ⟨w, blanks, value, after, rfl, spelled, some_blank, spaced, some_value, fits, rfl⟩ :=
    schemes_found here
  refine ⟨by simp [some_value], after, by simp, .inr ?_⟩
  obtain ⟨b, blanks, rfl⟩ := List.exists_cons_of_ne_nil some_blank
  by_cases plain : b = ' '
  · subst plain
    refine ⟨w ++ [' '], blanks ++ value ++ after, redactedMark ++
      (schemes lib).pattern.replaced (schemes lib).template
        ((w ++ ' ' :: blanks ++ value).reverse ++ past) after, by simp, by simp [schemes, group], ?_⟩
    have no_bracket : (blanks ++ value ++ after).head? ≠ some '[' := by
      intro bracket
      cases blanks with
      | cons d blanks =>
        have blank := spaced d (by simp)
        exact space_apart blank (by decide) (Option.some.inj bracket)
      | nil =>
        obtain ⟨v, value, rfl⟩ := List.exists_cons_of_ne_nil some_value
        obtain rfl : v = '[' := Option.some.inj bracket
        exact absurd (fits '[' List.mem_cons_self) (by decide)
    have here : ∀ rest, rank ((w ++ [' ']).reverse ++ past) rest = prefers ['['] rest := by
      intro rest
      rw [List.reverse_append]
      simp [rank, awaited_of_head]
    rw [here, here]
    exact prefers_first [] _ no_bracket
  · refine ⟨w, b :: blanks ++ value ++ after, ' ' :: redactedMark ++
      (schemes lib).pattern.replaced (schemes lib).template
        ((w ++ b :: blanks ++ value).reverse ++ past) after, by simp, by simp [schemes, group], ?_⟩
    have blank := spaced b List.mem_cons_self
    rw [rank_word (spelled.keyword (by decide)).ends, rank_word (spelled.keyword (by decide)).ends,
      prefers_zero]
    · exact Nat.sub_pos_of_lt (by decide)
    · rintro c ⟨⟩
      simp [plain, space_apart blank (by decide : isSpace ':' = false),
        space_apart blank (by decide : isSpace '=' = false),
        space_apart blank (by decide : isSpace '[' = false)]

/-! ### Tokens by their shape -/

theorem token_solid {c : Char} (token : tokenChar c) : isSpace c = false := by
  rw [Bool.eq_false_iff]
  intro blank
  simp only [isSpace, Bool.or_eq_true, Bool.and_eq_true, decide_eq_true_eq, List.mem_cons,
    List.not_mem_nil, or_false] at blank
  simp only [tokenChar, Char.isAlphanum, Char.isAlpha, Char.isUpper, Char.isLower, Char.isDigit,
    Bool.or_eq_true, Bool.and_eq_true, decide_eq_true_eq] at token
  have range : (48 ≤ c.toNat ∧ c.toNat ≤ 57) ∨ (65 ≤ c.toNat ∧ c.toNat ≤ 90) ∨
      (97 ≤ c.toNat ∧ c.toNat ≤ 122) ∨ c.toNat = 95 ∨ c.toNat = 45 := by
    obtain (((upper | lower) | digit) | rfl) | rfl := token
    · exact .inr (.inl upper)
    · exact .inr (.inr (.inl lower))
    · exact .inl digit
    · exact .inr (.inr (.inr (.inl rfl)))
    · exact .inr (.inr (.inr (.inr rfl)))
  omega

/-- A token that begins where one may begin is worse than a bracket. -/
theorem rank_token {c : Char} (free : ∀ x ∈ past.head?, x.isAlphanum = false) (token : tokenChar c)
    (unmarked : ¬redactedTail.isPrefixOf (c :: old)) :
    rank past (c :: old) < rank past ('[' :: new) := by
  have outside : awaited past = none := by
    cases past with
    | nil => rfl
    | cons x past =>
      refine awaited_of_head ?_
      intro known
      have plain := free x rfl
      simp only [List.mem_cons, List.not_mem_nil, or_false] at known
      rcases known with rfl | rfl | rfl | rfl | rfl | rfl
      all_goals exact absurd plain (by decide)
  have apart : ∀ d, tokenChar d = false → c ≠ d := by
    rintro d other rfl
    rw [token] at other
    cases other
  unfold rank
  rw [outside]
  dsimp only
  have worst : ∀ wanted : List Char, (wanted.all fun d => !tokenChar d) = true →
      prefers wanted (c :: old) = 0 := by
    intro wanted others
    refine prefers_zero ?_
    rintro d ⟨⟩ known
    have other := List.all_eq_true.mp others c known
    rw [token] at other
    exact nomatch other
  split
  case h_1 =>
    have line : lineChar c := by
      simp [lineChar, apart '\r' (by decide), apart '\n' (by decide)]
    have bare : bareChar c := by
      simp [bareChar, token_solid token, apart ',' (by decide), apart ';' (by decide)]
    have bracket : lineChar '[' = true ∧ bareChar '[' = true := by decide
    simp [prefersEnd, line, bare, bracket, apart '[' (by decide)]
  case h_2 =>
    have other : ¬redactedTail.isPrefixOf ('[' :: new) := by
      simp [redactedTail, List.isPrefixOf]
    rw [if_neg unmarked, if_neg other, worst _ (by decide)]
    exact Nat.sub_pos_of_lt (by decide)
  case h_7 =>
    split
    · rw [worst _ (by decide)]
      exact Nat.sub_pos_of_lt (by decide)
    · rw [worst _ (by decide)]
      exact Nat.sub_pos_of_lt (by decide)
  all_goals
    rw [worst _ (by decide)]
    exact Nat.sub_pos_of_lt (by decide)

theorem prefixedTokens_raises : prefixedTokens.Raises := by
  intro past rest found here
  obtain ⟨free, first, more, after, rfl, kind, rfl⟩ := prefixedTokens_found here
  refine ⟨by simp, after, by simp, .inr ⟨[], first :: more ++ after, _, rfl, rfl, ?_⟩⟩
  have start : tokenChar first ∧ first ≠ 'R' := by
    simp only [tokenStarts, List.mem_cons, List.not_mem_nil, or_false] at kind
    rcases kind with rfl | rfl | rfl | rfl | rfl | rfl
    all_goals decide
  refine rank_token (fun x here => (free x here).1) start.1 ?_
  simp [redactedTail, List.isPrefixOf, start.2.symm]

theorem dottedTokens_raises : dottedTokens.Raises := by
  intro past rest found here
  obtain ⟨free, front, more, after, rfl, long, fits, rfl⟩ := dottedTokens_found here
  refine ⟨by simp, after, by simp, .inr ⟨[], front ++ '.' :: more ++ after, _, rfl, rfl, ?_⟩⟩
  have unmarked : ¬redactedTail.isPrefixOf (front ++ '.' :: more ++ after) := by
    rw [List.isPrefixOf_iff_prefix]
    rintro ⟨tail, same⟩
    have upTo : (front ++ '.' :: (more ++ after)).takeWhile tokenChar = front :=
      takeWhile_ends fits (by simp [tokenChar])
    have spelled : front = ['R', 'E', 'D', 'A', 'C', 'T', 'E', 'D'] := by
      rw [← upTo, ← List.cons_append, ← List.append_assoc, ← same]
      simp [redactedTail, tokenChar]
    rw [spelled] at same
    simp [redactedTail] at same
  cases front with
  | nil => simp at long
  | cons first front =>
    refine rank_token ?_ (fits first List.mem_cons_self) unmarked
    intro x here
    have other := free x here
    simp only [tokenChar, Bool.or_eq_false_iff] at other
    exact other.1.1

/-! ### Headers and assignments -/

theorem mark_rank (past new : List Char) {mid wanted : List Char} {sep c : Char}
    (isSep : sep ∈ [':', '='])
    (some_mid : mid ≠ []) (split : sep :: ' ' :: redactedMark = mid ++ c :: wanted)
    (other : old.head? ≠ some c) :
    rank (mid.reverse ++ past) old < rank (mid.reverse ++ past) (c :: wanted ++ new) := by
  have whole : mid = (sep :: ' ' :: redactedMark).take mid.length := by
    rw [split]
    simp
  have here : c :: wanted = (sep :: ' ' :: redactedMark).drop mid.length := by
    rw [split]
    simp
  have bound : mid.length ≤ 11 := by
    have total := congrArg List.length split
    simp [redactedMark] at total
    omega
  have positive := List.length_pos_iff.mpr some_mid
  generalize mid.length = n at whole here bound positive
  subst whole
  simp only [List.mem_cons, List.not_mem_nil, or_false] at isSep
  interval_cases n
  case «3» =>
    cases here
    have bracketed : ∀ rest, rank ('[' :: ' ' :: sep :: past) rest =
        if redactedTail.isPrefixOf rest then 2 else prefers ['['] rest := fun _ => rfl
    have unmarked : ¬redactedTail.isPrefixOf old := by
      cases old with
      | nil => simp [redactedTail]
      | cons x old =>
        intro starts
        simp only [redactedTail, List.isPrefixOf, Bool.and_eq_true, beq_iff_eq] at starts
        exact other (congrArg some starts.1.symm)
    have marked : redactedTail.isPrefixOf (redactedTail ++ new) := by
      rw [List.isPrefixOf_iff_prefix]
      exact List.prefix_append _ _
    show rank ('[' :: ' ' :: sep :: past) old < rank ('[' :: ' ' :: sep :: past) (redactedTail ++ new)
    rw [bracketed, bracketed, if_neg unmarked, if_pos marked]
    exact Nat.lt_succ_of_le (prefers_le _ _)
  all_goals
    cases here
    obtain rfl | rfl := isSep
    all_goals exact prefers_first _ [] other

/-- A header or an assignment has what it is replaced with, or leaves it at a place where the score
is raised. The value is given by what is known of one that begins like the mark. -/
theorem mark_raises (past : List Char) {w blanks value : List Char} {sep : Char}
    {after later : List Char}
    (ends : endsWord (w.map folded)) (spaced : ∀ x ∈ blanks, isSpace x) (isSep : sep ∈ [':', '='])
    (whole : ∀ tail, value ++ after = ' ' :: redactedMark ++ tail →
      value = ' ' :: redactedMark ∨ prefersEnd tail < prefersEnd later) :
    blanks ++ sep :: value = sep :: ' ' :: redactedMark ∨
      ∃ mid old new, w ++ (blanks ++ sep :: value) ++ after = mid ++ old ∧
        w ++ sep :: ' ' :: redactedMark ++ later = mid ++ new ∧
        rank (mid.reverse ++ past) old < rank (mid.reverse ++ past) new := by
  have solid : isSpace sep = false := by
    simp only [List.mem_cons, List.not_mem_nil, or_false] at isSep
    obtain rfl | rfl := isSep
    all_goals decide
  obtain ⟨tail, same⟩ | ⟨mid, c, wanted, old, split, body, other⟩ :=
    mark_cases (sep :: ' ' :: redactedMark) (blanks ++ sep :: value ++ after)
  · cases blanks with
    | cons b blanks =>
      have first : b = sep := by simpa using congrArg List.head? same
      exact absurd first (space_apart (spaced b List.mem_cons_self) solid)
    | nil =>
      have rest : value ++ after = ' ' :: redactedMark ++ tail := by simpa using same
      obtain settled | closes := whole tail rest
      · exact .inl (by simp [settled])
      · refine .inr ⟨w ++ sep :: ' ' :: redactedMark, tail, later, ?_, by simp, ?_⟩
        · simpa using rest
        · simpa [redactedMark, rank, awaited_of_head] using closes
  · right
    cases mid with
    | nil =>
      obtain ⟨rfl, rfl⟩ := List.cons.inj split
      cases blanks with
      | nil =>
        rw [← List.nil_append old, ← body] at other
        exact absurd rfl other
      | cons b blanks =>
        have blank := spaced b List.mem_cons_self
        refine ⟨w, old, sep :: ' ' :: redactedMark ++ later, by simpa using body, by simp, ?_⟩
        rw [rank_word ends, rank_word ends, ← List.nil_append old, ← body]
        have low : prefers [':', '=', ' ', '['] (b :: (blanks ++ sep :: value ++ after)) ≤ 2 := by
          have colon : ':' ≠ b := (space_apart blank (by decide)).symm
          have equals : '=' ≠ b := (space_apart blank (by decide)).symm
          simp only [prefers, List.idxOf_cons_ne _ colon, List.idxOf_cons_ne _ equals,
            List.length_cons, List.length_nil]
          omega
        have high : 3 ≤ prefers [':', '=', ' ', '['] (sep :: ' ' :: redactedMark ++ later) := by
          simp only [List.mem_cons, List.not_mem_nil, or_false] at isSep
          obtain rfl | rfl := isSep
          all_goals exact Nat.le_sub_of_add_le (by decide)
        exact low.trans_lt high
    | cons m mid =>
      refine ⟨w ++ m :: mid, old, c :: wanted ++ later, ?_, ?_, ?_⟩
      · simpa using body
      · rw [List.append_assoc, split]
        simp
      · have rises := mark_rank (w.reverse ++ past) later isSep
          (List.cons_ne_nil m mid) split other
        simpa using rises

theorem headers_missed (other : ∀ x ∈ rest.head?, (folded x).isLower = false) :
    (headers lib).pattern.matchAt ⟨past, rest⟩ = none := by
  by_contra some_match
  obtain ⟨found, here⟩ := Option.ne_none_iff_exists'.mp some_match
  obtain ⟨w, blanks, more, line, after, rfl, spelled, _⟩ := headers_found here
  obtain ⟨first, w, rfl, letter⟩ := (spelled.keyword (by decide)).starts
  rw [other first rfl] at letter
  cases letter

theorem assignments_missed (other : ∀ x ∈ rest.head?, (folded x).isLower = false) :
    (assignments lib).pattern.matchAt ⟨past, rest⟩ = none := by
  by_contra some_match
  obtain ⟨found, here⟩ := Option.ne_none_iff_exists'.mp some_match
  obtain ⟨w, blanks, sep, more, value, after, rfl, keyword, _⟩ := assignments_found here
  obtain ⟨first, w, rfl, letter⟩ := keyword.starts
  rw [other first rfl] at letter
  cases letter

theorem lineEnd_folded {x : Char} (ends : lineChar x = false) : (folded x).isLower = false := by
  simp only [lineChar, Bool.and_eq_false_iff, decide_eq_false_iff_not, not_not] at ends
  obtain rfl | rfl := ends
  all_goals decide

theorem bareEnd_folded {x : Char} (ends : bareChar x = false) : (folded x).isLower = false := by
  simp only [bareChar, Bool.and_eq_false_iff, Bool.not_eq_false', decide_eq_false_iff_not,
    not_not] at ends
  obtain (blank | rfl) | rfl := ends
  · exact space_folded blank
  · decide
  · decide

/-- The end of a value in a text that comes after it, whatever that text becomes. -/
theorem prefersEnd_rises {p : Char → Bool} {value after tail mark later : List Char}
    (fits : ∀ x ∈ value, p x) (ends : ∀ x ∈ after.head?, p x = false) (good : mark.all p = true)
    (same : value ++ after = mark ++ tail)
    (ranks : ∀ x rest, p x → (∀ y ∈ later.head?, p y = false) →
      prefersEnd (x :: rest) < prefersEnd later)
    (kept : later.head? = after.head?) : value = mark ∨ prefersEnd tail < prefersEnd later := by
  have upTo : value = mark ++ tail.takeWhile p := by
    rw [← takeWhile_ends fits ends, same, List.takeWhile_append_of_pos (List.all_eq_true.mp good)]
  cases tail with
  | nil => exact .inl (by simpa using upTo)
  | cons x tail =>
    cases here : p x with
    | false => exact .inl (by simpa [here] using upTo)
    | true => exact .inr (ranks x tail here (by rwa [kept]))

theorem headers_raises : (headers lib).Raises := by
  intro past rest found here
  obtain ⟨w, blanks, more, line, after, rfl, spelled, spaced, spaced', fits, ends, rfl⟩ :=
    headers_found here
  refine ⟨by simp, after, by simp, ?_⟩
  set later := (headers lib).pattern.replaced (headers lib).template
    ((w ++ blanks ++ ':' :: more ++ line).reverse ++ past) after with later_eq
  have kept : later.head? = after.head? :=
    replaced_head (headers_missed fun x known => lineEnd_folded (ends x known))
  have ranks : ∀ x rest, lineChar x → (∀ y ∈ later.head?, lineChar y = false) →
      prefersEnd (x :: rest) < prefersEnd later := by
    intro x rest inside stop
    have low : prefersEnd (x :: rest) ≤ 2 := by
      simp only [prefersEnd, inside]
      split_ifs
      all_goals simp_all
    have high : prefersEnd later = 3 := by
      cases final : later with
      | nil => rfl
      | cons y later' => simp [prefersEnd, stop y (by simp [final])]
    omega
  have whole : ∀ tail, more ++ line ++ after = ' ' :: redactedMark ++ tail →
      more ++ line = ' ' :: redactedMark ∨ prefersEnd tail < prefersEnd later := by
    intro tail same
    cases more with
    | nil =>
      exact prefersEnd_rises fits ends (by decide) same ranks kept
    | cons m more =>
      obtain rfl : m = ' ' := by simpa using congrArg List.head? same
      cases more with
      | nil =>
        have same : line ++ after = redactedMark ++ tail := by simpa using same
        refine (prefersEnd_rises fits ends (by decide) same ranks kept).imp_left ?_
        rintro rfl
        rfl
      | cons m' more =>
        have second : m' = '[' := by
          injection same with _ same
          injection same
        have blank := spaced' m' (by simp)
        exact absurd second (space_apart blank (by decide))
  have ended : endsWord (w.map folded) := (spelled.keyword (by decide)).ends
  obtain same | ⟨mid, old, new, old_eq, new_eq, rises⟩ :=
    mark_raises past ended spaced (by decide : ':' ∈ [':', '=']) whole
  · left
    simp [headers, group, ← same]
  · right
    refine ⟨mid, old, new, by simpa using old_eq, ?_, rises⟩
    rw [← new_eq, later_eq]
    simp [headers, group]

theorem assignments_raises : (assignments lib).Raises := by
  intro past rest found here
  obtain ⟨w, blanks, sep, more, value, after, rfl, keyword, spaced, isSep, spaced', assigned, rfl⟩ :=
    assignments_found here
  refine ⟨by simp, after, by simp, ?_⟩
  set later := (assignments lib).pattern.replaced (assignments lib).template
    ((w ++ blanks ++ sep :: more ++ value).reverse ++ past) after with later_eq
  obtain ⟨first, inner, rfl, solid, bracketed⟩ := assigned
  have ranks : ∀ x rest, bareChar x → (∀ y ∈ later.head?, bareChar y = false) →
      prefersEnd (x :: rest) < prefersEnd later := by
    intro x rest inside stop
    have line : lineChar x := by
      by_contra ended
      have none_line : bareChar x = false := by
        simp only [lineChar, Bool.and_eq_true, decide_eq_true_eq, not_and_or, not_not] at ended
        obtain rfl | rfl := ended
        all_goals decide
      rw [none_line] at inside
      cases inside
    have low : prefersEnd (x :: rest) ≤ 1 := by
      simp only [prefersEnd, inside, line]
      split_ifs
      all_goals simp_all
    have high : 2 ≤ prefersEnd later := by
      cases final : later with
      | nil => decide
      | cons y later' =>
        simp only [prefersEnd, stop y (by simp [final])]
        split_ifs
        all_goals simp_all
    omega
  have whole : ∀ tail, more ++ first :: inner ++ after = ' ' :: redactedMark ++ tail →
      more ++ first :: inner = ' ' :: redactedMark ∨ prefersEnd tail < prefersEnd later := by
    intro tail same
    cases more with
    | nil =>
      have blank : first = ' ' := by injection same
      rw [blank] at solid
      exact absurd solid (by decide)
    | cons m more =>
      have plain : m = ' ' := by injection same
      subst plain
      cases more with
      | nil =>
        have same : first :: inner ++ after = redactedMark ++ tail := by simpa using same
        have bracket : first = '[' := by injection same
        obtain ⟨fits, ends⟩ := bracketed bracket
        have kept : later.head? = after.head? :=
          replaced_head (assignments_missed fun x known => bareEnd_folded (ends x known))
        refine (prefersEnd_rises fits ends (by decide) same ranks kept).imp_left ?_
        intro mark
        simp [mark]
      | cons m' more =>
        have second : m' = '[' := by
          injection same with _ same
          injection same
        have blank := spaced' m' (by simp)
        exact absurd second (space_apart blank (by decide))
  obtain same | ⟨mid, old, new, old_eq, new_eq, rises⟩ :=
    mark_raises past keyword.ends spaced isSep whole
  · left
    simp [assignments, group, ← same]
  · right
    refine ⟨mid, old, new, by simpa using old_eq, ?_, rises⟩
    rw [← new_eq, later_eq]
    simp [assignments, group]

/-! ### All of them -/

theorem Redaction.Raises.sub_self {redaction : Redaction} (raises : redaction.Raises)
    {text : List Char} (leaves : redaction.Leaves [] text) : redaction.sub text = text := by
  refine replaced_self ?_ leaves
  intro past rest found here
  obtain ⟨some_text, after, split, _⟩ := raises past rest found here
  exact ⟨some_text, after, split⟩

theorem applyAll_cases {redactions : List Redaction} (raise : ∀ r ∈ redactions, r.Raises)
    (text : List Char) :
    ((∀ r ∈ redactions, r.Leaves [] text) ∧ applyAll redactions text = text) ∨
      score [] text < score [] (applyAll redactions text) := by
  induction redactions generalizing text with
  | nil => exact .inl ⟨by simp, rfl⟩
  | cons r redactions ih =>
    have rest := ih (fun other known => raise other (List.mem_cons_of_mem r known)) (r.sub text)
    show (_ ∧ applyAll redactions (r.sub text) = text) ∨
      score [] text < score [] (applyAll redactions (r.sub text))
    obtain ⟨leaves, same⟩ | rises := (raise r List.mem_cons_self).sub_cases text
    · rw [same] at rest ⊢
      refine rest.imp_left ?_
      rintro ⟨all, stays⟩
      exact ⟨by simpa [leaves] using all, stays⟩
    · obtain ⟨_, stays⟩ | more := rest
      · rw [stays]
        exact .inr rises
      · exact .inr (rises.trans more)

theorem applyAll_eq_iff {redactions : List Redaction} (raise : ∀ r ∈ redactions, r.Raises)
    (text : List Char) :
    applyAll redactions text = text ↔ ∀ r ∈ redactions, r.Leaves [] text := by
  constructor
  · intro same
    obtain ⟨leaves, _⟩ | rises := applyAll_cases raise text
    · exact leaves
    · rw [same] at rises
      exact absurd rises (lt_irrefl _)
  · intro leaves
    induction redactions with
    | nil => rfl
    | cons r redactions ih =>
      show applyAll redactions (r.sub text) = text
      rw [(raise r List.mem_cons_self).sub_self (leaves r List.mem_cons_self)]
      exact ih (fun other known => raise other (List.mem_cons_of_mem r known))
        fun other known => leaves other (List.mem_cons_of_mem r known)

theorem inlineRedactions_raise (lib : Redactor) : ∀ r ∈ lib.inlineRedactions, r.Raises := by
  intro r known
  simp only [Redactor.inlineRedactions, List.mem_cons, List.not_mem_nil, or_false] at known
  rcases known with rfl | rfl | rfl | rfl
  · exact urlUserinfo_raises
  · exact schemes_raises
  · exact prefixedTokens_raises
  · exact dottedTokens_raises

def Redactor.proseRedactions (lib : Redactor) : List Redaction :=
  lib.inlineRedactions ++ [headers lib, assignments lib]

theorem proseRedactions_raise (lib : Redactor) : ∀ r ∈ lib.proseRedactions, r.Raises := by
  intro r known
  obtain inline | known := List.mem_append.mp known
  · exact inlineRedactions_raise lib r inline
  · simp only [List.mem_cons, List.not_mem_nil, or_false] at known
    obtain rfl | rfl := known
    · exact headers_raises
    · exact assignments_raises

/-- Whatever the redactions match is already what they would write. -/
def Untouched (redactions : List Redaction) (text : String) : Prop :=
  ∀ r ∈ redactions, ∀ found ∈ r.pattern.finditer text.toList, r.template found = found.text

theorem redactProse_eq_iff (text : String) :
    lib.redactProse text = text ↔ Untouched lib.proseRedactions text := by
  have whole : lib.redactProse text =
      String.ofList (applyAll lib.proseRedactions text.toList) := by
    simp [Redactor.redactProse, Redactor.redactString, Redactor.proseRedactions, applyAll,
      List.foldl_append]
  rw [whole, ← String.toList_inj, String.toList_ofList,
    applyAll_eq_iff (proseRedactions_raise lib)]
  rfl

mutual

/-- No credential stands in a structure, under its key or by its shape. -/
def Redactor.Clean (lib : Redactor) : Json → Prop
  | .obj fields => lib.CleanFields fields
  | .arr items => lib.CleanItems items
  | .str value => Untouched lib.inlineRedactions value
  | _ => True

def Redactor.CleanFields (lib : Redactor) : List (String × Json) → Prop
  | [] => True
  | (key, value) :: rest =>
    (if lib.secretKey key then value = .str "[REDACTED]" else lib.Clean value) ∧
      lib.CleanFields rest

def Redactor.CleanItems (lib : Redactor) : List Json → Prop
  | [] => True
  | item :: rest => lib.Clean item ∧ lib.CleanItems rest

end

theorem redactString_eq_iff {key : Option String} (plain : key.any lib.secretKey = false)
    (value : String) : lib.redactString value key = value ↔ Untouched lib.inlineRedactions value := by
  unfold Redactor.redactString
  rw [plain, Bool.false_and, if_neg (by decide), ← String.toList_inj, String.toList_ofList,
    applyAll_eq_iff (inlineRedactions_raise lib)]
  rfl

mutual

theorem redactStructured_eq_iff {key : Option String} (plain : key.any lib.secretKey = false) :
    ∀ payload : Json, lib.redactStructured key payload = payload ↔ lib.Clean payload
  | .obj fields => by
    rw [Redactor.redactStructured, Redactor.Clean, Json.obj.injEq]
    exact redactFields_eq_iff fields
  | .arr items => by
    rw [Redactor.redactStructured, Redactor.Clean, Json.arr.injEq]
    exact redactItems_eq_iff plain items
  | .str value => by
    rw [Redactor.redactStructured, Redactor.Clean, Json.str.injEq]
    exact redactString_eq_iff plain value
  | .null => by simp [Redactor.redactStructured, Redactor.Clean]
  | .bool _ => by simp [Redactor.redactStructured, Redactor.Clean]
  | .num _ => by simp [Redactor.redactStructured, Redactor.Clean]

theorem redactFields_eq_iff :
    ∀ fields : List (String × Json), lib.redactFields fields = fields ↔ lib.CleanFields fields
  | [] => by simp [Redactor.redactFields, Redactor.CleanFields]
  | (key, value) :: rest => by
    rw [Redactor.redactFields, Redactor.CleanFields, List.cons.injEq, Prod.mk.injEq,
      redactFields_eq_iff rest]
    refine and_congr_left fun _ => ?_
    rw [and_iff_right rfl]
    cases secret : lib.secretKey key
    · rw [if_neg (by decide), if_neg (by decide)]
      exact redactStructured_eq_iff (by simpa using secret) value
    · rw [if_pos rfl, if_pos rfl]
      exact eq_comm

theorem redactItems_eq_iff {key : Option String} (plain : key.any lib.secretKey = false) :
    ∀ items : List Json, lib.redactItems key items = items ↔ lib.CleanItems items
  | [] => by simp [Redactor.redactItems, Redactor.CleanItems]
  | item :: rest => by
    rw [Redactor.redactItems, Redactor.CleanItems, List.cons.injEq,
      redactStructured_eq_iff plain item, redactItems_eq_iff plain rest]

end

end SightMesh.Escalation
