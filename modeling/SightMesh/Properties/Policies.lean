import Mathlib.Algebra.Order.Ring.Cast
import Mathlib.Order.WithBot
import Mathlib.Tactic.Linarith
import SightMesh.Executor.Policies
import SightMesh.Programs.Scripted

/-! What comes of reading a detection policy: the order in which the values are looked at decides
which exception an unusable one raises, and only the inline settings are held to the floor. -/
namespace SightMesh

open Python

variable {py : Library} {environment : String → Option String}

/-! ### One value -/

def positive (value : Json) : Bool := !hugeInteger value && decide (0 < exactNumber value)

def usable : Json → Bool
  | .null => true
  | value => positive value

def givenNumber : Json → Option ℚ
  | .null => none
  | value => some (exactNumber value)

theorem isPositiveNumber_eq (value : Json) : isPositiveNumber value =
    if hugeInteger value then .error .overflow else .ok (positive value) := by
  cases value with
  | num n =>
    cases n with
    | int n =>
      by_cases huge : overflows n
      · simp [isPositiveNumber, hugeInteger, huge]
      · simp [isPositiveNumber, hugeInteger, positive, exactNumber, huge, Int.cast_pos]
    | finite q =>
      simp only [isPositiveNumber, hugeInteger, positive, exactNumber, Bool.not_false,
        Bool.true_and, Bool.false_eq_true, if_false]
      exact congrArg Except.ok (decide_eq_decide.mpr Iff.rfl)
    | _ => simp [isPositiveNumber, hugeInteger, positive, exactNumber]
  | _ => simp [isPositiveNumber, hugeInteger, positive, exactNumber]

theorem ceiling_eq (name : String) (value : Json) : ceiling py name value =
    if hugeInteger value then .error .overflow
    else if usable value then .ok (givenNumber value) else .error (notCeiling py name value) := by
  cases value with
  | null => rfl
  | _ =>
    simp only [ceiling, isPositiveNumber_eq, usable, givenNumber]
    split
    · rfl
    · rfl

theorem requiredPositive_eq (value : Json) (name : String) : requiredPositive py value name =
    if hugeInteger value then .error .overflow
    else if positive value then .ok (floatNumber value)
    else .error (notSeconds py name value) := by
  simp only [requiredPositive, isPositiveNumber_eq]
  split
  · rfl
  · rfl

theorem floatOfInt_pos {n : ℤ} (pos : 0 < n) : 0 < floatOfInt n := by
  have nonzero : n.natAbs ≠ 0 := by omega
  have whole : 0 < n.natAbs / 2 ^ (n.natAbs.log2 - 52) := by
    refine Nat.div_pos ?_ (Nat.two_pow_pos _)
    exact le_trans (Nat.pow_le_pow_right (by omega) (Nat.sub_le _ _)) (Nat.log2_self_le nonzero)
  unfold floatOfInt
  rw [Int.sign_eq_one_of_pos pos]
  simp only [Int.cast_one, one_mul, Nat.cast_pos]
  exact Nat.mul_pos (by omega) (Nat.two_pow_pos _)

theorem floatNumber_pos {value : Json} (pos : positive value) : 0 < floatNumber value := by
  cases value with
  | num n =>
    cases n with
    | int n =>
      rw [positive, Bool.and_eq_true] at pos
      exact floatOfInt_pos (Int.cast_pos.mp (of_decide_eq_true pos.2))
    | finite q =>
      rw [positive, Bool.and_eq_true] at pos
      exact of_decide_eq_true pos.2
    | _ => simp [positive, exactNumber] at pos
  | _ => simp [positive, exactNumber] at pos

/-! ### Which exception -/

/-- The reading returns, or raises `DetectionPolicyError`. -/
def Settles {α : Type} : Checked α → Prop
  | .ok _ => True
  | .error (.policy _) => True
  | .error _ => False

theorem settles_iff {α : Type} (result : Checked α) : Settles result ↔
    (∃ a, result = .ok a) ∨ ∃ message, result = .error (.policy message) := by
  cases result with
  | ok a => simp [Settles]
  | error fault =>
    cases fault with
    | policy message => simp [Settles]
    | budget message => simp [Settles]
    | overflow => simp [Settles]

/-! ### Budgets -/

def budgetValues (value : Json) : List Json :=
  match value with
  | .obj fields => ["max_turns", "max_tokens", "max_cost"].map (Dict.get fields)
  | _ => []

def budgetOf (value : Json) : Option Budget :=
  match value with
  | .obj [] => none
  | .obj fields => some ⟨givenNumber (Dict.get fields "max_turns"),
      givenNumber (Dict.get fields "max_tokens"), givenNumber (Dict.get fields "max_cost")⟩
  | _ => none

/-- Reading the values in order comes to a huge integer before one it refuses. -/
def hugeFirst (values : List Json) : Bool := meetsHuge (fun value => !usable value) values

theorem usable_fits {value : Json} (fits : usable value) : hugeInteger value = false := by
  cases value with
  | null => rfl
  | _ =>
    simp only [usable, positive, Bool.and_eq_true, Bool.not_eq_true'] at fits
    exact fits.1

theorem hugeFirst_of_usable {values : List Json} (fits : values.all usable) :
    hugeFirst values = false := by
  induction values with
  | nil => rfl
  | cons value rest ih =>
    rw [List.all_cons, Bool.and_eq_true] at fits
    rw [hugeFirst, meetsHuge, usable_fits fits.1, fits.1]
    exact ih fits.2

theorem Budget.make_cases (py : Library) (turns tokens cost : Json) :
    (hugeFirst [turns, tokens, cost] ∧ Budget.make py turns tokens cost = .error .overflow) ∨
    (hugeFirst [turns, tokens, cost] = false ∧ [turns, tokens, cost].all usable ∧
      Budget.make py turns tokens cost =
        .ok ⟨givenNumber turns, givenNumber tokens, givenNumber cost⟩) ∨
    (hugeFirst [turns, tokens, cost] = false ∧ [turns, tokens, cost].all usable = false ∧
      ∃ message, Budget.make py turns tokens cost = .error (.budget message)) := by
  have next (value : Json) : (hugeInteger value ∧ usable value = false) ∨
      (hugeInteger value = false ∧ usable value) ∨
      (hugeInteger value = false ∧ usable value = false) := by
    cases fits : usable value with
    | true => exact .inr (.inl ⟨usable_fits fits, rfl⟩)
    | false => cases hugeInteger value with
      | true => exact .inl ⟨rfl, rfl⟩
      | false => exact .inr (.inr ⟨rfl, rfl⟩)
  simp only [hugeFirst, meetsHuge, Budget.make, ceiling_eq, List.all_cons, List.all_nil]
  rcases next turns with ⟨h, u⟩ | ⟨h, u⟩ | ⟨h, u⟩
  · simp [h, u, bind, Except.bind]
  · rcases next tokens with ⟨h', u'⟩ | ⟨h', u'⟩ | ⟨h', u'⟩
    · simp [h, u, h', u', bind, Except.bind]
    · rcases next cost with ⟨h'', u''⟩ | ⟨h'', u''⟩ | ⟨h'', u''⟩
      · simp [h, u, h', u', h'', u'', bind, Except.bind]
      · simp [h, u, h', u', h'', u'', bind, Except.bind, pure, Except.pure]
      · simp [h, u, h', u', h'', u'', bind, Except.bind, notCeiling]
    · simp [h, u, h', u', bind, Except.bind, notCeiling]
  · simp [h, u, bind, Except.bind, notCeiling]

theorem Budget.fromDict_cases (py : Library) (value : Json) :
    (hugeFirst (budgetValues value) ∧ Budget.fromDict py value = .error .overflow) ∨
    (hugeFirst (budgetValues value) = false ∧ (budgetValues value).all usable ∧
      Budget.fromDict py value = .ok (budgetOf value)) ∨
    (hugeFirst (budgetValues value) = false ∧ (budgetValues value).all usable = false ∧
      ∃ message, Budget.fromDict py value = .error (.budget message)) := by
  cases value with
  | obj fields =>
    cases fields with
    | nil => exact .inr (.inl ⟨rfl, rfl, rfl⟩)
    | cons field fields =>
      have built : Budget.fromDict py (.obj (field :: fields)) =
          (Budget.make py (Dict.get (field :: fields) "max_turns")
            (Dict.get (field :: fields) "max_tokens")
            (Dict.get (field :: fields) "max_cost")).bind fun budget => .ok (some budget) := rfl
      rw [built]
      rcases Budget.make_cases py (Dict.get (field :: fields) "max_turns")
        (Dict.get (field :: fields) "max_tokens") (Dict.get (field :: fields) "max_cost") with
        ⟨huge, made⟩ | ⟨small, fits, made⟩ | ⟨small, refused, message, made⟩
      · exact .inl ⟨huge, by rw [made]; rfl⟩
      · exact .inr (.inl ⟨small, fits, by rw [made]; rfl⟩)
      · exact .inr (.inr ⟨small, refused, message, by rw [made]; rfl⟩)
  | _ => exact .inr (.inl ⟨rfl, rfl, rfl⟩)

/-- The budget that narrows both, where there are two. -/
def Budget.merged (budget : Budget) : Option Budget → Budget
  | none => budget
  | some other => ⟨smaller budget.maxTurns other.maxTurns, smaller budget.maxTokens other.maxTokens,
      smaller budget.maxCost other.maxCost⟩

@[simp] theorem givenNumber_jsonNumber (value : Option ℚ) : givenNumber (jsonNumber value) = value := by
  cases value with
  | none => rfl
  | some q => rfl

/-! ### As strict as the floor -/

def limit (ceiling : Option ℚ) : WithTop ℚ := ceiling

theorem limit_smaller (left right : Option ℚ) : limit (smaller left right) = limit left ⊓ limit right := by
  cases left with
  | none => exact (top_inf_eq (limit right)).symm
  | some a =>
    cases right with
    | none => exact (inf_top_eq (limit (some a))).symm
    | some b => rfl

/-- The ceilings of a policy, the axis chosen by the field. -/
def DetectionPolicy.limit (policy : DetectionPolicy) (axis : Budget → Option ℚ) : WithTop ℚ :=
  SightMesh.limit (policy.budget.bind axis)

/-- Every axis is at most that of the floor: an absent ceiling is none at all, and an absent
approval timeout is the default. -/
structure DetectionPolicy.AtLeastAsStrict (policy floor : DetectionPolicy) : Prop where
  progress : policy.progressTimeout ≤ floor.progressTimeout
  approval : policy.effectiveApprovalTimeout ≤ floor.effectiveApprovalTimeout
  turns : policy.limit Budget.maxTurns ≤ floor.limit Budget.maxTurns
  tokens : policy.limit Budget.maxTokens ≤ floor.limit Budget.maxTokens
  cost : policy.limit Budget.maxCost ≤ floor.limit Budget.maxCost

/-! ### The two ways to a policy -/

def recordProgress (record : Dict) : Json :=
  if record.has "progress_timeout" then record.get "progress_timeout"
  else .num (.finite defaultProgressTimeout)

def givenFloat : Json → Option ℚ
  | .null => none
  | value => some (floatNumber value)

def readable : Json → Bool
  | .null | .obj _ => true
  | _ => false

/-- Reading a record comes to a huge integer before a value it refuses. -/
def RecordHuge (record : Dict) : Prop :=
  hugeFirst (budgetValues (record.get "budget")) ∨
    readable (record.get "budget") ∧ (budgetValues (record.get "budget")).all usable ∧
      (hugeInteger (recordProgress record) ∨
        positive (recordProgress record) ∧ hugeInteger (record.get "approval_timeout"))

/-- Every value of the record can be used. -/
structure RecordUsable (record : Dict) : Prop where
  budget : readable (record.get "budget")
  ceilings : (budgetValues (record.get "budget")).all usable
  progress : positive (recordProgress record)
  approval : usable (record.get "approval_timeout")

theorem positive_fits {value : Json} (pos : positive value) : hugeInteger value = false := by
  rw [positive, Bool.and_eq_true, Bool.not_eq_true'] at pos
  exact pos.1

theorem RecordUsable.small {record : Dict} (usable' : RecordUsable record) :
    ¬ RecordHuge record := by
  rintro (huge | ⟨_, _, huge | ⟨_, huge⟩⟩)
  · exact nomatch (hugeFirst_of_usable usable'.ceilings).symm.trans huge
  · exact nomatch (positive_fits usable'.progress).symm.trans huge
  · exact nomatch (usable_fits usable'.approval).symm.trans huge

def recordPolicy (record : Dict) : DetectionPolicy where
  progressTimeout := floatNumber (recordProgress record)
  approvalTimeout := givenFloat (record.get "approval_timeout")
  budget := budgetOf (record.get "budget")

theorem DetectionPolicy.make_ok {progress : ℚ} {approval : Option ℚ} {budget : Option Budget}
    (pos : 0 < progress) (pos' : ∀ q ∈ approval, 0 < q) :
    DetectionPolicy.make py progress approval budget = .ok ⟨progress, approval, budget⟩ := by
  rw [DetectionPolicy.make, if_neg (not_not.mpr pos), if_neg]
  simpa [Option.any_eq_true] using pos'

theorem givenFloat_pos {value : Json} (fits : usable value) : ∀ q ∈ givenFloat value, 0 < q := by
  intro q given
  cases value with
  | null => exact nomatch given
  | _ =>
    obtain rfl := Option.some.inj given
    exact floatNumber_pos fits

theorem storedBudget_unreadable {value : Json} (unread : readable value = false) :
    storedBudget py value = .error (.policy ("Unreadable budget: " ++ py.repr value)) := by
  cases value with
  | null => exact nomatch unread
  | obj fields => exact nomatch unread
  | _ => rfl

theorem storedBudget_cases (py : Library) (value : Json) :
    (hugeFirst (budgetValues value) ∧ storedBudget py value = .error .overflow) ∨
    (hugeFirst (budgetValues value) = false ∧ (readable value ∧ (budgetValues value).all usable) ∧
      storedBudget py value = .ok (budgetOf value)) ∨
    (hugeFirst (budgetValues value) = false ∧
      ¬ (readable value ∧ (budgetValues value).all usable) ∧
      ∃ message, storedBudget py value = .error (.policy message)) := by
  rcases Budget.fromDict_cases py value with
    ⟨huge, made⟩ | ⟨small, fits, made⟩ | ⟨small, refused, message, made⟩
  · exact .inl ⟨huge, by rw [storedBudget, made]; rfl⟩
  · cases read : readable value with
    | true =>
      refine .inr (.inl ⟨small, ⟨rfl, fits⟩, ?_⟩)
      rw [storedBudget, made]
      cases value with
      | obj fields => cases fields with
        | nil => rfl
        | cons field fields => rfl
      | null => rfl
      | _ => exact nomatch read
    | false =>
      exact .inr (.inr ⟨small, (fun usable' => nomatch usable'.1), _, storedBudget_unreadable read⟩)
  · refine .inr (.inr ⟨small, fun usable' => ?_, message, by rw [storedBudget, made]; rfl⟩)
    exact nomatch refused.symm.trans usable'.2

theorem optionalPositive_eq (value : Json) (name : String) : optionalPositive py value name =
    if hugeInteger value then .error .overflow
    else if usable value then .ok (givenFloat value) else .error (notSeconds py name value) := by
  cases value with
  | null => rfl
  | _ =>
    simp only [optionalPositive, requiredPositive_eq, usable, givenFloat]
    split
    · rfl
    · split
      · rename_i pos
        exact (if_pos pos).symm
      · rename_i neg
        exact (if_neg neg).symm

theorem DetectionPolicy.fromDict_cases (py : Library) (record : Dict) :
    (RecordHuge record ∧ DetectionPolicy.fromDict py (.obj record) = .error .overflow) ∨
    (¬ RecordHuge record ∧ RecordUsable record ∧
      DetectionPolicy.fromDict py (.obj record) = .ok (recordPolicy record)) ∨
    (¬ RecordHuge record ∧ ¬ RecordUsable record ∧
      ∃ message, DetectionPolicy.fromDict py (.obj record) = .error (.policy message)) := by
  have opened : DetectionPolicy.fromDict py (.obj record) =
      (storedBudget py (record.get "budget")).bind fun budget =>
        (requiredPositive py (recordProgress record) "progress_timeout").bind fun progress =>
          (optionalPositive py (record.get "approval_timeout") "approval_timeout").bind
            fun approval => DetectionPolicy.make py progress approval budget := rfl
  rw [opened]
  rcases storedBudget_cases py (record.get "budget") with
    ⟨huge, read⟩ | ⟨small, budgeted, read⟩ | ⟨small, refused, message, read⟩
  · exact .inl ⟨.inl huge, by rw [read]; rfl⟩
  · have onlyAfter (huge : RecordHuge record) : hugeInteger (recordProgress record) ∨
        positive (recordProgress record) ∧ hugeInteger (record.get "approval_timeout") := by
      rcases huge with huge | ⟨_, _, huge⟩
      · exact nomatch small.symm.trans huge
      · exact huge
    simp only [read, Except.bind, requiredPositive_eq, optionalPositive_eq]
    by_cases huge : hugeInteger (recordProgress record)
    · exact .inl ⟨.inr ⟨budgeted.1, budgeted.2, .inl huge⟩, by rw [if_pos huge]⟩
    · rw [if_neg huge]
      by_cases pos : positive (recordProgress record)
      · rw [if_pos pos]
        by_cases huge' : hugeInteger (record.get "approval_timeout")
        · exact .inl ⟨.inr ⟨budgeted.1, budgeted.2, .inr ⟨pos, huge'⟩⟩, by simp [huge']⟩
        · have none : ¬ RecordHuge record := fun met =>
            (onlyAfter met).elim huge fun met => huge' met.2
          by_cases fits : usable (record.get "approval_timeout")
          · refine .inr (.inl ⟨none, ⟨budgeted.1, budgeted.2, pos, fits⟩, ?_⟩)
            simp only [huge', fits, if_true, Bool.false_eq_true, if_false]
            exact DetectionPolicy.make_ok (floatNumber_pos pos) (givenFloat_pos fits)
          · refine .inr (.inr ⟨none, fun usable' => fits usable'.approval, ?_⟩)
            simp [huge', fits, notSeconds]
      · rw [if_neg pos]
        refine .inr (.inr ⟨fun met => ?_, fun usable' => pos usable'.progress, _, rfl⟩)
        exact (onlyAfter met).elim huge fun met => pos met.1
  · refine .inr (.inr ⟨?_, fun usable' => refused ⟨usable'.budget, usable'.ceilings⟩, message,
      by rw [read]; rfl⟩)
    rintro (huge | ⟨read, fits, _⟩)
    · exact nomatch small.symm.trans huge
    · exact refused ⟨read, fits⟩

/-- The settings an older row carries inline come to a huge integer. Both timeouts are looked at
before either is refused. -/
def InlineHuge (spec : Dict) : Prop :=
  hugeFirst (budgetValues (spec.get "budget")) ∨
    (budgetValues (spec.get "budget")).all usable ∧
      (hugeInteger (spec.get "progress_timeout") ∨ hugeInteger (spec.get "approval_timeout"))

def Budget.Positive (budget : Budget) : Prop :=
  ∀ ceiling ∈ [budget.maxTurns, budget.maxTokens, budget.maxCost], ∀ q ∈ ceiling, 0 < q

/-- A floor: every number of it is positive, and it names an approval timeout. -/
structure DetectionPolicy.IsFloor (floor : DetectionPolicy) : Prop where
  progress : 0 < floor.progressTimeout
  approval : ∃ q, floor.approvalTimeout = some q ∧ 0 < q
  budget : ∀ budget ∈ floor.budget, budget.Positive

theorem smaller_pos {left right : Option ℚ} (pos : ∀ q ∈ left, 0 < q) (pos' : ∀ q ∈ right, 0 < q) :
    ∀ q ∈ smaller left right, 0 < q := by
  intro q given
  cases left with
  | none =>
    cases right with
    | none => exact nomatch given
    | some b => exact pos' q given
  | some a =>
    cases right with
    | none => exact pos q given
    | some b =>
      obtain rfl := Option.some.inj given
      exact lt_min (pos a rfl) (pos' b rfl)

theorem usable_jsonNumber {ceiling : Option ℚ} (pos : ∀ q ∈ ceiling, 0 < q) :
    usable (jsonNumber ceiling) := by
  cases ceiling with
  | none => rfl
  | some q => exact decide_eq_true (pos q rfl)

theorem Budget.tightest_ok {budget : Budget} {other : Option Budget} (pos : budget.Positive)
    (pos' : ∀ budget ∈ other, budget.Positive) :
    budget.tightest py other = .ok (budget.merged other) := by
  cases other with
  | none => rfl
  | some other =>
    have fits : [jsonNumber (smaller budget.maxTurns other.maxTurns),
        jsonNumber (smaller budget.maxTokens other.maxTokens),
        jsonNumber (smaller budget.maxCost other.maxCost)].all usable := by
      have both (axis : Budget → Option ℚ)
          (listed : ∀ b : Budget, axis b ∈ [b.maxTurns, b.maxTokens, b.maxCost]) :
          usable (jsonNumber (smaller (axis budget) (axis other))) :=
        usable_jsonNumber (smaller_pos (pos _ (listed budget)) (pos' other rfl _ (listed other)))
      simp [both Budget.maxTurns (by simp), both Budget.maxTokens (by simp),
        both Budget.maxCost (by simp)]
    rw [Budget.tightest]
    rcases Budget.make_cases py (jsonNumber (smaller budget.maxTurns other.maxTurns))
      (jsonNumber (smaller budget.maxTokens other.maxTokens))
      (jsonNumber (smaller budget.maxCost other.maxCost)) with
      ⟨huge, _⟩ | ⟨_, _, built⟩ | ⟨_, refused, _⟩
    · exact nomatch (hugeFirst_of_usable fits).symm.trans huge
    · simp only [givenNumber_jsonNumber] at built
      exact built
    · exact nomatch refused.symm.trans fits

def inlinePolicy (progressTimeout approvalTimeout : Json) (budget : Option Budget)
    (floor : DetectionPolicy) : DetectionPolicy where
  progressTimeout := min floor.progressTimeout
    ((givenFloat progressTimeout).getD floor.progressTimeout)
  approvalTimeout := smaller floor.approvalTimeout (givenFloat approvalTimeout)
  budget := match budget with
    | some budget => some (budget.merged floor.budget)
    | none => floor.budget

theorem usable_eq (value : Json) : usable value = !(!isNone value && !positive value) := by
  cases value with
  | null => rfl
  | _ => simp [usable, isNone]

theorem requested_eq {value : Json} (fits : usable value) (fallback : ℚ) :
    (if positive value then floatNumber value else fallback) = (givenFloat value).getD fallback ∧
      (if positive value then some (floatNumber value) else none) = givenFloat value := by
  cases value with
  | null => exact ⟨rfl, rfl⟩
  | _ =>
    have pos : positive _ = true := fits
    exact ⟨if_pos pos, if_pos pos⟩

theorem resolvePolicy_cases (py : Library) {floor : DetectionPolicy} (isFloor : floor.IsFloor)
    (progress approval : Json) {budget : Option Budget}
    (positive' : ∀ b ∈ budget, Budget.Positive b) :
    ((hugeInteger progress ∨ hugeInteger approval) ∧
      resolvePolicy py progress approval budget floor = .error .overflow) ∨
    (¬ (hugeInteger progress ∨ hugeInteger approval) ∧
      resolvePolicy py progress approval budget floor =
        .ok (inlinePolicy progress approval budget floor)) ∨
    (¬ (hugeInteger progress ∨ hugeInteger approval) ∧
      ∃ message, resolvePolicy py progress approval budget floor = .error (.policy message)) := by
  by_cases huge : hugeInteger progress
  · refine .inl ⟨.inl huge, ?_⟩
    simp [resolvePolicy, isPositiveNumber_eq, huge, bind, Except.bind]
  by_cases huge' : hugeInteger approval
  · refine .inl ⟨.inr huge', ?_⟩
    simp [resolvePolicy, isPositiveNumber_eq, huge, huge', bind, Except.bind]
  have small : ¬ (hugeInteger progress ∨ hugeInteger approval) := by simp [huge, huge']
  have opened : resolvePolicy py progress approval budget floor =
      if !usable progress then .error (notSeconds py "progress_timeout" progress)
      else if !usable approval then .error (notSeconds py "approval_timeout" approval)
      else (tightened py budget floor.budget).bind fun budget => DetectionPolicy.make py
          (min floor.progressTimeout
            (if positive progress then floatNumber progress else floor.progressTimeout))
          (smaller floor.approvalTimeout
            (if positive approval then some (floatNumber approval) else none)) budget := by
    simp only [resolvePolicy, isPositiveNumber_eq, usable_eq, Bool.not_not, if_neg huge,
      if_neg huge', bind, Except.bind]
    cases !isNone progress && !positive progress with
    | true => rfl
    | false => cases !isNone approval && !positive approval with
      | true => rfl
      | false => rfl
  rw [opened]
  cases fits : usable progress with
  | false => exact .inr (.inr ⟨small, _, rfl⟩)
  | true =>
    cases fits' : usable approval with
    | false => exact .inr (.inr ⟨small, _, rfl⟩)
    | true =>
      refine .inr (.inl ⟨small, ?_⟩)
      obtain ⟨limit, named, pos⟩ := isFloor.approval
      have budgeted : tightened py budget floor.budget =
          .ok (inlinePolicy progress approval budget floor).budget := by
        cases budget with
        | none => rfl
        | some b =>
          rw [tightened, Budget.tightest_ok (positive' b rfl) isFloor.budget]
          rfl
      rw [budgeted, (requested_eq fits _).1, (requested_eq fits' 0).2]
      refine DetectionPolicy.make_ok (lt_min isFloor.progress ?_)
        (smaller_pos (by rw [named]; rintro q ⟨⟩; exact pos) (givenFloat_pos fits'))
      cases given : givenFloat progress with
      | none => exact isFloor.progress
      | some q => exact givenFloat_pos fits q given

/-! ### The floor -/

theorem positiveText_pos {raw : String} {q : ℚ} (named : positiveText py raw = some q) : 0 < q := by
  unfold positiveText at named
  split at named
  · split at named
    · rename_i pos
      obtain rfl := Option.some.inj named
      exact pos
    · exact nomatch named
  · exact nomatch named

theorem positiveFloat_pos {raw : Option String} {fallback : ℚ} (pos : 0 < fallback) :
    0 < positiveFloat py raw fallback := by
  cases raw with
  | none => exact pos
  | some raw =>
    rw [positiveFloat]
    cases named : positiveText py raw with
    | none => exact pos
    | some q => exact positiveText_pos named

theorem positiveFloatOrNone_pos {raw : Option String} {q : ℚ}
    (named : positiveFloatOrNone py raw = some q) : 0 < q := by
  cases raw with
  | none => cases named
  | some raw =>
    rw [positiveFloatOrNone] at named
    split at named
    · cases named
    · exact positiveText_pos named

theorem givenNumber_pos {value : Json} (fits : usable value) : ∀ q ∈ givenNumber value, 0 < q := by
  intro q given
  cases value with
  | null => exact nomatch given
  | _ =>
    obtain rfl := Option.some.inj given
    have pos : positive _ = true := fits
    rw [positive, Bool.and_eq_true] at pos
    exact of_decide_eq_true pos.2

theorem Budget.make_positive {turns tokens cost : Json} {budget : Budget}
    (made : Budget.make py turns tokens cost = .ok budget) : budget.Positive := by
  rcases Budget.make_cases py turns tokens cost with
    ⟨_, failed⟩ | ⟨_, fits, built⟩ | ⟨_, _, message, failed⟩
  · exact nomatch failed.symm.trans made
  · obtain rfl := Except.ok.inj (made.symm.trans built)
    simp only [List.all_cons, List.all_nil, Bool.and_true, Bool.and_eq_true] at fits
    intro ceiling listed
    simp only [List.mem_cons, List.not_mem_nil, or_false] at listed
    rcases listed with rfl | rfl | rfl
    · exact givenNumber_pos fits.1
    · exact givenNumber_pos fits.2.1
    · exact givenNumber_pos fits.2.2
  · exact nomatch failed.symm.trans made

theorem DetectionPolicy.make_eq_ok {progress : ℚ} {approval : Option ℚ} {budget : Option Budget}
    {policy : DetectionPolicy} (made : DetectionPolicy.make py progress approval budget = .ok policy) :
    policy = ⟨progress, approval, budget⟩ := by
  rw [DetectionPolicy.make] at made
  split at made
  · exact nomatch made
  · split at made
    · exact nomatch made
    · exact (Except.ok.inj made).symm

theorem trustedPolicy_isFloor {floor : DetectionPolicy}
    (trusted : trustedPolicy py environment = .ok floor) : floor.IsFloor := by
  rw [trustedPolicy] at trusted
  dsimp only [bind, Except.bind] at trusted
  split at trusted
  · exact nomatch trusted
  · rename_i budget read
    obtain rfl := DetectionPolicy.make_eq_ok trusted
    refine ⟨positiveFloat_pos (by decide +kernel), ⟨_, rfl, positiveFloat_pos (by decide +kernel)⟩, ?_⟩
    rintro b ⟨⟩
    rw [trustedBudget] at read
    split at read
    · cases made : Budget.make py (jsonInt (positiveIntOrNone py (environment "SIGHTMESH_MAX_TURNS")))
        (jsonInt (positiveIntOrNone py (environment "SIGHTMESH_MAX_TOKENS")))
        (jsonNumber (positiveFloatOrNone py (environment "SIGHTMESH_MAX_COST"))) with
      | error fault =>
        rw [made] at read
        exact nomatch read
      | ok built =>
        rw [made] at read
        obtain rfl := Option.some.inj (Except.ok.inj read)
        exact Budget.make_positive made
    · exact nomatch read

def largestDouble : ℚ := ((2 ^ 1024 : ℕ) : ℚ) - ((2 ^ (970 + 1) : ℕ) : ℚ)

/-- `float` of a text answers a double. -/
def Doubles (py : Library) : Prop :=
  ∀ raw q, py.float (.str raw) = some (.finite q) → q ≤ largestDouble

/-- The environment sets the turn or the token ceiling to less than one, and another ceiling to a
number that counts. -/
def FloorClash (py : Library) (environment : String → Option String) : Prop :=
  let turns := positiveFloatOrNone py (environment "SIGHTMESH_MAX_TURNS")
  let tokens := positiveFloatOrNone py (environment "SIGHTMESH_MAX_TOKENS")
  let cost := positiveFloatOrNone py (environment "SIGHTMESH_MAX_COST")
  ((∃ q ∈ turns, q < 1) ∨ ∃ q ∈ tokens, q < 1) ∧
    ((∃ q ∈ turns, 1 ≤ q) ∨ (∃ q ∈ tokens, 1 ≤ q) ∨ ∃ q, q ∈ cost)

theorem positiveFloatOrNone_double (doubles : Doubles py) {raw : Option String} {q : ℚ}
    (named : positiveFloatOrNone py raw = some q) : q ≤ largestDouble := by
  cases raw with
  | none => cases named
  | some raw =>
    rw [positiveFloatOrNone] at named
    split at named
    · cases named
    · unfold positiveText at named
      split at named
      · rename_i parsed
        split at named
        · obtain rfl := Option.some.inj named
          exact doubles raw _ parsed
        · cases named
      · cases named

theorem floor_lt_of {q : ℚ} {m k : ℕ} (nonneg : 0 ≤ q.floor)
    (small : q ≤ ((2 ^ m : ℕ) : ℚ) - ((2 ^ (k + 1) : ℕ) : ℚ)) (le : k + 1 ≤ m) :
    ¬ 2 ^ m - 2 ^ k ≤ q.floor.natAbs := by
  have double : 2 ^ (k + 1) = 2 * 2 ^ k := Nat.pow_succ'
  have within : 2 ^ (k + 1) ≤ 2 ^ m := Nat.pow_le_pow_right Nat.two_pos le
  have pos : 0 < 2 ^ k := Nat.two_pow_pos k
  generalize 2 ^ (k + 1) = b at *
  generalize 2 ^ k = c at *
  generalize 2 ^ m = a at *
  have below : ((q.floor + b : ℤ) : ℚ) ≤ ((a : ℤ) : ℚ) := by
    have whole := Rat.floor_le q
    push_cast
    linarith
  have below' : q.floor + b ≤ a := Int.cast_le.mp below
  omega

theorem overflows_eq (n : ℤ) : overflows n = decide (2 ^ 1024 - 2 ^ 970 ≤ n.natAbs) := rfl

theorem hugeInteger_int (n : ℤ) : hugeInteger (.num (.int n)) = overflows n := rfl

theorem floor_fits {q : ℚ} (nonneg : 0 ≤ q.floor) (small : q ≤ largestDouble) :
    overflows q.floor = false := by
  rw [overflows_eq, decide_eq_false_iff_not]
  exact floor_lt_of nonneg small (by decide)

/-- A ceiling that is truncated counts where it was at least one. -/
theorem truncated_usable (doubles : Doubles py) (raw : Option String) :
    hugeInteger (jsonInt (positiveIntOrNone py raw)) = false ∧
    (usable (jsonInt (positiveIntOrNone py raw)) = false ↔
      ∃ q ∈ positiveFloatOrNone py raw, q < 1) ∧
    ((positiveIntOrNone py raw).any (· ≠ 0) = true ↔ ∃ q ∈ positiveFloatOrNone py raw, 1 ≤ q) := by
  unfold positiveIntOrNone
  cases named : positiveFloatOrNone py raw with
  | none => simp [jsonInt, hugeInteger, usable]
  | some q =>
    have pos := positiveFloatOrNone_pos named
    have nonneg : 0 ≤ q.floor := Rat.le_floor_iff.mpr (by exact_mod_cast pos.le)
    have fits := floor_fits nonneg (positiveFloatOrNone_double doubles named)
    have one : 1 ≤ q.floor ↔ 1 ≤ q := by
      rw [Rat.le_floor_iff, Int.cast_one]
    have huge : hugeInteger (jsonInt ((some q).map Rat.floor)) = false := by
      rw [Option.map_some, jsonInt, hugeInteger_int, fits]
    have read : usable (jsonInt ((some q).map Rat.floor)) = decide (0 < q.floor) := by
      have known : usable (jsonInt ((some q).map Rat.floor)) =
          positive (jsonInt ((some q).map Rat.floor)) := rfl
      rw [known, positive, huge, Option.map_some, jsonInt, exactNumber, Bool.not_false,
        Bool.true_and, decide_eq_decide, Int.cast_pos]
    refine ⟨huge, ?_, ?_⟩
    · rw [read, decide_eq_false_iff_not]
      simp only [Option.mem_def, Option.some.injEq, exists_eq_left', ← not_le]
      rw [← one]
      omega
    · simp only [Option.map_some, Option.any_some, Option.mem_def, Option.some.injEq,
        exists_eq_left', ← one, decide_eq_true_eq]
      omega

theorem hugeFirst_of_small {values : List Json}
    (small : ∀ value ∈ values, hugeInteger value = false) : hugeFirst values = false := by
  induction values with
  | nil => rfl
  | cons value rest ih =>
    have later := ih fun other mem => small other (List.mem_cons_of_mem _ mem)
    rw [hugeFirst] at later
    rw [hugeFirst, meetsHuge, small value List.mem_cons_self, later, Bool.and_false, Bool.or_false]

theorem floor_made (py : Library) (environment : String → Option String) (budget : Option Budget) :
    ∃ floor, DetectionPolicy.make py
      (positiveFloat py (environment "SIGHTMESH_PROGRESS_TIMEOUT_SECONDS") defaultProgressTimeout)
      (some (positiveFloat py (environment "SIGHTMESH_APPROVAL_TIMEOUT_SECONDS")
        defaultApprovalTimeout)) budget = .ok floor := by
  refine ⟨_, DetectionPolicy.make_ok (positiveFloat_pos (by decide +kernel)) ?_⟩
  rintro q ⟨⟩
  exact positiveFloat_pos (by decide +kernel)

theorem trustedPolicy_cases (doubles : Doubles py) (environment : String → Option String) :
    (FloorClash py environment ∧
      ∃ message, trustedPolicy py environment = .error (.budget message)) ∨
    (¬ FloorClash py environment ∧ ∃ floor, trustedPolicy py environment = .ok floor) := by
  obtain ⟨small, refused, counts⟩ := truncated_usable doubles (environment "SIGHTMESH_MAX_TURNS")
  obtain ⟨small', refused', counts'⟩ :=
    truncated_usable doubles (environment "SIGHTMESH_MAX_TOKENS")
  have cost : usable (jsonNumber (positiveFloatOrNone py (environment "SIGHTMESH_MAX_COST"))) :=
    usable_jsonNumber fun q named => positiveFloatOrNone_pos named
  have costCounts : (positiveFloatOrNone py (environment "SIGHTMESH_MAX_COST")).any (· ≠ 0) = true ↔
      ∃ q, q ∈ positiveFloatOrNone py (environment "SIGHTMESH_MAX_COST") := by
    cases named : positiveFloatOrNone py (environment "SIGHTMESH_MAX_COST") with
    | none => simp
    | some q => simp [(positiveFloatOrNone_pos named).ne']
  by_cases some' : (positiveIntOrNone py (environment "SIGHTMESH_MAX_TURNS")).any (· ≠ 0) ||
      (positiveIntOrNone py (environment "SIGHTMESH_MAX_TOKENS")).any (· ≠ 0) ||
      (positiveFloatOrNone py (environment "SIGHTMESH_MAX_COST")).any (· ≠ 0)
  · rcases Budget.make_cases py
      (jsonInt (positiveIntOrNone py (environment "SIGHTMESH_MAX_TURNS")))
      (jsonInt (positiveIntOrNone py (environment "SIGHTMESH_MAX_TOKENS")))
      (jsonNumber (positiveFloatOrNone py (environment "SIGHTMESH_MAX_COST"))) with
      ⟨huge, _⟩ | ⟨_, fits, built⟩ | ⟨_, unfit, message, built⟩
    · have none := hugeFirst_of_small (List.forall_mem_cons.mpr ⟨small,
        List.forall_mem_cons.mpr ⟨small', List.forall_mem_singleton.mpr (usable_fits cost)⟩⟩)
      exact nomatch none.symm.trans huge
    · refine .inr ⟨?_, ?_⟩
      · simp only [List.all_cons, List.all_nil, Bool.and_true, Bool.and_eq_true] at fits
        rintro ⟨low | low, _⟩
        · exact nomatch (refused.mpr low).symm.trans fits.1
        · exact nomatch (refused'.mpr low).symm.trans fits.2.1
      · simp only [trustedPolicy, trustedBudget, if_pos some', built]
        exact floor_made py environment _
    · refine .inl ⟨⟨?_, ?_⟩, message, ?_⟩
      · simp only [List.all_cons, List.all_nil, Bool.and_true, cost, Bool.and_eq_false_iff] at unfit
        rcases unfit with low | low
        · exact .inl (refused.mp low)
        · exact .inr (refused'.mp low)
      · rw [Bool.or_eq_true, Bool.or_eq_true, counts, counts', costCounts, or_assoc] at some'
        exact some'
      · simp only [trustedPolicy, trustedBudget, if_pos some', built]
        rfl
  · refine .inr ⟨fun clash => some' ?_, ?_⟩
    · rw [Bool.or_eq_true, Bool.or_eq_true, counts, counts', costCounts, or_assoc]
      exact clash.2
    · simp only [trustedPolicy, trustedBudget, if_neg some']
      exact floor_made py environment none

/-! ### Which exception a policy raises -/

def specFields (spec : Json) : Dict := (asObject spec).getD []

/-- Reading the settings of a task comes to a huge integer. -/
def SpecHuge (spec : Json) : Prop :=
  match (specFields spec).get "detection" with
  | .null => InlineHuge (specFields spec)
  | .obj record => RecordHuge record
  | _ => False

theorem budgetOf_positive {value : Json} (fits : (budgetValues value).all usable) :
    ∀ b ∈ budgetOf value, Budget.Positive b := by
  rintro b given
  cases value with
  | obj fields =>
    cases fields with
    | nil => exact nomatch given
    | cons field fields =>
      obtain rfl := Option.some.inj given
      simp only [budgetValues, List.map_cons, List.map_nil, List.all_cons, List.all_nil,
        Bool.and_true, Bool.and_eq_true] at fits
      intro ceiling listed
      simp only [List.mem_cons, List.not_mem_nil, or_false] at listed
      rcases listed with rfl | rfl | rfl
      · exact givenNumber_pos fits.1
      · exact givenNumber_pos fits.2.1
      · exact givenNumber_pos fits.2.2
  | _ => exact nomatch given

def inlineRead (py : Library) (spec : Dict) (floor : DetectionPolicy) : Checked DetectionPolicy :=
  (rebadged (Budget.fromDict py (spec.get "budget"))).bind fun budget =>
    resolvePolicy py (spec.get "progress_timeout") (spec.get "approval_timeout") budget floor

theorem inlineRead_cases (py : Library) {floor : DetectionPolicy} (isFloor : floor.IsFloor)
    (spec : Dict) :
    (InlineHuge spec ∧ inlineRead py spec floor = .error .overflow) ∨
    (¬ InlineHuge spec ∧ inlineRead py spec floor = .ok (inlinePolicy (spec.get "progress_timeout")
      (spec.get "approval_timeout") (budgetOf (spec.get "budget")) floor)) ∨
    (¬ InlineHuge spec ∧ ∃ message, inlineRead py spec floor = .error (.policy message)) := by
  rcases Budget.fromDict_cases py (spec.get "budget") with
    ⟨huge, made⟩ | ⟨small, fits, made⟩ | ⟨small, refused, message, made⟩
  · exact .inl ⟨.inl huge, by rw [inlineRead, made]; rfl⟩
  · have resolved : inlineRead py spec floor = resolvePolicy py (spec.get "progress_timeout")
        (spec.get "approval_timeout") (budgetOf (spec.get "budget")) floor := by
      rw [inlineRead, made]
      rfl
    have only : InlineHuge spec ↔ (hugeInteger (spec.get "progress_timeout") ∨
        hugeInteger (spec.get "approval_timeout")) := by
      rw [InlineHuge, small, fits]
      simp
    rw [resolved, only]
    exact resolvePolicy_cases py isFloor _ _ (budgetOf_positive fits)
  · refine .inr (.inr ⟨?_, message, by rw [inlineRead, made]; rfl⟩)
    rintro (huge | ⟨fits, _⟩)
    · exact nomatch small.symm.trans huge
    · exact nomatch refused.symm.trans fits

theorem detectionPolicy_eq {floor : DetectionPolicy} (spec : Json)
    (trusted : trustedPolicy py environment = .ok floor) :
    detectionPolicy py environment spec =
      match (specFields spec).get "detection" with
      | .null => inlineRead py (specFields spec) floor
      | stored => DetectionPolicy.fromDict py stored := by
  simp only [detectionPolicy, trusted]
  change (match (specFields spec).get "detection" with
    | .null => inlineRead py (specFields spec) floor
    | stored => DetectionPolicy.fromDict py stored) = _
  rfl

/-- A policy is read, or refused as unusable, unless the environment clashes with itself or a huge
integer is looked at before a value that is refused. -/
theorem detectionPolicy_settles_iff (doubles : Doubles py) (environment : String → Option String)
    (spec : Json) :
    ((∃ policy, detectionPolicy py environment spec = .ok policy) ∨
      ∃ message, detectionPolicy py environment spec = .error (.policy message)) ↔
    ¬ FloorClash py environment ∧ ¬ SpecHuge spec := by
  rw [← settles_iff]
  rcases trustedPolicy_cases doubles environment with
    ⟨clash, message, trusted⟩ | ⟨fine, floor, trusted⟩
  · have raised : detectionPolicy py environment spec = .error (.budget message) := by
      rw [detectionPolicy, trusted]
      rfl
    rw [raised]
    exact ⟨False.elim, fun both => both.1 clash⟩
  · rw [detectionPolicy_eq spec trusted, SpecHuge]
    have isFloor := trustedPolicy_isFloor trusted
    cases (specFields spec).get "detection" with
    | null =>
      rcases inlineRead_cases py isFloor (specFields spec) with
        ⟨huge, read⟩ | ⟨small, read⟩ | ⟨small, message, read⟩
      · simp [read, huge, Settles]
      · simp [read, small, fine, Settles]
      · simp [read, small, fine, Settles]
    | obj record =>
      rcases DetectionPolicy.fromDict_cases py record with
        ⟨huge, read⟩ | ⟨small, _, read⟩ | ⟨small, _, message, read⟩
      · simp [read, huge, Settles]
      · simp [read, small, fine, Settles]
      · simp [read, small, fine, Settles]
    | _ => simp [DetectionPolicy.fromDict, fine, Settles]

def hugeProgress : Json := .obj [("progress_timeout", .num (.int (10 ^ 400)))]

theorem hugeProgress_escapes :
    ¬ ∀ spec, (∃ policy, detectionPolicy asciiLibrary (fun _ => none) spec = .ok policy) ∨
      ∃ message, detectionPolicy asciiLibrary (fun _ => none) spec = .error (.policy message) := by
  intro all
  have raised : detectionPolicy asciiLibrary (fun _ => none) hugeProgress = .error .overflow := by
    decide +kernel
  rcases all hugeProgress with ⟨policy, read⟩ | ⟨message, read⟩
  · exact nomatch raised.symm.trans read
  · exact nomatch raised.symm.trans read

def negativeProgress : Json :=
  .obj [("detection", .obj [("progress_timeout", .num (.int (-1))),
    ("approval_timeout", .num (.int (10 ^ 400)))])]

theorem asciiLibrary_doubles : Doubles asciiLibrary := by
  intro raw q parsed
  have none : asciiLibrary.float (.str raw) = Option.none := rfl
  exact nomatch none.symm.trans parsed

theorem negativeProgress_refused :
    (∃ policy, detectionPolicy asciiLibrary (fun _ => none) negativeProgress = .ok policy) ∨
      ∃ message, detectionPolicy asciiLibrary (fun _ => none) negativeProgress =
        .error (.policy message) := by
  refine (detectionPolicy_settles_iff asciiLibrary_doubles _ _).mpr ⟨?_, ?_⟩
  · rintro ⟨⟨q, named, _⟩ | ⟨q, named, _⟩, _⟩
    · exact nomatch named
    · exact nomatch named
  · rintro (huge | ⟨_, _, huge | ⟨pos, _⟩⟩)
    · exact absurd huge (by decide)
    · exact absurd huge (by decide +kernel)
    · exact absurd pos (by decide +kernel)

/-- The scan of the reserved tasks comes to its end where every policy settles. -/
theorem scanReserved_completes_iff (now : Time) (tasks : List ReservedTask) :
    (∃ overdue, scanReserved py environment now tasks = .ok overdue) ↔
      ∀ task ∈ tasks, Settles (detectionPolicy py environment task.spec) := by
  induction tasks with
  | nil => exact ⟨fun _ task mem => absurd mem List.not_mem_nil, fun _ => ⟨[], rfl⟩⟩
  | cons task rest ih =>
    rw [List.forall_mem_cons, ← ih, scanReserved]
    have goes (policy : DetectionPolicy) : (∃ overdue, (do
        let overdue ← scanReserved py environment now rest
        return if now - task.createdAt < policy.progressTimeout then overdue
          else task.taskId :: overdue : Checked (List TaskId)) = .ok overdue) ↔
        ∃ overdue, scanReserved py environment now rest = .ok overdue := by
      cases scanReserved py environment now rest with
      | ok overdue => exact ⟨fun _ => ⟨_, rfl⟩, fun _ => ⟨_, rfl⟩⟩
      | error fault =>
        exact ⟨fun ⟨_, same⟩ => (nomatch same), fun ⟨_, same⟩ => (nomatch same)⟩
    cases detectionPolicy py environment task.spec with
    | ok policy => exact (goes policy).trans ⟨fun scanned => ⟨trivial, scanned⟩, fun both => both.2⟩
    | error fault =>
      cases fault with
      | policy message => exact (goes _).trans ⟨fun scanned => ⟨trivial, scanned⟩, fun both => both.2⟩
      | budget message => exact ⟨fun ⟨_, same⟩ => (nomatch same), fun both => both.1.elim⟩
      | overflow => exact ⟨fun ⟨_, same⟩ => (nomatch same), fun both => both.1.elim⟩

/-! ### The floor under a policy -/

def recordCeiling (record : Dict) (name : String) : Option ℚ :=
  (asObject (record.get "budget")).bind fun fields => givenNumber (Dict.get fields name)

/-- The numbers of a record, its defaults included, are within those of the floor. -/
structure RecordWithin (record : Dict) (floor : DetectionPolicy) : Prop where
  progress : floatNumber (recordProgress record) ≤ floor.progressTimeout
  approval : (givenFloat (record.get "approval_timeout")).getD defaultApprovalTimeout ≤
    floor.effectiveApprovalTimeout
  turns : limit (recordCeiling record "max_turns") ≤ floor.limit Budget.maxTurns
  tokens : limit (recordCeiling record "max_tokens") ≤ floor.limit Budget.maxTokens
  cost : limit (recordCeiling record "max_cost") ≤ floor.limit Budget.maxCost

theorem recordPolicy_within {record : Dict} {floor : DetectionPolicy} :
    (recordPolicy record).AtLeastAsStrict floor ↔ RecordWithin record floor := by
  have axes : (recordPolicy record).limit Budget.maxTurns =
        limit (recordCeiling record "max_turns") ∧
      (recordPolicy record).limit Budget.maxTokens = limit (recordCeiling record "max_tokens") ∧
      (recordPolicy record).limit Budget.maxCost = limit (recordCeiling record "max_cost") := by
    unfold DetectionPolicy.limit recordPolicy recordCeiling
    cases record.get "budget" with
    | obj fields => cases fields with
      | nil => exact ⟨rfl, rfl, rfl⟩
      | cons field fields => exact ⟨rfl, rfl, rfl⟩
    | _ => exact ⟨rfl, rfl, rfl⟩
  constructor
  · intro strict
    exact ⟨strict.progress, strict.approval, axes.1 ▸ strict.turns, axes.2.1 ▸ strict.tokens,
      axes.2.2 ▸ strict.cost⟩
  · intro within
    exact ⟨within.progress, within.approval, axes.1 ▸ within.turns, axes.2.1 ▸ within.tokens,
      axes.2.2 ▸ within.cost⟩

theorem inlinePolicy_strict {floor : DetectionPolicy} (isFloor : floor.IsFloor)
    (progress approval : Json) (budget : Option Budget) :
    (inlinePolicy progress approval budget floor).AtLeastAsStrict floor := by
  have narrowed (axis : Budget → Option ℚ) (merges : ∀ b b' : Budget,
      axis (b.merged (some b')) = smaller (axis b) (axis b')) :
      (inlinePolicy progress approval budget floor).limit axis ≤ floor.limit axis := by
    unfold DetectionPolicy.limit inlinePolicy
    cases budget with
    | none => exact le_refl _
    | some b =>
      cases floor.budget with
      | none => exact le_top
      | some b' =>
        simp only [Option.bind_some, merges, limit_smaller]
        exact inf_le_right
  refine ⟨min_le_left _ _, ?_, narrowed _ fun _ _ => rfl, narrowed _ fun _ _ => rfl,
    narrowed _ fun _ _ => rfl⟩
  obtain ⟨q, named, _⟩ := isFloor.approval
  unfold DetectionPolicy.effectiveApprovalTimeout inlinePolicy
  rw [named]
  cases givenFloat approval with
  | none => exact le_refl q
  | some q' => exact min_le_left q q'

def storedRecord (spec : Json) : Option Dict := asObject ((specFields spec).get "detection")

/-- Whatever policy is read is at least as strict as the floor, unless it comes from a stored record
whose numbers exceed it. -/
theorem detectionPolicy_strict_iff (py : Library) (environment : String → Option String)
    (spec : Json) :
    (∀ floor policy, trustedPolicy py environment = .ok floor →
      detectionPolicy py environment spec = .ok policy → policy.AtLeastAsStrict floor) ↔
    ∀ floor record, trustedPolicy py environment = .ok floor → storedRecord spec = some record →
      RecordUsable record → RecordWithin record floor := by
  constructor
  · intro strict floor record trusted stored usable'
    have detection : (specFields spec).get "detection" = .obj record := by
      unfold storedRecord at stored
      cases at' : (specFields spec).get "detection" with
      | obj fields =>
        rw [at'] at stored
        exact congrArg Json.obj (Option.some.inj stored)
      | _ =>
        rw [at'] at stored
        exact nomatch stored
    have read : detectionPolicy py environment spec = .ok (recordPolicy record) := by
      rw [detectionPolicy_eq spec trusted, detection]
      rcases DetectionPolicy.fromDict_cases py record with
        ⟨huge, _⟩ | ⟨_, _, read⟩ | ⟨_, unusable, _⟩
      · exact absurd huge usable'.small
      · exact read
      · exact absurd usable' unusable
    exact recordPolicy_within.mp (strict floor _ trusted read)
  · intro within floor policy trusted read
    rw [detectionPolicy_eq spec trusted] at read
    cases detection : (specFields spec).get "detection" with
    | null =>
      rw [detection] at read
      have isFloor := trustedPolicy_isFloor trusted
      rcases inlineRead_cases py isFloor (specFields spec) with
        ⟨_, failed⟩ | ⟨_, built⟩ | ⟨_, message, failed⟩
      · exact nomatch failed.symm.trans read
      · obtain rfl := Except.ok.inj (built.symm.trans read)
        exact inlinePolicy_strict isFloor _ _ _
      · exact nomatch failed.symm.trans read
    | obj record =>
      rw [detection] at read
      rcases DetectionPolicy.fromDict_cases py record with
        ⟨_, failed⟩ | ⟨_, usable', built⟩ | ⟨_, _, message, failed⟩
      · exact nomatch failed.symm.trans read
      · obtain rfl := Except.ok.inj (built.symm.trans read)
        exact recordPolicy_within.mpr
          (within floor record trusted (by rw [storedRecord, detection]; rfl) usable')
      · exact nomatch failed.symm.trans read
    | _ =>
      rw [detection] at read
      exact nomatch read

/-- A record that was resolved under a laxer floor. -/
def laxRecord : Json := .obj [("detection", .obj [("progress_timeout", .num (.finite 86400))])]

theorem laxRecord_exceeds_floor :
    ¬ ∀ spec floor policy, trustedPolicy asciiLibrary (fun _ => none) = .ok floor →
      detectionPolicy asciiLibrary (fun _ => none) spec = .ok policy →
        policy.AtLeastAsStrict floor := by
  intro all
  have floor : trustedPolicy asciiLibrary (fun _ => none) = .ok ⟨1500, some 1800, none⟩ := by
    decide +kernel
  have read : detectionPolicy asciiLibrary (fun _ => none) laxRecord =
      .ok ⟨86400, none, none⟩ := by decide +kernel
  exact absurd (all laxRecord _ _ floor read).progress (by decide +kernel)

end SightMesh
