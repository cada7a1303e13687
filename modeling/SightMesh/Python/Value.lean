import Mathlib.Algebra.Order.Ring.Rat

/-! Decoded JSON as Python sees it, and the parts of its standard library that are left as
parameters: nothing below depends on how a date is parsed or on the Unicode tables. -/
namespace Python

/-- An `int` or a `float`. -/
inductive Number where
  | int (n : ℤ)
  | finite (q : ℚ)
  | nan
  | infinity (negative : Bool)
  deriving DecidableEq

inductive Json where
  | null
  | bool (b : Bool)
  | num (n : Number)
  | str (s : String)
  | arr (items : List Json)
  | obj (fields : List (String × Json))

abbrev Dict := List (String × Json)

/-- `d.get(name)`; a missing key and a `null` both answer `None`. -/
def Dict.get (d : Dict) (name : String) : Json :=
  match d.lookup name with
  | some value => value
  | none => .null

def Dict.has (d : Dict) (name : String) : Bool := (d.lookup name).isSome

def Number.truthy : Number → Bool
  | .int n => n != 0
  | .finite q => q != 0
  | _ => true

/-- `bool(value)`. -/
def Json.truthy : Json → Bool
  | .null => false
  | .bool b => b
  | .num n => n.truthy
  | .str s => s != ""
  | .arr items => !items.isEmpty
  | .obj fields => !fields.isEmpty

/-- `value == text`. -/
def Json.isText (value : Json) (text : String) : Bool :=
  match value with
  | .str s => s == text
  | _ => false

/-- `left or right`. -/
def Json.orElse' (left right : Json) : Json := if left.truthy then left else right

/-- `text or fallback`, where the text may be missing. -/
def orText (text : Option String) (fallback : String) : String :=
  match text with
  | some s => if s = "" then fallback else s
  | none => fallback

theorem orText_of_ne {text : String} (h : text ≠ "") (fallback : String) :
    orText (some text) fallback = text := by
  simp [orText, h]

/-- A text that Python takes for true. -/
def present (text : Option String) : Option String := text.filter (· ≠ "")

theorem present_of_ne {text : String} (h : text ≠ "") : present (some text) = some text := by
  simp [present, h]

theorem eq_some_of_present {text : Option String} {s : String} (h : present text = some s) :
    text = some s := (Option.filter_eq_some_iff.mp h).1

theorem present_eq_none {text : Option String} (h : present text = none) :
    text = none ∨ text = some "" := by
  cases text with
  | none => exact .inl rfl
  | some s => simpa [present] using h

/-- The first item no later one is larger than, as `max` with a key picks it. -/
def maxBy {α : Type} (less : α → α → Bool) : List α → Option α
  | [] => none
  | x :: xs => some (xs.foldl (fun best y => if less best y then y else best) x)

def contains (needle text : String) : Bool :=
  text.toList.tails.any fun rest => needle.toList.isPrefixOf rest

/-- `text.startswith(start)`. -/
def startsWith (start text : String) : Bool := start.toList.isPrefixOf text.toList

theorem startsWith_append (start rest : String) : startsWith start (start ++ rest) := by
  simp [startsWith]

theorem startsWith_append_of_apart {start text : String} (apart : startsWith start text = false)
    (apart' : startsWith text start = false) (rest : String) :
    startsWith start (text ++ rest) = false := by
  rw [Bool.eq_false_iff] at *
  simp only [startsWith, ne_eq, List.isPrefixOf_iff_prefix, String.toList_append] at *
  intro whole
  rcases List.prefix_or_prefix_of_prefix whole (List.prefix_append _ _) with within | within
  · exact apart within
  · exact apart' within

theorem append_ne_of_apart {start start' : String} (apart : startsWith start start' = false)
    (apart' : startsWith start' start = false) (rest rest' : String) :
    start ++ rest ≠ start' ++ rest' := by
  intro same
  have begins := startsWith_append start rest
  rw [same, startsWith_append_of_apart apart apart'] at begins
  exact nomatch begins

theorem append_ne_empty {start : String} (nonempty : start ≠ "") (rest : String) :
    start ++ rest ≠ "" := by
  simp [nonempty]

/-- A parsed ISO date. `utc` reads a naive date in UTC; `timestamp` is what `.timestamp()`
answers, which reads it in local time. -/
structure IsoTime where
  utc : ℚ
  timestamp : ℚ

structure Library where
  fromisoformat : String → Option IsoTime
  strip : String → String
  lower : String → String
  /-- `str(value)` of a value that is not a string. -/
  repr : Json → String
  /-- `float(value)`, where it does not raise. -/
  float : Json → Option Number
  /-- `json.dumps` with sorted keys. -/
  dumps : Json → String
  /-- The digest of the UTF-8 bytes, in hexadecimal. -/
  sha256 : String → String

/-- `str(value)`. -/
def Library.str (py : Library) : Json → String
  | .str s => s
  | value => py.repr value

/-- `str(uuid.UUID(text)) == text`. -/
def canonicalUuid (text : String) : Bool :=
  let hex := fun (c : Char) => ('0' ≤ c && c ≤ '9') || ('a' ≤ c && c ≤ 'f')
  text.length = 36 && text.toList.zipIdx.all fun entry =>
    if entry.2 ∈ [8, 13, 18, 23] then entry.1 = '-' else hex entry.1

end Python
