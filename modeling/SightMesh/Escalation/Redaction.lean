import SightMesh.Python.Regex
import SightMesh.Python.Text
import SightMesh.Python.Value

/-! The redaction of credentials in what becomes durable: the patterns of `escalation.py`, and
`redact_credentials` over them. -/
namespace SightMesh.Escalation

open Python

/-- What a text is decoded to: `malformed` is a `UnicodeDecodeError` or a `JSONDecodeError`, `failed`
any other exception. -/
inductive Decoded where
  | value (value : Json)
  | malformed (message : String)
  | failed (message : String)

/-- What a text can begin with that `json.loads` reads: blanks, `{`, `[`, a string, a number, `true`,
`false`, `null`, `NaN` and `Infinity`. -/
def documentOpenings : List Char := " \t\n\r\x7b[\"-0123456789tfnNI".toList

/-- What the redaction takes from its libraries. -/
structure Redactor where
  /-- `str.isalnum`. -/
  alnum : Char → Bool
  lower : String → String
  /-- `json.loads` of a text. A lone surrogate, which no store takes, is `failed` too. -/
  loads : String → Decoded
  /-- `json.dumps` without escapes of what is not ASCII, and without blanks. It raises where it, or
  the walk over the structure before it, comes to the recursion limit. -/
  dumps : Json → Except String String
  /-- `_has_high_entropy`, which computes with floats. -/
  highEntropy : String → Bool

/-- Libraries that read no text as a document. -/
def asciiRedactor : Redactor where
  alnum := Char.isAlphanum
  lower := String.toLower
  loads _ := .malformed "Expecting value"
  dumps _ := .ok ""
  highEntropy _ := false

/-! ### Classes of characters -/

/-- The letter that a character matches under `(?i)`. Besides the capitals these are the dotted
capital I, the dotless i, the long s and the Kelvin sign. -/
def folded (c : Char) : Char :=
  if c.toNat = 0x130 ∨ c.toNat = 0x131 then 'i'
  else if c.toNat = 0x17F then 's'
  else if c.toNat = 0x212A then 'k'
  else c.toLower

def tokenChar (c : Char) : Bool := c.isAlphanum || c = '_' || c = '-'

def bareChar (c : Char) : Bool := !isSpace c && c ≠ ',' && c ≠ ';'

def lineChar (c : Char) : Bool := c ≠ '\r' && c ≠ '\n'

def Redactor.wordChar (lib : Redactor) (c : Char) : Bool := lib.alnum c || c = '_'

/-! ### Patterns -/

def inOrder : List Pattern → Pattern
  | [] => .edge fun _ _ => true
  | [pattern] => pattern
  | pattern :: rest => .seq pattern (inOrder rest)

def anyOf : List Pattern → Pattern
  | [] => .edge fun _ _ => false
  | [pattern] => pattern
  | pattern :: rest => .alt pattern (anyOf rest)

def literal (text : String) : Pattern := inOrder (text.toList.map fun c => .one (· = c))

def word (text : String) : Pattern := inOrder (text.toList.map fun c => .one (folded · = c))

def Redactor.wordEdge (lib : Redactor) : Pattern :=
  .edge fun before after => before.any lib.wordChar != after.any lib.wordChar

def spaces (least : ℕ) : Pattern := .many isSpace least

def redactedMark : List Char := ['[', 'R', 'E', 'D', 'A', 'C', 'T', 'E', 'D', ']']

structure Redaction where
  pattern : Pattern
  template : Match → List Char

def Redaction.sub (redaction : Redaction) (text : List Char) : List Char :=
  redaction.pattern.sub redaction.template text

def group (found : Match) (n : ℕ) : List Char := found.groups.getD (n - 1) []

def urlUserinfo (lib : Redactor) : Redaction where
  pattern := inOrder
    [.group (inOrder [lib.wordEdge, .one fun c => (folded c).isLower,
      .many (fun c => (folded c).isLower || c.isDigit || c ∈ ['+', '.', '-']) 0, literal "://"]),
    .many (fun c => c ≠ '/' && !isSpace c && c ≠ '@') 1, literal "@"]
  template found := group found 1 ++ ['*', '*', '*', '@']

/-- The first of `_CREDENTIAL_VALUE_PATTERNS`: `Bearer` and `Basic`. -/
def schemes (lib : Redactor) : Redaction where
  pattern := inOrder
    [lib.wordEdge, .group (anyOf [word "bearer", word "basic"]), spaces 1,
      .many (fun c => (folded c).isLower || c.isDigit || c ∈ "._~+/=-".toList) 1]
  template found := group found 1 ++ ' ' :: redactedMark

/-- The second: tokens by their prefix. -/
def prefixedTokens : Redaction where
  pattern := inOrder
    [.edge fun before _ => !before.any fun c => c.isAlphanum || c = '_',
      anyOf [literal "sk-ant-", literal "sk-", literal "ghp_", literal "gho_",
        literal "github_pat_",
        inOrder [literal "xox", .one fun c => c ∈ ['a', 'b', 'p'], literal "-"],
        literal "AKIA", literal "pypi-", literal "npm-"],
      .many tokenChar 1]
  template _ := redactedMark

def dottedTokens : Redaction where
  pattern := inOrder
    [.edge fun before _ => !before.any tokenChar, .many tokenChar 8, literal ".",
      .many tokenChar 8, literal ".", .many tokenChar 8, .edge fun _ after => !after.any tokenChar]
  template _ := redactedMark

/-- Credential headers, to the end of their line. -/
def headers (lib : Redactor) : Redaction where
  pattern := inOrder
    [lib.wordEdge, .group (anyOf [word "authorization", word "cookie"]), lib.wordEdge, spaces 0,
      .one (· = ':'), spaces 0, .many lineChar 0]
  template found := group found 1 ++ ':' :: ' ' :: redactedMark

/-- `"…"`, `'…'` or what goes on to a blank, a comma or a semicolon. -/
def assignedValue : Pattern := anyOf
  [inOrder [.one (· = '"'), .many (fun c => c ≠ '"' && lineChar c) 0, .one (· = '"')],
    inOrder [.one (· = '\''), .many (fun c => c ≠ '\'' && lineChar c) 0, .one (· = '\'')],
    .many bareChar 1]

def credentialWord : Pattern := anyOf
  [word "token", word "secret", word "password", word "credential",
    inOrder [word "api", .alt (.one fun c => c = '_' || c = '-') (.edge fun _ _ => true),
      word "key"]]

def assignments (lib : Redactor) : Redaction where
  pattern := inOrder
    [lib.wordEdge, .group credentialWord, lib.wordEdge, spaces 0,
      .group (.one fun c => c = ':' || c = '='), spaces 0,
      .alt (inOrder [anyOf [word "bearer", word "basic"], spaces 1, assignedValue]) assignedValue]
  template found := group found 1 ++ group found 2 ++ ' ' :: redactedMark

/-! ### The redaction -/

def Redactor.normalized (lib : Redactor) (key : String) : List Char :=
  (lib.lower key).toList.filter fun c => c.isLower || c.isDigit

def credentialKeyParts : List String :=
  ["authorization", "bearer", "cookie", "auth", "token", "key", "apikey", "secret", "password",
    "credential"]

def safeRoutingKeyParts : List String := ["dedupe", "session", "sha", "commit", "path", "uuid"]

def Redactor.isCredentialKey (lib : Redactor) (key : String) : Bool :=
  credentialKeyParts.any fun part => (lib.normalized key).tails.any part.toList.isPrefixOf

def Redactor.isRoutingKey (lib : Redactor) (key : String) : Bool :=
  safeRoutingKeyParts.any fun part => (lib.normalized key).tails.any part.toList.isPrefixOf

def Redactor.secretKey (lib : Redactor) (key : String) : Bool :=
  lib.isCredentialKey key && !lib.isRoutingKey key

def Redactor.inlineRedactions (lib : Redactor) : List Redaction :=
  [urlUserinfo lib, schemes lib, prefixedTokens, dottedTokens]

def applyAll (redactions : List Redaction) (text : List Char) : List Char :=
  redactions.foldl (fun text redaction => redaction.sub text) text

def Redactor.redactString (lib : Redactor) (value : String) (key : Option String) : String :=
  if key.any lib.secretKey && lib.highEntropy value then "[REDACTED]"
  else String.ofList (applyAll lib.inlineRedactions value.toList)

mutual

def Redactor.redactStructured (lib : Redactor) (key : Option String) : Json → Json
  | .obj fields => .obj (lib.redactFields fields)
  | .arr items => .arr (lib.redactItems key items)
  | .str value => .str (lib.redactString value key)
  | payload => payload

def Redactor.redactFields (lib : Redactor) : List (String × Json) → List (String × Json)
  | [] => []
  | (key, value) :: rest =>
    (key, if lib.secretKey key then .str "[REDACTED]" else lib.redactStructured (some key) value) ::
      lib.redactFields rest

def Redactor.redactItems (lib : Redactor) (key : Option String) : List Json → List Json
  | [] => []
  | item :: rest => lib.redactStructured key item :: lib.redactItems key rest

end

/-- What a text that is not a structure becomes. -/
def Redactor.redactProse (lib : Redactor) (text : String) : String :=
  String.ofList ((assignments lib).sub ((headers lib).sub (lib.redactString text none).toList))

/-- `redact_credentials` of a text; an exception of `json.loads` other than a `JSONDecodeError` goes
through. -/
def Redactor.redactCredentials (lib : Redactor) (text : String) : Except String String :=
  match lib.loads text with
  | .failed message => .error message
  | .value (.obj fields) => lib.dumps (lib.redactStructured none (.obj fields))
  | .value (.arr items) => lib.dumps (lib.redactStructured none (.arr items))
  | _ => .ok (lib.redactProse text)

def IsStructure : Json → Prop
  | .obj _ => True
  | .arr _ => True
  | _ => False

def Redactor.redactPayload (lib : Redactor) : Json → Except String Json
  | .obj fields => .ok (lib.redactStructured none (.obj fields))
  | .arr items => .ok (lib.redactStructured none (.arr items))
  | .str text => (lib.redactCredentials text).map .str
  | payload => .ok payload

end SightMesh.Escalation
