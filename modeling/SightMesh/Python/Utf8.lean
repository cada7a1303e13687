import Mathlib.Data.List.Basic
import Mathlib.Tactic.Common

/-! UTF-8 as Python's incremental decoder reads it: one byte after another, so it cannot tell how
the bytes were cut. -/
namespace Python

/-- `text.encode()`. -/
def encode (text : List Char) : List UInt8 := text.flatMap String.utf8EncodeChar

/-- How many bytes a first byte announces behind itself. -/
def announced (lead : UInt8) : Option ℕ :=
  if lead.toNat < 0x80 then some 0
  else if lead.toNat < 0xC2 then none
  else if lead.toNat < 0xE0 then some 1
  else if lead.toNat < 0xF0 then some 2
  else if lead.toNat < 0xF5 then some 3
  else none

def isTrail (byte : UInt8) : Bool := 0x80 ≤ byte.toNat && byte.toNat < 0xC0

/-- Which second bytes a first byte allows: no long form of a short character, no surrogate, and
nothing behind the last code point. -/
def allows (lead second : UInt8) : Bool :=
  (if lead.toNat = 0xE0 then 0xA0 else if lead.toNat = 0xF0 then 0x90 else 0x80) ≤ second.toNat &&
    second.toNat < (if lead.toNat = 0xED then 0xA0 else if lead.toNat = 0xF4 then 0x90 else 0xC0)

/-- The text read so far, and the bytes of a character that is not complete. -/
structure Decoder where
  text : List Char := []
  pending : List UInt8 := []
  deriving DecidableEq

def Decoder.emit (d : Decoder) (code : ℕ) : Decoder := ⟨d.text ++ [Char.ofNat code], []⟩

/-- One byte more, or `none` for a `UnicodeDecodeError`. -/
def Decoder.feed (d : Decoder) (byte : UInt8) : Option Decoder :=
  match d.pending with
  | [] =>
    match announced byte with
    | none => none
    | some 0 => some (d.emit byte.toNat)
    | some (_ + 1) => some ⟨d.text, [byte]⟩
  | [lead] =>
    if !allows lead byte then none
    else if announced lead = some 1 then
      some (d.emit (lead.toNat % 32 * 64 + byte.toNat % 64))
    else some ⟨d.text, [lead, byte]⟩
  | [lead, second] =>
    if !isTrail byte then none
    else if announced lead = some 2 then
      some (d.emit (lead.toNat % 16 * 4096 + second.toNat % 64 * 64 + byte.toNat % 64))
    else some ⟨d.text, [lead, second, byte]⟩
  | [lead, second, third] =>
    if !isTrail byte then none
    else some (d.emit (lead.toNat % 8 * 262144 + second.toNat % 64 * 4096 + third.toNat % 64 * 64 +
      byte.toNat % 64))
  | _ => none

/-- `decoder.decode(bytes, final=False)`. -/
def Decoder.decode (d : Decoder) (bytes : List UInt8) : Option Decoder :=
  bytes.foldlM Decoder.feed d

/-- `bytes.decode()`. -/
def decodeText (bytes : List UInt8) : Option (List Char) :=
  match Decoder.decode {} bytes with
  | some ⟨text, []⟩ => some text
  | _ => none

/-- `text.find(query, start)`. -/
def find (query text : List Char) (start : ℕ) : Option ℕ :=
  (List.range (text.length + 1)).find? fun position =>
    start ≤ position && query.isPrefixOf (text.drop position)

variable {d d' : Decoder} {a b bytes : List UInt8} {text query : List Char}

@[simp]
theorem encode_nil : encode [] = [] := rfl

theorem encode_cons (c : Char) (text : List Char) :
    encode (c :: text) = String.utf8EncodeChar c ++ encode text := rfl

@[simp]
theorem encode_append (text more : List Char) :
    encode (text ++ more) = encode text ++ encode more :=
  List.flatMap_append

theorem length_encode_le (text : List Char) : (encode text).length ≤ 4 * text.length := by
  induction text with
  | nil => simp
  | cons c rest ih =>
    have one := Char.utf8Size_le_four c
    simp only [encode_cons, List.length_append, String.length_utf8EncodeChar, List.length_cons]
    omega

@[simp]
theorem Decoder.decode_nil : d.decode [] = some d := rfl

theorem Decoder.decode_append :
    d.decode (a ++ b) = (d.decode a).bind fun d => d.decode b := List.foldlM_append

/-! ### What was written is read -/

theorem announced_one {lead : UInt8} :
    announced lead = some 1 ↔ 0xC2 ≤ lead.toNat ∧ lead.toNat < 0xE0 := by
  unfold announced
  split_ifs
  all_goals simp
  all_goals omega

theorem announced_two {lead : UInt8} :
    announced lead = some 2 ↔ 0xE0 ≤ lead.toNat ∧ lead.toNat < 0xF0 := by
  unfold announced
  split_ifs
  all_goals simp
  all_goals omega

theorem announced_three {lead : UInt8} :
    announced lead = some 3 ↔ 0xF0 ≤ lead.toNat ∧ lead.toNat < 0xF5 := by
  unfold announced
  split_ifs
  all_goals simp
  all_goals omega

theorem announced_le {lead : UInt8} {n : ℕ} (told : announced lead = some n) : n ≤ 3 := by
  unfold announced at told
  split_ifs at told
  all_goals cases told
  all_goals decide

theorem decode_one {byte : UInt8} (short : byte.toNat < 0x80) :
    Decoder.decode ⟨text, []⟩ [byte] = some ⟨text ++ [Char.ofNat byte.toNat], []⟩ := by
  have alone : announced byte = some 0 := if_pos short
  simp [Decoder.decode, Decoder.feed, alone, Decoder.emit]

theorem decode_two {lead second : UInt8} (two : announced lead = some 1)
    (fits : allows lead second = true) :
    Decoder.decode ⟨text, []⟩ [lead, second] =
      some ⟨text ++ [Char.ofNat (lead.toNat % 32 * 64 + second.toNat % 64)], []⟩ := by
  simp [Decoder.decode, Decoder.feed, two, fits, Decoder.emit]

theorem decode_three {lead second third : UInt8} (three : announced lead = some 2)
    (fits : allows lead second = true) (trail : isTrail third = true) :
    Decoder.decode ⟨text, []⟩ [lead, second, third] =
      some ⟨text ++ [Char.ofNat (lead.toNat % 16 * 4096 + second.toNat % 64 * 64 +
        third.toNat % 64)], []⟩ := by
  simp [Decoder.decode, Decoder.feed, three, fits, trail, Decoder.emit]

theorem decode_four {lead second third fourth : UInt8} (four : announced lead = some 3)
    (fits : allows lead second = true) (trail : isTrail third = true)
    (trail' : isTrail fourth = true) :
    Decoder.decode ⟨text, []⟩ [lead, second, third, fourth] =
      some ⟨text ++ [Char.ofNat (lead.toNat % 8 * 262144 + second.toNat % 64 * 4096 +
        third.toNat % 64 * 64 + fourth.toNat % 64)], []⟩ := by
  simp [Decoder.decode, Decoder.feed, four, fits, trail, trail', Decoder.emit]

theorem toNat_byte {n : ℕ} (small : n < 256) : (UInt8.ofNat n).toNat = n := by
  simp [Nat.mod_eq_of_lt small]

theorem isTrail_byte {n : ℕ} (small : n < 64) : isTrail (UInt8.ofNat (n + 0x80)) = true := by
  rw [isTrail, toNat_byte (by omega)]
  simp
  omega

/-- A character is read from its bytes. -/
theorem decode_char (text : List Char) (c : Char) :
    Decoder.decode ⟨text, []⟩ (String.utf8EncodeChar c) = some ⟨text ++ [c], []⟩ := by
  have whole : Char.ofNat c.val.toNat = c := Char.ofNat_toNat c
  have valid : c.val.toNat < 0xD800 ∨ 0xDFFF < c.val.toNat ∧ c.val.toNat < 0x110000 := c.valid
  unfold String.utf8EncodeChar
  dsimp only
  generalize c.val.toNat = v at whole valid ⊢
  split
  · rw [decode_one (by rw [toNat_byte (by omega)]; omega), toNat_byte (by omega), whole]
  · split
    · have lead := @toNat_byte (v / 64 % 0x20 + 0xC0) (by omega)
      have second := @toNat_byte (v % 0x40 + 0x80) (by omega)
      have code : (v / 64 % 0x20 + 0xC0) % 32 * 64 + (v % 0x40 + 0x80) % 64 = v := by omega
      have fits : allows (UInt8.ofNat (v / 64 % 0x20 + 0xC0)) (UInt8.ofNat (v % 0x40 + 0x80)) := by
        rw [allows, lead, second]
        simp
        split_ifs
        all_goals omega
      rw [decode_two (announced_one.mpr (by omega)) fits, lead, second, code, whole]
    · split
      · have lead := @toNat_byte (v / 4096 % 0x10 + 0xE0) (by omega)
        have second := @toNat_byte (v / 64 % 0x40 + 0x80) (by omega)
        have third := @toNat_byte (v % 0x40 + 0x80) (by omega)
        have code : (v / 4096 % 0x10 + 0xE0) % 16 * 4096 + (v / 64 % 0x40 + 0x80) % 64 * 64 +
            (v % 0x40 + 0x80) % 64 = v := by omega
        have fits : allows (UInt8.ofNat (v / 4096 % 0x10 + 0xE0))
            (UInt8.ofNat (v / 64 % 0x40 + 0x80)) := by
          rw [allows, lead, second]
          simp
          split_ifs
          all_goals omega
        rw [decode_three (announced_two.mpr (by omega)) fits (isTrail_byte (by omega)), lead,
          second, third, code, whole]
      · have lead := @toNat_byte (v / 262144 % 0x08 + 0xF0) (by omega)
        have second := @toNat_byte (v / 4096 % 0x40 + 0x80) (by omega)
        have third := @toNat_byte (v / 64 % 0x40 + 0x80) (by omega)
        have fourth := @toNat_byte (v % 0x40 + 0x80) (by omega)
        have code : (v / 262144 % 0x08 + 0xF0) % 8 * 262144 + (v / 4096 % 0x40 + 0x80) % 64 * 4096 +
            (v / 64 % 0x40 + 0x80) % 64 * 64 + (v % 0x40 + 0x80) % 64 = v := by omega
        have fits : allows (UInt8.ofNat (v / 262144 % 0x08 + 0xF0))
            (UInt8.ofNat (v / 4096 % 0x40 + 0x80)) := by
          rw [allows, lead, second]
          simp
          split_ifs
          all_goals omega
        rw [decode_four (announced_three.mpr (by omega)) fits (isTrail_byte (by omega))
          (isTrail_byte (by omega)), lead, second, third, fourth, code, whole]

theorem decode_encode (text more : List Char) :
    Decoder.decode ⟨text, []⟩ (encode more) = some ⟨text ++ more, []⟩ := by
  induction more generalizing text with
  | nil => simp
  | cons c rest ih =>
    rw [encode_cons, Decoder.decode_append, decode_char, Option.bind_some, ih]
    simp

/-! ### What is read was written -/

/-- The bytes of a character that is not complete. -/
def Unfinished : List UInt8 → Prop
  | [] => True
  | [lead] => announced lead = some 1 ∨ announced lead = some 2 ∨ announced lead = some 3
  | [lead, second] =>
    (announced lead = some 2 ∨ announced lead = some 3) ∧ allows lead second = true
  | [lead, second, third] =>
    announced lead = some 3 ∧ allows lead second = true ∧ isTrail third = true
  | _ => False

theorem toNat_char {n : ℕ} (valid : n < 0xD800 ∨ 0xDFFF < n ∧ n < 0x110000) :
    (Char.ofNat n).val.toNat = n := by
  unfold Char.ofNat
  rw [dif_pos valid]
  rfl

theorem bounds_of_allows {lead second : UInt8} (fits : allows lead second = true) :
    0x80 ≤ second.toNat ∧ second.toNat < 0xC0 ∧ (lead.toNat = 0xE0 → 0xA0 ≤ second.toNat) ∧
      (lead.toNat = 0xF0 → 0x90 ≤ second.toNat) ∧ (lead.toNat = 0xED → second.toNat < 0xA0) ∧
        (lead.toNat = 0xF4 → second.toNat < 0x90) := by
  simp only [allows, Bool.and_eq_true, decide_eq_true_eq] at fits
  obtain ⟨low, high⟩ := fits
  split_ifs at low high
  all_goals omega

theorem bounds_of_isTrail {byte : UInt8} (trail : isTrail byte = true) :
    0x80 ≤ byte.toNat ∧ byte.toNat < 0xC0 := by
  simpa [isTrail] using trail

theorem encode_one {byte : UInt8} (short : byte.toNat < 0x80) :
    String.utf8EncodeChar (Char.ofNat byte.toNat) = [byte] := by
  have code := @toNat_char byte.toNat (by omega)
  unfold String.utf8EncodeChar
  dsimp only
  rw [code, if_pos (by omega)]
  simp

theorem encode_two {lead second : UInt8} (two : announced lead = some 1)
    (fits : allows lead second = true) :
    String.utf8EncodeChar (Char.ofNat (lead.toNat % 32 * 64 + second.toNat % 64)) =
      [lead, second] := by
  have first := announced_one.mp two
  have next := bounds_of_allows fits
  generalize code_eq : lead.toNat % 32 * 64 + second.toNat % 64 = v
  have code := @toNat_char v (by omega)
  have one : v / 64 % 0x20 + 0xC0 = lead.toNat := by omega
  have other : v % 0x40 + 0x80 = second.toNat := by omega
  unfold String.utf8EncodeChar
  dsimp only
  rw [code, if_neg (by omega), if_pos (by omega), one, other]
  simp

theorem encode_three {lead second third : UInt8} (three : announced lead = some 2)
    (fits : allows lead second = true) (trail : isTrail third = true) :
    String.utf8EncodeChar (Char.ofNat (lead.toNat % 16 * 4096 + second.toNat % 64 * 64 +
      third.toNat % 64)) = [lead, second, third] := by
  have first := announced_two.mp three
  have next := bounds_of_allows fits
  have last := bounds_of_isTrail trail
  generalize code_eq : lead.toNat % 16 * 4096 + second.toNat % 64 * 64 + third.toNat % 64 = v
  have code := @toNat_char v (by omega)
  have one : v / 4096 % 0x10 + 0xE0 = lead.toNat := by omega
  have two : v / 64 % 0x40 + 0x80 = second.toNat := by omega
  have other : v % 0x40 + 0x80 = third.toNat := by omega
  unfold String.utf8EncodeChar
  dsimp only
  rw [code, if_neg (by omega), if_neg (by omega), if_pos (by omega), one, two, other]
  simp

theorem encode_four {lead second third fourth : UInt8} (four : announced lead = some 3)
    (fits : allows lead second = true) (trail : isTrail third = true)
    (trail' : isTrail fourth = true) :
    String.utf8EncodeChar (Char.ofNat (lead.toNat % 8 * 262144 + second.toNat % 64 * 4096 +
      third.toNat % 64 * 64 + fourth.toNat % 64)) = [lead, second, third, fourth] := by
  have first := announced_three.mp four
  have next := bounds_of_allows fits
  have third_bounds := bounds_of_isTrail trail
  have last := bounds_of_isTrail trail'
  generalize code_eq : lead.toNat % 8 * 262144 + second.toNat % 64 * 4096 + third.toNat % 64 * 64 +
    fourth.toNat % 64 = v
  have code := @toNat_char v (by omega)
  have one : v / 262144 % 0x08 + 0xF0 = lead.toNat := by omega
  have two : v / 4096 % 0x40 + 0x80 = second.toNat := by omega
  have three : v / 64 % 0x40 + 0x80 = third.toNat := by omega
  have other : v % 0x40 + 0x80 = fourth.toNat := by omega
  unfold String.utf8EncodeChar
  dsimp only
  rw [code, if_neg (by omega), if_neg (by omega), if_neg (by omega), one, two, three, other]
  simp

/-- A character that is complete stands for the bytes it was read from. -/
theorem Decoder.emit_sound {code : ℕ} (same : String.utf8EncodeChar (Char.ofNat code) = bytes) :
    Unfinished (d.emit code).pending ∧
      encode (d.emit code).text ++ (d.emit code).pending = encode d.text ++ bytes := by
  simp [Decoder.emit, Unfinished, encode_cons, same]

theorem Decoder.feed_sound {byte : UInt8} (unfinished : Unfinished d.pending)
    (fed : d.feed byte = some d') :
    Unfinished d'.pending ∧
      encode d'.text ++ d'.pending = encode d.text ++ (d.pending ++ [byte]) := by
  obtain ⟨text, pending⟩ := d
  unfold Decoder.feed at fed
  dsimp only at fed unfinished ⊢
  split at fed
  · split at fed
    · cases fed
    · rename_i alone
      cases fed
      have short : byte.toNat < 0x80 := by
        unfold announced at alone
        split_ifs at alone
        all_goals first | assumption | cases alone
      exact emit_sound (encode_one short)
    · rename_i n more
      cases fed
      refine ⟨?_, rfl⟩
      have bound := announced_le more
      obtain rfl | rfl | rfl : n = 0 ∨ n = 1 ∨ n = 2 := by omega
      · exact .inl more
      · exact .inr (.inl more)
      · exact .inr (.inr more)
  · rename_i lead
    split at fed
    · cases fed
    · rename_i fits
      have fits : allows lead byte = true := by simpa using fits
      split at fed
      · rename_i two
        cases fed
        exact emit_sound (encode_two two fits)
      · rename_i longer
        cases fed
        exact ⟨⟨unfinished.resolve_left longer, fits⟩, rfl⟩
  · rename_i lead second
    obtain ⟨length, fits⟩ := unfinished
    split at fed
    · cases fed
    · rename_i trail
      have trail : isTrail byte = true := by simpa using trail
      split at fed
      · rename_i three
        cases fed
        exact emit_sound (encode_three three fits trail)
      · rename_i longer
        cases fed
        exact ⟨⟨length.resolve_left longer, fits, trail⟩, rfl⟩
  · rename_i lead second third
    obtain ⟨four, fits, trail⟩ := unfinished
    split at fed
    · cases fed
    · rename_i trail'
      have trail' : isTrail byte = true := by simpa using trail'
      cases fed
      exact emit_sound (encode_four four fits trail trail')
  · cases fed

theorem Decoder.decode_sound_from (unfinished : Unfinished d.pending)
    (read : d.decode bytes = some d') :
    Unfinished d'.pending ∧
      encode d'.text ++ d'.pending = encode d.text ++ (d.pending ++ bytes) := by
  induction bytes generalizing d with
  | nil =>
    cases read
    simpa using unfinished
  | cons byte rest ih =>
    have read : (d.feed byte).bind (fun d => d.decode rest) = some d' := read
    obtain ⟨next, fed, later⟩ := Option.bind_eq_some_iff.mp read
    obtain ⟨unfinished, same⟩ := feed_sound unfinished fed
    obtain ⟨ends, whole⟩ := ih unfinished later
    refine ⟨ends, ?_⟩
    rw [whole, ← List.append_assoc, same]
    simp

theorem Decoder.decode_sound (read : Decoder.decode {} bytes = some d) :
    bytes = encode d.text ++ d.pending := by
  have whole := (decode_sound_from (d := {}) trivial read).2
  simpa using whole.symm

theorem decodeText_eq_some_iff : decodeText bytes = some text ↔ bytes = encode text := by
  constructor
  · intro read
    unfold decodeText at read
    split at read
    · rename_i all whole
      cases read
      simpa using Decoder.decode_sound whole
    · cases read
  · rintro rfl
    have whole : Decoder.decode {} (encode text) = some ⟨text, []⟩ := by
      simpa using decode_encode [] text
    rw [decodeText, whole]

/-! ### Cuts -/

theorem Decoder.text_grows_feed {byte : UInt8} (fed : d.feed byte = some d') :
    d.text <+: d'.text := by
  unfold Decoder.feed at fed
  split at fed
  all_goals try split at fed
  all_goals try split at fed
  all_goals cases fed
  all_goals first | exact List.prefix_append .. | exact List.prefix_refl _

theorem Decoder.text_grows (read : d.decode bytes = some d') : d.text <+: d'.text := by
  induction bytes generalizing d with
  | nil =>
    cases read
    exact List.prefix_refl _
  | cons byte rest ih =>
    have read : (d.feed byte).bind (fun d => d.decode rest) = some d' := read
    obtain ⟨next, fed, later⟩ := Option.bind_eq_some_iff.mp read
    exact (text_grows_feed fed).trans (ih later)

theorem isTrail_of_allows {lead second : UInt8} (fits : allows lead second = true) :
    isTrail second = true := by
  have bounds := bounds_of_allows fits
  simp [isTrail]
  omega

/-- No character is open where another one begins. -/
theorem Decoder.pending_of_feed {byte : UInt8} (first : isTrail byte = false)
    (fed : d.feed byte = some d') : d.pending = [] := by
  have blocked {lead : UInt8} : allows lead byte = false := by
    by_contra fits
    simp [isTrail_of_allows (Bool.not_eq_false _ ▸ fits)] at first
  unfold Decoder.feed at fed
  split at fed
  · assumption
  · simp [blocked] at fed
  · simp [first] at fed
  · simp [first] at fed
  · cases fed

theorem isTrail_head (c : Char) : ∃ byte rest, String.utf8EncodeChar c = byte :: rest ∧
    isTrail byte = false := by
  have valid : c.val.toNat < 0xD800 ∨ 0xDFFF < c.val.toNat ∧ c.val.toNat < 0x110000 := c.valid
  unfold String.utf8EncodeChar
  dsimp only
  generalize c.val.toNat = v at valid ⊢
  split_ifs
  all_goals refine ⟨_, _, rfl, ?_⟩
  all_goals rw [isTrail, toNat_byte (by omega)]
  all_goals simp
  all_goals omega

/-- A text that stands among the bytes that are read stands in the text. -/
theorem Decoder.decode_infix (some_query : query ≠ [])
    (read : Decoder.decode {} (a ++ (encode query ++ b)) = some d) :
    ∃ before after, d.text = before ++ (query ++ after) ∧ encode before = a := by
  obtain ⟨c, more, rfl⟩ := List.exists_cons_of_ne_nil some_query
  obtain ⟨byte, rest, bytes_eq, first⟩ := isTrail_head c
  rw [decode_append] at read
  obtain ⟨before, first_read, read⟩ := Option.bind_eq_some_iff.mp read
  have idle : before.pending = [] := by
    rw [encode_cons, bytes_eq] at read
    have read : (before.feed byte).bind (fun d => d.decode (rest ++ encode more ++ b)) =
        some d := read
    obtain ⟨next, fed, _⟩ := Option.bind_eq_some_iff.mp read
    exact pending_of_feed first fed
  obtain ⟨text, pending⟩ := before
  dsimp only at idle
  subst idle
  rw [decode_append, decode_encode, Option.bind_some] at read
  obtain ⟨after, whole⟩ := text_grows read
  refine ⟨text, after, ?_, ?_⟩
  · rw [← whole]
    simp
  · simpa using (decode_sound first_read).symm

/-! ### Finding -/

theorem find_eq_some {start position : ℕ} (found : find query text start = some position) :
    start ≤ position ∧ query <+: text.drop position := by
  have here := List.find?_some found
  simpa using here

theorem find_passed {start position : ℕ} (found : find query text start = some position)
    {other : ℕ} (from_start : start ≤ other) (earlier : other < position) :
    ¬ query <+: text.drop other := by
  obtain ⟨_, _, before⟩ := List.find?_range_eq_some.mp found
  intro there
  have none_here := before other earlier
  simp [from_start, List.isPrefixOf_iff_prefix.mpr there] at none_here

theorem find_eq_none {start : ℕ} (some_query : query ≠ [])
    (missing : find query text start = none) {position : ℕ} (from_start : start ≤ position) :
    ¬ query <+: text.drop position := by
  intro there
  have inside : position < text.length + 1 := by
    by_contra beyond
    rw [List.drop_eq_nil_of_le (by omega), List.prefix_nil] at there
    exact some_query there
  have none_here := List.find?_eq_none.mp missing position (List.mem_range.mpr inside)
  simp [from_start, there] at none_here

end Python
