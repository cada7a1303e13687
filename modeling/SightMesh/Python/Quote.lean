import SightMesh.Python.Utf8

/-! `urllib.parse.quote` with no character declared safe. -/
namespace Python

def unreserved (byte : UInt8) : Bool :=
  let c := Char.ofNat byte.toNat
  c.isAlphanum || c ∈ ['_', '.', '-', '~']

def hexDigit (n : ℕ) : Char := if n < 10 then Char.ofNat (48 + n) else Char.ofNat (55 + n)

def quoteByte (byte : UInt8) : List Char :=
  if unreserved byte then [Char.ofNat byte.toNat]
  else ['%', hexDigit (byte.toNat / 16), hexDigit (byte.toNat % 16)]

def quoteBytes (bytes : List UInt8) : List Char := bytes.flatMap quoteByte

/-- `quote(text, safe="")` -/
def quote (text : String) : String := String.ofList (quoteBytes (encode text.toList))

/-! ### It can be read back -/

def hexValue (c : Char) : ℕ := if c.toNat < 58 then c.toNat - 48 else c.toNat - 55

def unquoteByte : List Char → Option UInt8
  | '%' :: high :: low :: _ => some (UInt8.ofNat (hexValue high * 16 + hexValue low))
  | c :: _ => some (UInt8.ofNat c.toNat)
  | [] => none

theorem quoteByte_forms : ∀ n : Fin 256, quoteByte (UInt8.ofNat n) ≠ [] ∧
    '/' ∉ quoteByte (UInt8.ofNat n) ∧
    (quoteByte (UInt8.ofNat n) = ['%', hexDigit (n / 16), hexDigit (n % 16)] ∨
      quoteByte (UInt8.ofNat n) = [Char.ofNat n] ∧ Char.ofNat n ≠ '%') ∧
    hexValue (hexDigit (n / 16)) * 16 + hexValue (hexDigit (n % 16)) = n ∧
    (Char.ofNat n).toNat = n := by
  decide +kernel

theorem unquoteByte_quoteByte (byte : UInt8) (rest : List Char) :
    unquoteByte (quoteByte byte ++ rest) = some byte := by
  obtain ⟨_, _, form, value, plain⟩ := quoteByte_forms ⟨byte.toNat, byte.toNat_lt⟩
  simp only [UInt8.ofNat_toNat] at form
  obtain hex | ⟨same, other⟩ := form
  · rw [hex]
    simp [unquoteByte, value]
  · rw [same]
    have first : unquoteByte (Char.ofNat byte.toNat :: rest) =
        some (UInt8.ofNat (Char.ofNat byte.toNat).toNat) := by
      unfold unquoteByte
      split
      · rename_i here
        exact absurd (List.cons.inj here).1 other
      · rename_i here
        rw [(List.cons.inj here).1]
      · rename_i here
        exact absurd here (List.cons_ne_nil _ _)
    simpa [plain] using first

theorem slash_not_mem_quoteBytes (bytes : List UInt8) : '/' ∉ quoteBytes bytes := by
  simp only [quoteBytes, List.mem_flatMap, not_exists, not_and]
  intro byte _
  simpa using (quoteByte_forms ⟨byte.toNat, byte.toNat_lt⟩).2.1

theorem quoteBytes_inj {bytes bytes' : List UInt8} (same : quoteBytes bytes = quoteBytes bytes') :
    bytes = bytes' := by
  have nonempty (byte : UInt8) : quoteByte byte ≠ [] := by
    simpa using (quoteByte_forms ⟨byte.toNat, byte.toNat_lt⟩).1
  induction bytes generalizing bytes' with
  | nil =>
    cases bytes' with
    | nil => rfl
    | cons byte' rest' =>
      simp only [quoteBytes, List.flatMap_nil, List.flatMap_cons] at same
      exact absurd (List.append_eq_nil_iff.mp same.symm).1 (nonempty byte')
  | cons byte rest ih =>
    cases bytes' with
    | nil =>
      simp only [quoteBytes, List.flatMap_nil, List.flatMap_cons] at same
      exact absurd (List.append_eq_nil_iff.mp same).1 (nonempty byte)
    | cons byte' rest' =>
      simp only [quoteBytes, List.flatMap_cons] at same ih
      have first := congrArg unquoteByte same
      rw [unquoteByte_quoteByte, unquoteByte_quoteByte] at first
      obtain rfl := Option.some.inj first
      rw [ih (List.append_cancel_left same)]

theorem quote_inj {text text' : String} (same : quote text = quote text') : text = text' := by
  have bytes := quoteBytes_inj (String.ofList_injective same)
  have read := decodeText_eq_some_iff.mpr bytes
  rw [decodeText_eq_some_iff.mpr rfl] at read
  exact String.toList_inj.mp (Option.some.inj read)

theorem append_slash_inj {a b rest rest' : List Char} (free : '/' ∉ a) (free' : '/' ∉ b)
    (same : a ++ '/' :: rest = b ++ '/' :: rest') : a = b ∧ rest = rest' := by
  induction a generalizing b with
  | nil =>
    cases b with
    | nil => exact ⟨rfl, (List.cons.inj same).2⟩
    | cons c b =>
      obtain rfl : '/' = c := (List.cons.inj same).1
      exact absurd List.mem_cons_self free'
  | cons c a ih =>
    cases b with
    | nil =>
      obtain rfl : c = '/' := (List.cons.inj same).1
      exact absurd List.mem_cons_self free
    | cons c' b =>
      obtain ⟨rfl, tails⟩ := List.cons.inj same
      obtain ⟨rfl, rest⟩ := ih (fun mem => free (List.mem_cons_of_mem _ mem))
        (fun mem => free' (List.mem_cons_of_mem _ mem)) tails
      exact ⟨rfl, rest⟩

theorem quote_slash_inj {first first' rest rest' : String}
    (same : quote first ++ "/" ++ rest = quote first' ++ "/" ++ rest') :
    first = first' ∧ rest = rest' := by
  have chars := congrArg String.toList same
  simp only [String.toList_append, quote, String.toList_ofList, List.append_assoc] at chars
  obtain ⟨bytes, rest⟩ :=
    append_slash_inj (slash_not_mem_quoteBytes _) (slash_not_mem_quoteBytes _) chars
  exact ⟨quote_inj (congrArg String.ofList bytes), String.toList_inj.mp rest⟩

end Python
