import Mathlib.Data.List.Basic

/-! Of Python's `str`: white space, `split` and `replace`. -/
namespace Python

/-- White space, to `str.split` as to `\s`. -/
def isSpace (c : Char) : Bool :=
  let n := c.toNat
  (0x09 ≤ n && n ≤ 0x0D) || (0x1C ≤ n && n ≤ 0x20) || n = 0x85 || n = 0xA0 || n = 0x1680 ||
    (0x2000 ≤ n && n ≤ 0x200A) || n ∈ [0x2028, 0x2029, 0x202F, 0x205F, 0x3000]

/-- `text.split()`. -/
def words (text : List Char) : List (List Char) := (text.splitOnP isSpace).filter (· ≠ [])

/-- `text.replace(old, new)`, where `old` is not empty. -/
def replaceAll (old new text : List Char) : List Char :=
  match text with
  | [] => []
  | c :: rest =>
    if old.isPrefixOf (c :: rest) then
      new ++ replaceAll old new (rest.drop (old.length - 1))
    else c :: replaceAll old new rest
termination_by text.length
decreasing_by all_goals (simp; try omega)

theorem replaceAll_of_not_mem {first : Char} {old new text : List Char} (absent : first ∉ text) :
    replaceAll (first :: old) new text = text := by
  induction text with
  | nil => rw [replaceAll]
  | cons c rest ih =>
    rw [List.mem_cons, not_or] at absent
    rw [replaceAll, if_neg (by simp [absent.1]), ih absent.2]

end Python
