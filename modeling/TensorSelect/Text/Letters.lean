import TensorSelect.Unicode.Case

/-!
# Blanks and lower case

Two character classes for reading words that users type:

* `isBlank`: the Unicode white-space characters, which `trimBlanks` removes from both ends of a
  text;
* `toLowerChar`: the lower case of a character, by the simple lower-case mapping of Unicode 15.0
  (`Unicode.lowerCode`); a character that is no capital is its own lower case.
-/

namespace TensorSelect.Text

/-- The Unicode white-space characters. -/
def isBlank (c : Char) : Bool :=
  let n := c.toNat
  (9 ≤ n && n ≤ 13) || n == 32 || n == 0x85 || n == 0xA0 || n == 0x1680 ||
    (0x2000 ≤ n && n ≤ 0x200A) || n == 0x2028 || n == 0x2029 || n == 0x202F ||
    n == 0x205F || n == 0x3000

/-- Every ASCII white-space character of core is blank. -/
theorem isBlank_of_isWhitespace (c : Char) (h : c.isWhitespace = true) : isBlank c = true := by
  simp only [Char.isWhitespace, Bool.or_eq_true, decide_eq_true_eq] at h
  simp only [isBlank, Bool.or_eq_true, Bool.and_eq_true, decide_eq_true_eq, beq_iff_eq]
  rcases h with ((h | h) | h) | h <;> subst h <;> decide

/-- A text without blanks at either end. -/
def trimBlanks (s : String) : String :=
  String.ofList (((s.toList.dropWhile isBlank).reverse.dropWhile isBlank).reverse)

/-- The lower case of a character: Unicode's simple lower-case mapping. -/
def toLowerChar (c : Char) : Char := Char.ofNat (Unicode.lowerCode c.toNat)

/-- A text in lower case. -/
def toLower (s : String) : String := String.ofList (s.toList.map toLowerChar)

end TensorSelect.Text
