import TensorSelect.Unicode.Graphic

/-!
# Quoted text

Messages show a user's text between double quotes, so that blanks and odd characters stay
visible. Inside the quotes a quote and a backslash are escaped by a backslash; a character that
does not print is written as an escape: the seven named control escapes (`\a \b \f \n \r \t \v`),
`\xHH` for the other ASCII controls, and `\uHHHH` or `\UHHHHHHHH` (lower-case hex) beyond ASCII.
Every other character stands for itself.

A list of texts is shown as the quoted texts between brackets, separated by blanks.
-/

namespace TensorSelect.Text

/-- Whether a character prints: the letters, marks, numbers, punctuation and symbols of Unicode
15.0, and the blank. -/
def isPrintable (c : Char) : Bool := c.toNat == 0x20 || Unicode.isGraphic c.toNat

/-- `n` in lower-case hex, with at least `width` digits. -/
def hexDigits (width n : Nat) : List Char :=
  let ds := Nat.toDigits 16 n
  List.replicate (width - ds.length) '0' ++ ds

/-- The characters that stand for one character inside quotes. -/
def escapeChar (c : Char) : List Char :=
  if c == '"' then ['\\', '"']
  else if c == '\\' then ['\\', '\\']
  else if isPrintable c then [c]
  else
    match c.toNat with
    | 7 => ['\\', 'a'] | 8 => ['\\', 'b'] | 12 => ['\\', 'f'] | 10 => ['\\', 'n']
    | 13 => ['\\', 'r'] | 9 => ['\\', 't'] | 11 => ['\\', 'v']
    | n =>
      if n < 0x80 then ['\\', 'x'] ++ hexDigits 2 n
      else if n < 0x10000 then ['\\', 'u'] ++ hexDigits 4 n
      else ['\\', 'U'] ++ hexDigits 8 n

/-- A text between double quotes, escaped. -/
def quote (s : String) : String :=
  String.ofList ('"' :: (s.toList.flatMap escapeChar ++ ['"']))

/-- A list of texts, each quoted, between brackets. -/
def quoteList (xs : List String) : String :=
  "[" ++ " ".intercalate (xs.map quote) ++ "]"

/-- A quote inside a text is escaped. -/
example : quote "\"" = "\"\\\"\"" := by decide

end TensorSelect.Text
