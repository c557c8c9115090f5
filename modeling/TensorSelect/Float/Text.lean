import TensorSelect.Float.Shortest

/-!
# Float text

How a word is written and read.

Writing takes the shortest decimal of the word (`Format.shortest`) and lays its digits out in one
of two notations, by the decimal exponent `x` of the first digit: positional notation for
`-4 ≤ x < 6`, exponent notation (`d.ddde±XX`, at least two exponent digits) outside it. NaN is
written `NaN`, the infinities `+Inf` and `-Inf`, and a negative zero keeps its sign, `-0`. The
thresholds and spellings are the fields of one record, `Notation.general`.

Reading accepts an optional sign, digits with an optional point, and an optional exponent
(`e` or `E`, optional sign, digits); or, ignoring case, `inf`, `infinity` (after an optional
sign) and `nan`. The decimal is rounded once, exactly, to the nearest word of the format.
-/

namespace TensorSelect.Float

/-- Where positional notation ends and how the special values are spelled. -/
structure Notation where
  /-- The least decimal exponent of the first digit written positionally. -/
  plainFrom : Int
  /-- The least decimal exponent of the first digit written with an exponent, above `plainFrom`. -/
  plainUntil : Int
  /-- The least number of exponent digits. -/
  exponentDigits : Nat
  nan : String
  posInf : String
  negInf : String

/-- The general notation: positional for first-digit exponents in `[-4, 6)`, exponent notation
with a signed exponent of at least two digits elsewhere. -/
def Notation.general : Notation :=
  { plainFrom := -4, plainUntil := 6, exponentDigits := 2,
    nan := "NaN", posInf := "+Inf", negInf := "-Inf" }

/-- `n` written with at least `width` digits, zeros in front. -/
def padDigits (width n : Nat) : String :=
  let s := toString n
  String.ofList (List.replicate (width - s.length) '0') ++ s

/-- The digits of a decimal with no trailing zero, laid out with the first digit at decimal
exponent `x`. -/
def Notation.layout (nt : Notation) (digits : List Char) (x : Int) : String :=
  if x < nt.plainFrom || x ≥ nt.plainUntil then
    let mant := match digits with
      | [] => "0"
      | [d] => String.singleton d
      | d :: rest => String.singleton d ++ "." ++ String.ofList rest
    let sign := if x < 0 then "-" else "+"
    mant ++ "e" ++ sign ++ padDigits nt.exponentDigits x.natAbs
  else
    -- the point stands after `x + 1` digits
    let dp := x + 1
    if dp ≤ 0 then
      "0." ++ String.ofList (List.replicate dp.natAbs '0') ++ String.ofList digits
    else
      let n := dp.toNat
      if n ≥ digits.length then
        String.ofList digits ++ String.ofList (List.replicate (n - digits.length) '0')
      else
        String.ofList (digits.take n) ++ "." ++ String.ofList (digits.drop n)

namespace Format

variable (f : Format)

/-- The text of a word in notation `nt`. -/
def textIn (nt : Notation) (w : Nat) : String :=
  if f.isNaN w then nt.nan
  else if f.isInf w then (if f.sign w then nt.negInf else nt.posInf)
  else
    let sign := if f.sign w then "-" else ""
    let d := f.shortest w
    if d.significand = 0 then sign ++ "0"
    else
      let digits := Nat.toDigits 10 d.significand
      sign ++ nt.layout digits (d.exponent + digits.length - 1)

/-- The text of a word in the general notation. -/
def text (w : Nat) : String := f.textIn Notation.general w

end Format

/-! ## Reading -/

/-- A number read from text: NaN, an infinity, or `± num / den`. -/
inductive Reading
  | nan
  | inf (neg : Bool)
  | finite (neg : Bool) (num den : Nat)
  deriving Repr

/-- Digits of a character list, and the rest after them. -/
def spanDigits (cs : List Char) : List Char × List Char :=
  (cs.takeWhile Char.isDigit, cs.dropWhile Char.isDigit)

/-- The value of a list of decimal digits. -/
def digitsValue (ds : List Char) : Nat :=
  ds.foldl (fun n c => 10 * n + (c.toNat - '0'.toNat)) 0

/-- Whether `cs` spells `word` (in lower case), ignoring case. -/
def spellsIgnoringCase (cs : List Char) (word : String) : Bool :=
  cs.map Char.toLower == word.toList

/-- The decimal exponent past which every format here rounds a nonzero value to infinity, and
below which it rounds it to zero. -/
def exponentLimit : Nat := 400

/-- Reads the unsigned decimal `digits[.digits][e[±]digits]`. -/
def readUnsigned (neg : Bool) (cs : List Char) : Option Reading :=
  let (intPart, rest) := spanDigits cs
  let (fracPart, rest) := match rest with
    | '.' :: more => spanDigits more
    | _ => ([], rest)
  if intPart.isEmpty && fracPart.isEmpty then none
  else
    let expPart : Option Int := match rest with
      | [] => some 0
      | c :: more =>
        if c == 'e' || c == 'E' then
          let (eneg, body) := match more with
            | '+' :: b => (false, b)
            | '-' :: b => (true, b)
            | b => (false, b)
          let (eds, tail) := spanDigits body
          if eds.isEmpty || !tail.isEmpty then none
          else
            let e : Int := digitsValue eds
            some (if eneg then -e else e)
        else none
    expPart.map fun (e10 : Int) =>
      let mant := digitsValue (intPart ++ fracPart)
      let e : Int := e10 - fracPart.length
      let lead : Int := digitCount mant
      if mant = 0 then .finite neg 0 1
      else if e + lead > (exponentLimit : Int) then .inf neg
      else if e + lead < -(exponentLimit : Int) then .finite neg 0 1
      else
        let (a, b) := powTen e
        .finite neg (mant * a) b

/-- Reads a decimal number, an infinity or NaN. -/
def read (s : String) : Option Reading :=
  let cs := s.toList
  if spellsIgnoringCase cs "nan" then some .nan
  else
    let (neg, body) := match cs with
      | '+' :: b => (false, b)
      | '-' :: b => (true, b)
      | b => (false, b)
    if spellsIgnoringCase body "inf" || spellsIgnoringCase body "infinity" then some (.inf neg)
    else readUnsigned neg body

namespace Format

variable (f : Format)

/-- The word nearest to a reading. NaN reads as the quiet NaN whose payload is `nanPayload`. -/
def ofReading (nanPayload : Nat) : Reading → Nat
  | .nan => f.expAllOnes * f.hidden + (f.hidden / 2 ||| nanPayload)
  | .inf neg => f.inf neg
  | .finite neg num den => f.round neg num den

end Format

end TensorSelect.Float
