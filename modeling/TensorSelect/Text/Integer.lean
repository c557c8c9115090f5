/-!
# Integer text

Two readers of signed 64-bit integers:

* `readDecimal?`: an optional sign and one or more decimal digits, nothing else;
* `readLiteral`: the same, or after the sign a base prefix (`0x`, `0o`, `0b`, or a leading `0`
  for octal) with digits of that base, where a single underscore may stand between two digits or
  after the prefix; or the unsigned form of it, without a sign.

Both refuse a value outside the range of a 64-bit word. `readLiteral` tells a text that is no
literal from one whose value is out of range, and reads left to right: digits that pass the
largest word are out of range even if a bad character follows. `readBool?` reads a truth value.
-/

namespace TensorSelect.Text

/-- The least signed 64-bit value. -/
def int64Min : Int := -9223372036854775808
/-- The greatest signed 64-bit value. -/
def int64Max : Int := 9223372036854775807

/-- The value of a digit in a base, if it is one. -/
def digitValue (base : Nat) (c : Char) : Option Nat :=
  let v :=
    if c.isDigit then c.toNat - '0'.toNat
    else if 'a' ≤ c && c ≤ 'z' then c.toNat - 'a'.toNat + 10
    else if 'A' ≤ c && c ≤ 'Z' then c.toNat - 'A'.toNat + 10
    else base
  if v < base then some v else none

/-- The value of a nonempty list of digits of a base. -/
def digitsIn (base : Nat) (cs : List Char) : Option Nat :=
  if cs.isEmpty then none
  else cs.foldlM (fun n c => (digitValue base c).map (base * n + ·)) 0

/-- A sign in front of a text, and the rest. -/
def splitSign (cs : List Char) : Bool × List Char :=
  match cs with
  | '+' :: r => (false, r)
  | '-' :: r => (true, r)
  | r => (false, r)

/-- The signed value, if it is a signed 64-bit value. -/
def inInt64 (neg : Bool) (n : Nat) : Option Int :=
  let v : Int := if neg then -(n : Int) else n
  if int64Min ≤ v && v ≤ int64Max then some v else none

/-- Reads an optional sign and decimal digits. -/
def readDecimal? (s : String) : Option Int :=
  let (neg, body) := splitSign s.toList
  (digitsIn 10 body).bind (inInt64 neg)

/-- Whether underscores stand only between digits or after a base prefix: never first (unless
a prefix precedes), never last, never two in a row. -/
def underscoresOk (prefixed : Bool) (cs : List Char) : Bool :=
  let rec scan : Bool → List Char → Bool
    | _, [] => true
    | afterDigit, '_' :: r =>
      afterDigit && (match r with | [] => false | c :: _ => c != '_') && scan false r
    | _, _ :: r => scan true r
  scan prefixed cs && cs.getLast? != some '_'

/-- Why a text is no integer literal of a width. -/
inductive LiteralError
  /-- No digits, a character that is no digit of the base, or a misplaced underscore. -/
  | malformed
  /-- Digits whose value leaves the range of the width. -/
  | outOfRange
  deriving DecidableEq, Repr

/-- Reads digits of a base left to right, skipping underscores, onto the value `n`: each digit
`d` makes it `n · base + d`. A character that is no digit fails at once; so does a value that
passes the largest 64-bit word, before any later character is looked at. -/
def accumulate (base : Nat) : List Char → Nat → Except LiteralError Nat
  | [], n => .ok n
  | '_' :: r, n => accumulate base r n
  | c :: r, n =>
    match digitValue base c with
    | none => .error .malformed
    | some d =>
      let m := n * base + d
      if m < 18446744073709551616 then accumulate base r m else .error .outOfRange

/-- Reads an unsigned 64-bit literal: decimal digits, or a base prefix (`0x`, `0o`, `0b` before
at least one more character, or a leading `0` for octal) and digits of that base, with single
underscores between digits or after the prefix. -/
def readUnsignedLiteral (cs : List Char) : Except LiteralError Nat :=
  if cs.isEmpty then .error .malformed
  else
    let (base, digits, prefixed) := match cs with
      | '0' :: c :: r@(_ :: _) =>
        if c == 'x' || c == 'X' then (16, r, true)
        else if c == 'o' || c == 'O' then (8, r, true)
        else if c == 'b' || c == 'B' then (2, r, true)
        else (8, c :: r, true)
      | '0' :: r => (8, r, true)
      | r => (10, r, false)
    match accumulate base digits 0 with
    | .error e => .error e
    | .ok n => if underscoresOk prefixed digits then .ok n else .error .malformed

/-- Reads an integer literal: a signed 64-bit value after an optional sign (`signed`), or an
unsigned 64-bit value without one. -/
def readLiteral (signed : Bool) (s : String) : Except LiteralError Int :=
  if !signed then (readUnsignedLiteral s.toList).map (fun n => (n : Int))
  else if s.isEmpty then .error .malformed
  else
    let (neg, body) := splitSign s.toList
    match readUnsignedLiteral body with
    | .error e => .error e
    | .ok n =>
      match inInt64 neg n with
      | some v => .ok v
      | none => .error .outOfRange

/-- Reads a truth value: `1`, `t`, `T`, `true`, `True`, `TRUE`, or their false counterparts. -/
def readBool? (s : String) : Option Bool :=
  if s ∈ ["1", "t", "T", "TRUE", "true", "True"] then some true
  else if s ∈ ["0", "f", "F", "FALSE", "false", "False"] then some false
  else none

end TensorSelect.Text
