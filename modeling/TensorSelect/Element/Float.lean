import TensorSelect.Float.Text

/-!
# Floating-point elements

The four floating-point element types, each a word of bits in its format:

* `Binary16` and `Binary32` and `Binary64`, the IEEE interchange formats;
* `BFloat16`, the upper half of a binary32 word.

Each type has its rank (`Format.rank`: the order of values, NaN above every number), its text
(`Format.text`, with the 16-bit types widened exactly to binary32 first), and conversions.
`BFloat16.ofBinary32` rounds by one integer addition on the binary32 word, adding just under half
of the dropped part and the kept part's last bit, so that a tie goes to the even result.
-/

open TensorSelect.Float

namespace TensorSelect

/-- A binary16 element. -/
structure Binary16 where
  bits : UInt16
  deriving DecidableEq, Repr, Inhabited

/-- A binary32 element. -/
structure Binary32 where
  bits : UInt32
  deriving DecidableEq, Repr, Inhabited

/-- A binary64 element. -/
structure Binary64 where
  bits : UInt64
  deriving DecidableEq, Repr, Inhabited

/-- A brain float element: the sign, the 8 exponent bits and the top 7 fraction bits of a binary32
word. -/
structure BFloat16 where
  bits : UInt16
  deriving DecidableEq, Repr, Inhabited

namespace Binary32

/-- The element with the given word. -/
def ofWord (w : Nat) : Binary32 := ⟨w.toUInt32⟩
/-- The word of the element. -/
def word (x : Binary32) : Nat := x.bits.toNat
/-- The place of the element in the order of values. -/
def rank (x : Binary32) : Int := Format.binary32.rank x.word
/-- Whether the element is a NaN. -/
def isNaN (x : Binary32) : Bool := Format.binary32.isNaN x.word
/-- The shortest text that reads back as the element. -/
def text (x : Binary32) : String := Format.binary32.text x.word
/-- The element nearest to a reading; NaN reads as the quiet NaN. -/
def ofReading (r : Reading) : Binary32 := ofWord (Format.binary32.ofReading 0 r)
/-- Positive or negative infinity. -/
def inf (neg : Bool) : Binary32 := ofWord (Format.binary32.inf neg)
/-- The quiet NaN. -/
def nan : Binary32 := ofWord Format.binary32.quietNaN

end Binary32

namespace Binary64

/-- The element with the given word. -/
def ofWord (w : Nat) : Binary64 := ⟨w.toUInt64⟩
/-- The word of the element. -/
def word (x : Binary64) : Nat := x.bits.toNat
/-- The place of the element in the order of values. -/
def rank (x : Binary64) : Int := Format.binary64.rank x.word
/-- The shortest text that reads back as the element. -/
def text (x : Binary64) : String := Format.binary64.text x.word
/-- The element nearest to a reading; NaN reads as the quiet NaN with payload 1. -/
def ofReading (r : Reading) : Binary64 := ofWord (Format.binary64.ofReading 1 r)
/-- Positive or negative infinity. -/
def inf (neg : Bool) : Binary64 := ofWord (Format.binary64.inf neg)
/-- The quiet NaN with payload 1, which text reading gives too. -/
def nan : Binary64 := ofWord (Format.binary64.ofReading 1 .nan)
/-- The nearest binary32 element; a NaN keeps its sign and the top of its payload and is quiet. -/
def toBinary32 (x : Binary64) : Binary32 :=
  Binary32.ofWord (Format.binary64.convert Format.binary32 x.word)

end Binary64

namespace Binary16

/-- The element with the given word. -/
def ofWord (w : Nat) : Binary16 := ⟨w.toUInt16⟩
/-- The word of the element. -/
def word (x : Binary16) : Nat := x.bits.toNat
/-- The place of the element in the order of values. -/
def rank (x : Binary16) : Int := Format.binary16.rank x.word
/-- The same value as a binary32 element. -/
def toBinary32 (x : Binary16) : Binary32 :=
  Binary32.ofWord (Format.binary16.convert Format.binary32 x.word)
/-- The text of the value, written as binary32. -/
def text (x : Binary16) : String := x.toBinary32.text
/-- The nearest binary16 element to a binary32 element. -/
def ofBinary32 (x : Binary32) : Binary16 :=
  ofWord (Format.binary32.convert Format.binary16 x.word)
/-- Positive or negative infinity. -/
def inf (neg : Bool) : Binary16 := ofWord (Format.binary16.inf neg)
/-- The NaN of this type's table of extreme values. -/
def nan : Binary16 := ofWord 0x7e01

end Binary16

namespace BFloat16

/-- The element with the given word. -/
def ofWord (w : Nat) : BFloat16 := ⟨w.toUInt16⟩
/-- The word of the element. -/
def word (x : BFloat16) : Nat := x.bits.toNat
/-- The place of the element in the order of values. -/
def rank (x : BFloat16) : Int := Format.bfloat16.rank x.word
/-- The same value as a binary32 element: the word shifted into the upper half. -/
def toBinary32 (x : BFloat16) : Binary32 := ⟨x.bits.toUInt32 <<< 16⟩
/-- The text of the value, written as binary32. -/
def text (x : BFloat16) : String := x.toBinary32.text
/-- Whether the element is a NaN. -/
def isNaN (x : BFloat16) : Bool := Format.bfloat16.isNaN x.word
/-- Whether the element is an infinity of either sign. -/
def isInf (x : BFloat16) : Bool := Format.bfloat16.isInf x.word
/-- Whether the element is negative (its sign bit is set). -/
def isNeg (x : BFloat16) : Bool := Format.bfloat16.sign x.word

/-- The quiet NaN. -/
def nan : BFloat16 := ⟨0x7fc0⟩
/-- Negative infinity when `neg`, positive infinity otherwise. -/
def inf (neg : Bool) : BFloat16 := if neg then ⟨0xff80⟩ else ⟨0x7f80⟩

/-- The nearest brain float to a binary32 element, a tie going to the even word; a NaN keeps its
sign and the top of its payload, and is made quiet. -/
def ofBinary32 (x : Binary32) : BFloat16 :=
  let w := x.bits
  if x.isNaN then ⟨(w >>> 16).toUInt16 ||| 0x7fc0⟩
  else
    let lsb := (w >>> 16) &&& 1
    ⟨((w + 0x7fff + lsb) >>> 16).toUInt16⟩

/-- The nearest brain float to a binary64 element, through binary32. -/
def ofBinary64 (x : Binary64) : BFloat16 := ofBinary32 x.toBinary32

end BFloat16

end TensorSelect
