/-!
# Binary floating-point formats

A binary floating-point format packs a sign bit, `expBits` exponent bits and `fracBits` fraction
bits into one word, most significant first. This module reads and writes such words as natural
numbers, with nothing of the host's floating-point arithmetic: every value is decoded exactly as
`m · 2 ^ q`, and every result is rounded from an exact quotient of natural numbers.

* `Format.decode` gives the exact value of a finite word.
* `Format.round` gives the word nearest to a nonnegative quotient `num / den`, a tie going to the
  word with an even fraction, and a value past the largest finite word going to infinity.
* `Format.rank` places each word in the order of the values it stands for. Both zeros share one
  place, and every NaN shares one place above every number.
* `Format.convert` carries a word into another format: exactly when that is wider, rounding to
  nearest when it is narrower. A NaN keeps its sign and the high bits of its payload, and when
  it narrows it is made quiet (the fraction's top bit is set).

Main facts: `rank_neg_zero` (the two zeros share their place), `rank_lt_nan` (a number ranks
below every NaN).
-/

namespace TensorSelect.Float

/-- A binary interchange format. -/
structure Format where
  expBits : Nat
  fracBits : Nat
  deriving DecidableEq, Repr

namespace Format

/-- IEEE binary16 ("half"). -/
def binary16 : Format := ⟨5, 10⟩
/-- IEEE binary32 ("single"). -/
def binary32 : Format := ⟨8, 23⟩
/-- IEEE binary64 ("double"). -/
def binary64 : Format := ⟨11, 52⟩
/-- The brain floating-point format: the exponent of binary32 with a 7-bit fraction. -/
def bfloat16 : Format := ⟨8, 7⟩

variable (f : Format)

/-- The weight of the sign bit. -/
def signWeight : Nat := Nat.pow 2 (f.expBits + f.fracBits)
/-- The exponent field of infinities and NaNs: all ones. -/
def expAllOnes : Nat := Nat.pow 2 f.expBits - 1
/-- The exponent bias. -/
def bias : Nat := Nat.pow 2 (f.expBits - 1) - 1
/-- The weight of the hidden bit of a normal significand. -/
def hidden : Nat := Nat.pow 2 f.fracBits
/-- The binary exponent of the last place of the subnormal and least normal words. -/
def minQ : Int := 1 - (f.bias : Int) - f.fracBits
/-- The binary exponent of the last place of the largest finite words. -/
def maxQ : Int := (f.expAllOnes : Int) - 1 - f.bias - f.fracBits

/-- Whether the sign bit of a word is set. -/
def sign (w : Nat) : Bool := w / f.signWeight % 2 == 1
/-- The exponent field of a word. -/
def expField (w : Nat) : Nat := w / f.hidden % Nat.pow 2 f.expBits
/-- The fraction field of a word. -/
def frac (w : Nat) : Nat := w % f.hidden
/-- A word without its sign bit. -/
def magnitude (w : Nat) : Nat := w % f.signWeight

/-- Whether a word is a NaN: all-ones exponent and a nonzero fraction. -/
def isNaN (w : Nat) : Bool := f.expField w == f.expAllOnes && f.frac w != 0
/-- Whether a word is an infinity of either sign. -/
def isInf (w : Nat) : Bool := f.expField w == f.expAllOnes && f.frac w == 0
/-- Whether a word is a number: neither NaN nor infinity. -/
def isFinite (w : Nat) : Bool := f.expField w != f.expAllOnes

/-- The word of an infinity. -/
def inf (neg : Bool) : Nat := (if neg then f.signWeight else 0) + f.expAllOnes * f.hidden

/-- The word of the quiet NaN with an empty payload. -/
def quietNaN : Nat := f.expAllOnes * f.hidden + f.hidden / 2

/-- The exact value of a finite word as a sign, a significand `m` and an exponent `q`: the word
stands for `± m · 2 ^ q`. -/
def decode (w : Nat) : Bool × Nat × Int :=
  if f.expField w = 0 then (f.sign w, f.frac w, f.minQ)
  else (f.sign w, f.frac w + f.hidden, (f.expField w : Int) - f.bias - f.fracBits)

/-- The place of a word in the order of values: the magnitude for a positive word, its negation
for a negative word, and one place above every infinity for all NaNs. -/
def rank (w : Nat) : Int :=
  if f.isNaN w then f.signWeight
  else if f.sign w then -(f.magnitude w : Int) else f.magnitude w

/-! ## Rounding an exact quotient -/

/-- `2 ^ e` for an integer `e`, as a quotient of natural numbers. -/
def powTwo (e : Int) : Nat × Nat :=
  if 0 ≤ e then (Nat.pow 2 e.toNat, 1) else (1, Nat.pow 2 (-e).toNat)

/-- The binary exponent `e` with `2 ^ e ≤ num / den < 2 ^ (e + 1)`, for `num, den > 0`. -/
def floorLog2 (num den : Nat) : Int :=
  let e : Int := (Nat.log2 num : Int) - Nat.log2 den
  let (a, b) := powTwo e
  -- `num / den ≥ 2 ^ e` iff `num * b ≥ den * a`
  if num * b ≥ den * a then e else e - 1

/-- The integer nearest to `num / den` (for `den > 0`), a tie going to the even one. -/
def roundHalfEven (num den : Nat) : Nat :=
  let q := num / den
  let r := num % den
  if 2 * r < den then q
  else if 2 * r > den then q + 1
  else if q % 2 = 0 then q else q + 1

/-- The word for a significand and exponent that fit the format (`m < 2 · hidden`), or infinity
past the largest exponent. -/
def pack (neg : Bool) (m : Nat) (q : Int) : Nat :=
  let s := if neg then f.signWeight else 0
  if m ≥ 2 * f.hidden then f.inf neg
  else if m < f.hidden then s + m
  else if q > f.maxQ then f.inf neg
  else s + (q - f.minQ + 1).toNat * f.hidden + (m - f.hidden)

/-- The word nearest to `± num / den` (for `den > 0`): a tie goes to the even significand, a value
past the largest finite word goes to infinity, and zero keeps the sign `neg`. -/
def round (neg : Bool) (num den : Nat) : Nat :=
  if num = 0 then (if neg then f.signWeight else 0)
  else
    let e := floorLog2 num den
    -- the last place: `fracBits` places below the leading bit, but never below `minQ`
    let q := max (e - f.fracBits) f.minQ
    let (a, b) := powTwo q
    -- the significand is `num / (den · 2 ^ q)`, rounded to an integer
    let m := roundHalfEven (num * b) (den * a)
    if m = 2 * f.hidden then f.pack neg f.hidden (q + 1) else f.pack neg m q

/-- The integer part of a finite word: its value truncated toward zero. -/
def truncate (w : Nat) : Int :=
  let (neg, m, q) := f.decode w
  let (a, b) := powTwo q
  let n : Int := (m * a / b : Nat)
  if neg then -n else n

/-- A finite word carried into format `g`, rounding to nearest. -/
def convertFinite (g : Format) (w : Nat) : Nat :=
  let (neg, m, q) := f.decode w
  let (a, b) := powTwo q
  g.round neg (m * a) b

/-- A word carried into format `g`: a NaN keeps its sign and the high bits of its payload (and is
made quiet when `g` is narrower), an infinity stays one, and a number is rounded to nearest. -/
def convert (g : Format) (w : Nat) : Nat :=
  let s := if f.sign w then g.signWeight else 0
  if f.isNaN w then
    if g.fracBits ≥ f.fracBits then
      s + g.expAllOnes * g.hidden + f.frac w * Nat.pow 2 (g.fracBits - f.fracBits)
    else
      s + g.expAllOnes * g.hidden +
        (f.frac w / Nat.pow 2 (f.fracBits - g.fracBits) ||| g.hidden / 2)
  else if f.isInf w then g.inf (f.sign w)
  else f.convertFinite g w

/-! ## Small facts -/

theorem signWeight_pos : 0 < f.signWeight := Nat.two_pow_pos _

/-- Every number ranks below every NaN. -/
theorem rank_lt_nan {w v : Nat} (hw : f.isNaN w = false) (hv : f.isNaN v = true) :
    f.rank w < f.rank v := by
  have h : f.magnitude w < f.signWeight := Nat.mod_lt w f.signWeight_pos
  unfold rank
  rw [if_neg (by simp [hw]), if_pos hv]
  split <;> omega

/-- The two zeros share one place. -/
theorem rank_neg_zero : binary32.rank binary32.signWeight = binary32.rank 0 := by
  decide

/-- Every word of a format is a NaN, an infinity or a number. -/
theorem isNaN_or_isInf_or_isFinite (w : Nat) :
    f.isNaN w || f.isInf w || f.isFinite w := by
  unfold isNaN isInf isFinite
  by_cases h : f.expField w = f.expAllOnes <;> by_cases h' : f.frac w = 0 <;> simp [h, h']

end Format

end TensorSelect.Float
