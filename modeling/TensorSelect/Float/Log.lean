import TensorSelect.Float.Arith
import TensorSelect.Float.Text

/-!
# Logarithms, powers of ten and fixed-point text

The functions here work on binary64 words and round every step, so their results are the
platform's results bit for bit, rounding errors included; text built on them (the metric prefix of a
rate, say) depends on those errors.

* `logWord` is the natural logarithm by the classic reduction: `x = 2^k · (1 + f)` with
  `1 + f` in `(√2/2, √2]`, then `log (1 + f) = 2 atanh s` for `s = f / (2 + f)`, by a polynomial in
  `s²` whose coefficients `lg1`–`lg7` are fixed, and `k · log 2` added in two parts (`ln2Hi` and
  `ln2Lo`). The reduction reads `k` and `f` off the exponent and fraction fields without
  normalising a subnormal word first, so the logarithm of a subnormal is that of a larger number.
* `powTenWord n` is `10^n` by repeated squaring of `10 = 0.625 · 2^4`, with the significand kept in
  `[1/2, 1)` and the exponent apart; a negative power is the reciprocal, and the exponent is put
  back with a single rounding at the end.
* `fixedText p` writes a word with `p` digits after the point, its exact value rounded half to
  even.
-/

namespace TensorSelect.Float

open Format

/-- `0.5` -/
def half : Nat := 0x3FE0000000000000
/-- `1` -/
def one : Nat := 0x3FF0000000000000
/-- `2` -/
def two : Nat := 0x4000000000000000
/-- `10` -/
def ten : Nat := 0x4024000000000000
/-- `1000` -/
def thousand : Nat := 0x408F400000000000
/-- `0.625`, the significand of ten. -/
def fiveEighths : Nat := 0x3FE4000000000000
/-- `√2 / 2`, rounded. -/
def halfSqrtTwo : Nat := 0x3FE6A09E667F3BCD
/-- The high part of `log 2`: its leading bits, so that `k · ln2Hi` is exact. -/
def ln2Hi : Nat := 0x3FE62E42FEE00000
/-- The low part of `log 2`: the rest of it. -/
def ln2Lo : Nat := 0x3DEA39EF35793C76
/-- The coefficient of `s²` (about `2/3`). -/
def lg1 : Nat := 0x3FE5555555555593
/-- The coefficient of `s⁴` (about `2/5`). -/
def lg2 : Nat := 0x3FD999999997FA04
/-- The coefficient of `s⁶` (about `2/7`). -/
def lg3 : Nat := 0x3FD2492494229359
/-- The coefficient of `s⁸` (about `2/9`). -/
def lg4 : Nat := 0x3FCC71C51D8E78AF
/-- The coefficient of `s¹⁰` (about `2/11`). -/
def lg5 : Nat := 0x3FC7466496CB03DE
/-- The coefficient of `s¹²` (about `2/13`). -/
def lg6 : Nat := 0x3FC39A09D078C69F
/-- The coefficient of `s¹⁴` (about `2/15`). -/
def lg7 : Nat := 0x3FC2F112DF3E5244

/-- The natural logarithm of a binary64 word: `-∞` at both zeros, NaN below zero (a NaN with the
sign bit set included), the word itself at `+∞` and at a NaN. -/
def logWord (x : Nat) : Nat :=
  let b := binary64
  if b.magnitude x = 0 then b.inf true
  else if b.sign x then b.quietNaN
  else if !b.isFinite x then x
  else
    -- `x = f1 · 2^k0` with `f1` in `[1/2, 1)`, from the fields alone
    let k0 : Int := (b.expField x : Int) - 1022
    let f1 := half + b.frac x
    let low := !b.lt halfSqrtTwo f1
    let k := b.ofInt (if low then k0 - 1 else k0)
    let f := b.sub (if low then b.add f1 f1 else f1) one
    let s := b.div f (b.add two f)
    let s2 := b.mul s s
    let s4 := b.mul s2 s2
    let t1 := b.mul s2 (b.add (b.mul (b.add (b.mul (b.add (b.mul lg7 s4) lg5) s4) lg3) s4) lg1)
    let t2 := b.mul s4 (b.add (b.mul (b.add (b.mul lg6 s4) lg4) s4) lg2)
    let r := b.add t1 t2
    let hfsq := b.mul (b.mul half f) f
    b.sub (b.mul k ln2Hi) (b.sub (b.sub hfsq (b.add (b.mul s (b.add hfsq r)) (b.mul k ln2Lo))) f)

/-- The squarings of `10 ^ i`: `x1 · 2^xe` is the current square of ten and `a1 · 2^ae` the
product so far; one step takes the low bit of `i`. An exponent past `±4096` is handed to the final
scaling at once. -/
def powSteps (x1 : Nat) (xe : Int) (a1 : Nat) (ae : Int) (i : Nat) : Nat × Int :=
  let b := binary64
  if i = 0 then (a1, ae)
  else if xe < -4096 || 4096 < xe then (a1, ae + xe)
  else
    let (a1, ae) := if i % 2 = 1 then (b.mul a1 x1, ae + xe) else (a1, ae)
    let sq := b.mul x1 x1
    let (x1, xe) := if b.lt sq half then (b.add sq sq, 2 * xe - 1) else (sq, 2 * xe)
    powSteps x1 xe a1 ae (i / 2)
termination_by i
decreasing_by omega

/-- `10 ^ n` as a binary64 word. -/
def powTenWord (n : Int) : Nat :=
  let b := binary64
  if n = 0 then one
  else if n = 1 then ten
  else
    let (a1, ae) := powSteps fiveEighths 4 one 0 n.natAbs
    if n < 0 then b.scale (b.div one a1) (-ae) else b.scale a1 ae

/-- The greatest integer at or below a finite word. -/
def floorWord (w : Nat) : Int :=
  let (neg, m, q) := binary64.decode w
  let (a, c) := powTwo q
  let n : Int := (m * a : Nat)
  (if neg then -n else n).fdiv c

/-- A word written with `places` digits after the point: its exact value rounded to that many
places, half to even, with a minus sign for every negative word (`-0.000` included); the special
values are `NaN`, `+Inf` and `-Inf`. -/
def fixedText (places : Nat) (w : Nat) : String :=
  let b := binary64
  if b.isNaN w then "NaN"
  else if b.isInf w then (if b.sign w then "-Inf" else "+Inf")
  else
    let (neg, m, q) := b.decode w
    let (a, c) := powTwo q
    let p := Nat.pow 10 places
    let n := roundHalfEven (m * a * p) c
    (if neg then "-" else "") ++ toString (n / p) ++
      (if places = 0 then "" else "." ++ padDigits places (n % p))

end TensorSelect.Float
