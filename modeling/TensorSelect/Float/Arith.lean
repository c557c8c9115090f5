import TensorSelect.Float.Format

/-!
# Rounded arithmetic

The four operations of a binary format on words, each the exact result rounded once to nearest
(ties to even), as the standard asks:

* a NaN operand gives the quiet NaN, and so do `∞ - ∞`, `0 · ∞`, `0 / 0` and `∞ / ∞`;
* a sum that is exactly zero is `+0`, unless both operands are `-0`;
* a product or quotient has the exclusive-or of the signs, also when it is zero or infinite.

`Format.scale` multiplies by a power of two with a single rounding, and `Format.lt` compares two
words as numbers.

Main fact: `mul_comm` (the order of the factors does not matter, so a computation need not keep
the order in which it lists them).
-/

namespace TensorSelect.Float

namespace Format

variable (f : Format)

/-- The word of the same magnitude with the other sign. -/
def negate (w : Nat) : Nat :=
  if f.sign w then w - f.signWeight else w + f.signWeight

/-- The word with the magnitude of `w` and the sign of `s`. -/
def copySign (w s : Nat) : Nat :=
  f.magnitude w + (if f.sign s then f.signWeight else 0)

/-- The word of an integer, rounded to nearest. -/
def ofInt (n : Int) : Nat := f.round (n < 0) n.natAbs 1

/-- The signed significand of a finite word at the scale `2 ^ q`, for `q` at most its exponent. -/
def scaledAt (w : Nat) (q : Int) : Int :=
  let (neg, m, e) := f.decode w
  let n : Int := (m * Nat.pow 2 (e - q).toNat : Nat)
  if neg then -n else n

/-- The rounded sum of two words. -/
def add (x y : Nat) : Nat :=
  if f.isNaN x || f.isNaN y then f.quietNaN
  else if f.isInf x then (if f.isInf y && f.sign x != f.sign y then f.quietNaN else x)
  else if f.isInf y then y
  else
    let q := min (f.decode x).2.2 (f.decode y).2.2
    let s := f.scaledAt x q + f.scaledAt y q
    if s = 0 then (if f.sign x && f.sign y then f.signWeight else 0)
    else
      let (a, b) := powTwo q
      f.round (s < 0) (s.natAbs * a) b

/-- The rounded difference of two words. -/
def sub (x y : Nat) : Nat := f.add x (f.negate y)

/-- The rounded product of two words. -/
def mul (x y : Nat) : Nat :=
  let neg := f.sign x != f.sign y
  if f.isNaN x || f.isNaN y then f.quietNaN
  else if f.isInf x || f.isInf y then
    (if f.magnitude x = 0 || f.magnitude y = 0 then f.quietNaN else f.inf neg)
  else
    let (_, mx, qx) := f.decode x
    let (_, my, qy) := f.decode y
    let (a, b) := powTwo (qx + qy)
    f.round neg (mx * my * a) b

/-- The rounded quotient of two words. -/
def div (x y : Nat) : Nat :=
  let neg := f.sign x != f.sign y
  if f.isNaN x || f.isNaN y then f.quietNaN
  else if f.isInf x then (if f.isInf y then f.quietNaN else f.inf neg)
  else if f.isInf y then (if neg then f.signWeight else 0)
  else
    let (_, mx, qx) := f.decode x
    let (_, my, qy) := f.decode y
    if my = 0 then (if mx = 0 then f.quietNaN else f.inf neg)
    else
      let (a, b) := powTwo (qx - qy)
      f.round neg (mx * a) (my * b)

/-- A word times `2 ^ e`, rounded once: zeros, infinities and NaNs are kept. -/
def scale (w : Nat) (e : Int) : Nat :=
  if f.magnitude w = 0 || !f.isFinite w then w
  else
    let (neg, m, q) := f.decode w
    let (a, b) := powTwo (q + e)
    f.round neg (m * a) b

/-- Whether one word is below another as numbers (never for a NaN). -/
def lt (x y : Nat) : Bool :=
  !f.isNaN x && !f.isNaN y && f.rank x < f.rank y

/-- A product does not depend on the order of its factors. -/
theorem mul_comm (x y : Nat) : f.mul x y = f.mul y x := by
  unfold mul
  rw [show (f.sign x != f.sign y) = (f.sign y != f.sign x) from bne_comm]
  simp only [Bool.or_comm (f.isNaN x), Bool.or_comm (f.isInf x),
    Bool.or_comm (decide (f.magnitude x = 0)), Nat.mul_comm (f.decode x).2.1,
    Int.add_comm (f.decode x).2.2]

end Format

end TensorSelect.Float
