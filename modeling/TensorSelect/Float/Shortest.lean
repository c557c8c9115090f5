import TensorSelect.Float.Format

/-!
# Shortest decimals

A finite nonzero word stands for `v = m · 2 ^ q`. Every real number strictly between the midpoints
to its two neighbouring words reads back as the word; the midpoints themselves read back as the
word too when `m` is even (a tie goes to the even significand). This interval is the *rounding
interval* of the word.

`Format.shortest` finds the decimal with the fewest significant digits inside the rounding
interval, and of those the one nearest to `v`, a tie between two going to the even one. It tries
one digit, then two, and so on: on the grid of `n`-digit decimals only the two grid points
around `v` can be inside the interval (the interval holds `v` and is convex), so each length
costs two exact comparisons. Seventeen digits always suffice for binary64, nine for binary32.

All arithmetic is on natural numbers, scaled so that every comparison is exact.
-/

namespace TensorSelect.Float

/-- A decimal `significand · 10 ^ exponent`. -/
structure Decimal where
  significand : Nat
  exponent : Int
  deriving DecidableEq, Repr, Inhabited

/-- The number of decimal digits of `n` (one for zero). -/
def digitCount (n : Nat) : Nat := (Nat.toDigits 10 n).length

/-- `10 ^ e` for an integer `e`, as a quotient of natural numbers. -/
def powTen (e : Int) : Nat × Nat :=
  if 0 ≤ e then (Nat.pow 10 e.toNat, 1) else (1, Nat.pow 10 (-e).toNat)

/-- A quantity `x · 2 ^ e2` with `x` natural, the scale of the rounding interval. -/
structure Binary where
  mantissa : Nat
  exponent : Int
  deriving Repr

/-- Compares the decimal `d · 10 ^ k` with the binary quantity `x · 2 ^ e`, exactly. -/
def compareScaled (d : Nat) (k : Int) (b : Binary) : Ordering :=
  let (tn, td) := powTen k
  let (bn, bd) := Format.powTwo b.exponent
  -- `d · tn / td` against `x · bn / bd`
  compare (d * tn * bd) (b.mantissa * bn * td)

/-- The decimal exponent `E` with `10 ^ E ≤ x · 2 ^ e < 10 ^ (E + 1)`, for `x > 0`. -/
def floorLog10 (b : Binary) : Int :=
  let (bn, bd) := Format.powTwo b.exponent
  let num := b.mantissa * bn
  let e : Int := (digitCount num : Int) - digitCount bd
  -- `10 ^ e ≤ num / bd` iff `compareScaled 1 e` is not `gt`
  if compareScaled 1 e b == .gt then e - 1 else e

/-- The rounding interval of a finite nonzero word, scaled by `2 ^ (q - 2)`: the low end, the value
and the high end as multiples of `2 ^ (q - 2)`, and whether the ends belong to it. -/
structure Interval where
  low : Nat
  value : Nat
  high : Nat
  scale : Int
  closed : Bool
  deriving Repr

namespace Format

variable (f : Format)

/-- The rounding interval of a finite nonzero word. Below a power of two (fraction zero, exponent
above the least) the gap to the lower neighbour is half the gap to the upper one. -/
def interval (w : Nat) : Interval :=
  let (_, m, q) := f.decode w
  let narrow := f.frac w = 0 && f.expField w > 1
  { low := if narrow then 4 * m - 1 else 4 * m - 2
    value := 4 * m
    high := 4 * m + 2
    scale := q - 2
    closed := m % 2 == 0 }

end Format

namespace Interval

variable (r : Interval)

/-- Whether the decimal `d · 10 ^ k` lies in the interval. -/
def contains (d : Nat) (k : Int) : Bool :=
  let lo := compareScaled d k ⟨r.low, r.scale⟩
  let hi := compareScaled d k ⟨r.high, r.scale⟩
  (lo == .gt || (r.closed && lo == .eq)) && (hi == .lt || (r.closed && hi == .eq))

/-- The better of the two grid points `d · 10 ^ k` and `(d + 1) · 10 ^ k` around the value: the
nearer one, a tie going to the even one. -/
def nearer (d : Nat) (k : Int) : Nat :=
  -- compare `(2d + 1) · 10 ^ k` with `2 · value`
  match compareScaled (2 * d + 1) k ⟨2 * r.value, r.scale⟩ with
  | .gt => d
  | .lt => d + 1
  | .eq => if d % 2 = 0 then d else d + 1

/-- The point of the grid `10 ^ k` chosen inside the interval, if any. -/
def onGrid? (k : Int) : Option Nat :=
  let (tn, td) := powTen k
  let (bn, bd) := Format.powTwo r.scale
  -- the grid point at or below the value: `floor(value · 2 ^ scale / 10 ^ k)`
  let d := r.value * bn * td / (bd * tn)
  match r.contains d k, r.contains (d + 1) k with
  | true, true => some (r.nearer d k)
  | true, false => some d
  | false, true => some (d + 1)
  | false, false => none

/-- The decimal with no trailing zero of the same value. -/
def trim : Nat → Decimal → Decimal
  | 0, d => d
  | fuel + 1, d =>
    if d.significand ≠ 0 && d.significand % 10 == 0 then
      trim fuel ⟨d.significand / 10, d.exponent + 1⟩
    else d

/-- The shortest decimal in the interval, trying `n, n + 1, …` significant digits, at most `fuel`
lengths. -/
def search (top : Int) : Nat → Nat → Option Decimal
  | 0, _ => none
  | fuel + 1, n =>
    let k := top - n + 1
    match r.onGrid? k with
    | some d => some (trim (digitCount d) ⟨d, k⟩)
    | none => search top fuel (n + 1)

end Interval

namespace Format

variable (f : Format)

/-- The shortest decimal that reads back as the finite nonzero word `w`, the nearest such when
several have as few digits; `0` for a zero word. The sign is the word's own. -/
def shortest (w : Nat) : Decimal :=
  let r := f.interval w
  if r.value = 0 then ⟨0, 0⟩
  else
    let top := floorLog10 ⟨r.value, r.scale⟩
    -- a decimal with as many digits as the word has bits always lies in the interval
    (r.search top (f.expBits + f.fracBits + 2) 1).getD ⟨0, 0⟩

end Format

end TensorSelect.Float
