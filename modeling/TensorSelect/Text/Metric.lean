import TensorSelect.Float.Log

/-!
# Metric prefixes

The text of a rate with a metric prefix, such as `12.34 M` or `500 m`, computed in binary64 the way
the platform does it, so that the rounding of every step shows where it would:

* the decimal order of the magnitude is the floor of `log |x| / log 10` (`Float.logWord` for both
  logarithms), and the power of the prefix the multiple of three at or below it;
* the number is `|x| / 10^p` (`Float.powTenWord`), moved to the next prefix when that quotient is
  exactly `1000`, with the sign of `x`;
* it is written with six places (`Float.fixedText`), cut (not rounded) to the asked number of
  places, without trailing zeros or a bare point;
* a space and the prefix follow. There is no prefix for the powers beyond `10^±30`; zero is
  `0 `, and NaN and the infinities (whose quotient is NaN) are `NaN `.

Since the logarithms are rounded, a value just below a power of ten may land on the prefix below
with a number that is written `1000`.
-/

namespace TensorSelect.Text

open TensorSelect.Float

/-- The metric prefixes, by power of ten. -/
def metricPrefixes : List (Int × String) :=
  [(-30, "q"), (-27, "r"), (-24, "y"), (-21, "z"), (-18, "a"), (-15, "f"), (-12, "p"),
   (-9, "n"), (-6, "µ"), (-3, "m"), (0, ""), (3, "k"), (6, "M"), (9, "G"), (12, "T"),
   (15, "P"), (18, "E"), (21, "Z"), (24, "Y"), (27, "R"), (30, "Q")]

/-- A positional decimal text cut to `places` digits after the point, with trailing zeros and a
bare point removed. -/
def cutPlaces (places : Nat) (s : String) : String :=
  match s.splitOn "." with
  | [whole, frac] =>
    let kept := ((frac.toList.take places).reverse.dropWhile (· == '0')).reverse
    if kept.isEmpty then whole else whole ++ "." ++ String.ofList kept
  | _ => s

/-- The number and the power of ten of the prefix for a nonzero magnitude, or none when the
magnitude is not finite. -/
def metricParts (mag : Nat) : Option (Nat × Int) :=
  let b := Format.binary64
  let order := b.div (logWord mag) (logWord ten)
  if !b.isFinite order then none
  else
    let p := 3 * (floorWord order).fdiv 3
    let v := b.div mag (powTenWord p)
    if v = thousand then some (b.div mag (powTenWord (p + 3)), p + 3) else some (v, p)

/-- The text of a binary64 word with a metric prefix, its number cut to `places` places. -/
def metricText (places : Nat) (w : Nat) : String :=
  let b := Format.binary64
  if b.magnitude w = 0 then "0 "
  else
    match metricParts (b.magnitude w) with
    | none => "NaN "
    | some (v, p) =>
      cutPlaces places (fixedText 6 (b.copySign v w)) ++ " " ++ ((metricPrefixes.lookup p).getD "")

end TensorSelect.Text
