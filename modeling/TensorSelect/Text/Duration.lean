/-!
# Durations

The text of a signed number of nanoseconds. Below one second it is one number in the largest
unit that fits: `ns`, `µs` or `ms`, with the fraction's trailing zeros dropped (`1.5µs`, `3ms`).
From one second on it is hours, minutes and seconds, starting with the first unit that is not
zero and always ending with the seconds and their fraction (`1h30m0s`, `2.5s`). Zero is `0s`, and
a negative duration has a minus sign in front.
-/

namespace TensorSelect.Text

/-- The last `places` digits of `v` as a fraction after a point, trailing zeros dropped; nothing
when they are all zero. -/
def fractionDigits (v places : Nat) : String :=
  let digits := Nat.toDigits 10 (v % Nat.pow 10 places)
  let padded := List.replicate (places - digits.length) '0' ++ digits
  let kept := (padded.reverse.dropWhile (· == '0')).reverse
  if kept.isEmpty then "" else "." ++ String.ofList kept

/-- The text of a duration given in nanoseconds. -/
def durationText (ns : Int) : String :=
  let u := ns.natAbs
  let sign := if ns < 0 then "-" else ""
  if u = 0 then "0s"
  else if u < 1000 then sign ++ toString u ++ "ns"
  else if u < Nat.pow 10 6 then sign ++ toString (u / 1000) ++ fractionDigits u 3 ++ "µs"
  else if u < Nat.pow 10 9 then sign ++ toString (u / Nat.pow 10 6) ++ fractionDigits u 6 ++ "ms"
  else
    let secs := u / Nat.pow 10 9
    let s := toString (secs % 60) ++ fractionDigits u 9 ++ "s"
    let mins := secs / 60
    if mins = 0 then sign ++ s
    else
      let m := toString (mins % 60) ++ "m" ++ s
      let hours := mins / 60
      if hours = 0 then sign ++ m else sign ++ toString hours ++ "h" ++ m

end TensorSelect.Text
