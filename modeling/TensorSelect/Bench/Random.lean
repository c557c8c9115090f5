import TensorSelect.Float.Format

/-!
# Random input

The benchmark's input comes from a permuted congruential generator with a 128-bit state. Each
step multiplies the state by a fixed 128-bit multiplier and adds a fixed increment, modulo
`2^128`; the output of a step is the "double xorshift multiply" of the new state's high and low
halves, a 64-bit word.

From the words: a binary64 uniform in `[0, 1)` takes the low 53 bits over `2^53`; an integer
below `n` is the high word of the word times `n`, drawing again while the low word falls below
`2^64 mod n` (a power of two `n` just masks the word).
-/

namespace TensorSelect

namespace Bench

/-- The state of the generator. -/
structure Pcg where
  state : Nat
  deriving DecidableEq, Repr, Inhabited

namespace Pcg

/-- `2^64`. -/
def wordSize : Nat := Nat.pow 2 64

/-- The generator seeded with two words: the high and the low half of the state. -/
def seeded (hi lo : Nat) : Pcg := ⟨hi % wordSize * wordSize + lo % wordSize⟩

/-- The multiplier of a step. -/
def multiplier : Nat := 2549297995355413924 * wordSize + 4865540595714422341

/-- The increment of a step. -/
def increment : Nat := 6364136223846793005 * wordSize + 1442695040888963407

/-- The output word of a state. -/
def output (state : Nat) : Nat :=
  let hi := state / wordSize
  let lo := state % wordSize
  let hi := hi ^^^ (hi >>> 32)
  let hi := hi * 0xda942042e4dd58b5 % wordSize
  let hi := hi ^^^ (hi >>> 48)
  hi * (lo ||| 1) % wordSize

/-- One step: the next word and the next generator. -/
def next (g : Pcg) : Nat × Pcg :=
  let s := (g.state * multiplier + increment) % (wordSize * wordSize)
  (output s, ⟨s⟩)

/-- A binary64 word uniform in `[0, 1)`, scaled by `scale` with one rounding. -/
def unit (g : Pcg) (scale : Nat) : Nat × Pcg :=
  let (w, g) := g.next
  (Float.Format.binary64.round false (w % Nat.pow 2 53 * scale) (Nat.pow 2 53), g)

/-- An integer below `n > 0`, trying at most `fuel` more words when the first falls in the
biased low range. -/
def below (n : Nat) : Nat → Pcg → Nat × Pcg
  | fuel, g =>
    let (w, g) := g.next
    if n &&& (n - 1) = 0 then (w &&& (n - 1), g)
    else
      let threshold := (wordSize - n) % n
      let rec retry : Nat → Nat → Pcg → Nat × Pcg
        | 0, w, g => (w * n / wordSize, g)
        | fuel + 1, w, g =>
          if w * n % wordSize < threshold then
            let (w', g') := g.next
            retry fuel w' g'
          else (w * n / wordSize, g)
      retry fuel w g

end Pcg

/-- `n` random binary64 words: below `distinct` as integers when it is positive, else uniform
in `[0, 100)`. -/
def randomValues (n : Nat) (distinct : Int) (seed : Nat) : Array Nat :=
  let step (acc : Array Nat × Pcg) (_ : Nat) : Array Nat × Pcg :=
    let (xs, g) := acc
    if distinct > 0 then
      let (v, g) := Pcg.below distinct.toNat 64 g
      (xs.push (Float.Format.binary64.round false v 1), g)
    else
      let (v, g) := g.unit 100
      (xs.push v, g)
  ((List.range n).foldl step (#[], Pcg.seeded seed (seed + 1))).1

end Bench

end TensorSelect
