/-!
# Machine words

Sizes, strides and offsets are counted in 64-bit machine integers: a product that leaves the
range `[-2^63, 2^63)` wraps around modulo `2^64`, and a byte count is an unsigned word. Since
wrapping commutes with sums and products, a chain of them wraps once, at its end; a quotient
wraps its dividend first.

Type codes are narrower: an element type code is a signed 32-bit integer, and the codes of a
mode, an order, an algorithm or a layout kind are bytes; a wider integer given as a code wraps
the same way.

Main facts: `wrapWord_of_mem` (a value in range is kept), `wrapWord_mul` (wrapping a factor
first changes nothing), and for 32-bit integers `wrapInt32_of_mem` (exact below `2^31`) and
`wrapInt32_inj` (one-to-one on `[0, 2^32)`), which say when the labels of positions along an
axis are the positions themselves and when they still tell the positions apart.
-/

namespace TensorSelect

/-- The number of values of a 64-bit word. -/
def wordModulus : Nat := 18446744073709551616

/-- The signed machine integer of an integer: the one in `[-2^63, 2^63)` that is congruent to it
modulo `2^64`. -/
def wrapWord (x : Int) : Int := x.bmod wordModulus

/-- The unsigned machine word of an integer: the one in `[0, 2^64)` that is congruent to it
modulo `2^64`. -/
def wrapUnsigned (x : Int) : Nat := (x % (wordModulus : Int)).toNat

/-- The signed 32-bit integer of an integer: the one in `[-2^31, 2^31)` that is congruent to it
modulo `2^32` (`wrapInt32_eq_bmod`). An integer of magnitude below `2^31` is its own, which
spares the division by a modulus too large for a small integer. -/
def wrapInt32 (x : Int) : Int := if x.natAbs < 2147483648 then x else x.bmod 4294967296

/-- The byte of an integer: the one in `[0, 256)` that is congruent to it modulo `256`. -/
def wrapByte (x : Int) : Nat := (x % 256).toNat

/-- A value in the signed range is its own machine integer. -/
theorem wrapWord_of_mem {x : Int} (lo : -9223372036854775808 ≤ x) (hi : x < 9223372036854775808) :
    wrapWord x = x := by
  unfold wrapWord wordModulus
  rw [Int.bmod_def]
  split <;> omega

theorem bmod_int32_of_mem {x : Int} (lo : -2147483648 ≤ x) (hi : x < 2147483648) :
    x.bmod 4294967296 = x := by
  rw [Int.bmod_def]
  split <;> omega

/-- The 32-bit integer of an integer is the balanced residue modulo `2^32`. -/
theorem wrapInt32_eq_bmod (x : Int) : wrapInt32 x = x.bmod 4294967296 := by
  unfold wrapInt32
  split
  · rename_i h
    exact (bmod_int32_of_mem (by omega) (by omega)).symm
  · rfl

/-- A value in the 32-bit signed range is its own 32-bit integer. -/
theorem wrapInt32_of_mem {x : Int} (lo : -2147483648 ≤ x) (hi : x < 2147483648) :
    wrapInt32 x = x := by
  rw [wrapInt32_eq_bmod]
  exact bmod_int32_of_mem lo hi

/-- A 32-bit integer is below `2^31`. -/
theorem wrapInt32_lt (x : Int) : wrapInt32 x < 2147483648 := by
  rw [wrapInt32_eq_bmod, Int.bmod_def]
  split <;> omega

/-- Two integers in `[0, 2^32)` with the same 32-bit integer are equal. -/
theorem wrapInt32_inj {x y : Int} (hx0 : 0 ≤ x) (hx : x < 4294967296) (hy0 : 0 ≤ y)
    (hy : y < 4294967296) (h : wrapInt32 x = wrapInt32 y) : x = y := by
  rw [wrapInt32_eq_bmod, wrapInt32_eq_bmod, Int.bmod_def, Int.bmod_def] at h
  split at h <;> split at h <;> omega

/-- Wrapping a factor first does not change a wrapped product. -/
theorem wrapWord_mul (x y : Int) : wrapWord (wrapWord x * y) = wrapWord (x * y) := by
  unfold wrapWord
  exact Int.bmod_mul_bmod

end TensorSelect
