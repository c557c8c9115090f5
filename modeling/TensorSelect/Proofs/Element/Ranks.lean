import Mathlib
import TensorSelect.Element.Scalar

/-!
# The extreme values of an ordered type

A selection pads a work item with the least value of its type (in mode `max`) or the greatest
(otherwise), so these values must lose against every element. This module proves that they do
for every ordered element type: each is an instance of `Ranked.Bounded`, which says that
`Ranked.bottom` ranks at or below every value and `Ranked.top` at or above.

* For the integer types the extremes are the least and greatest values of the width.
* For the float types, the bottom is negative infinity and the top is a NaN. In a format, no
  word that is not a NaN has a larger magnitude than infinity (`magnitude_le_of_isNaN_eq_false`),
  so negative infinity ranks at or below every word, and every word ranks at or below the
  place that all NaNs share (`Format.rank_mem_bounds`).

Every scalar gets the rank of its value in its type (`Scalar.rank`), so that a selection can be
read off a buffer of scalars.
-/

open TensorSelect.Float

namespace TensorSelect

namespace Float.Format

variable (f : Format)

/-- The sign bit weighs as much as all exponent values times the hidden bit. -/
theorem signWeight_eq : f.signWeight = f.hidden * Nat.pow 2 f.expBits := by
  simp only [signWeight, hidden, Nat.pow_eq, ← Nat.pow_add, Nat.add_comm]

theorem hidden_pos : 0 < f.hidden := Nat.two_pow_pos _

theorem magnitude_div_hidden (w : Nat) : f.magnitude w / f.hidden = f.expField w := by
  rw [magnitude, signWeight_eq, expField, Nat.mod_mul_right_div_self]

theorem magnitude_mod_hidden (w : Nat) : f.magnitude w % f.hidden = f.frac w := by
  rw [magnitude, signWeight_eq, frac, Nat.mod_mul_right_mod]

theorem expField_le (w : Nat) : f.expField w ≤ f.expAllOnes := by
  have := Nat.mod_lt (w / f.hidden) (Nat.two_pow_pos f.expBits)
  simp only [expField, expAllOnes, Nat.pow_eq] at this ⊢
  omega

/-- A word that is not a NaN has a magnitude no larger than that of infinity. -/
theorem magnitude_le_of_isNaN_eq_false {w : Nat} (h : f.isNaN w = false) :
    f.magnitude w ≤ f.expAllOnes * f.hidden := by
  have hsplit := Nat.div_add_mod (f.magnitude w) f.hidden
  rw [magnitude_div_hidden, magnitude_mod_hidden] at hsplit
  have hexp := f.expField_le w
  simp only [isNaN, Bool.and_eq_false_iff, beq_eq_false_iff_ne, bne_eq_false_iff_eq] at h
  rcases h with hne | hzero
  · -- below the all-ones exponent there is room for a whole fraction
    have hlt : f.expField w + 1 ≤ f.expAllOnes := by omega
    have hfrac : f.frac w < f.hidden := Nat.mod_lt _ f.hidden_pos
    calc f.magnitude w = f.hidden * f.expField w + f.frac w := hsplit.symm
      _ ≤ f.hidden * (f.expField w + 1) := by rw [Nat.mul_succ]; omega
      _ ≤ f.hidden * f.expAllOnes := Nat.mul_le_mul_left _ hlt
      _ = f.expAllOnes * f.hidden := Nat.mul_comm _ _
  · calc f.magnitude w = f.hidden * f.expField w := by rw [← hsplit, hzero, Nat.add_zero]
      _ ≤ f.hidden * f.expAllOnes := Nat.mul_le_mul_left _ hexp
      _ = f.expAllOnes * f.hidden := Nat.mul_comm _ _

/-- Every word ranks between negative infinity and the place of the NaNs. -/
theorem rank_mem_bounds (w : Nat) :
    -((f.expAllOnes * f.hidden : Nat) : Int) ≤ f.rank w ∧ f.rank w ≤ f.signWeight := by
  have hmag : f.magnitude w < f.signWeight := Nat.mod_lt w f.signWeight_pos
  unfold rank
  split
  · omega
  · rename_i hnan
    have := f.magnitude_le_of_isNaN_eq_false (by simpa using hnan)
    split <;> omega

end Float.Format

/-! ## Bounded types -/

/-- The least and greatest values of an ordered type rank at the two ends of its order. -/
class Ranked.Bounded (α : Type) [Ranked α] : Prop where
  bottom_le : ∀ x : α, Ranked.rank (Ranked.bottom : α) ≤ Ranked.rank x
  le_top : ∀ x : α, Ranked.rank x ≤ Ranked.rank (Ranked.top : α)

namespace Ranked.Bounded

/-- A float type whose rank is that of its format is bounded when its bottom ranks as negative
infinity and its top as a NaN. -/
theorem of_format {α : Type} [Ranked α] (f : Format) (word : α → Nat)
    (hrank : ∀ x : α, Ranked.rank x = f.rank (word x))
    (hbot : Ranked.rank (Ranked.bottom : α) = -((f.expAllOnes * f.hidden : Nat) : Int))
    (htop : Ranked.rank (Ranked.top : α) = f.signWeight) : Ranked.Bounded α where
  bottom_le x := by
    rw [hbot, hrank]
    exact (f.rank_mem_bounds _).1
  le_top x := by
    rw [htop, hrank]
    exact (f.rank_mem_bounds _).2

instance int8_bounded : Ranked.Bounded Int8 where
  bottom_le x := by
    have h : Ranked.rank (Ranked.bottom : Int8) = -2 ^ 7 := by decide
    exact h ▸ x.le_toInt
  le_top x := by
    have h : Ranked.rank (Ranked.top : Int8) = 2 ^ 7 - 1 := by decide
    exact h ▸ Int.le_sub_one_of_lt x.toInt_lt

instance int16_bounded : Ranked.Bounded Int16 where
  bottom_le x := by
    have h : Ranked.rank (Ranked.bottom : Int16) = -2 ^ 15 := by decide
    exact h ▸ x.le_toInt
  le_top x := by
    have h : Ranked.rank (Ranked.top : Int16) = 2 ^ 15 - 1 := by decide
    exact h ▸ Int.le_sub_one_of_lt x.toInt_lt

instance int32_bounded : Ranked.Bounded Int32 where
  bottom_le x := by
    have h : Ranked.rank (Ranked.bottom : Int32) = -2 ^ 31 := by decide
    exact h ▸ x.le_toInt
  le_top x := by
    have h : Ranked.rank (Ranked.top : Int32) = 2 ^ 31 - 1 := by decide
    exact h ▸ Int.le_sub_one_of_lt x.toInt_lt

instance int64_bounded : Ranked.Bounded Int64 where
  bottom_le x := by
    have h : Ranked.rank (Ranked.bottom : Int64) = -2 ^ 63 := by decide
    exact h ▸ x.le_toInt
  le_top x := by
    have h : Ranked.rank (Ranked.top : Int64) = 2 ^ 63 - 1 := by decide
    exact h ▸ Int.le_sub_one_of_lt x.toInt_lt

instance uint8_bounded : Ranked.Bounded UInt8 where
  bottom_le x := Int.natCast_nonneg x.toNat
  le_top x := by
    have h : Ranked.rank (Ranked.top : UInt8) = 2 ^ 8 - 1 := by decide
    have := x.toNat_lt
    rw [h]
    show (x.toNat : Int) ≤ 2 ^ 8 - 1
    omega

instance uint16_bounded : Ranked.Bounded UInt16 where
  bottom_le x := Int.natCast_nonneg x.toNat
  le_top x := by
    have h : Ranked.rank (Ranked.top : UInt16) = 2 ^ 16 - 1 := by decide
    have := x.toNat_lt
    rw [h]
    show (x.toNat : Int) ≤ 2 ^ 16 - 1
    omega

instance uint32_bounded : Ranked.Bounded UInt32 where
  bottom_le x := Int.natCast_nonneg x.toNat
  le_top x := by
    have h : Ranked.rank (Ranked.top : UInt32) = 2 ^ 32 - 1 := by decide
    have := x.toNat_lt
    rw [h]
    show (x.toNat : Int) ≤ 2 ^ 32 - 1
    omega

instance uint64_bounded : Ranked.Bounded UInt64 where
  bottom_le x := Int.natCast_nonneg x.toNat
  le_top x := by
    have h : Ranked.rank (Ranked.top : UInt64) = 2 ^ 64 - 1 := by decide
    have := x.toNat_lt
    rw [h]
    show (x.toNat : Int) ≤ 2 ^ 64 - 1
    omega

instance binary16_bounded : Ranked.Bounded Binary16 :=
  of_format Format.binary16 Binary16.word (fun _ => rfl) (by decide) (by decide)

instance binary32_bounded : Ranked.Bounded Binary32 :=
  of_format Format.binary32 Binary32.word (fun _ => rfl) (by decide) (by decide)

instance binary64_bounded : Ranked.Bounded Binary64 :=
  of_format Format.binary64 Binary64.word (fun _ => rfl) (by decide) (by decide)

instance bfloat16_bounded : Ranked.Bounded BFloat16 :=
  of_format Format.bfloat16 BFloat16.word (fun _ => rfl) (by decide) (by decide)

end Ranked.Bounded

/-! ## Ranks of scalars -/

/-- The rank of a scalar: that of its value in its type, and for the truth values `false` below
`true`. -/
def Scalar.rank : Scalar → Int
  | bool b => if b then 1 else 0
  | int8 x => Ranked.rank x | int16 x => Ranked.rank x
  | int32 x => Ranked.rank x | int64 x => Ranked.rank x
  | uint8 x => Ranked.rank x | uint16 x => Ranked.rank x
  | uint32 x => Ranked.rank x | uint64 x => Ranked.rank x
  | float16 x => Ranked.rank x | float32 x => Ranked.rank x
  | float64 x => Ranked.rank x | bfloat16 x => Ranked.rank x

end TensorSelect
