import Mathlib
import TensorSelect.Proofs.Element.BrainFloat

/-!
# The machine's comparison of floats

The machine compares two floats by the values they stand for (IEEE 754). A NaN is unordered:
every comparison with a NaN is false, and a NaN is not even equal to itself. The two zeros are
equal, and the infinities lie below and above every number. This module defines that comparison
from the exact value of a word (`Format.value`, read off `Format.decode`) and proves that, away
from the NaNs, it is the order of `Format.rank`.

* `Format.scaled`: the value of a magnitude in units of the least subnormal `2 ^ minQ`. It is
  strictly increasing (`scaled_strictMono`): within a binade the fraction counts up, and the top
  of a binade lies below the bottom of the next.
* `Format.place`: the point of the extended line that a rank stands for. It is strictly
  increasing on the ranks of the words that are not NaNs (`place_strictMonoOn`), and such a
  word lies at the place of its rank (`extended_eq_place`).
* `Format.valueLt_eq_rank` and `Format.valueEq_eq_rank`: the machine's `<` and `==` are the
  order and the equality of ranks, apart from NaNs. So the order that puts a NaN above every
  number and level with every NaN is the order of ranks on all words
  (`valueLt_or_nan_eq_rank`), and two words are level in it exactly when they are equal or both
  NaNs (`valueEq_or_nan_eq_rank`).
* `Format.Represents`: a word of one format stands for what a word of another stands for. Words
  that represent others exactly are in the order of their ranks (`rank_lt_of_represents`); the
  16-bit floats are compared through their binary32 words, which represent them so.

A format needs a nonempty exponent field to tell its two infinities apart; the four formats of
the element types have one.
-/

open TensorSelect.Float

namespace TensorSelect.Float.Format

variable (f : Format)

/-! ## Values -/

/-- The exact value of a word that is a number: it stands for `± m · 2 ^ q`. -/
def value (w : Nat) : ℚ :=
  let (neg, m, q) := f.decode w
  (if neg then -(m : ℚ) else m) * 2 ^ q

/-- A word that is not a NaN as a point of the extended line: an infinity at either end, or its
value. -/
def extended (w : Nat) : WithBot (WithTop ℚ) :=
  if f.isInf w then (if f.sign w then ⊥ else ⊤)
  else ((f.value w : WithTop ℚ) : WithBot (WithTop ℚ))

/-- The machine's less-than: false when either word is a NaN, and otherwise the order of the
points the words stand for. -/
def valueLt (a b : Nat) : Bool :=
  !f.isNaN a && !f.isNaN b && decide (f.extended a < f.extended b)

/-- The machine's equality: false when either word is a NaN, so that a NaN differs from itself,
and otherwise the equality of the points the words stand for, so that `-0 == +0`. -/
def valueEq (a b : Nat) : Bool :=
  !f.isNaN a && !f.isNaN b && decide (f.extended a = f.extended b)

/-- The value of magnitude `M` in units of the least subnormal `2 ^ minQ`: a subnormal counts its
fraction, and a normal magnitude with exponent field `e ≥ 1` counts its significand
`frac + hidden` in units of `2 ^ (e - 1)`. -/
def scaled (M : Nat) : Nat :=
  if M < f.hidden then M else (M % f.hidden + f.hidden) * 2 ^ (M / f.hidden - 1)

/-- The value of a rank, signed, in units of the least subnormal. -/
def signedScaled (r : Int) : Int :=
  if r < 0 then -(f.scaled (-r).toNat : Int) else f.scaled r.toNat

/-- The magnitude of the infinities: an all-ones exponent field and an empty fraction. -/
def infMagnitude : Nat := f.expAllOnes * f.hidden

/-- The point of the extended line that rank `r` stands for: the infinities at `± infMagnitude`,
and between them the signed value of the magnitude `|r|`. -/
def place (r : Int) : WithBot (WithTop ℚ) :=
  if r ≤ -(f.infMagnitude : Int) then ⊥
  else if (f.infMagnitude : Int) ≤ r then ⊤
  else (((f.signedScaled r : ℚ) * 2 ^ f.minQ : ℚ) : WithTop ℚ)

/-! ## The value of a magnitude grows with it -/

theorem scaled_zero : f.scaled 0 = 0 := by
  simp [scaled, hidden_pos]

/-- Every magnitude lies below the first normal value of the next binade. -/
theorem scaled_lt_binade (M : Nat) : f.scaled M < f.hidden * 2 ^ (M / f.hidden) := by
  have hh := f.hidden_pos
  unfold scaled
  split
  · rename_i hM
    rw [Nat.div_eq_of_lt hM, Nat.pow_zero, Nat.mul_one]
    exact hM
  · rename_i hM
    have he : 1 ≤ M / f.hidden := (Nat.le_div_iff_mul_le hh).2 (by omega)
    have hmod := Nat.mod_lt M hh
    -- the significand stays below twice the hidden bit
    calc (M % f.hidden + f.hidden) * 2 ^ (M / f.hidden - 1)
        < 2 * f.hidden * 2 ^ (M / f.hidden - 1) :=
          Nat.mul_lt_mul_of_pos_right (by omega) (Nat.two_pow_pos _)
      _ = f.hidden * 2 ^ (M / f.hidden) := by
          rw [Nat.mul_comm 2, Nat.mul_assoc, ← Nat.pow_succ']
          congr 2
          omega

theorem scaled_strictMono : StrictMono f.scaled := by
  intro M M' hlt
  have hh := f.hidden_pos
  have hE : M / f.hidden ≤ M' / f.hidden := Nat.div_le_div_right hlt.le
  rcases Nat.lt_or_eq_of_le hE with hE | hE
  · -- a higher binade starts above everything below it
    have hM' : f.hidden ≤ M' := by
      by_contra h
      rw [Nat.div_eq_of_lt (show M' < f.hidden by omega)] at hE
      exact Nat.not_lt_zero _ hE
    calc f.scaled M < f.hidden * 2 ^ (M / f.hidden) := f.scaled_lt_binade M
      _ ≤ f.hidden * 2 ^ (M' / f.hidden - 1) :=
          Nat.mul_le_mul_left _ (Nat.pow_le_pow_right (by norm_num) (by omega))
      _ ≤ f.scaled M' := by
          unfold scaled
          rw [if_neg (by omega)]
          exact Nat.mul_le_mul_right _ (by omega)
  · -- within one binade the fraction counts up
    have hsplit := Nat.div_add_mod M f.hidden
    have hsplit' := Nat.div_add_mod M' f.hidden
    have hF : M % f.hidden < M' % f.hidden := by
      rw [hE] at hsplit; omega
    unfold scaled
    split <;> split
    · exact hlt
    · rename_i h1 h2
      rw [Nat.div_eq_of_lt h1] at hE
      have := (Nat.le_div_iff_mul_le hh).2 (show 1 * f.hidden ≤ M' by omega)
      omega
    · omega
    · rw [hE]
      exact Nat.mul_lt_mul_of_pos_right (by omega) (Nat.two_pow_pos _)

theorem scaled_pos {M : Nat} (hM : 0 < M) : 0 < f.scaled M := by
  rw [← f.scaled_zero]
  exact f.scaled_strictMono hM

theorem signedScaled_strictMono : StrictMono f.signedScaled := by
  intro r s hrs
  unfold signedScaled
  split <;> split
  · -- two negative ranks: the larger magnitude lies further down
    have := f.scaled_strictMono (show (-s).toNat < (-r).toNat by omega)
    omega
  · rename_i hr hs
    have := f.scaled_pos (show 0 < (-r).toNat by omega)
    omega
  · omega
  · have := f.scaled_strictMono (show r.toNat < s.toNat by omega)
    omega

/-! ## Words as points of the extended line -/

/-- A magnitude is its exponent field in units of the hidden bit, and its fraction. -/
theorem magnitude_eq (w : Nat) : f.magnitude w = f.expField w * f.hidden + f.frac w := by
  have h := Nat.div_add_mod (f.magnitude w) f.hidden
  rw [magnitude_div_hidden, magnitude_mod_hidden] at h
  rw [← h, Nat.mul_comm]

theorem sign_decode (w : Nat) : (f.decode w).1 = f.sign w := by
  unfold decode
  split <;> rfl

/-- The significand of a word at its exponent is its scaled magnitude at the least subnormal's
place. -/
theorem significand_eq_scaled (w : Nat) :
    ((f.decode w).2.1 : ℚ) * 2 ^ (f.decode w).2.2 = f.scaled (f.magnitude w) * 2 ^ f.minQ := by
  have hM := f.magnitude_eq w
  have hF : f.frac w < f.hidden := Nat.mod_lt _ f.hidden_pos
  by_cases hE : f.expField w = 0
  · -- a subnormal counts its fraction at the least place
    rw [decode_of_expField_eq_zero _ hE]
    have hfrac : f.magnitude w = f.frac w := by rw [hM, hE, Nat.zero_mul, Nat.zero_add]
    simp [scaled, hfrac, hF]
  · -- a normal word counts its significand `2 ^ (e - 1)` places above it
    rw [decode_of_expField_ne_zero _ hE]
    have hge : f.hidden ≤ f.magnitude w := by
      rw [hM]
      exact le_add_right (Nat.le_mul_of_pos_left _ (Nat.pos_of_ne_zero hE))
    simp only [scaled, if_neg (Nat.not_lt.2 hge), magnitude_div_hidden, magnitude_mod_hidden]
    push_cast
    rw [mul_assoc, ← zpow_natCast, ← zpow_add₀ (by norm_num)]
    congr 2
    simp only [minQ]
    omega

/-- The value of a word is its signed scaled magnitude at the least subnormal's place. -/
theorem value_eq (w : Nat) :
    f.value w =
      (if f.sign w then -(f.scaled (f.magnitude w) : ℚ) else f.scaled (f.magnitude w)) *
        2 ^ f.minQ := by
  have hsig := f.significand_eq_scaled w
  have hsign := f.sign_decode w
  unfold value
  generalize f.decode w = d at hsig hsign ⊢
  obtain ⟨neg, m, q⟩ := d
  dsimp only at hsig hsign ⊢
  subst hsign
  cases f.sign w
  · simpa using hsig
  · simp only [if_true, neg_mul, hsig]

theorem infMagnitude_pos (hf : 0 < f.expBits) : 0 < f.infMagnitude := by
  have h2 : 1 < Nat.pow 2 f.expBits := Nat.one_lt_two_pow hf.ne'
  exact Nat.mul_pos (by simp only [expAllOnes]; omega) f.hidden_pos

variable {f}

/-- A word that is not a NaN has a rank between the infinities. -/
theorem rank_mem_Icc {w : Nat} (hw : f.isNaN w = false) :
    f.rank w ∈ Set.Icc (-(f.infMagnitude : Int)) f.infMagnitude := by
  have hle := f.magnitude_le_of_isNaN_eq_false hw
  simp only [rank, hw, Bool.false_eq_true, if_false, infMagnitude] at hle ⊢
  constructor <;> split <;> omega

/-- The point of a rank grows with the rank, from negative to positive infinity. -/
theorem place_strictMonoOn (hf : 0 < f.expBits) :
    StrictMonoOn f.place (Set.Icc (-(f.infMagnitude : Int)) f.infMagnitude) := by
  intro r hr s hs hrs
  have hI := f.infMagnitude_pos hf
  obtain ⟨hr1, hr2⟩ := hr
  obtain ⟨hs1, hs2⟩ := hs
  unfold place
  by_cases hrb : r ≤ -(f.infMagnitude : Int)
  · -- negative infinity lies below every other point
    rw [if_pos hrb, if_neg (by omega)]
    split
    · exact WithBot.bot_lt_coe _
    · exact WithBot.bot_lt_coe _
  · rw [if_neg hrb, if_neg (by omega), if_neg (by omega)]
    split
    · exact WithBot.coe_lt_coe.2 (WithTop.coe_lt_top _)
    · -- two numbers: their signed values in one unit
      have hv := f.signedScaled_strictMono hrs
      refine WithBot.coe_lt_coe.2 (WithTop.coe_lt_coe.2 ?_)
      exact mul_lt_mul_of_pos_right (by exact_mod_cast hv) (zpow_pos (by norm_num) _)

/-- The signed value, in units of the least subnormal, of a signed magnitude. -/
theorem signedScaled_signed (s : Bool) (M : Nat) :
    ((f.signedScaled (if s then -(M : Int) else M) : Int) : ℚ) =
      if s then -(f.scaled M : ℚ) else f.scaled M := by
  cases s
  · simp [signedScaled]
  · simp only [if_true]
    by_cases h0 : M = 0
    · simp [signedScaled, h0, scaled_zero]
    · simp only [signedScaled, if_pos (show -(M : Int) < 0 by omega), neg_neg,
        Int.toNat_natCast, Int.cast_neg, Int.cast_natCast]

/-- An infinity has the magnitude of the infinities. -/
theorem magnitude_of_isInf {w : Nat} (hinf : f.isInf w = true) :
    f.magnitude w = f.infMagnitude := by
  have hE : f.expField w = f.expAllOnes ∧ f.frac w = 0 := by simpa [isInf] using hinf
  rw [magnitude_eq, hE.1, hE.2, Nat.add_zero, infMagnitude]

/-- A number has a smaller magnitude than the infinities: its exponent field is below all ones. -/
theorem magnitude_lt_of_number {w : Nat} (hw : f.isNaN w = false) (hinf : f.isInf w = false) :
    f.magnitude w < f.infMagnitude := by
  have hfin : f.expField w + 1 ≤ f.expAllOnes := by
    have hle := f.expField_le w
    have hne : f.expField w ≠ f.expAllOnes := by
      simp only [isNaN, isInf, Bool.and_eq_false_iff, bne_eq_false_iff_eq, beq_eq_false_iff_ne]
        at hw hinf
      tauto
    omega
  have hF : f.frac w < f.hidden := Nat.mod_lt _ f.hidden_pos
  calc f.magnitude w < (f.expField w + 1) * f.hidden := by
        rw [magnitude_eq, Nat.succ_mul]; omega
    _ ≤ f.infMagnitude := Nat.mul_le_mul_right _ hfin

/-- A word that is not a NaN lies at the place of its rank. -/
theorem extended_eq_place (hf : 0 < f.expBits) {w : Nat} (hw : f.isNaN w = false) :
    f.extended w = f.place (f.rank w) := by
  have hI := f.infMagnitude_pos hf
  have hrank : f.rank w = if f.sign w then -(f.magnitude w : Int) else f.magnitude w := by
    simp [rank, hw]
  unfold extended place
  by_cases hinf : f.isInf w = true
  · -- an infinity lies at the end of its sign
    rw [if_pos hinf, hrank, magnitude_of_isInf hinf]
    cases f.sign w
    · simp only [Bool.false_eq_true, if_false]
      rw [if_neg (by omega), if_pos le_rfl]
    · simp only [if_true]
      rw [if_pos le_rfl]
  · -- a number lies strictly between the infinities, at its signed value
    have hlt := magnitude_lt_of_number hw (by simpa using hinf)
    have hr1 : -(f.infMagnitude : Int) <
        if f.sign w then -(f.magnitude w : Int) else f.magnitude w := by split <;> omega
    have hr2 : (if f.sign w then -(f.magnitude w : Int) else f.magnitude w) <
        f.infMagnitude := by split <;> omega
    rw [if_neg hinf, value_eq, hrank, if_neg (not_le.2 hr1), if_neg (not_le.2 hr2),
      signedScaled_signed]

/-! ## Comparisons are the order of ranks -/

section Compare

variable (hf : 0 < f.expBits) {a b : Nat}
include hf

theorem extended_lt_iff (ha : f.isNaN a = false) (hb : f.isNaN b = false) :
    f.extended a < f.extended b ↔ f.rank a < f.rank b := by
  rw [extended_eq_place hf ha, extended_eq_place hf hb]
  exact (place_strictMonoOn hf).lt_iff_lt (rank_mem_Icc ha) (rank_mem_Icc hb)

theorem extended_eq_iff (ha : f.isNaN a = false) (hb : f.isNaN b = false) :
    f.extended a = f.extended b ↔ f.rank a = f.rank b := by
  rw [extended_eq_place hf ha, extended_eq_place hf hb]
  exact (place_strictMonoOn hf).injOn.eq_iff (rank_mem_Icc ha) (rank_mem_Icc hb)

/-- The machine's less-than is the order of ranks, false on NaNs. -/
theorem valueLt_eq_rank (a b : Nat) :
    f.valueLt a b = (!f.isNaN a && !f.isNaN b && decide (f.rank a < f.rank b)) := by
  unfold valueLt
  cases ha : f.isNaN a <;> cases hb : f.isNaN b <;>
    simp only [Bool.not_true, Bool.not_false, Bool.false_and, Bool.true_and, Bool.and_false]
  rw [decide_eq_decide]
  exact extended_lt_iff hf ha hb

/-- The machine's equality is the equality of ranks, false on NaNs. -/
theorem valueEq_eq_rank (a b : Nat) :
    f.valueEq a b = (!f.isNaN a && !f.isNaN b && decide (f.rank a = f.rank b)) := by
  unfold valueEq
  cases ha : f.isNaN a <;> cases hb : f.isNaN b <;>
    simp only [Bool.not_true, Bool.not_false, Bool.false_and, Bool.true_and, Bool.and_false]
  rw [decide_eq_decide]
  exact extended_eq_iff hf ha hb

/-- Putting every NaN above every other word, and level with every NaN, makes the machine's
less-than the order of ranks on all words. -/
theorem valueLt_or_nan_eq_rank (a b : Nat) :
    (f.valueLt a b || (!f.isNaN a && f.isNaN b)) = decide (f.rank a < f.rank b) := by
  rw [valueLt_eq_rank hf]
  cases ha : f.isNaN a <;> cases hb : f.isNaN b
  · simp
  · simpa using f.rank_lt_nan ha hb
  · simpa using (f.rank_lt_nan hb ha).le
  · simp [rank, ha, hb]

/-- Two words are level in that order exactly when the machine finds them equal or both are
NaNs: the two zeros are level, and so are all NaNs. -/
theorem valueEq_or_nan_eq_rank (a b : Nat) :
    (f.valueEq a b || (f.isNaN a && f.isNaN b)) = decide (f.rank a = f.rank b) := by
  rw [valueEq_eq_rank hf]
  cases ha : f.isNaN a <;> cases hb : f.isNaN b
  · simp
  · simpa using (f.rank_lt_nan ha hb).ne
  · simpa using (f.rank_lt_nan hb ha).ne'
  · simp [rank, ha, hb]

/-- The machine finds the two zeros, the word `0` and the word of the sign bit alone, equal. -/
theorem valueEq_zero_signWeight : f.valueEq 0 f.signWeight = true := by
  have hfrac : f.frac f.signWeight = 0 := by rw [frac, signWeight_eq, Nat.mul_mod_right]
  have hnan : f.isNaN f.signWeight = false := by simp [isNaN, hfrac]
  have hnan0 : f.isNaN 0 = false := by simp [isNaN, frac]
  rw [valueEq_eq_rank hf, hnan, hnan0]
  simp [rank, hnan, hnan0, magnitude]

end Compare

/-! ## Words of two formats that stand for one point -/

/-- Word `w` of format `f` is represented exactly by word `v` of format `g`: `v` is a NaN when
`w` is one, and otherwise stands for the same point of the extended line. -/
structure Represents (f : Format) (w : Nat) (g : Format) (v : Nat) : Prop where
  isNaN_eq : g.isNaN v = f.isNaN w
  extended_eq : f.isNaN w = false → g.extended v = f.extended w

section Represents

variable {g : Format} (hf : 0 < f.expBits) (hg : 0 < g.expBits) {a b a' b' : Nat}
  (ha : f.Represents a g a') (hb : f.Represents b g b')
include hf hg ha hb

/-- Words that represent two words exactly are in the order of their ranks. -/
theorem rank_lt_of_represents :
    decide (g.rank a' < g.rank b') = decide (f.rank a < f.rank b) := by
  rw [← g.valueLt_or_nan_eq_rank hg, ← f.valueLt_or_nan_eq_rank hf]
  unfold valueLt
  rw [ha.isNaN_eq, hb.isNaN_eq]
  cases hna : f.isNaN a <;> cases hnb : f.isNaN b <;>
    simp only [Bool.not_true, Bool.not_false, Bool.false_and, Bool.true_and, Bool.and_false]
  rw [ha.extended_eq hna, hb.extended_eq hnb]

/-- Words that represent two words exactly tie when the two words tie. -/
theorem rank_eq_of_represents :
    decide (g.rank a' = g.rank b') = decide (f.rank a = f.rank b) := by
  rw [← g.valueEq_or_nan_eq_rank hg, ← f.valueEq_or_nan_eq_rank hf]
  unfold valueEq
  rw [ha.isNaN_eq, hb.isNaN_eq]
  cases hna : f.isNaN a <;> cases hnb : f.isNaN b <;>
    simp only [Bool.not_true, Bool.not_false, Bool.false_and, Bool.true_and, Bool.and_false]
  rw [ha.extended_eq hna, hb.extended_eq hnb]

end Represents

end TensorSelect.Float.Format
