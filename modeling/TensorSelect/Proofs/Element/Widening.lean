import Mathlib
import TensorSelect.Proofs.Element.FloatOrder

/-!
# Widening the 16-bit floats to binary32

The 16-bit floats have no comparison of their own: they are compared as the binary32 numbers
they widen to. This module proves that widening keeps every NaN a NaN and every other word at
the point of the extended line that it stands for, so comparing the widened words is comparing
the 16-bit ones (`Format.rank_lt_of_represents`).

* A binary16 word widens through `Format.convert`, which rounds `m · 2 ^ q` into binary32. Every
  binary16 number is a normal binary32 number: its significand has at most 11 bits and its
  leading bit lies between `2 ^ -24` and `2 ^ 15`, well inside the exponents of binary32. So the
  rounding is exact (`binary32_round_exact`), and the word it packs decodes to the same value
  (`binary32_value_of_fields`).
* A bfloat16 word is the upper half of its binary32 word (`BFloat16.toBinary32_word`): the sign
  and the exponent field stay, and the fraction gains sixteen zero bits.
-/

open TensorSelect.Float

namespace TensorSelect.Float.Format

section Constants

@[simp] theorem binary16_expBits : binary16.expBits = 5 := rfl
@[simp] theorem binary16_fracBits : binary16.fracBits = 10 := rfl
@[simp] theorem binary16_hidden : binary16.hidden = 1024 := rfl
@[simp] theorem binary16_signWeight : binary16.signWeight = 32768 := rfl
@[simp] theorem binary16_expAllOnes : binary16.expAllOnes = 31 := rfl
@[simp] theorem binary16_bias : binary16.bias = 15 := rfl
@[simp] theorem binary16_minQ : binary16.minQ = -24 := rfl

end Constants

/-! ## Binary32 words from their fields -/

/-- A binary32 word assembled from a sign, an exponent field and a fraction has those fields, and
fits in 32 bits. -/
theorem binary32_fields {w E F : Nat} (s : Bool) (hE : E < 256) (hF : F < 8388608)
    (hw : w = (if s then 2147483648 else 0) + E * 8388608 + F) :
    binary32.sign w = s ∧ binary32.expField w = E ∧ binary32.frac w = F ∧ w < 4294967296 := by
  simp only [sign, expField, frac, binary32_signWeight, binary32_hidden, binary32_expBits,
    Nat.pow_eq, Nat.reducePow]
  cases s <;> simp only [Bool.false_eq_true, if_false, if_true] at hw <;> subst hw <;>
    refine ⟨?_, by omega, by omega, by omega⟩ <;>
    simp only [beq_iff_eq, beq_eq_false_iff_ne, ne_eq] <;> omega

/-- A binary32 word whose exponent field is not all ones is a number. -/
theorem binary32_number_of_expField (w : Nat) (hE : binary32.expField w < 255) :
    binary32.isNaN w = false ∧ binary32.isInf w = false := by
  have hne : binary32.expField w ≠ 255 := by omega
  simp [isNaN, isInf, binary32_expAllOnes, hne]

/-- The value of a binary32 word with a nonzero exponent field below all ones. -/
theorem binary32_value_of_fields {w E F : Nat} {s : Bool} (hE0 : E ≠ 0)
    (hfields : binary32.sign w = s ∧ binary32.expField w = E ∧ binary32.frac w = F) :
    binary32.value w = (if s then -((F + 8388608 : Nat) : ℚ) else ((F + 8388608 : Nat) : ℚ)) *
      2 ^ ((E : Int) - 150) := by
  obtain ⟨hs, hE, hF⟩ := hfields
  unfold value
  rw [decode_of_expField_ne_zero _ (by rw [hE]; exact hE0), hs, hE, hF]
  simp only [binary32_hidden, binary32_bias, binary32_fracBits]
  congr 2
  omega

/-- Two numbers of one value, in any two formats, represent each other. -/
theorem represents_of_value {f g : Format} {w v : Nat} (hnan : f.isNaN w = false)
    (hinf : f.isInf w = false) (hnan' : g.isNaN v = false) (hinf' : g.isInf v = false)
    (hval : g.value v = f.value w) : f.Represents w g v :=
  ⟨by rw [hnan', hnan], fun _ => by
    simp only [extended, hinf, hinf', Bool.false_eq_true, if_false, hval]⟩

/-! ## Exact rounding into binary32 -/

/-- A significand of at most 24 bits, with its leading bit moved to place 23, lies between the
hidden bit of binary32 and twice it. -/
theorem normalize_bounds {m : Nat} (hm : m ≠ 0) (hL : Nat.log2 m < 24) :
    8388608 ≤ m * 2 ^ (23 - Nat.log2 m) ∧ m * 2 ^ (23 - Nat.log2 m) < 16777216 := by
  have hlow : 2 ^ Nat.log2 m ≤ m := Nat.log2_self_le hm
  have hup : m < 2 ^ (Nat.log2 m + 1) := Nat.lt_log2_self
  constructor
  · calc 8388608 = 2 ^ Nat.log2 m * 2 ^ (23 - Nat.log2 m) := by
          rw [← Nat.pow_add, show Nat.log2 m + (23 - Nat.log2 m) = 23 by omega]
      _ ≤ m * 2 ^ (23 - Nat.log2 m) := Nat.mul_le_mul_right _ hlow
  · calc m * 2 ^ (23 - Nat.log2 m) < 2 ^ (Nat.log2 m + 1) * 2 ^ (23 - Nat.log2 m) :=
          Nat.mul_lt_mul_of_pos_right hup (Nat.two_pow_pos _)
      _ = 16777216 := by
          rw [← Nat.pow_add, show Nat.log2 m + 1 + (23 - Nat.log2 m) = 24 by omega]

/-- A number `m · 2 ^ q` with at most 24 significant bits, whose leading bit lies among the
normal exponents of binary32, rounds to itself: the significand moves up to the hidden bit. -/
theorem binary32_round_exact (neg : Bool) {m : Nat} (hm : m ≠ 0) (hm' : m < 16777216) (q : Int)
    (hlo : -149 ≤ (Nat.log2 m : Int) + q - 23) :
    binary32.round neg (m * (powTwo q).1) (powTwo q).2 =
      binary32.pack neg (m * 2 ^ (23 - Nat.log2 m)) ((Nat.log2 m : Int) + q - 23) := by
  have hL : Nat.log2 m < 24 := (Nat.log2_lt hm).2 hm'
  -- below the leading bit there is room for the whole significand
  have hr := (normalize_bounds hm hL).2
  have hp : max ((Nat.log2 m : Int) + q - binary32.fracBits) binary32.minQ =
      (Nat.log2 m : Int) + q - 23 := by
    simp only [binary32_fracBits, binary32_minQ]
    exact max_eq_left (by push_cast; omega)
  have hq : q - ((Nat.log2 m : Int) + q - 23) = ((23 - Nat.log2 m : Nat) : Int) := by omega
  rw [round_scaled _ _ hm]
  simp only [hp, hq, powTwo_eq, Int.toNat_natCast, Int.toNat_neg_natCast, Nat.pow_zero,
    roundHalfEven_one, binary32_hidden]
  rw [if_neg (by omega)]

/-- A significand between the hidden bit and twice it, at a normal exponent, packs into the word
of that sign, exponent field and fraction. -/
theorem binary32_pack_normal (neg : Bool) {r : Nat} {p : Int} (hr1 : 8388608 ≤ r)
    (hr2 : r < 16777216) (hp1 : -149 ≤ p) (hp2 : p ≤ 104) :
    binary32.pack neg r p =
      (if neg then 2147483648 else 0) + (p + 150).toNat * 8388608 + (r - 8388608) := by
  unfold pack
  rw [binary32_hidden, binary32_signWeight, binary32_maxQ, binary32_minQ]
  rw [if_neg (by omega), if_neg (by omega), if_neg (by omega)]
  congr 3
  omega

/-! ## Widening binary16 -/

/-- The significand and exponent of a binary16 number: at most eleven bits, at an exponent
between `-24` and `5`. -/
theorem binary16_decode {w : Nat} (hfin : binary16.expField w ≠ 31) :
    ∃ m q, binary16.decode w = (binary16.sign w, m, q) ∧ m < 2048 ∧ -24 ≤ q ∧ q ≤ 5 := by
  have hEl := binary16.expField_le w
  have hFl : binary16.frac w < 1024 := Nat.mod_lt _ (by decide)
  rw [binary16_expAllOnes] at hEl
  by_cases hE : binary16.expField w = 0
  · -- a subnormal or a zero: the fraction at the least place
    exact ⟨_, _, decode_of_expField_eq_zero _ hE, by omega, le_rfl, by decide⟩
  · -- a normal number: the hidden bit and the fraction
    refine ⟨_, _, decode_of_expField_ne_zero _ hE, ?_, ?_, ?_⟩ <;>
      simp only [binary16_hidden, binary16_bias, binary16_fracBits] at * <;> omega

/-- A binary16 NaN widens to a binary32 NaN: the payload moves thirteen places up. -/
theorem convert_binary16_of_isNaN {w : Nat} (hnan : binary16.isNaN w = true) :
    binary16.convert binary32 w < 4294967296 ∧
      binary16.Represents w binary32 (binary16.convert binary32 w) := by
  have hF : binary16.frac w ≠ 0 := by simp_all [isNaN]
  have hFl : binary16.frac w < 1024 := Nat.mod_lt _ (by decide)
  have hword : binary16.convert binary32 w = (if binary16.sign w then 2147483648 else 0) +
      255 * 8388608 + binary16.frac w * 8192 := by
    simp only [convert, hnan, if_true, binary32_fracBits, binary16_fracBits,
      binary32_signWeight, binary32_expAllOnes, binary32_hidden]
    rfl
  obtain ⟨-, hE32, hF32, hlt⟩ := binary32_fields (binary16.sign w) (by norm_num) (by omega) hword
  have hnan32 : binary32.isNaN (binary16.convert binary32 w) = true := by
    simp only [isNaN, hE32, hF32, binary32_expAllOnes, beq_self_eq_true, Bool.true_and,
      bne_iff_ne, ne_eq]
    omega
  exact ⟨hlt, by rw [hnan32, hnan], fun h => by simp [hnan] at h⟩

section Number

variable {w : Nat} (hnan : binary16.isNaN w = false) (hinf : binary16.isInf w = false)
include hnan

/-- A binary16 infinity widens to the binary32 infinity of its sign. -/
theorem convert_binary16_of_isInf (hinf : binary16.isInf w = true) :
    binary16.convert binary32 w < 4294967296 ∧
      binary16.Represents w binary32 (binary16.convert binary32 w) := by
  have hword : binary16.convert binary32 w =
      (if binary16.sign w then 2147483648 else 0) + 255 * 8388608 + 0 := by
    simp only [convert, hnan, hinf, Bool.false_eq_true, if_false, if_true, inf,
      binary32_signWeight, binary32_expAllOnes, binary32_hidden]
  obtain ⟨hs32, hE32, hF32, hlt⟩ :=
    binary32_fields (binary16.sign w) (by norm_num) (by norm_num) hword
  have hinf32 : binary32.isInf (binary16.convert binary32 w) = true := by
    simp [isInf, hE32, hF32]
  have hnan32 : binary32.isNaN (binary16.convert binary32 w) = false := by
    simp [isNaN, hE32, hF32]
  refine ⟨hlt, by rw [hnan32, hnan], fun _ => ?_⟩
  simp only [extended, hinf32, hinf, if_true, hs32]

include hinf

/-- A binary16 zero widens to the binary32 zero of its sign. -/
theorem convert_binary16_of_zero {q : Int} (hdec : binary16.decode w = (binary16.sign w, 0, q)) :
    binary16.convert binary32 w < 4294967296 ∧
      binary16.Represents w binary32 (binary16.convert binary32 w) := by
  have hword : binary16.convert binary32 w =
      (if binary16.sign w then 2147483648 else 0) + 0 * 8388608 + 0 := by
    simp only [convert, hnan, hinf, Bool.false_eq_true, if_false, convertFinite_eq, hdec]
    simp [round, binary32_signWeight]
  obtain ⟨-, hE32, hF32, hlt⟩ :=
    binary32_fields (binary16.sign w) (by norm_num) (by norm_num) hword
  obtain ⟨hnan32, hinf32⟩ :=
    binary32_number_of_expField (binary16.convert binary32 w) (by omega)
  refine ⟨hlt, represents_of_value hnan hinf hnan32 hinf32 ?_⟩
  simp [value, hdec, decode_of_expField_eq_zero _ hE32, hF32]

/-- A nonzero binary16 number widens exactly: its leading bit moves up to the hidden bit of
binary32, at an exponent well inside the normal ones. -/
theorem convert_binary16_of_number {m : Nat} {q : Int}
    (hdec : binary16.decode w = (binary16.sign w, m, q)) (hm0 : m ≠ 0) (hm : m < 2048)
    (hq1 : -24 ≤ q) (hq2 : q ≤ 5) :
    binary16.convert binary32 w < 4294967296 ∧
      binary16.Represents w binary32 (binary16.convert binary32 w) := by
  have hL : Nat.log2 m < 11 := (Nat.log2_lt hm0).2 hm
  obtain ⟨hr1, hr2⟩ := normalize_bounds hm0 (by omega)
  set r := m * 2 ^ (23 - Nat.log2 m) with hr
  set p : Int := (Nat.log2 m : Int) + q - 23 with hp
  have hword : binary16.convert binary32 w =
      (if binary16.sign w then 2147483648 else 0) + (p + 150).toNat * 8388608 + (r - 8388608) := by
    simp only [convert, hnan, hinf, Bool.false_eq_true, if_false, convertFinite_eq, hdec]
    rw [binary32_round_exact _ hm0 (by omega) q (by omega),
      binary32_pack_normal _ hr1 hr2 (by omega) (by omega)]
  obtain ⟨hs32, hE32, hF32, hlt⟩ :=
    binary32_fields (binary16.sign w) (by omega) (by omega) hword
  obtain ⟨hnan32, hinf32⟩ :=
    binary32_number_of_expField (binary16.convert binary32 w) (by omega)
  refine ⟨hlt, represents_of_value hnan hinf hnan32 hinf32 ?_⟩
  rw [binary32_value_of_fields (by omega) ⟨hs32, hE32, hF32⟩]
  simp only [value, hdec]
  -- the significand `m · 2 ^ (23 - log2 m)` at exponent `log2 m + q - 23` is `m · 2 ^ q`
  have hexp : (((p + 150).toNat : Nat) : Int) - 150 = p := by omega
  have hsig : ((r - 8388608 + 8388608 : Nat) : ℚ) * 2 ^ p = (m : ℚ) * 2 ^ q := by
    rw [Nat.sub_add_cancel hr1, hr, Nat.cast_mul, Nat.cast_pow, Nat.cast_ofNat, mul_assoc,
      ← zpow_natCast, ← zpow_add₀ (by norm_num)]
    congr 2
    omega
  rw [hexp]
  cases binary16.sign w
  · simp only [Bool.false_eq_true, if_false]
    rw [hsig]
  · simp only [if_true, neg_mul, hsig]

end Number

/-- Every binary16 word widens to a binary32 word: a NaN to a NaN, and any other word to a word
that stands for the same point of the extended line. -/
theorem convert_binary16_binary32 (w : Nat) :
    binary16.convert binary32 w < 4294967296 ∧
      binary16.Represents w binary32 (binary16.convert binary32 w) := by
  by_cases hnan : binary16.isNaN w = true
  · exact convert_binary16_of_isNaN hnan
  have hnan' : binary16.isNaN w = false := by simpa using hnan
  by_cases hinf : binary16.isInf w = true
  · exact convert_binary16_of_isInf hnan' hinf
  have hinf' : binary16.isInf w = false := by simpa using hinf
  -- a number: the exponent field is not all ones, and the significand has at most 11 bits
  have hfin : binary16.expField w ≠ 31 := by
    intro h
    have := binary16.isNaN_or_isInf_or_isFinite w
    simp [isNaN, isInf, isFinite, h] at this hnan hinf
    omega
  obtain ⟨m, q, hdec, hm, hq1, hq2⟩ := binary16_decode hfin
  by_cases hm0 : m = 0
  · exact convert_binary16_of_zero hnan' hinf' (hm0 ▸ hdec)
  · exact convert_binary16_of_number hnan' hinf' hdec hm0 hm hq1 hq2

/-- Sixteen places moved from the exponent into the significand leave a value unchanged. -/
theorem mul_two_pow_sixteen (c : ℚ) (e : Int) : c * 65536 * 2 ^ (e - 16) = c * 2 ^ e := by
  rw [show (65536 : ℚ) = 2 ^ (16 : Int) by norm_num, mul_assoc, ← zpow_add₀ (by norm_num)]
  congr 2
  omega

end TensorSelect.Float.Format

namespace TensorSelect

/-- A binary16 element widens to the binary32 word that `Format.convert` gives. -/
theorem Binary16.toBinary32_word (x : Binary16) :
    x.toBinary32.word = Format.binary16.convert Format.binary32 x.word := by
  have hlt := (Format.convert_binary16_binary32 x.word).1
  simp only [toBinary32, Binary32.ofWord, Binary32.word, Nat.toUInt32_eq, UInt32.toNat_ofNat']
  omega

/-- Widening a binary16 element is exact. -/
theorem Binary16.represents_toBinary32 (x : Binary16) :
    Format.binary16.Represents x.word Format.binary32 x.toBinary32.word := by
  rw [toBinary32_word]
  exact (Format.convert_binary16_binary32 x.word).2

/-- The binary32 word of a bfloat16 element has its sign and exponent field, and its fraction
sixteen places up. -/
theorem BFloat16.toBinary32_fields (x : BFloat16) :
    Format.binary32.sign x.toBinary32.word = Format.bfloat16.sign x.word ∧
      Format.binary32.expField x.toBinary32.word = Format.bfloat16.expField x.word ∧
      Format.binary32.frac x.toBinary32.word = Format.bfloat16.frac x.word * 65536 := by
  have hsplit := Format.bfloat16.word_eq
    (show x.word < 2 * Format.bfloat16.signWeight by simpa using x.word_lt)
  have hEl := Format.bfloat16.expField_le x.word
  have hFl : Format.bfloat16.frac x.word < 128 := Nat.mod_lt _ (by decide)
  simp only [Format.bfloat16_signWeight, Format.bfloat16_hidden] at hsplit
  rw [Format.bfloat16_expAllOnes] at hEl
  have hword : x.toBinary32.word = (if Format.bfloat16.sign x.word then 2147483648 else 0) +
      Format.bfloat16.expField x.word * 8388608 + Format.bfloat16.frac x.word * 65536 := by
    rw [toBinary32_word]
    cases hsg : Format.bfloat16.sign x.word <;>
      simp only [hsg, Bool.false_eq_true, if_false, if_true] at hsplit ⊢ <;> omega
  obtain ⟨hs, hE, hF, -⟩ := Format.binary32_fields _ (by omega) (by omega) hword
  exact ⟨hs, hE, hF⟩

/-- The binary32 word of a bfloat16 element has its value: the same significand, sixteen places
up, at an exponent sixteen places down. -/
theorem BFloat16.value_toBinary32 (x : BFloat16) :
    Format.binary32.value x.toBinary32.word = Format.bfloat16.value x.word := by
  obtain ⟨hs, hE, hF⟩ := x.toBinary32_fields
  by_cases hE0 : Format.bfloat16.expField x.word = 0
  · -- a subnormal or a zero
    have hsig : ((Format.bfloat16.frac x.word * 65536 : Nat) : ℚ) * 2 ^ (-149 : Int) =
        (Format.bfloat16.frac x.word : ℚ) * 2 ^ (-133 : Int) := by
      rw [show (-149 : Int) = -133 - 16 by norm_num, Nat.cast_mul, Nat.cast_ofNat,
        Format.mul_two_pow_sixteen]
    simp only [Format.value, Format.decode_of_expField_eq_zero _ hE0,
      Format.decode_of_expField_eq_zero _ (hE.trans hE0), hF, hs, Format.binary32_minQ,
      Format.bfloat16_minQ]
    split
    · rw [neg_mul, neg_mul, hsig]
    · exact hsig
  · -- a normal number
    have hsig : ((Format.bfloat16.frac x.word * 65536 + 8388608 : Nat) : ℚ) *
        2 ^ ((Format.bfloat16.expField x.word : Int) - 150) =
        ((Format.bfloat16.frac x.word + 128 : Nat) : ℚ) *
          2 ^ ((Format.bfloat16.expField x.word : Int) - 127 - 7) := by
      rw [show ((Format.bfloat16.expField x.word : Int) - 150) =
        ((Format.bfloat16.expField x.word : Int) - 127 - 7) - 16 by omega,
        show ((Format.bfloat16.frac x.word * 65536 + 8388608 : Nat) : ℚ) =
          ((Format.bfloat16.frac x.word + 128 : Nat) : ℚ) * 65536 by push_cast; ring,
        Format.mul_two_pow_sixteen]
    rw [Format.binary32_value_of_fields hE0 ⟨hs, hE, hF⟩]
    simp only [Format.value, Format.decode_of_expField_ne_zero _ hE0, Format.bfloat16_hidden,
      Format.bfloat16_bias, Format.bfloat16_fracBits, Nat.cast_ofNat]
    split
    · rw [neg_mul, neg_mul, hsig]
    · exact hsig

/-- Widening a bfloat16 element is exact: the sign and the exponent field stay, and the fraction
gains sixteen zero bits. -/
theorem BFloat16.represents_toBinary32 (x : BFloat16) :
    Format.bfloat16.Represents x.word Format.binary32 x.toBinary32.word := by
  obtain ⟨hs, hE, hF⟩ := x.toBinary32_fields
  refine ⟨x.isNaN_toBinary32, fun _ => ?_⟩
  -- an infinity stays one: the exponent field stays, and the fraction is zero in both or neither
  have hinf : Format.binary32.isInf x.toBinary32.word = Format.bfloat16.isInf x.word := by
    simp only [Format.isInf, hE, hF, Format.binary32_expAllOnes, Format.bfloat16_expAllOnes]
    congr 1
    simp only [beq_eq_beq]
    omega
  unfold Format.extended
  rw [hinf, hs, x.value_toBinary32]

end TensorSelect
