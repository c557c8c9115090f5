import Mathlib
import TensorSelect.Proofs.Element.Ranks

/-!
# Brain floats round by one addition

`BFloat16.ofBinary32` keeps the upper half of a binary32 word. Before it cuts, it adds `0x7fff`
and the last kept bit to the word. This module proves that this one addition rounds to nearest
with ties to the even word, as the exact reference `Format.convert` does. The reference decodes
a word to `m · 2 ^ q` and rounds the exact quotient.

* `Format.roundHalfEven_nearest` and `Format.roundHalfEven_tie`: the integer rounding at the
  heart of `Format.round` picks a nearest multiple, and the even one on a tie.
* `Format.round_scaled`: rounding `m · 2 ^ q` into a format rounds `m · 2 ^ (q - p)` to an
  integer, where `p` is the last place that the leading bit of `m · 2 ^ q` leaves to the format.
* `Format.convert_binary32_bfloat16`: narrowing a binary32 word that is not a NaN gives
  `(w + 0x7fff + lsb) / 2 ^ 16`. This holds through subnormals and through a carry out of the
  fraction, and at the top the carry reaches the infinity word.
* `Format.convert_bfloat16_binary32`: widening a bfloat16 word is exact.
* `BFloat16.ofBinary32_rounds_to_nearest_even`: the element conversion is the reference
  rounding, the addition never wraps, a NaN stays a NaN of the same sign, and a brain float read
  as binary32 narrows back to itself.
-/

open TensorSelect.Float

namespace TensorSelect.Float.Format

/-! ## Rounding a quotient to an integer -/

theorem roundHalfEven_cases (num den : Nat) :
    (roundHalfEven num den = num / den ∧ 2 * (num % den) ≤ den) ∨
      (roundHalfEven num den = num / den + 1 ∧ den ≤ 2 * (num % den)) := by
  simp only [roundHalfEven]
  split_ifs <;> omega

/-- Every multiple of `den` lies at or below `q · den`, or at or above the next multiple. -/
theorem mul_le_or_le_mul (k q den : Nat) : k * den ≤ q * den ∨ q * den + den ≤ k * den := by
  rcases Nat.lt_or_ge q k with h | h
  · exact .inr (by simpa [Nat.succ_mul] using Nat.mul_le_mul_right den h)
  · exact .inl (Nat.mul_le_mul_right den h)

/-- `roundHalfEven num den` counts the multiples of `den` up to one nearest to `num`. -/
theorem roundHalfEven_nearest {num den : Nat} (hd : 0 < den) (k : Nat) :
    ((num : Int) - roundHalfEven num den * den).natAbs ≤ ((num : Int) - k * den).natAbs := by
  have hdm := Nat.div_add_mod' num den
  have hr := Nat.mod_lt num hd
  have hside := mul_le_or_le_mul k (num / den) den
  rcases roundHalfEven_cases num den with ⟨he, h2⟩ | ⟨he, h2⟩ <;> rw [he]
  · omega
  · rw [Nat.cast_add, Nat.cast_one, add_mul, one_mul]; omega

/-- A tie goes to the even count: when another multiple of `den` is as near to `num`, `num` lies
halfway between two neighbours, and `roundHalfEven` picks the even one. -/
theorem roundHalfEven_tie {num den : Nat} (hd : 0 < den) {k : Nat}
    (hk : k ≠ roundHalfEven num den)
    (he : ((num : Int) - roundHalfEven num den * den).natAbs = ((num : Int) - k * den).natAbs) :
    roundHalfEven num den % 2 = 0 := by
  have hdm := Nat.div_add_mod' num den
  have hr := Nat.mod_lt num hd
  -- a multiple of `den` other than the two neighbours of `num` lies a whole `den` further out
  have hfar : k * den + den ≤ num / den * den ∨ k = num / den ∨ k = num / den + 1 ∨
      num / den * den + 2 * den ≤ k * den := by
    rcases Nat.lt_or_ge k (num / den) with h | h
    · exact .inl (by simpa [Nat.succ_mul] using Nat.mul_le_mul_right den h)
    · rcases Nat.lt_or_ge (num / den + 1) k with h' | h'
      · refine .inr (.inr (.inr ?_))
        have := Nat.mul_le_mul_right den h'
        simp only [Nat.succ_mul] at this
        omega
      · omega
  have hup : (((num / den + 1 : Nat) : Int) * den) = ((num / den * den : Nat) : Int) + den := by
    push_cast; ring
  -- two multiples are equally near only when `num` lies halfway between its neighbours
  have htie : 2 * (num % den) = den := by
    rcases roundHalfEven_cases num den with ⟨hq, h2⟩ | ⟨hq, h2⟩ <;> rw [hq] at hk he
    · rcases hfar with h | rfl | rfl | h
      · omega
      · exact absurd rfl hk
      · rw [hup] at he; omega
      · omega
    · rw [hup] at he
      rcases hfar with h | rfl | rfl | h
      · omega
      · omega
      · exact absurd rfl hk
      · omega
  have heven : roundHalfEven num den =
      if num / den % 2 = 0 then num / den else num / den + 1 := by
    simp only [roundHalfEven]
    rw [if_neg (by omega), if_neg (by omega)]
  rw [heven]
  split <;> omega

theorem roundHalfEven_mul_right {c : Nat} (hc : 0 < c) (x y : Nat) :
    roundHalfEven (x * c) (y * c) = roundHalfEven x y := by
  have hq : x * c / (y * c) = x / y := Nat.mul_div_mul_right x y hc
  have hr : x * c % (y * c) = x % y * c := Nat.mul_mod_mul_right c x y
  -- the remainder and the divisor scale together, so each comparison keeps its outcome
  have hlt : 2 * (x % y * c) < y * c ↔ 2 * (x % y) < y := by
    rw [← Nat.mul_assoc]; exact Nat.mul_lt_mul_right hc
  have hgt : 2 * (x % y * c) > y * c ↔ 2 * (x % y) > y := by
    rw [← Nat.mul_assoc]; exact Nat.mul_lt_mul_right hc
  simp only [roundHalfEven, hq, hr, hlt, hgt]

/-- The rounding depends on the quotient alone. -/
theorem roundHalfEven_congr {x y x' y' : Nat} (hy : 0 < y) (hy' : 0 < y')
    (h : x * y' = x' * y) : roundHalfEven x y = roundHalfEven x' y' := by
  rw [← roundHalfEven_mul_right hy' x y, ← roundHalfEven_mul_right hy x' y', h,
    Nat.mul_comm y y']

theorem roundHalfEven_one (x : Nat) : roundHalfEven x 1 = x := by
  simp [roundHalfEven, Nat.mod_one]

/-- Rounding away sixteen bits: add just under half of `2 ^ 16`, and one more when the kept part
is odd, then cut. -/
theorem roundHalfEven_two_pow_sixteen (m : Nat) :
    roundHalfEven m 65536 = (m + 32767 + m / 65536 % 2) / 65536 := by
  simp only [roundHalfEven]
  split_ifs <;> omega

/-! ## Powers of two and the leading bit -/

/-- `powTwo e` puts `2 ^ e` on one side of the quotient and `1` on the other. -/
theorem powTwo_eq (e : Int) : powTwo e = (2 ^ e.toNat, 2 ^ (-e).toNat) := by
  unfold powTwo
  split
  · simp [Nat.pow_eq, show (-e).toNat = 0 by omega]
  · simp [Nat.pow_eq, show e.toNat = 0 by omega]

theorem powTwo_sixteen : powTwo 16 = (65536, 1) := by
  simp [powTwo_eq]

theorem powTwo_neg_sixteen : powTwo (-16) = (1, 65536) := by
  simp [powTwo_eq]

theorem log2_mul_two_pow {m : Nat} (hm : m ≠ 0) (k : Nat) :
    Nat.log2 (m * 2 ^ k) = Nat.log2 m + k := by
  rw [Nat.log2_eq_iff (Nat.mul_ne_zero hm (by positivity))]
  have h1 := Nat.log2_self_le hm
  have h2 := Nat.lt_log2_self (n := m)
  constructor
  · rw [Nat.pow_add]; exact Nat.mul_le_mul_right _ h1
  · rw [show Nat.log2 m + k + 1 = (Nat.log2 m + 1) + k by omega, Nat.pow_add]
    exact Nat.mul_lt_mul_of_pos_right h2 (by positivity)

/-- The leading bit of `m · 2 ^ q` sits at place `log2 m + q`. -/
theorem floorLog2_scaled {m : Nat} (hm : m ≠ 0) (q : Int) :
    floorLog2 (m * (powTwo q).1) (powTwo q).2 = (Nat.log2 m : Int) + q := by
  have h1 := Nat.log2_self_le hm
  simp only [floorLog2, powTwo_eq, log2_mul_two_pow hm, Nat.log2_two_pow]
  generalize he : ((Nat.log2 m + q.toNat : Nat) : Int) - ((-q).toNat : Nat) = e
  -- the guess `e` is exact: `m · 2 ^ q ≥ 2 ^ e` because `m ≥ 2 ^ log2 m`
  have hexp : (-q).toNat + e.toNat = Nat.log2 m + (q.toNat + (-e).toNat) := by omega
  rw [if_pos]
  · omega
  · calc 2 ^ (-q).toNat * 2 ^ e.toNat
          = 2 ^ Nat.log2 m * (2 ^ q.toNat * 2 ^ (-e).toNat) := by
            rw [← Nat.pow_add, ← Nat.pow_add, ← Nat.pow_add, hexp]
      _ ≤ m * (2 ^ q.toNat * 2 ^ (-e).toNat) := Nat.mul_le_mul_right _ h1
      _ = m * 2 ^ q.toNat * 2 ^ (-e).toNat := (Nat.mul_assoc _ _ _).symm

/-! ## Rounding a scaled significand -/

variable (f : Format)

/-- Rounding `m · 2 ^ q` rounds `m · 2 ^ (q - p)` to an integer, where `p` is the last place:
`fracBits` places below the leading bit, but never below `minQ`. A count that reaches
`2 · hidden` has carried into the next binade. -/
theorem round_scaled (neg : Bool) {m : Nat} (hm : m ≠ 0) (q : Int) :
    f.round neg (m * (powTwo q).1) (powTwo q).2 =
      let p := max ((Nat.log2 m : Int) + q - f.fracBits) f.minQ
      let r := roundHalfEven (m * (powTwo (q - p)).1) (powTwo (q - p)).2
      if r = 2 * f.hidden then f.pack neg f.hidden (p + 1) else f.pack neg r p := by
  have hnum : m * (powTwo q).1 ≠ 0 := by rw [powTwo_eq]; positivity
  -- dividing `m · 2 ^ q` by `2 ^ p` leaves `m · 2 ^ (q - p)`
  have hr : ∀ p : Int,
      roundHalfEven (m * 2 ^ q.toNat * 2 ^ (-p).toNat) (2 ^ (-q).toNat * 2 ^ p.toNat) =
        roundHalfEven (m * 2 ^ (q - p).toNat) (2 ^ (-(q - p)).toNat) := by
    intro p
    apply roundHalfEven_congr (by positivity) (by positivity)
    rw [Nat.mul_assoc, Nat.mul_assoc, Nat.mul_assoc, ← Nat.pow_add, ← Nat.pow_add,
      ← Nat.pow_add, ← Nat.pow_add]
    congr 2
    omega
  unfold round
  rw [if_neg hnum, floorLog2_scaled hm]
  simp only [powTwo_eq, hr]

theorem convertFinite_eq (g : Format) (w : Nat) :
    f.convertFinite g w =
      g.round (f.decode w).1 ((f.decode w).2.1 * (powTwo (f.decode w).2.2).1)
        (powTwo (f.decode w).2.2).2 := rfl

theorem decode_of_expField_eq_zero {w : Nat} (h : f.expField w = 0) :
    f.decode w = (f.sign w, f.frac w, f.minQ) := if_pos h

theorem decode_of_expField_ne_zero {w : Nat} (h : f.expField w ≠ 0) :
    f.decode w =
      (f.sign w, f.frac w + f.hidden, (f.expField w : Int) - f.bias - f.fracBits) :=
  if_neg h

/-- A word below twice the sign weight is its sign bit, its exponent field and its fraction. -/
theorem word_eq {w : Nat} (hw : w < 2 * f.signWeight) :
    w = (if f.sign w then f.signWeight else 0) + f.expField w * f.hidden + f.frac w := by
  have hmag := Nat.div_add_mod (f.magnitude w) f.hidden
  rw [magnitude_div_hidden, magnitude_mod_hidden, Nat.mul_comm] at hmag
  have hsw := Nat.div_add_mod w f.signWeight
  have hlt : w / f.signWeight < 2 := Nat.div_lt_of_lt_mul (by rwa [Nat.mul_comm])
  simp only [sign, magnitude] at hmag ⊢
  -- below twice the sign weight, the sign bit is the whole quotient
  obtain hk | hk : w / f.signWeight = 0 ∨ w / f.signWeight = 1 := by
    generalize w / f.signWeight = k at hlt; omega
  · simp only [hk, Nat.zero_mod, Nat.mul_zero] at hsw ⊢; simp; omega
  · simp only [hk, Nat.one_mod, Nat.mul_one] at hsw ⊢; simp; omega

/-! ## The constants of binary32 and bfloat16 -/

section Constants

@[simp] theorem binary32_expBits : binary32.expBits = 8 := rfl
@[simp] theorem binary32_fracBits : binary32.fracBits = 23 := rfl
@[simp] theorem binary32_hidden : binary32.hidden = 8388608 := rfl
@[simp] theorem binary32_signWeight : binary32.signWeight = 2147483648 := rfl
@[simp] theorem binary32_expAllOnes : binary32.expAllOnes = 255 := rfl
@[simp] theorem binary32_bias : binary32.bias = 127 := rfl
@[simp] theorem binary32_minQ : binary32.minQ = -149 := rfl
@[simp] theorem binary32_maxQ : binary32.maxQ = 104 := by decide
@[simp] theorem bfloat16_expBits : bfloat16.expBits = 8 := rfl
@[simp] theorem bfloat16_fracBits : bfloat16.fracBits = 7 := rfl
@[simp] theorem bfloat16_hidden : bfloat16.hidden = 128 := rfl
@[simp] theorem bfloat16_signWeight : bfloat16.signWeight = 32768 := rfl
@[simp] theorem bfloat16_expAllOnes : bfloat16.expAllOnes = 255 := rfl
@[simp] theorem bfloat16_bias : bfloat16.bias = 127 := rfl
@[simp] theorem bfloat16_minQ : bfloat16.minQ = -133 := rfl
@[simp] theorem bfloat16_maxQ : bfloat16.maxQ = 120 := by decide

end Constants

/-! ## Narrowing binary32 to bfloat16 -/

/-- Rounding a binary32 word to its upper half rounds the fraction. The sign and the exponent
pass through, and a carry out of the fraction lands in the exponent. -/
theorem round_half_fields {w : Nat} (s : Bool) (E F : Nat)
    (hw : w = (if s then 2147483648 else 0) + E * 8388608 + F) :
    (w + 32767 + w / 65536 % 2) / 65536 =
      (if s then 32768 else 0) + E * 128 + (F + 32767 + F / 65536 % 2) / 65536 := by
  -- the upper half of the word is the sign, the exponent and the top of the fraction
  have hhi : w / 65536 = (if s then 32768 else 0) + E * 128 + F / 65536 := by
    cases s <;> simp only [hw, Bool.false_eq_true, if_false, if_true] <;> omega
  rw [hhi]
  cases s <;> simp only [hw, Bool.false_eq_true, if_false, if_true] <;> omega

/-- Rounding `m · 2 ^ q` into bfloat16 when its last place falls sixteen places above `q`: the
significand is `m / 2 ^ 16` rounded by one addition, and a carry to `256` moves up a binade. -/
theorem bfloat16_round_of_lastPlace (neg : Bool) {m : Nat} (hm : m ≠ 0) (q : Int)
    (hp : max ((Nat.log2 m : Int) + q - 7) (-133) = q + 16) :
    bfloat16.round neg (m * (powTwo q).1) (powTwo q).2 =
      let r := (m + 32767 + m / 65536 % 2) / 65536
      if r = 256 then bfloat16.pack neg 128 (q + 17) else bfloat16.pack neg r (q + 16) := by
  rw [round_scaled _ _ hm]
  simp only [bfloat16_fracBits, bfloat16_minQ, bfloat16_hidden, Nat.cast_ofNat, hp,
    show q - (q + 16) = -16 by omega, show q + 16 + 1 = q + 17 by omega, powTwo_neg_sixteen,
    Nat.mul_one, roundHalfEven_two_pow_sixteen]

/-- A binary32 number narrows to bfloat16 by the one addition: a zero, a subnormal and a normal
number alike. The largest numbers carry into the infinity word. -/
theorem convertFinite_binary32_bfloat16 {w : Nat} (hw : w < 2 ^ 32)
    (hfin : binary32.expField w ≠ binary32.expAllOnes) :
    binary32.convertFinite bfloat16 w = (w + 32767 + w / 65536 % 2) / 65536 := by
  have hEl := binary32.expField_le w
  have hFl : binary32.frac w < binary32.hidden := Nat.mod_lt _ binary32.hidden_pos
  rw [binary32_expAllOnes] at hEl hfin
  rw [binary32_hidden] at hFl
  have hsplit := binary32.word_eq (show w < 2 * binary32.signWeight by simpa using hw)
  simp only [binary32_signWeight, binary32_hidden] at hsplit
  rw [round_half_fields _ _ _ hsplit, convertFinite_eq]
  by_cases hE : binary32.expField w = 0
  · rw [decode_of_expField_eq_zero _ hE, hE]
    by_cases hF : binary32.frac w = 0
    · -- a zero keeps its sign
      simp only [hF, Nat.zero_mul, round, if_true, bfloat16_signWeight]
      split <;> omega
    · -- a subnormal: its last place lands on the least exponent of the narrow format
      have hl : Nat.log2 (binary32.frac w) < 23 := (Nat.log2_lt hF).2 hFl
      rw [bfloat16_round_of_lastPlace _ hF binary32.minQ (by rw [binary32_minQ]; omega)]
      simp only [binary32_minQ, pack, bfloat16_hidden, bfloat16_signWeight, bfloat16_maxQ,
        bfloat16_minQ, inf, bfloat16_expAllOnes]
      generalize binary32.frac w = F at *
      generalize binary32.sign w = s at *
      split_ifs <;> omega
  · -- a normal number: the hidden bit puts the leading bit at place 23
    rw [decode_of_expField_ne_zero _ hE]
    have hm : binary32.frac w + binary32.hidden ≠ 0 := by simp
    have hl : Nat.log2 (binary32.frac w + binary32.hidden) = 23 := by
      rw [Nat.log2_eq_iff hm, binary32_hidden]; omega
    rw [bfloat16_round_of_lastPlace _ hm _
      (by simp only [hl, binary32_bias, binary32_fracBits]; omega)]
    simp only [binary32_bias, binary32_fracBits, binary32_hidden, pack, bfloat16_hidden,
      bfloat16_signWeight, bfloat16_maxQ, bfloat16_minQ, inf, bfloat16_expAllOnes]
    generalize binary32.frac w = F at *
    generalize binary32.expField w = E at *
    generalize binary32.sign w = s at *
    split_ifs <;> omega

/-- Narrowing a binary32 word that is not a NaN to bfloat16 rounds its upper half by the one
addition. -/
theorem convert_binary32_bfloat16 {w : Nat} (hw : w < 2 ^ 32)
    (hnan : binary32.isNaN w = false) :
    binary32.convert bfloat16 w = (w + 32767 + w / 65536 % 2) / 65536 := by
  unfold convert
  simp only [hnan, Bool.false_eq_true, if_false]
  split
  · -- an infinity has no fraction to round
    rename_i hinf
    have hE : binary32.expField w = 255 ∧ binary32.frac w = 0 := by
      simpa [isInf] using hinf
    have hsplit := binary32.word_eq (show w < 2 * binary32.signWeight by simpa using hw)
    simp only [binary32_signWeight, binary32_hidden] at hsplit
    rw [round_half_fields _ _ _ hsplit, hE.1, hE.2]
    simp only [inf, bfloat16_signWeight, bfloat16_expAllOnes, bfloat16_hidden]
  · rename_i hinf
    apply convertFinite_binary32_bfloat16 hw
    have hclass := binary32.isNaN_or_isInf_or_isFinite w
    simpa [hnan, hinf, isFinite] using hclass

/-! ## Widening bfloat16 to binary32 -/

/-- Rounding `m · 2 ^ q` into binary32 when its last place falls sixteen places below `q`: the
value is exact, with significand `2 ^ 16 · m`. -/
theorem binary32_round_of_lastPlace (neg : Bool) {m : Nat} (hm : m ≠ 0) (hm' : m < 256)
    (q : Int) (hp : max ((Nat.log2 m : Int) + q - 23) (-149) = q - 16) :
    binary32.round neg (m * (powTwo q).1) (powTwo q).2 =
      binary32.pack neg (65536 * m) (q - 16) := by
  rw [round_scaled _ _ hm]
  simp only [binary32_fracBits, binary32_minQ, binary32_hidden, Nat.cast_ofNat, hp,
    show q - (q - 16) = 16 by omega, powTwo_sixteen, roundHalfEven_one]
  rw [if_neg (by omega), Nat.mul_comm]

/-- A finite bfloat16 number widens to binary32 exactly, sixteen places up: a zero, a subnormal
and a normal number alike. -/
theorem convertFinite_bfloat16_binary32 {v : Nat} (hv : v < 65536)
    (hfin : bfloat16.expField v ≠ bfloat16.expAllOnes) :
    bfloat16.convertFinite binary32 v = 65536 * v := by
  have hsplit := bfloat16.word_eq (show v < 2 * bfloat16.signWeight by simpa using hv)
  simp only [bfloat16_signWeight, bfloat16_hidden] at hsplit
  have hEl := bfloat16.expField_le v
  have hFl : bfloat16.frac v < bfloat16.hidden := Nat.mod_lt _ bfloat16.hidden_pos
  rw [bfloat16_expAllOnes] at hEl hfin
  rw [bfloat16_hidden] at hFl
  rw [convertFinite_eq]
  by_cases hE : bfloat16.expField v = 0
  · rw [decode_of_expField_eq_zero _ hE]
    rw [hE] at hsplit
    by_cases hF : bfloat16.frac v = 0
    · -- a zero keeps its sign
      simp only [hF, Nat.zero_mul, round, if_true, binary32_signWeight]
      rw [hF] at hsplit
      generalize bfloat16.sign v = s at *
      cases s <;> simp only [Bool.false_eq_true, if_false, if_true] at hsplit ⊢ <;> omega
    · -- a subnormal lands sixteen places up, still below the hidden bit of binary32
      have hl : Nat.log2 (bfloat16.frac v) < 7 := (Nat.log2_lt hF).2 hFl
      rw [binary32_round_of_lastPlace _ hF (by omega) bfloat16.minQ
        (by rw [bfloat16_minQ]; omega)]
      generalize bfloat16.frac v = F at *
      generalize bfloat16.sign v = s at *
      simp only [bfloat16_minQ, pack, binary32_hidden, binary32_signWeight, binary32_maxQ,
        binary32_minQ, inf, binary32_expAllOnes]
      rw [if_neg (by omega), if_pos (by omega)]
      cases s <;> simp only [Bool.false_eq_true, if_false, if_true] at hsplit ⊢ <;> omega
  · -- a normal number keeps its exponent
    rw [decode_of_expField_ne_zero _ hE]
    have hm : bfloat16.frac v + bfloat16.hidden ≠ 0 := by simp
    have hl : Nat.log2 (bfloat16.frac v + bfloat16.hidden) = 7 := by
      rw [Nat.log2_eq_iff hm, bfloat16_hidden]; omega
    rw [binary32_round_of_lastPlace _ hm (by rw [bfloat16_hidden]; omega) _
      (by simp only [hl, bfloat16_bias, bfloat16_fracBits]; omega)]
    simp only [bfloat16_bias, bfloat16_fracBits, bfloat16_hidden]
    generalize bfloat16.frac v = F at *
    generalize bfloat16.expField v = E at *
    generalize bfloat16.sign v = s at *
    simp only [pack, binary32_hidden, binary32_signWeight, binary32_maxQ, binary32_minQ, inf,
      binary32_expAllOnes]
    cases s <;> simp only [Bool.false_eq_true, if_false, if_true] at hsplit ⊢ <;>
      split_ifs <;> omega

/-- Widening a bfloat16 word to binary32 is exact: every word, NaNs included, moves to the upper
half. -/
theorem convert_bfloat16_binary32 {v : Nat} (hv : v < 65536) :
    bfloat16.convert binary32 v = 65536 * v := by
  have hsplit := bfloat16.word_eq (show v < 2 * bfloat16.signWeight by simpa using hv)
  simp only [bfloat16_signWeight, bfloat16_hidden] at hsplit
  unfold convert
  by_cases hnan : bfloat16.isNaN v = true
  · -- a NaN keeps its payload, shifted up
    have hE : bfloat16.expField v = 255 := by simp [isNaN] at hnan; exact hnan.1
    simp only [hnan, if_true, binary32_fracBits, bfloat16_fracBits, binary32_signWeight,
      binary32_expAllOnes, binary32_hidden]
    rw [hE] at hsplit
    generalize bfloat16.frac v = F at *
    generalize bfloat16.sign v = s at *
    cases s <;> simp only [Bool.false_eq_true, if_false, if_true] at hsplit ⊢ <;> simp <;> omega
  simp only [hnan, Bool.false_eq_true, if_false]
  by_cases hinf : bfloat16.isInf v = true
  · -- an infinity stays one
    have hE : bfloat16.expField v = 255 ∧ bfloat16.frac v = 0 := by simpa [isInf] using hinf
    simp only [hinf, if_true, inf, binary32_signWeight, binary32_expAllOnes, binary32_hidden]
    rw [hE.1, hE.2] at hsplit
    generalize bfloat16.sign v = s at *
    cases s <;> simp only [Bool.false_eq_true, if_false, if_true] at hsplit ⊢ <;> omega
  simp only [hinf, Bool.false_eq_true, if_false]
  apply convertFinite_bfloat16_binary32 hv
  have hclass := bfloat16.isNaN_or_isInf_or_isFinite v
  simpa [hnan, hinf, isFinite] using hclass

end TensorSelect.Float.Format

namespace TensorSelect

theorem Binary32.word_lt (x : Binary32) : x.word < 2 ^ 32 := x.bits.toNat_lt

namespace BFloat16

theorem word_lt (x : BFloat16) : x.word < 65536 := x.bits.toNat_lt

theorem ext_word {x y : BFloat16} (h : x.word = y.word) : x = y := by
  cases x; cases y; congr; exact UInt16.toNat_inj.1 h

/-- Widening shifts the word into the upper half of a binary32 word. -/
theorem toBinary32_word (x : BFloat16) : x.toBinary32.word = 65536 * x.word := by
  have := x.word_lt
  simp only [toBinary32, Binary32.word, word, UInt32.toNat_shiftLeft, UInt16.toNat_toUInt32,
    Nat.shiftLeft_eq] at this ⊢
  simp only [UInt32.reduceToNat, Nat.reduceMod, Nat.reducePow]
  omega

/-- The rounding addition (the word, just under half of the dropped part, and the last kept bit)
stays below `2 ^ 32` for every word that is not a NaN, so the machine addition does not wrap. -/
theorem ofBinary32_sum {x : Binary32} (h : x.isNaN = false) :
    (x.bits + 0x7fff + (x.bits >>> (16 : UInt32) &&& (1 : UInt32))).toNat =
        x.bits.toNat + 0x7fff + (x.bits >>> (16 : UInt32) &&& (1 : UInt32)).toNat ∧
      x.word + 32767 + x.word / 65536 % 2 < 2 ^ 32 := by
  have hw := x.word_lt
  -- the words above the largest non-NaN word are all NaNs
  have hn : ¬ (x.word / 8388608 % 256 = 255 ∧ x.word % 8388608 ≠ 0) := by
    simpa [Binary32.isNaN, Format.isNaN, Format.expField, Format.frac, Format.hidden,
      Format.expAllOnes, Format.binary32] using h
  have hlt : x.word + 32767 + x.word / 65536 % 2 < 2 ^ 32 := by omega
  refine ⟨?_, hlt⟩
  simp only [UInt32.toNat_add, UInt32.toNat_and, UInt32.toNat_shiftRight, UInt32.reduceToNat,
    Nat.reduceMod, Nat.shiftRight_eq_div_pow, Nat.and_one_is_mod, Nat.reducePow]
  simp only [Binary32.word] at hlt
  omega

/-- The word of a rounded number: the rounding addition shifted down by sixteen places. -/
theorem ofBinary32_word {x : Binary32} (h : x.isNaN = false) :
    (ofBinary32 x).word = (x.word + 32767 + x.word / 65536 % 2) / 65536 := by
  have hlt := (ofBinary32_sum h).2
  simp only [ofBinary32, h, Bool.false_eq_true, if_false, word, UInt32.toNat_toUInt16,
    UInt32.toNat_shiftRight, UInt32.toNat_add, UInt32.toNat_and]
  simp only [Binary32.word] at hlt ⊢
  simp only [UInt32.reduceToNat, Nat.reduceMod, Nat.shiftRight_eq_div_pow, Nat.and_one_is_mod,
    Nat.reducePow] at hlt ⊢
  omega

/-- A number narrows to the bfloat16 word nearest to it, a tie going to the even word. -/
theorem ofBinary32_word_eq_convert {x : Binary32} (h : x.isNaN = false) :
    (ofBinary32 x).word = Format.binary32.convert Format.bfloat16 x.word := by
  rw [ofBinary32_word h, Format.convert_binary32_bfloat16 x.word_lt h]

theorem isNaN_toBinary32 (f : BFloat16) : f.toBinary32.isNaN = f.isNaN := by
  -- the exponent field stays where it was, and the fraction moves up by sixteen places
  have hE : Format.binary32.expField (65536 * f.word) = Format.bfloat16.expField f.word := by
    simp only [Format.expField, Format.binary32_hidden, Format.bfloat16_hidden,
      Format.binary32_expBits, Format.bfloat16_expBits, Nat.pow_eq, Nat.reducePow]
    omega
  have hF : Format.binary32.frac (65536 * f.word) = 65536 * Format.bfloat16.frac f.word := by
    simp only [Format.frac, Format.binary32_hidden, Format.bfloat16_hidden]
    omega
  simp only [Binary32.isNaN, isNaN, toBinary32_word, Format.isNaN, hE, hF,
    Format.binary32_expAllOnes, Format.bfloat16_expAllOnes]
  congr 1
  simp only [bne, Bool.not_inj_iff, beq_eq_beq]
  omega

/-- A brain float read as binary32 narrows back to itself. -/
theorem ofBinary32_toBinary32_of_not_isNaN {f : BFloat16} (h : f.isNaN = false) :
    ofBinary32 f.toBinary32 = f := by
  apply ext_word
  rw [ofBinary32_word (by rw [isNaN_toBinary32, h]), toBinary32_word]
  omega

/-- A NaN keeps the upper half of its word, with the quiet bits set. -/
theorem ofBinary32_word_of_isNaN {x : Binary32} (h : x.isNaN = true) :
    (ofBinary32 x).word = x.word / 65536 ||| 0x7fc0 := by
  have := x.word_lt
  simp only [ofBinary32, h, if_true, word, UInt16.toNat_or, UInt32.toNat_toUInt16,
    UInt32.toNat_shiftRight, Binary32.word] at this ⊢
  simp only [UInt32.reduceToNat, UInt16.reduceToNat, Nat.reduceMod, Nat.shiftRight_eq_div_pow,
    Nat.reducePow]
  rw [Nat.mod_eq_of_lt (by omega)]

/-- Setting the quiet bits of a word makes a NaN and keeps the sign bit: the quiet bits fill the
exponent field and the top of the fraction, and leave the sign bit alone. -/
theorem quiet_isNaN_sign (y : Nat) :
    Format.bfloat16.isNaN (y ||| 0x7fc0) = true ∧
      Format.bfloat16.sign (y ||| 0x7fc0) = (y / 32768 % 2 == 1) := by
  have hE : (y ||| 0x7fc0) / 2 ^ 7 % 2 ^ 8 = 255 := by
    rw [Nat.or_div_two_pow, Nat.or_mod_two_pow]
    have hlt : y / 2 ^ 7 % 2 ^ 8 ||| 0x7fc0 / 2 ^ 7 % 2 ^ 8 < 2 ^ 8 :=
      Nat.or_lt_two_pow (Nat.mod_lt _ (by decide)) (by decide)
    have hge : 0x7fc0 / 2 ^ 7 % 2 ^ 8 ≤ y / 2 ^ 7 % 2 ^ 8 ||| 0x7fc0 / 2 ^ 7 % 2 ^ 8 :=
      Nat.right_le_or
    simp only [Nat.reducePow, Nat.reduceDiv, Nat.reduceMod] at hlt hge ⊢
    omega
  have hF : (y ||| 0x7fc0) % 2 ^ 7 ≠ 0 := by
    rw [Nat.or_mod_two_pow]
    have hge : 0x7fc0 % 2 ^ 7 ≤ y % 2 ^ 7 ||| 0x7fc0 % 2 ^ 7 := Nat.right_le_or
    simp only [Nat.reducePow, Nat.reduceMod] at hge ⊢
    omega
  have hS : (y ||| 0x7fc0) / 2 ^ 15 = y / 2 ^ 15 := by
    rw [Nat.or_div_two_pow]
    simp
  simp only [Nat.reducePow] at hE hF hS
  refine ⟨?_, ?_⟩
  · simp [Format.isNaN, Format.expField, Format.frac, hE, hF]
  · simp [Format.sign, hS]

/-- A NaN narrows to a NaN of the same sign. -/
theorem ofBinary32_isNaN_isNeg {x : Binary32} (h : x.isNaN = true) :
    (ofBinary32 x).isNaN = true ∧ (ofBinary32 x).isNeg = Format.binary32.sign x.word := by
  obtain ⟨hn, hs⟩ := quiet_isNaN_sign (x.word / 65536)
  refine ⟨by rw [isNaN, ofBinary32_word_of_isNaN h]; exact hn, ?_⟩
  rw [isNeg, ofBinary32_word_of_isNaN h, hs]
  simp [Format.sign, Format.binary32_signWeight, Nat.div_div_eq_div_mul]

theorem ofBinary32_rounds_to_nearest_even :
    (∀ x : Binary32, x.isNaN = false →
      (x.bits + 0x7fff + (x.bits >>> (16 : UInt32) &&& (1 : UInt32))).toNat =
          x.bits.toNat + 0x7fff + (x.bits >>> (16 : UInt32) &&& (1 : UInt32)).toNat ∧
        (ofBinary32 x).toBinary32.word =
          Format.bfloat16.convert Format.binary32
            (Format.binary32.convert Format.bfloat16 x.word)) ∧
    (∀ x : Binary32, x.isNaN = true →
      (ofBinary32 x).isNaN = true ∧ (ofBinary32 x).isNeg = Format.binary32.sign x.word) ∧
    ∀ f : BFloat16, f.isNaN = false → ofBinary32 f.toBinary32 = f := by
  refine ⟨fun x hx => ⟨(ofBinary32_sum hx).1, ?_⟩, fun x hx => ofBinary32_isNaN_isNeg hx,
    fun f hf => ofBinary32_toBinary32_of_not_isNaN hf⟩
  -- widening the rounded word back is exact
  rw [toBinary32_word, ← ofBinary32_word_eq_convert hx,
    Format.convert_bfloat16_binary32 (ofBinary32 x).word_lt]

theorem ofBinary32_rounds_tie_to_even :
    (Binary32.isNaN ⟨0x3f818000⟩ = false ∧
      (ofBinary32 ⟨0x3f818000⟩).toBinary32.word =
        Format.bfloat16.convert Format.binary32
          (Format.binary32.convert Format.bfloat16 (Binary32.word ⟨0x3f818000⟩))) ∧
    (Binary32.isNaN ⟨0xffc00001⟩ = true ∧ (ofBinary32 ⟨0xffc00001⟩).isNaN = true ∧
      (ofBinary32 ⟨0xffc00001⟩).isNeg = Format.binary32.sign (Binary32.word ⟨0xffc00001⟩)) ∧
    (BFloat16.isNaN ⟨0x3f81⟩ = false ∧ ofBinary32 (BFloat16.toBinary32 ⟨0x3f81⟩) = ⟨0x3f81⟩) :=
  ⟨⟨by decide, (ofBinary32_rounds_to_nearest_even.1 _ (by decide)).2⟩,
    ⟨by decide, ofBinary32_rounds_to_nearest_even.2.1 _ (by decide)⟩,
    ⟨by decide, ofBinary32_rounds_to_nearest_even.2.2 _ (by decide)⟩⟩

-- a tie between `0x3f81` and `0x3f82` goes to the even word, and the largest finite binary32
-- number carries into infinity
example : (ofBinary32 ⟨0x3f818000⟩).word = 0x3f82 := by decide
example : (ofBinary32 ⟨0x7f7fffff⟩).word = 0x7f80 := by decide

end BFloat16

end TensorSelect
