import Mathlib
import TensorSelect.Proofs.Element.Widening
import TensorSelect.Proofs.Select.Selection

/-!
# The comparisons of the kernels and of the reference

The selection's order of entries, `Entry.before`, compares ranks. The kernels and the reference
compare values with the machine's own operators instead, each in its own form:

* the kernels, for the integer types and binary32 and binary64, test `a < b` and `a > b` and
  `x != x` (the machine's NaN test) directly (`kernelBefore`);
* the reference, for every ordered type, is given an order of values, `lessNumeric`: the
  machine's less-than with a NaN above every other value and level with every NaN, the 16-bit
  floats compared as the binary32 numbers they widen to (`refBefore`).

In both forms the better value wins, and when neither value is better the smaller index does.
This module proves that the two forms are one comparison (`kernelBefore_eq_refBefore`), and that
on scalars of one ordered type it is the selection's order (`refBefore_less_eq_before`), because
`lessNumeric` is the order of ranks (`Scalar.compare_eq_rank`). So it is a strict total order on
entries with distinct indices, NaNs rank above every number, the two zeros
(`Format.valueEq_zero_signWeight`) and any two NaNs tie, and the padding value of a type loses to
every element at a smaller index (`kernel_and_reference_share_one_order`).
-/

open TensorSelect.Float

namespace TensorSelect

namespace Select

/-! ## The two forms -/

section Forms

variable {α : Type} (lt : α → α → Bool) (isNaN : α → Bool)

/-- The order of values that the reference is given: the machine's less-than, with a NaN above
every other value and level with every NaN. -/
def lessNumeric (a b : α) : Bool := lt a b || (!isNaN a && isNaN b)

/-- The kernels' comparison of a value and its index with another: in mode `max` a greater
value, or a NaN over a number, is better; otherwise a smaller value, or a number under a NaN.
When neither value is better, the smaller index comes first. -/
def kernelBefore (m : Mode) (a : α) (i : Nat) (b : α) (j : Nat) : Bool :=
  let better := if m == .max then lt b a || (isNaN a && !isNaN b)
    else lt a b || (!isNaN a && isNaN b)
  let worse := if m == .max then lt a b || (isNaN b && !isNaN a)
    else lt b a || (!isNaN b && isNaN a)
  if better || worse then better else decide (i < j)

/-- The reference's comparison, built from an order of values: in mode `max` the greater value
is better, otherwise the smaller. When neither value is better, the smaller index comes
first. -/
def refBefore (less : α → α → Bool) (m : Mode) (a : α) (i : Nat) (b : α) (j : Nat) : Bool :=
  let better := if m == .max then less b a else less a b
  let worse := if m == .max then less a b else less b a
  if better || worse then better else decide (i < j)

/-- The kernels' comparison is the reference's, built from `lessNumeric`: each clause of the
kernel is one side of `lessNumeric`. -/
theorem kernelBefore_eq_refBefore (m : Mode) (a : α) (i : Nat) (b : α) (j : Nat) :
    kernelBefore lt isNaN m a i b j = refBefore (lessNumeric lt isNaN) m a i b j := by
  unfold kernelBefore refBefore lessNumeric
  cases m <;> simp only [beq_self_eq_true, reduceCtorEq, beq_iff_eq, if_true, if_false,
    Bool.and_comm]

/-- The reference's comparison, given an order of values by an integer key, is the selection's
order of the entries keyed so. -/
theorem refBefore_eq_before {less : α → α → Bool} {key : α → Int} {a b : α}
    (hab : less a b = decide (key a < key b)) (hba : less b a = decide (key b < key a))
    (m : Mode) (i j : Nat) :
    refBefore less m a i b j = Entry.before m ⟨a, key a, i⟩ ⟨b, key b, j⟩ := by
  unfold refBefore Entry.before
  simp only [hab, hba]
  cases m <;> simp only [beq_self_eq_true, reduceCtorEq, beq_iff_eq, if_true, if_false,
    Mode.prefers] <;>
    by_cases hab : key a < key b <;> by_cases hba : key b < key a <;> simp [hab, hba] <;> omega

end Forms

/-! ## The selection's order is strict and total on distinct indices -/

section Order

variable {α : Type} (m : Mode)

theorem Entry.before_irrefl (x : Entry α) : Entry.before m x x = false := by
  rw [Bool.eq_false_iff, ne_eq, comparesBy_before m x x]
  exact lt_irrefl _

theorem Entry.before_trans {x y z : Entry α} (hxy : Entry.before m x y = true)
    (hyz : Entry.before m y z = true) : Entry.before m x z = true := by
  rw [comparesBy_before] at *
  exact lt_trans hxy hyz

/-- Of two entries with distinct indices, one comes before the other. -/
theorem Entry.before_total {x y : Entry α} (h : x.index ≠ y.index) :
    Entry.before m x y = true ∨ Entry.before m y x = true := by
  rw [comparesBy_before, comparesBy_before]
  -- the keys differ in their index
  have hne : Entry.orderKey m x ≠ Entry.orderKey m y := by
    intro heq
    exact h (congrArg (fun key => (ofLex key).2) heq)
  exact lt_or_gt_of_ne hne

end Order

end Select

/-! ## The machine's comparisons of scalars -/

namespace Float.Format

variable {f : Format} (hf : 0 < f.expBits)
include hf

/-- A word equals itself exactly when it is not a NaN. -/
theorem valueEq_self (w : Nat) : f.valueEq w w = !f.isNaN w := by
  rw [valueEq_eq_rank hf]
  cases f.isNaN w <;> simp

/-- `lessNumeric` of the machine's comparison of floats is the order of ranks. -/
theorem lessNumeric_eq_rank (a b : Nat) :
    Select.lessNumeric f.valueLt (fun w => !f.valueEq w w) a b =
      decide (f.rank a < f.rank b) := by
  simp only [Select.lessNumeric, valueEq_self hf, Bool.not_not]
  exact valueLt_or_nan_eq_rank hf a b

/-- Two words are level in `lessNumeric` exactly when the machine finds them equal or both
differ from themselves. -/
theorem valueEq_or_selfNe_eq_rank (a b : Nat) :
    (f.valueEq a b || (!f.valueEq a a && !f.valueEq b b)) = decide (f.rank a = f.rank b) := by
  simp only [valueEq_self hf, Bool.not_not]
  exact valueEq_or_nan_eq_rank hf a b

/-- Words that represent two words of another format exactly compare, under the machine's
comparisons, as the ranks of the words they represent. -/
theorem compare_of_represents {g : Format} (hg : 0 < g.expBits) {a b a' b' : Nat}
    (ha : g.Represents a f a') (hb : g.Represents b f b') :
    Select.lessNumeric f.valueLt (fun w => !f.valueEq w w) a' b' =
        decide (g.rank a < g.rank b) ∧
      (f.valueEq a' b' || (!f.valueEq a' a' && !f.valueEq b' b')) =
        decide (g.rank a = g.rank b) :=
  ⟨(lessNumeric_eq_rank hf a' b').trans (rank_lt_of_represents hg hf ha hb),
    (valueEq_or_selfNe_eq_rank hf a' b').trans (rank_eq_of_represents hg hf ha hb)⟩

end Float.Format

namespace Scalar

/-- The machine's less-than of two elements of one type: integers by their values, floats by
the machine's comparison of floats, the 16-bit floats as the binary32 numbers they widen to.
Elements of two types, and truth values, are never less. -/
def machineLt : Scalar → Scalar → Bool
  | int8 a, int8 b => decide (a < b)
  | int16 a, int16 b => decide (a < b)
  | int32 a, int32 b => decide (a < b)
  | int64 a, int64 b => decide (a < b)
  | uint8 a, uint8 b => decide (a < b)
  | uint16 a, uint16 b => decide (a < b)
  | uint32 a, uint32 b => decide (a < b)
  | uint64 a, uint64 b => decide (a < b)
  | float16 a, float16 b => Format.binary32.valueLt a.toBinary32.word b.toBinary32.word
  | float32 a, float32 b => Format.binary32.valueLt a.word b.word
  | float64 a, float64 b => Format.binary64.valueLt a.word b.word
  | bfloat16 a, bfloat16 b => Format.binary32.valueLt a.toBinary32.word b.toBinary32.word
  | _, _ => false

/-- The machine's equality of two elements of one type (`==`), read as `machineLt` is. -/
def machineEq : Scalar → Scalar → Bool
  | int8 a, int8 b => decide (a = b)
  | int16 a, int16 b => decide (a = b)
  | int32 a, int32 b => decide (a = b)
  | int64 a, int64 b => decide (a = b)
  | uint8 a, uint8 b => decide (a = b)
  | uint16 a, uint16 b => decide (a = b)
  | uint32 a, uint32 b => decide (a = b)
  | uint64 a, uint64 b => decide (a = b)
  | float16 a, float16 b => Format.binary32.valueEq a.toBinary32.word b.toBinary32.word
  | float32 a, float32 b => Format.binary32.valueEq a.word b.word
  | float64 a, float64 b => Format.binary64.valueEq a.word b.word
  | bfloat16 a, bfloat16 b => Format.binary32.valueEq a.toBinary32.word b.toBinary32.word
  | _, _ => false

/-- The machine's test for NaN: an element that differs from itself (`x != x`). -/
def machineIsNaN (x : Scalar) : Bool := !machineEq x x

/-- The reference's order of scalars: `lessNumeric` of the machine's comparisons. -/
def less : Scalar → Scalar → Bool := Select.lessNumeric machineLt machineIsNaN

/-- A type without NaNs, ordered and compared by an integer key: `lessNumeric` is the order of
the keys, and two values are level exactly when their keys are equal. -/
theorem compare_of_key {α : Type} [LT α] [DecidableEq α] [DecidableLT α] (key : α → Int)
    {a b : α} (hlt : a < b ↔ key a < key b) (heq : a = b ↔ key a = key b) :
    (decide (a < b) || (!!decide (a = a) && !decide (b = b))) = decide (key a < key b) ∧
      (decide (a = b) || (!decide (a = a) && !decide (b = b))) = decide (key a = key b) := by
  simp only [decide_true, Bool.not_true, Bool.and_false, Bool.or_false]
  exact ⟨decide_eq_decide.2 hlt, decide_eq_decide.2 heq⟩

/-- `compare_of_key` for a key in the natural numbers. -/
theorem compare_of_natKey {α : Type} [LT α] [DecidableEq α] [DecidableLT α] (key : α → Nat)
    {a b : α} (hlt : a < b ↔ key a < key b) (heq : a = b ↔ key a = key b) :
    (decide (a < b) || (!!decide (a = a) && !decide (b = b))) =
        decide ((key a : Int) < key b) ∧
      (decide (a = b) || (!decide (a = a) && !decide (b = b))) =
        decide ((key a : Int) = key b) :=
  compare_of_key (fun x => (key x : Int)) (hlt.trans Int.ofNat_lt.symm)
    (heq.trans Int.ofNat_inj.symm)

/-- On elements of one ordered type the machine's comparisons are those of the ranks: the
reference's order is the order of ranks, and the machine finds two elements equal, or both NaNs,
exactly when their ranks are equal. -/
theorem compare_eq_rank {a b : Scalar} (h : a.elemType = b.elemType) (ho : a.elemType ≠ .bool) :
    less a b = decide (a.rank < b.rank) ∧
      (machineEq a b || (machineIsNaN a && machineIsNaN b)) = decide (a.rank = b.rank) := by
  have h16 : 0 < Format.binary16.expBits := by decide
  have h32 : 0 < Format.binary32.expBits := by decide
  have h64 : 0 < Format.binary64.expBits := by decide
  have hbf : 0 < Format.bfloat16.expBits := by decide
  cases a <;> cases b <;> simp only [elemType, reduceCtorEq, ne_eq, not_true_eq_false] at h ho
  -- the integers have no NaN, and compare as their values
  case int8.int8 a b => exact compare_of_key Int8.toInt Int8.lt_iff_toInt_lt Int8.toInt_inj.symm
  case int16.int16 a b =>
    exact compare_of_key Int16.toInt Int16.lt_iff_toInt_lt Int16.toInt_inj.symm
  case int32.int32 a b =>
    exact compare_of_key Int32.toInt Int32.lt_iff_toInt_lt Int32.toInt_inj.symm
  case int64.int64 a b =>
    exact compare_of_key Int64.toInt Int64.lt_iff_toInt_lt Int64.toInt_inj.symm
  case uint8.uint8 a b =>
    exact compare_of_natKey UInt8.toNat UInt8.lt_iff_toNat_lt UInt8.toNat_inj.symm
  case uint16.uint16 a b =>
    exact compare_of_natKey UInt16.toNat UInt16.lt_iff_toNat_lt UInt16.toNat_inj.symm
  case uint32.uint32 a b =>
    exact compare_of_natKey UInt32.toNat UInt32.lt_iff_toNat_lt UInt32.toNat_inj.symm
  case uint64.uint64 a b =>
    exact compare_of_natKey UInt64.toNat UInt64.lt_iff_toNat_lt UInt64.toNat_inj.symm
  -- binary32 and binary64 compare as floats; the 16-bit floats as the words they widen to
  case float32.float32 a b =>
    exact ⟨Format.lessNumeric_eq_rank h32 _ _, Format.valueEq_or_selfNe_eq_rank h32 _ _⟩
  case float64.float64 a b =>
    exact ⟨Format.lessNumeric_eq_rank h64 _ _, Format.valueEq_or_selfNe_eq_rank h64 _ _⟩
  case float16.float16 a b =>
    exact Format.compare_of_represents h32 h16 a.represents_toBinary32 b.represents_toBinary32
  case bfloat16.bfloat16 a b =>
    exact Format.compare_of_represents h32 hbf a.represents_toBinary32 b.represents_toBinary32

/-- The padding value of an ordered type in a mode is an element of the type that every element
of the type matches or beats. -/
theorem sentinel_loses {t : ElemType} (ht : t ≠ .bool) (m : Mode) :
    ∃ s, t.toDType.sentinel m = .ok s ∧ s.elemType = t ∧
      ∀ x : Scalar, x.elemType = t → m.direct x.rank ≤ m.direct s.rank := by
  cases t
  case bool => exact absurd rfl ht
  -- the padding is the mode's sentinel of the type, bounded by `Ranked.Bounded`
  all_goals
    cases m <;> refine ⟨_, rfl, rfl, fun x hx => ?_⟩ <;>
      cases x <;> simp only [elemType, reduceCtorEq] at hx <;> exact Mode.direct_le_sentinel _ _

end Scalar

/-! ## One order for the kernels and the reference -/

namespace Select

open Scalar

variable {a b : Scalar}

/-- On elements of one ordered type, the reference's comparison is the selection's order. -/
theorem refBefore_less_eq_before (h : a.elemType = b.elemType) (ho : a.elemType ≠ .bool)
    (m : Mode) (i j : Nat) :
    refBefore less m a i b j = Entry.before m ⟨a, a.rank, i⟩ ⟨b, b.rank, j⟩ :=
  refBefore_eq_before (compare_eq_rank h ho).1 (compare_eq_rank h.symm (h ▸ ho)).1 m i j

/-- A NaN is above every number in the reference's order. -/
theorem less_of_isNaN (h : a.elemType = b.elemType) (ho : a.elemType ≠ .bool)
    (ha : machineIsNaN a = false) (hb : machineIsNaN b = true) :
    less a b = true ∧ less b a = false := by
  have hab : less a b = true := by simp [less, lessNumeric, ha, hb]
  refine ⟨hab, ?_⟩
  rw [(compare_eq_rank h ho).1, decide_eq_true_iff] at hab
  rw [(compare_eq_rank h.symm (h ▸ ho)).1, decide_eq_false_iff_not, not_lt]
  exact hab.le

/-- Two elements are level in the reference's order exactly when the machine finds them equal or
both are NaNs. -/
theorem level_iff (h : a.elemType = b.elemType) (ho : a.elemType ≠ .bool) :
    (!less a b && !less b a) = (machineEq a b || (machineIsNaN a && machineIsNaN b)) := by
  rw [(compare_eq_rank h ho).1, (compare_eq_rank h.symm (h ▸ ho)).1, (compare_eq_rank h ho).2]
  by_cases hlt : a.rank < b.rank <;> by_cases hgt : b.rank < a.rank <;> simp [hlt, hgt] <;> omega

/-- The kernels and the reference compare elements of one ordered type by one order, in every
mode. The kernels' comparison, written with the machine's `<` and `x != x`, is the reference's,
built from `lessNumeric`, and both are the selection's order of the entries keyed by rank. So:
it is irreflexive and transitive, and of two entries with distinct indices one comes first; a
NaN ranks above every number; two elements are level exactly when the machine finds them equal
(as it finds `+0` and `-0`) or both are NaNs; and the type's padding value comes after every
element at a smaller index, even one equal to it. -/
theorem kernel_and_reference_share_one_order (m : Mode) (a b c : Scalar) (i j k : Nat)
    (hab : a.elemType = b.elemType) (hbc : b.elemType = c.elemType) (ho : a.elemType ≠ .bool) :
    kernelBefore machineLt machineIsNaN m a i b j = refBefore less m a i b j ∧
    refBefore less m a i b j = Entry.before m ⟨a, a.rank, i⟩ ⟨b, b.rank, j⟩ ∧
    refBefore less m a i a i = false ∧
    (refBefore less m a i b j = true → refBefore less m b j c k = true →
      refBefore less m a i c k = true) ∧
    (i ≠ j → refBefore less m a i b j = true ∨ refBefore less m b j a i = true) ∧
    (machineIsNaN a = false → machineIsNaN b = true → less a b = true ∧ less b a = false) ∧
    (!less a b && !less b a) = (machineEq a b || (machineIsNaN a && machineIsNaN b)) ∧
    ∃ s, a.elemType.toDType.sentinel m = .ok s ∧
      ∀ p, j < p → refBefore less m a j s p = true := by
  have hac : a.elemType = c.elemType := hab.trans hbc
  have hbefore : ∀ (x y : Scalar), x.elemType = a.elemType → y.elemType = a.elemType →
      ∀ i j, refBefore less m x i y j = Entry.before m ⟨x, x.rank, i⟩ ⟨y, y.rank, j⟩ :=
    fun x y hx hy i j => refBefore_less_eq_before (hx.trans hy.symm) (hx ▸ ho) m i j
  -- the padding: every element at a smaller index comes first, on rank or on index
  have hpad : ∃ s, a.elemType.toDType.sentinel m = .ok s ∧
      ∀ p, j < p → refBefore less m a j s p = true := by
    obtain ⟨s, hs, hst, hle⟩ := sentinel_loses ho m
    refine ⟨s, hs, fun p hp => ?_⟩
    rw [hbefore a s rfl hst, comparesBy_before, Entry.orderKey, Entry.orderKey,
      Prod.Lex.toLex_lt_toLex']
    exact ⟨hle a rfl, fun _ => Nat.cast_lt.2 hp⟩
  refine ⟨kernelBefore_eq_refBefore _ _ m a i b j, hbefore a b rfl hab.symm i j, ?_, ?_, ?_,
    less_of_isNaN hab ho, level_iff hab ho, hpad⟩
  · rw [hbefore a a rfl rfl]
    exact Entry.before_irrefl m _
  · rw [hbefore a b rfl hab.symm, hbefore b c hab.symm hac.symm, hbefore a c rfl hac.symm]
    exact Entry.before_trans m
  · rw [hbefore a b rfl hab.symm, hbefore b a hab.symm rfl]
    exact fun hij => Entry.before_total m (x := ⟨a, a.rank, i⟩) (y := ⟨b, b.rank, j⟩)
      (Nat.cast_injective.ne hij)

/-- The two binary32 zeros and a NaN, in mode `max`. -/
theorem kernel_and_reference_share_one_order_zeros :
    let a := Scalar.float32 ⟨0⟩
    let b := Scalar.float32 ⟨0x80000000⟩
    let c := Scalar.float32 Binary32.nan
    a.elemType = b.elemType ∧ b.elemType = c.elemType ∧ a.elemType ≠ .bool ∧
    kernelBefore machineLt machineIsNaN .max a 0 b 1 = refBefore less .max a 0 b 1 ∧
    refBefore less .max a 0 b 1 = Entry.before .max ⟨a, a.rank, 0⟩ ⟨b, b.rank, 1⟩ ∧
    refBefore less .max a 0 a 0 = false ∧
    (refBefore less .max a 0 b 1 = true → refBefore less .max b 1 c 2 = true →
      refBefore less .max a 0 c 2 = true) ∧
    (0 ≠ 1 → refBefore less .max a 0 b 1 = true ∨ refBefore less .max b 1 a 0 = true) ∧
    (machineIsNaN a = false → machineIsNaN b = true → less a b = true ∧ less b a = false) ∧
    (!less a b && !less b a) = (machineEq a b || (machineIsNaN a && machineIsNaN b)) ∧
    ∃ s, a.elemType.toDType.sentinel .max = .ok s ∧
      ∀ p, 1 < p → refBefore less .max a 1 s p = true := by
  intro a b c
  exact ⟨rfl, rfl, by decide,
    kernel_and_reference_share_one_order .max a b c 0 1 2 rfl rfl (by decide)⟩

/-- The machine finds the two zeros equal, so neither is before the other on value. -/
example : machineEq (.float32 ⟨0⟩) (.float32 ⟨0x80000000⟩) = true := by decide +kernel

end Select

end TensorSelect
