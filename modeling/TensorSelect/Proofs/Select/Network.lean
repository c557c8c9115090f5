import Mathlib
import TensorSelect.Select.Tables

/-!
# The networks of a selection fit what they sort

A bitonic network on `n = 2^m` positions pairs each position `i` with `i xor stride` for strides
below `n`, so every pair names two distinct positions of the network (`bitonicPairs_lt`,
`bitonicPairs_ne`), and each of its `m(m+1)/2` stages pairs every position once, in `n/2` pairs
(`length_bitonicPairs`). The networks that a
prepared selection keeps are those of `Network.forPasses`, padded up to a power of two: the value
network has room for the whole axis and the index network for the `k` kept entries
(`Network.forPasses_covers`), and both are bitonic networks (`Network.forPasses_sorts`).

The sizes are machine integers: rounding up to a power of two is exact up to `2^62`
(`nextPow2Word_of_le`), which every axis that can be labelled respects. The pairs are stored as
32-bit integers, which keeps them exact on networks of at most `2^31` positions
(`storedPair_of_lt`); that bound is part of `Network.Sorts`.
-/

namespace TensorSelect

namespace Select

/-! ## Sizes -/

theorem nextPow2_eq_pow (n : Nat) : ∃ m, nextPow2 n = 2 ^ m := by
  unfold nextPow2
  split
  · exact ⟨0, rfl⟩
  · exact ⟨_, Nat.pow_eq⟩

theorem le_nextPow2 (n : Nat) : n ≤ nextPow2 n := by
  unfold nextPow2
  split
  · omega
  · rename_i h
    have := Nat.lt_log2_self (n := n - 1)
    rw [Nat.pow_eq]
    omega

/-- Rounding up to a power of two stays at or below every power of two at or above `n`. -/
theorem nextPow2_le_pow {n p : Nat} (h : n ≤ 2 ^ p) : nextPow2 n ≤ 2 ^ p := by
  unfold nextPow2
  split
  · exact Nat.one_le_two_pow
  · have hlt : (n - 1).log2 < p := (Nat.log2_lt (by omega)).2 (by omega)
    rw [Nat.pow_eq]
    exact Nat.pow_le_pow_right (by decide) hlt

/-- Up to `2^62` the rounded size is a machine integer, exact. -/
theorem nextPow2Word_of_le {n : Int} (h : n ≤ 2 ^ 62) : nextPow2Word n = nextPow2 n.toNat := by
  have hle : nextPow2 n.toNat ≤ 2 ^ 62 := nextPow2_le_pow (by omega)
  unfold nextPow2Word
  exact wrapWord_of_mem (by omega) (by omega)

/-- Past `2^62` the rounded size wraps to `-2^63` or to zero: it is never positive. -/
theorem nextPow2Word_nonpos {n : Int} (h : 2 ^ 62 < n) : nextPow2Word n ≤ 0 := by
  obtain ⟨p, hp⟩ := nextPow2_eq_pow n.toNat
  have hle := le_nextPow2 n.toNat
  have hp63 : 63 ≤ p := by
    by_contra hlt
    have : 2 ^ p ≤ 2 ^ 62 := Nat.pow_le_pow_right (by decide) (by omega)
    omega
  obtain ⟨q, rfl⟩ : ∃ q, p = 63 + q := ⟨p - 63, by omega⟩
  unfold nextPow2Word wrapWord wordModulus
  rw [hp, Int.bmod_def]
  push_cast
  rcases q with _ | q
  · norm_num
  · -- a multiple of `2^64` wraps to zero
    have hzero : (2 : Int) ^ (63 + (q + 1)) % 18446744073709551616 = 0 := by
      rw [show 63 + (q + 1) = 64 + q by omega, pow_add]
      exact Int.mul_emod_right _ _
    rw [hzero]
    norm_num

@[simp]
theorem toNat_two_pow (p : Nat) : ((2 : Int) ^ p).toNat = 2 ^ p := rfl

/-- A pair of positions below `2^31` is stored as it is. -/
theorem storedPair_of_lt {p : Nat × Nat} (h1 : p.1 < 2 ^ 31) (h2 : p.2 < 2 ^ 31) :
    storedPair p = ((p.1 : Int), (p.2 : Int)) := by
  unfold storedPair
  rw [wrapInt32_of_mem (by omega) (by omega), wrapInt32_of_mem (by omega) (by omega)]

/-! ## Pairs -/

theorem stagePairs_lt {n size stride m : Nat} (hn : n = 2 ^ m) (hs : stride < n) :
    ∀ p ∈ stagePairs n size stride, p.1 < n ∧ p.2 < n := by
  intro p hp
  simp only [stagePairs, List.mem_filterMap, List.mem_range] at hp
  obtain ⟨i, hi, hp⟩ := hp
  have hj : i ^^^ stride < n := by
    rw [hn] at hi hs ⊢
    exact Nat.xor_lt_two_pow hi hs
  split at hp
  · cases hp
  · split at hp <;> cases hp <;> exact ⟨by assumption, by assumption⟩

theorem bitonicStages_stride {m : Nat} :
    ∀ p ∈ bitonicStages (2 ^ m), p.2 < 2 ^ m := by
  intro p hp
  simp only [bitonicStages, Nat.log2_two_pow, List.mem_flatMap, List.mem_range, List.mem_map,
    List.mem_reverse] at hp
  obtain ⟨s, hs, t, ht, rfl⟩ := hp
  rw [Nat.pow_eq]
  exact Nat.pow_lt_pow_right (by decide) (by omega)

/-- Every pair of the bitonic network on a power of two names two of its positions. -/
theorem bitonicPairs_lt {n m : Nat} (hn : n = 2 ^ m) :
    ∀ p ∈ bitonicPairs n, p.1 < n ∧ p.2 < n := by
  intro p hp
  simp only [bitonicPairs, List.mem_flatMap] at hp
  obtain ⟨⟨size, stride⟩, hst, hp⟩ := hp
  have hs : stride < n := by
    subst hn
    exact bitonicStages_stride _ hst
  exact stagePairs_lt hn hs p hp

theorem stagePairs_ne {n size stride : Nat} : ∀ p ∈ stagePairs n size stride, p.1 ≠ p.2 := by
  intro p hp
  simp only [stagePairs, List.mem_filterMap, List.mem_range] at hp
  obtain ⟨i, -, hp⟩ := hp
  split at hp
  · cases hp
  · split at hp <;> cases hp <;> simp only <;> omega

/-- No pair of the bitonic network compares a position with itself. -/
theorem bitonicPairs_ne {n : Nat} : ∀ p ∈ bitonicPairs n, p.1 ≠ p.2 := by
  intro p hp
  simp only [bitonicPairs, List.mem_flatMap] at hp
  obtain ⟨⟨size, stride⟩, -, hp⟩ := hp
  exact stagePairs_ne p hp

/-! ## How many pairs -/

theorem xor_two_pow_ne (i t : Nat) : i ^^^ 2 ^ t ≠ i := by
  intro h
  have : 2 ^ t = i ^^^ (i ^^^ 2 ^ t) := by rw [← Nat.xor_assoc, Nat.xor_self, Nat.zero_xor]
  rw [h, Nat.xor_self] at this
  exact absurd this (Nat.two_pow_pos t).ne'

/-- Flipping bit `t < m` permutes the positions below `2^m`. -/
theorem map_xor_range_perm {m t : Nat} (ht : t < m) :
    ((List.range (2 ^ m)).map (· ^^^ 2 ^ t)).Perm (List.range (2 ^ m)) := by
  have hlt : 2 ^ t < 2 ^ m := Nat.pow_lt_pow_right (by decide) ht
  have hinj : Function.Injective (· ^^^ 2 ^ t : Nat → Nat) := by
    intro a b h
    have h2 : a ^^^ 2 ^ t ^^^ 2 ^ t = b ^^^ 2 ^ t ^^^ 2 ^ t := congrArg (· ^^^ 2 ^ t) h
    rwa [Nat.xor_assoc, Nat.xor_self, Nat.xor_zero, Nat.xor_assoc, Nat.xor_self, Nat.xor_zero] at h2
  refine (List.perm_ext_iff_of_nodup (List.nodup_range.map hinj) List.nodup_range).2 ?_
  intro x
  simp only [List.mem_map, List.mem_range]
  constructor
  · rintro ⟨i, hi, rfl⟩
    exact Nat.xor_lt_two_pow hi hlt
  · intro hx
    exact ⟨x ^^^ 2 ^ t, Nat.xor_lt_two_pow hx hlt, by simp⟩

/-- A stage of stride `2^t < 2^m` pairs each position with the one that differs in bit `t`,
once, so it has half as many pairs as positions. -/
theorem length_stagePairs {m t : Nat} (ht : t < m) (size : Nat) :
    (stagePairs (2 ^ m) size (2 ^ t)).length = 2 ^ m / 2 := by
  set p : Nat → Bool := fun i => decide (i < i ^^^ 2 ^ t)
  have hkeep : (stagePairs (2 ^ m) size (2 ^ t)).length = (List.range (2 ^ m)).countP p := by
    rw [stagePairs, List.length_filterMap_eq_countP]
    apply List.countP_congr
    intro i _
    simp only [p]
    split <;> [simp_all; (split <;> simp_all)]
  -- flipping the bit turns a position that starts a pair into one that does not, and back
  have hflip : (List.range (2 ^ m)).countP p = (List.range (2 ^ m)).countP fun i => ¬ p i := by
    rw [← (map_xor_range_perm ht).countP_eq, List.countP_map]
    apply List.countP_congr
    intro i _
    have hne := xor_two_pow_ne i t
    simp only [p, Function.comp_apply, Nat.xor_assoc, Nat.xor_self, Nat.xor_zero, decide_eq_true_eq,
      not_lt]
    omega
  have htotal : (List.range (2 ^ m)).length =
      (List.range (2 ^ m)).countP p + (List.range (2 ^ m)).countP fun i => ¬ p i :=
    List.length_eq_countP_add_countP p
  rw [List.length_range, ← hflip] at htotal
  omega

theorem length_bitonicStages (m : Nat) : (bitonicStages (2 ^ m)).length = m * (m + 1) / 2 := by
  -- the merge of blocks of `2^(s+1)` runs `s + 1` strides
  have hsum : ∀ n, 2 * ((List.range n).map fun s => s + 1).sum = n * (n + 1) := by
    intro n
    induction n with
    | zero => rfl
    | succ n ih =>
      rw [List.range_succ, List.map_append, List.sum_append, List.map_singleton, List.sum_singleton,
        Nat.mul_add, ih]
      ring
  have hlen : (bitonicStages (2 ^ m)).length = ((List.range m).map fun s => s + 1).sum := by
    simp [bitonicStages, Nat.log2_two_pow, List.length_flatMap]
  rw [hlen]
  have := hsum m
  omega

/-- The bitonic network on `n = 2^m` positions has `n/2` pairs in each of its `m(m+1)/2`
stages. -/
theorem length_bitonicPairs (m : Nat) :
    (bitonicPairs (2 ^ m)).length = 2 ^ m / 2 * m * (m + 1) / 2 := by
  have hstage : ∀ st ∈ bitonicStages (2 ^ m),
      (stagePairs (2 ^ m) st.1 st.2).length = 2 ^ m / 2 := by
    intro st hst
    simp only [bitonicStages, Nat.log2_two_pow, List.mem_flatMap, List.mem_range, List.mem_map,
      List.mem_reverse] at hst
    obtain ⟨s, hs, t, ht, rfl⟩ := hst
    rw [Nat.pow_eq]
    exact length_stagePairs (by omega) _
  rw [bitonicPairs, List.length_flatMap, List.map_congr_left hstage, List.map_const',
    List.sum_replicate, length_bitonicStages, smul_eq_mul]
  -- `m (m + 1)` is even, so halving it first or last counts the same
  obtain ⟨r, hr⟩ := Nat.even_mul_succ_self m
  have hhalf : m * (m + 1) / 2 = r := by omega
  have hprod : 2 ^ m / 2 * m * (m + 1) = 2 * (2 ^ m / 2 * r) := by rw [Nat.mul_assoc, hr]; ring
  rw [hhalf, hprod, Nat.mul_div_cancel_left _ (by norm_num), Nat.mul_comm]

/-! ## Room for the pairs -/

theorem checkReserve_eq_ok {n : Int} {size : Nat} :
    Panic.checkReserve n size = .ok () ↔ 0 ≤ n ∧ n.toNat * size ≤ Panic.maxAlloc := by
  unfold Panic.checkReserve
  split
  · rename_i h
    simp only [reduceCtorEq, false_iff, not_and, not_le]
    omega
  · rename_i h
    simp only [true_iff]
    omega

theorem nextPow2_two_pow (m : Nat) : nextPow2 (2 ^ m) = 2 ^ m :=
  le_antisymm (nextPow2_le_pow le_rfl) (le_nextPow2 _)

/-- Reserving room for the pairs of the value network alone, on `2^m ≤ 2^62` positions,
succeeds exactly up to `2^36` positions: past that the `n · log₂ n · (log₂ n + 1) / 2` stored
positions take more bytes than one allocation may, or their count wraps below zero. -/
theorem Network.reserve_two_pow_iff {m : Nat} (hm : m ≤ 62) (k : Int) :
    Network.reserve (2 ^ m) k true false = .ok () ↔ m ≤ 36 := by
  have hpow : (2 : Int) ^ m ≤ 2 ^ 62 := pow_le_pow_right₀ (by norm_num) hm
  have hsize : nextPow2Word (2 ^ m) = 2 ^ m := by
    rw [nextPow2Word_of_le hpow, show ((2 : Int) ^ m).toNat = 2 ^ m from rfl, nextPow2_two_pow]
    push_cast
    rfl
  -- the count of stored positions of every such network, computed
  have hroom : ∀ i : Fin 63, ((1 < (2 : Int) ^ i.val → 0 ≤ pairRoom (2 ^ i.val) ∧
      (pairRoom (2 ^ i.val)).toNat * 4 ≤ Panic.maxAlloc) ↔ i.val ≤ 36) := by
    decide
  have hm' := hroom ⟨m, by omega⟩
  simp only at hm'
  rw [← hm']
  simp only [Network.reserve, hsize, Bool.true_and, Bool.false_and, Bool.false_eq_true, if_false]
  by_cases h1 : (1 : Int) < 2 ^ m
  · simp only [h1, decide_true, if_true, true_implies]
    rw [← checkReserve_eq_ok]
    cases Panic.checkReserve (pairRoom (2 ^ m)) 4 <;> simp [bind, Except.bind, pure, Except.pure]
  · simp [h1, pure, Except.pure]

/-- Reserving the pairs of a network of at most `2^31` positions succeeds. -/
theorem checkReserve_pairRoom_of_le {n : Int} (hn : n ≤ 2 ^ 31) (h1 : 1 < nextPow2Word n) :
    Panic.checkReserve (pairRoom (nextPow2Word n)) 4 = .ok () := by
  have hroom : ∀ i : Fin 32, 1 < (2 : Int) ^ i.val → 0 ≤ pairRoom (2 ^ i.val) ∧
      (pairRoom (2 ^ i.val)).toNat * 4 ≤ Panic.maxAlloc := by
    decide
  obtain ⟨p, hp⟩ := nextPow2_eq_pow n.toNat
  have hp31 : p ≤ 31 :=
    (Nat.pow_le_pow_iff_right (by decide)).1 (hp ▸ nextPow2_le_pow (p := 31) (by omega))
  have hsize : nextPow2Word n = (2 : Int) ^ p := by
    rw [nextPow2Word_of_le (by omega), hp]
    push_cast
    rfl
  rw [hsize] at h1 ⊢
  exact checkReserve_eq_ok.2 (hroom ⟨p, by omega⟩ h1)

/-- Reserving the networks of an axis of at most `2^31` elements, with at most `2^31` kept,
succeeds. -/
theorem Network.reserve_of_le {a k : Int} (ha : a ≤ 2 ^ 31) (hk : k ≤ 2 ^ 31)
    (valuePass indexPass : Bool) : Network.reserve a k valuePass indexPass = .ok () := by
  have hi : (if (indexPass && decide (1 < nextPow2Word k)) = true then
      Panic.checkReserve (pairRoom (nextPow2Word k)) 4 else pure ()) = (.ok () : Except Panic Unit) := by
    split
    · rename_i h
      simp only [Bool.and_eq_true, decide_eq_true_eq] at h
      exact checkReserve_pairRoom_of_le hk h.2
    · rfl
  simp only [Network.reserve, hi]
  -- the continuation runs in both branches of the value network's reservation
  split
  · rename_i h
    simp only [Bool.and_eq_true, decide_eq_true_eq] at h
    rw [checkReserve_pairRoom_of_le ha h.2]
    rfl
  · rfl

/-! ## The networks of a selection -/

/-- The networks of a selection fit the arrays they sort: the value network has room for the
axis when the selection sorts by value with it, the index network has room for the `k` kept
entries when the output is listed by index, and each pair names two positions of its network. -/
structure Network.Covers (net : Network) (axisLen k : Nat) (valuePass indexPass : Bool) :
    Prop where
  size : valuePass = true → (axisLen : Int) ≤ net.size
  valuePairs : ∀ p ∈ net.valuePairs, (p.1 : Int) < net.size ∧ (p.2 : Int) < net.size
  indexSize : indexPass = true → (k : Int) ≤ net.indexSize
  indexPairs : ∀ p ∈ net.indexPairs, (p.1 : Int) < net.indexSize ∧ (p.2 : Int) < net.indexSize

/-- A list of pairs is the bitonic network on `size` positions, a power of two with room for `n`
elements and at most `2^31`, so that its pairs are stored exactly. -/
def BitonicFor (size : Int) (pairs : List (Nat × Nat)) (n : Nat) : Prop :=
  ∃ p ≤ 31, size = 2 ^ p ∧ n ≤ 2 ^ p ∧ pairs = bitonicPairs (2 ^ p)

/-- The networks of a selection sort what they are applied to: the value network is the bitonic
network with room for the axis when the selection sorts by value with it, and the index network
the one with room for the `k` kept entries when the output is listed by index. -/
structure Network.Sorts (net : Network) (axisLen k : Nat) (valuePass indexPass : Bool) :
    Prop where
  value : valuePass = true → BitonicFor net.size net.valuePairs axisLen
  index : indexPass = true → BitonicFor net.indexSize net.indexPairs k

section ForPasses

variable (axisLen k : Int) (valuePass indexPass : Bool)

@[simp]
theorem Network.size_forPasses : (Network.forPasses axisLen k valuePass indexPass).size =
    if valuePass then nextPow2Word axisLen else axisLen := by
  cases valuePass <;> simp [Network.forPasses, Network.build]

@[simp]
theorem Network.valuePairs_forPasses :
    (Network.forPasses axisLen k valuePass indexPass).valuePairs =
      if valuePass then bitonicPairs (nextPow2Word axisLen).toNat else [] := by
  cases valuePass <;> simp [Network.forPasses, Network.build]

@[simp]
theorem Network.indexSize_forPasses :
    (Network.forPasses axisLen k valuePass indexPass).indexSize =
      if indexPass then nextPow2Word k else 0 := by
  cases valuePass <;> simp [Network.forPasses, Network.build]

@[simp]
theorem Network.indexPairs_forPasses :
    (Network.forPasses axisLen k valuePass indexPass).indexPairs =
      if indexPass then bitonicPairs (nextPow2Word k).toNat else [] := by
  cases valuePass <;> cases indexPass <;> simp [Network.forPasses, Network.build]

variable {axisLen k}

/-- On an axis of at most `2^62` elements, and as many kept, each network has room for what it
sorts and its pairs name its positions. -/
theorem Network.forPasses_covers (ha : axisLen ≤ 2 ^ 62) (hk : k ≤ 2 ^ 62) :
    (Network.forPasses axisLen k valuePass indexPass).Covers axisLen.toNat k.toNat valuePass
      indexPass := by
  obtain ⟨m, hm⟩ := nextPow2_eq_pow axisLen.toNat
  obtain ⟨m', hm'⟩ := nextPow2_eq_pow k.toNat
  have hsize := nextPow2Word_of_le ha
  have hisize := nextPow2Word_of_le hk
  have hle := le_nextPow2 axisLen.toNat
  have hkle := le_nextPow2 k.toNat
  constructor
  · intro h
    simp only [h, size_forPasses, if_true, hsize]
    omega
  · cases valuePass
    · simp
    · intro p hp
      simp only [valuePairs_forPasses, if_true, hsize, Int.toNat_natCast, size_forPasses] at hp ⊢
      have := bitonicPairs_lt hm p hp
      omega
  · intro h
    simp only [h, indexSize_forPasses, if_true, hisize]
    omega
  · cases indexPass
    · simp
    · intro p hp
      simp only [indexPairs_forPasses, if_true, hisize, Int.toNat_natCast, indexSize_forPasses]
        at hp ⊢
      have := bitonicPairs_lt hm' p hp
      omega

/-- The networks that a prepared selection keeps are bitonic networks on powers of two: the value
network on room for the whole axis, the index network on room for the `k` kept entries. On an
axis of at most `2^31` elements both have at most `2^31` positions. -/
theorem Network.forPasses_sorts (ha : axisLen ≤ 2 ^ 31) (hk : k ≤ 2 ^ 31) :
    (Network.forPasses axisLen k valuePass indexPass).Sorts axisLen.toNat k.toNat valuePass
      indexPass := by
  obtain ⟨p, hp⟩ := nextPow2_eq_pow axisLen.toNat
  obtain ⟨q, hq⟩ := nextPow2_eq_pow k.toNat
  have hpow : ∀ {n : Int} {e : Nat}, n ≤ 2 ^ 31 → nextPow2 n.toNat = 2 ^ e → e ≤ 31 :=
    fun h1 he => (Nat.pow_le_pow_iff_right (by decide)).1
      (he ▸ nextPow2_le_pow (p := 31) (by omega))
  constructor
  · intro h
    subst h
    have hsize := nextPow2Word_of_le (show axisLen ≤ 2 ^ 62 by omega)
    refine ⟨p, hpow ha hp, ?_, hp ▸ le_nextPow2 _, ?_⟩
    · simp only [size_forPasses, if_true, hsize, hp, Nat.cast_pow, Nat.cast_ofNat]
    · simp only [valuePairs_forPasses, if_true, hsize, hp, Int.toNat_natCast]
  · intro h
    subst h
    have hisize := nextPow2Word_of_le (show k ≤ 2 ^ 62 by omega)
    refine ⟨q, hpow hk hq, ?_, hq ▸ le_nextPow2 _, ?_⟩
    · simp only [indexSize_forPasses, if_true, hisize, hq, Nat.cast_pow, Nat.cast_ofNat]
    · simp only [indexPairs_forPasses, if_true, hisize, hq, Int.toNat_natCast]

end ForPasses

end Select

end TensorSelect
