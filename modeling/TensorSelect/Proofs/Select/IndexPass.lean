import Mathlib
import TensorSelect.Select.Item
import TensorSelect.Proofs.Select.Selection

/-!
# The index pass

When the output lists the kept entries by their place along the axis, the `k` kept entries are
sorted by index with the index network, on `nextPow2 k` positions. The positions past `k` are
not cleared: a call finds there whatever earlier calls, shapes or runs left, and only their
indices are set to `indexPadding`. This module proves that what they hold does not matter
(`index_pass_lists_kept_by_index`): as long as the kept entries have distinct indices below
`indexPadding`, the first `k` positions end up holding exactly the kept entries, in ascending
order of index, whatever values the padding carries.

The network sorts every array by index, ties included (`ascending_runPairs_bitonicPairs`), and an
ascending list whose entries below a threshold are exactly some list `a` starts with a
rearrangement of `a` (`take_perm_of_ascending`). Each lane of a block runs this pass on its own
entries, so the statement is per lane.
-/

namespace TensorSelect

namespace Select

/-! ## Ascending lists split at a threshold -/

section Threshold

open List

variable {β K : Type} [LinearOrder K] {key : β → K}

/-- In an ascending list, the entries below a threshold are a prefix. -/
theorem takeWhile_eq_filter_of_ascending {l : List β} (h : Ascending key l) (c : K) :
    l.takeWhile (fun x => decide (key x < c)) = l.filter (fun x => decide (key x < c)) := by
  induction l with
  | nil => rfl
  | cons x l ih =>
    obtain ⟨hx, hl⟩ := List.pairwise_cons.1 h
    by_cases hxc : key x < c
    · rw [List.takeWhile_cons_of_pos (by simpa using hxc),
        List.filter_cons_of_pos (by simpa using hxc), ih hl]
    · rw [List.takeWhile_cons_of_neg (by simpa using hxc),
        List.filter_cons_of_neg (by simpa using hxc)]
      -- every later entry is at least `x`, so none is below the threshold
      symm
      rw [List.filter_eq_nil_iff]
      intro y hy
      simpa using le_trans (not_lt.1 hxc) (hx y hy)

/-- An ascending rearrangement of `a ++ b`, where every key of `a` lies below a threshold and no
key of `b` does, starts with a rearrangement of `a`. -/
theorem take_perm_of_ascending {l a b : List β} (hasc : Ascending key l) (hperm : l ~ a ++ b)
    {c : K} (ha : ∀ x ∈ a, key x < c) (hb : ∀ y ∈ b, c ≤ key y) : l.take a.length ~ a := by
  let below := fun x => decide (key x < c)
  have hfilter : l.filter below ~ a := by
    have hA : a.filter below = a := List.filter_eq_self.2 (by simpa [below] using ha)
    have hB : b.filter below = [] := List.filter_eq_nil_iff.2 (by simpa [below] using hb)
    have h := hperm.filter below
    rwa [List.filter_append, hA, hB, List.append_nil] at h
  have htake : l.takeWhile below = l.filter below := takeWhile_eq_filter_of_ascending hasc c
  have hlen : (l.takeWhile below).length = a.length := by rw [htake]; exact hfilter.length_eq
  calc l.take a.length = l.takeWhile below := by
        rw [← hlen]; exact (List.prefix_iff_eq_take.1 (List.takeWhile_prefix below)).symm
    _ = l.filter below := htake
    _ ~ a := hfilter

/-- An ascending list whose keys are distinct is strictly ascending. -/
theorem pairwise_lt_of_ascending {l : List β} (hasc : Ascending key l) (hd : (l.map key).Nodup) :
    l.Pairwise fun x y => key x < key y := by
  have hne : l.Pairwise fun x y => key x ≠ key y := List.pairwise_map.1 hd
  exact (hasc.and hne).imp fun h => lt_of_le_of_ne h.1 h.2

end Threshold

/-! ## Sorting the kept entries by index -/

variable {α : Type}

/-- The entries of the padding positions, with their indices set to the padding index. -/
def padIndices (pads : Array (Entry α)) : Array (Entry α) :=
  pads.map fun e => { e with index := indexPadding }

theorem index_padIndices {pads : Array (Entry α)} {e : Entry α} (he : e ∈ (padIndices pads).toList) :
    e.index = indexPadding := by
  simp only [padIndices, Array.toList_map, List.mem_map] at he
  obtain ⟨e', -, rfl⟩ := he
  rfl

/-- The index pass of a prepared selection: `k` kept entries with distinct indices below the
padding index, followed by the padding positions of the index network, whatever values and
indices they held before, with their indices set to the padding index. After the index network
the first `k` positions hold the kept entries in ascending order of index. -/
theorem index_pass_lists_kept_by_index [Inhabited α] (axisLen : Int) (valuePass : Bool)
    (kept pads : Array (Entry α)) (hidx : (kept.toList.map Entry.index).Nodup)
    (hlt : ∀ e ∈ kept.toList, e.index < indexPadding)
    (hpads : pads.size = (Network.forPasses axisLen kept.size valuePass true).indexSize - kept.size) :
    let net := Network.forPasses axisLen kept.size valuePass true
    let sorted := (runPairs Entry.byIndex net.indexPairs (kept ++ padIndices pads)).toList.take
      kept.size
    sorted.Perm kept.toList ∧ sorted.Pairwise fun a b => a.index < b.index := by
  intro net sorted
  simp only [Network.indexSize_forPasses, if_true] at hpads
  -- no padding is counted below zero, so rounding `k` up is exact
  have hk62 : (kept.size : Int) ≤ 2 ^ 62 := by
    by_contra h
    have := nextPow2Word_nonpos (not_le.1 h)
    omega
  obtain ⟨m, hm⟩ := nextPow2_eq_pow kept.size
  have hk : kept.size ≤ 2 ^ m := hm ▸ le_nextPow2 kept.size
  have hw : nextPow2Word kept.size = ((2 ^ m : Nat) : Int) := by
    rw [nextPow2Word_of_le hk62, Int.toNat_natCast, hm]
  have hpairs : net.indexPairs = bitonicPairs (2 ^ m) := by
    simp only [net, Network.indexPairs_forPasses, if_true, hw, Int.toNat_natCast]
  have hsize : (kept ++ padIndices pads).size = 2 ^ m := by
    rw [hw] at hpads
    simp only [Array.size_append, padIndices, Array.size_map]
    omega
  set r := runPairs Entry.byIndex (bitonicPairs (2 ^ m)) (kept ++ padIndices pads) with hr
  have hsorted : sorted = r.toList.take kept.size := by simp only [sorted, hpairs, hr]
  -- the network sorts the whole array by index, the padding's equal indices included
  have hasc : Ascending Entry.index r.toList :=
    ascending_runPairs_bitonicPairs comparesBy_byIndex _ hsize
  have hperm : r.toList.Perm (kept.toList ++ (padIndices pads).toList) := by
    rw [← Array.toList_append]
    exact runPairs_perm _ _
  have hfront : sorted.Perm kept.toList := by
    rw [hsorted, ← Array.length_toList]
    exact take_perm_of_ascending hasc hperm hlt fun y hy => (index_padIndices hy).ge
  refine ⟨hfront, pairwise_lt_of_ascending ?_ ?_⟩
  · rw [hsorted]
    exact hasc.sublist (List.take_sublist _ _)
  · exact (hfront.map Entry.index).nodup_iff.2 hidx

/-- Three kept entries out of order and one padding position left over from an earlier call,
whose stale index is smaller than two of the kept ones. -/
theorem index_pass_lists_kept_by_index_three :
    let kept : Array (Entry Int32) := #[⟨7, 7, 5⟩, ⟨1, 1, 0⟩, ⟨4, 4, 2⟩]
    let pads : Array (Entry Int32) := #[⟨9, 9, 1⟩]
    (kept.toList.map Entry.index).Nodup ∧ (∀ e ∈ kept.toList, e.index < indexPadding) ∧
    pads.size = (Network.forPasses 6 kept.size false true).indexSize - kept.size ∧
    let sorted := (runPairs Entry.byIndex (Network.forPasses 6 kept.size false true).indexPairs
      (kept ++ padIndices pads)).toList.take kept.size
    sorted.Perm kept.toList ∧ sorted.Pairwise fun a b => a.index < b.index := by
  intro kept pads
  have hidx : (kept.toList.map Entry.index).Nodup := by decide
  have hlt : ∀ e ∈ kept.toList, e.index < indexPadding := by decide
  have hpads : pads.size = (Network.forPasses 6 kept.size false true).indexSize - kept.size := by
    decide
  exact ⟨hidx, hlt, hpads, index_pass_lists_kept_by_index 6 false kept pads hidx hlt hpads⟩

end Select

end TensorSelect
