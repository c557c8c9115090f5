import Mathlib
import TensorSelect.Select.Heap
import TensorSelect.Proofs.Select.Sorting

/-!
# Heap selection keeps the best entries

`heapSelect` streams the entries into a heap of `k` slots whose root is the worst, then empties
the heap from the back. This module proves that it leaves the best `k` entries, best first
(`heapSelect_toList`), for a strict order that comes from keys that tell the entries apart.

* The two sifts move a hole. Their preconditions are `UpOrder` and `DownOrder`: every parent and
  child off the hole are in order, and the hole's neighbours are in the order the sift needs.
  `siftUp_spec` and `siftDown_spec` show that each ends in a heap (`IsHeap`) that holds the same
  slots (`slotsOf`, a multiset) with the new entry in place of the hole's.
* While the entries stream in, the heap holds the best `k` so far (`heapFill_spec`): its root is
  the `k`-th best, which an entry that beats it replaces.
* Emptying the heap puts the root, the worst of what is left, in the last free slot each time,
  so the slots end sorted (`drain_spec`).
-/

namespace TensorSelect

namespace Select

/-! ## Slots -/

section Slots

variable {β : Type} [Inhabited β]

theorem getD_setIfInBounds (v : Array β) {p : Nat} (hp : p < v.size) (x : β) (i : Nat) :
    (v.setIfInBounds p x).getD i default = if i = p then x else v.getD i default := by
  rw [Array.getD_eq_getD_getElem?, Array.getElem?_setIfInBounds, Array.getD_eq_getD_getElem?]
  by_cases h : i = p
  · subst h; simp [hp]
  · rw [if_neg (Ne.symm h), if_neg h]

/-- The entries of the first `n` slots of an array, as a multiset. -/
def slotsOf (v : Array β) (n : Nat) : Multiset β :=
  (Multiset.range n).map fun i => v.getD i default

theorem slotsOf_succ (v : Array β) (n : Nat) :
    slotsOf v (n + 1) = v.getD n default ::ₘ slotsOf v n := by
  rw [slotsOf, Multiset.range_succ, Multiset.map_cons]
  rfl

theorem slotsOf_congr {v w : Array β} {n : Nat} (h : ∀ i < n, v.getD i default = w.getD i default) :
    slotsOf v n = slotsOf w n :=
  Multiset.map_congr rfl fun i hi => h i (Multiset.mem_range.1 hi)

/-- Writing `y` over slot `p` trades the entry there for `y`. -/
theorem slotsOf_set (v : Array β) {p n : Nat} (hp : p < n) (hn : n ≤ v.size) (y : β) :
    slotsOf (v.setIfInBounds p y) n + {v.getD p default} = slotsOf v n + {y} := by
  have hmem : p ∈ Multiset.range n := Multiset.mem_range.2 hp
  have hrest : ∀ i ∈ (Multiset.range n).erase p,
      (v.setIfInBounds p y).getD i default = v.getD i default := by
    intro i hi
    rw [getD_setIfInBounds v (by omega), if_neg ((Multiset.nodup_range n).mem_erase_iff.1 hi).1]
  unfold slotsOf
  rw [← Multiset.cons_erase hmem, Multiset.map_cons, Multiset.map_cons,
    getD_setIfInBounds v (by omega), if_pos rfl, Multiset.map_congr rfl hrest]
  rw [Multiset.cons_add, Multiset.cons_add, ← Multiset.singleton_add, ← Multiset.singleton_add]
  abel

/-- The first `n` slots as a list. -/
theorem slotsOf_eq_take (v : Array β) {n : Nat} (hn : n ≤ v.size) :
    slotsOf v n = (v.toList.take n : Multiset β) := by
  rw [slotsOf, Multiset.range, Multiset.map_coe]
  congr 1
  apply List.ext_getElem (by simp; omega)
  intro i h1 h2
  simp only [List.getElem_map, List.getElem_range, List.getElem_take, Array.getElem_toList]
  simp at h1
  rw [Array.getD_eq_getD_getElem?, Array.getElem?_eq_getElem (by omega), Option.getD_some]

/-- Arrays with the same first `n` slots and the same slots from `n` to `k` have the same first
`k` slots. -/
theorem slotsOf_extend {v w : Array β} {n k : Nat} (h : slotsOf v n = slotsOf w n)
    (heq : ∀ i, n ≤ i → i < k → v.getD i default = w.getD i default) (hnk : n ≤ k) :
    slotsOf v k = slotsOf w k := by
  induction k, hnk using Nat.le_induction with
  | base => exact h
  | succ k hk ih =>
    rw [slotsOf_succ, slotsOf_succ, ih fun i hi hik => heq i hi (by omega), heq k hk (by omega)]

theorem mem_slotsOf {v : Array β} {n i : Nat} (hi : i < n) : v.getD i default ∈ slotsOf v n :=
  Multiset.mem_map_of_mem _ (Multiset.mem_range.2 hi)

theorem exists_of_mem_slotsOf {v : Array β} {n : Nat} {a : β} (ha : a ∈ slotsOf v n) :
    ∃ i < n, v.getD i default = a := by
  obtain ⟨i, hi, rfl⟩ := Multiset.mem_map.1 ha
  exact ⟨i, Multiset.mem_range.1 hi, rfl⟩

end Slots


/-! ## Heap order -/

section Order

variable {β K : Type} [LinearOrder K] [Inhabited β] (key : β → K)

/-- `c` is a child of `p` in a binary heap. -/
def IsChild (c p : Nat) : Prop := 0 < c ∧ (c - 1) / 2 = p

/-- The first `n` slots of an array form a heap whose root is the worst: no entry's key is above
its parent's. -/
def IsHeap (v : Array β) (n : Nat) : Prop :=
  ∀ c, 0 < c → c < n → key (v.getD c default) ≤ key (v.getD ((c - 1) / 2) default)

/-- Every parent and child among the first `n` slots that the hole does not touch are in order. -/
def OrderedExcept (v : Array β) (n hole : Nat) : Prop :=
  ∀ c, 0 < c → c < n → c ≠ hole → (c - 1) / 2 ≠ hole →
    key (v.getD c default) ≤ key (v.getD ((c - 1) / 2) default)

/-- What sifting `x` up from a hole needs: the pairs off the hole are in order, the hole's
children are below its parent, and below `x`. -/
structure UpOrder (v : Array β) (n hole : Nat) (x : β) : Prop where
  except : OrderedExcept key v n hole
  grand : hole ≠ 0 → ∀ c, IsChild c hole → c < n →
    key (v.getD c default) ≤ key (v.getD ((hole - 1) / 2) default)
  below : ∀ c, IsChild c hole → c < n → key (v.getD c default) ≤ key x

/-- What sifting `x` down from a hole needs: the pairs off the hole are in order, and `x` and
the hole's children are below the hole's parent. -/
structure DownOrder (v : Array β) (n hole : Nat) (x : β) : Prop where
  except : OrderedExcept key v n hole
  above : hole ≠ 0 → key x ≤ key (v.getD ((hole - 1) / 2) default)
  grand : hole ≠ 0 → ∀ c, IsChild c hole → c < n →
    key (v.getD c default) ≤ key (v.getD ((hole - 1) / 2) default)

variable {key} {lt : β → β → Bool}

/-- The root of a heap is its worst entry. -/
theorem IsHeap.le_root {v : Array β} {n : Nat} (h : IsHeap key v n) :
    ∀ i < n, key (v.getD i default) ≤ key (v.getD 0 default) := by
  intro i
  induction i using Nat.strong_induction_on with
  | _ i ih =>
    intro hi
    rcases Nat.eq_zero_or_pos i with rfl | hpos
    · exact le_rfl
    · exact le_trans (h i hpos hi) (ih _ (by omega) (by omega))

theorem IsHeap.orderedExcept {v : Array β} {n : Nat} (h : IsHeap key v n) (hole : Nat) :
    OrderedExcept key v n hole :=
  fun c hc0 hc _ _ => h c hc0 hc

/-! ### Sifting up -/

section Up

variable {v : Array β} {n hole : Nat} {x : β}

theorem UpOrder.move (o : UpOrder key v n hole x) (hne : hole ≠ 0) (hn : hole < n)
    (hhole : hole < v.size) (hb : key (v.getD ((hole - 1) / 2) default) < key x) :
    UpOrder key (v.setIfInBounds hole (v.getD ((hole - 1) / 2) default)) n ((hole - 1) / 2) x := by
  have hq : (hole - 1) / 2 < hole := by omega
  have hget := getD_setIfInBounds v hhole (v.getD ((hole - 1) / 2) default)
  -- the parent of the hole is in order with its own parent
  have hq_up : (hole - 1) / 2 ≠ 0 → key (v.getD ((hole - 1) / 2) default) ≤
      key (v.getD (((hole - 1) / 2 - 1) / 2) default) :=
    fun hq0 => o.except _ (by omega) (by omega) (by omega) (by omega)
  refine ⟨?_, ?_, ?_⟩
  · intro c hc0 hc hcq hpc
    have hch : c ≠ hole := fun h => hpc (by rw [h])
    rw [hget, hget, if_neg hch]
    by_cases hph : (c - 1) / 2 = hole
    · rw [if_pos hph]
      exact o.grand hne c ⟨hc0, hph⟩ hc
    · rw [if_neg hph]
      exact o.except c hc0 hc hch hph
  · intro hq0 c hc hcl
    have hpp : (v.setIfInBounds hole (v.getD ((hole - 1) / 2) default)).getD
        (((hole - 1) / 2 - 1) / 2) default = v.getD (((hole - 1) / 2 - 1) / 2) default := by
      rw [hget, if_neg (by omega)]
    rw [hpp, hget]
    by_cases hch : c = hole
    · rw [if_pos hch]
      exact hq_up hq0
    · rw [if_neg hch]
      have hcq : key (v.getD c default) ≤ key (v.getD ((hole - 1) / 2) default) := by
        have := o.except c hc.1 hcl hch (by rw [hc.2]; omega)
        rwa [hc.2] at this
      exact le_trans hcq (hq_up hq0)
  · intro c hc hcl
    rw [hget]
    by_cases hch : c = hole
    · rw [if_pos hch]
      exact hb.le
    · rw [if_neg hch]
      have := o.except c hc.1 hcl hch (by rw [hc.2]; omega)
      rw [hc.2] at this
      exact le_trans this hb.le

theorem UpOrder.finish (o : UpOrder key v n hole x) (hhole : hole < v.size)
    (hstop : hole ≠ 0 → key x ≤ key (v.getD ((hole - 1) / 2) default)) :
    IsHeap key (v.setIfInBounds hole x) n := by
  have hget := getD_setIfInBounds v hhole x
  intro c hc0 hc
  rw [hget, hget]
  by_cases hch : c = hole
  · rw [if_pos hch, if_neg (by omega)]
    subst hch
    exact hstop (by omega)
  · rw [if_neg hch]
    by_cases hph : (c - 1) / 2 = hole
    · rw [if_pos hph]
      exact o.below c ⟨hc0, hph⟩ hc
    · rw [if_neg hph]
      exact o.except c hc0 hc hch hph

/-- Sifting `x` up from a hole among the first `n` slots ends in a heap that holds them with `x`
in place of the hole's entry. -/
theorem siftUp_spec (hlt : ComparesBy key lt) (x : β) (v : Array β) (pos : Nat) {n : Nat}
    (hpos : pos < n) (hn : n ≤ v.size) (o : UpOrder key v n pos x) :
    IsHeap key (siftUp lt x v pos) n ∧ (siftUp lt x v pos).size = v.size ∧
      slotsOf (siftUp lt x v pos) n + {v.getD pos default} = slotsOf v n + {x} := by
  fun_induction siftUp lt x v pos with
  | case1 v =>
    exact ⟨o.finish (by omega) (fun h => absurd rfl h), Array.size_setIfInBounds,
      slotsOf_set v hpos hn x⟩
  | case2 v pos h0 parent p hb ih =>
    -- the parent comes before `x`: it moves down into the hole
    simp only [parent, p] at ih hb ⊢
    have hb' := (hlt _ _).1 hb
    obtain ⟨hheap, hsize, hslots⟩ := ih (by omega) (by rw [Array.size_setIfInBounds]; exact hn)
      (o.move h0 hpos (by omega) hb')
    refine ⟨hheap, by rw [hsize, Array.size_setIfInBounds], ?_⟩
    have hset := slotsOf_set v hpos hn (v.getD ((pos - 1) / 2) default)
    rw [getD_setIfInBounds v (by omega), if_neg (by omega)] at hslots
    apply add_right_cancel (b := {v.getD ((pos - 1) / 2) default})
    calc _ = slotsOf (siftUp lt x (v.setIfInBounds pos (v.getD ((pos - 1) / 2) default))
            ((pos - 1) / 2)) n + {v.getD ((pos - 1) / 2) default} + {v.getD pos default} := by
          abel
      _ = slotsOf (v.setIfInBounds pos (v.getD ((pos - 1) / 2) default)) n +
            {v.getD pos default} + {x} := by rw [hslots]; abel
      _ = _ := by rw [hset]; abel
  | case3 v pos h0 parent p hb =>
    simp only [parent, p] at hb
    have hstop : key x ≤ key (v.getD ((pos - 1) / 2) default) :=
      not_lt.1 fun h => hb ((hlt _ _).2 h)
    exact ⟨o.finish (by omega) (fun _ => hstop), Array.size_setIfInBounds,
      slotsOf_set v hpos hn x⟩

end Up

/-! ### Sifting down -/

section Down

variable {v : Array β} {n hole : Nat} {x : β}

theorem DownOrder.move (o : DownOrder key v n hole x) (hhole : hole < v.size) {ch : Nat}
    (hch : IsChild ch hole) (hchn : ch < n)
    (hmax : ∀ c, IsChild c hole → c < n → key (v.getD c default) ≤ key (v.getD ch default))
    (hb : key x < key (v.getD ch default)) :
    DownOrder key (v.setIfInBounds hole (v.getD ch default)) n ch x := by
  have hget := getD_setIfInBounds v hhole (v.getD ch default)
  have hlt : hole < ch := by obtain ⟨_, h⟩ := hch; omega
  refine ⟨?_, ?_, ?_⟩
  · intro c hc0 hc hcch hpc
    rw [hget, hget]
    by_cases hch' : c = hole
    · -- the worse child moved up into the hole, below the hole's parent
      rw [if_pos hch', if_neg (by omega)]
      subst hch'
      exact o.grand (by omega) ch hch hchn
    · rw [if_neg hch']
      by_cases hph : (c - 1) / 2 = hole
      · rw [if_pos hph]
        exact hmax c ⟨hc0, hph⟩ hc
      · rw [if_neg hph]
        exact o.except c hc0 hc hch' hph
  · intro _
    rw [hch.2, hget, if_pos rfl]
    exact hb.le
  · intro _ c hc hcn
    have hc' : c ≠ hole := by obtain ⟨_, h⟩ := hc; omega
    rw [hch.2, hget, hget, if_pos rfl, if_neg hc']
    have := o.except c hc.1 hcn hc' (by rw [hc.2]; omega)
    rwa [hc.2] at this

theorem DownOrder.finish (o : DownOrder key v n hole x) (hhole : hole < v.size)
    (hstop : ∀ c, IsChild c hole → c < n → key (v.getD c default) ≤ key x) :
    IsHeap key (v.setIfInBounds hole x) n := by
  have hget := getD_setIfInBounds v hhole x
  intro c hc0 hc
  rw [hget, hget]
  by_cases hch : c = hole
  · rw [if_pos hch, if_neg (by omega)]
    subst hch
    exact o.above (by omega)
  · rw [if_neg hch]
    by_cases hph : (c - 1) / 2 = hole
    · rw [if_pos hph]
      exact hstop c ⟨hc0, hph⟩ hc
    · rw [if_neg hph]
      exact o.except c hc0 hc hch hph

/-- The children of `p` are `2 p + 1` and `2 p + 2`. -/
theorem isChild_iff {c p : Nat} : IsChild c p ↔ c = 2 * p + 1 ∨ c = 2 * p + 1 + 1 := by
  unfold IsChild
  omega

/-- Sifting `x` down from a hole among the first `n` slots ends in a heap that holds them with `x`
in place of the hole's entry, and leaves the slots from `n` on alone. -/
theorem siftDown_spec (hlt : ComparesBy key lt) (x : β) (n : Nat) (v : Array β) (pos : Nat)
    (hpos : pos < n) (hn : n ≤ v.size) (o : DownOrder key v n pos x) :
    IsHeap key (siftDown lt x n v pos) n ∧ (siftDown lt x n v pos).size = v.size ∧
      slotsOf (siftDown lt x n v pos) n + {v.getD pos default} = slotsOf v n + {x} ∧
      ∀ i, n ≤ i → (siftDown lt x n v pos).getD i default = v.getD i default := by
  fun_induction siftDown lt x n v pos with
  | case1 v pos h left child c hb ih =>
    -- the worse child comes after `x`: it moves up into the hole
    have hchild : IsChild child pos ∧ child < n ∧
        ∀ c', IsChild c' pos → c' < n → key (v.getD c' default) ≤ key (v.getD child default) := by
      simp only [child, left]
      split
      · rename_i hc
        simp only [Bool.and_eq_true, decide_eq_true_eq] at hc
        obtain ⟨h1, h2⟩ := hc
        refine ⟨isChild_iff.2 (.inr rfl), h1, fun c' hc' _ => ?_⟩
        rcases isChild_iff.1 hc' with rfl | rfl
        · exact ((hlt _ _).1 h2).le
        · exact le_rfl
      · rename_i hc
        refine ⟨isChild_iff.2 (.inl rfl), h, fun c' hc' hc'n => ?_⟩
        rcases isChild_iff.1 hc' with rfl | rfl
        · exact le_rfl
        · simp only [Bool.and_eq_true, decide_eq_true_eq, not_and] at hc
          exact not_lt.1 fun h' => hc hc'n ((hlt _ _).2 h')
    obtain ⟨hch, hchn, hmax⟩ := hchild
    have hpc : pos < child := by obtain ⟨_, h⟩ := hch; omega
    obtain ⟨hheap, hsize, hslots, hframe⟩ := ih hchn (by rw [Array.size_setIfInBounds]; exact hn)
      (o.move (by omega) hch hchn hmax ((hlt _ _).1 hb))
    refine ⟨hheap, by rw [hsize, Array.size_setIfInBounds], ?_, fun i hi => ?_⟩
    · have hset := slotsOf_set v hpos hn c
      rw [getD_setIfInBounds v (by omega), if_neg (by omega)] at hslots
      apply add_right_cancel (b := {c})
      calc _ = slotsOf (siftDown lt x n (v.setIfInBounds pos c) child) n + {c} +
              {v.getD pos default} := by abel
        _ = slotsOf (v.setIfInBounds pos c) n + {v.getD pos default} + {x} := by
            rw [hslots]; abel
        _ = _ := by rw [hset]; abel
    · rw [hframe i hi, getD_setIfInBounds v (by omega), if_neg (by omega)]
  | case2 v pos h left child c hb =>
    -- `x` is no worse than either child: it takes the hole
    have hstop : ∀ c', IsChild c' pos → c' < n → key (v.getD c' default) ≤ key x := by
      have hnot : key x ≥ key c := not_lt.1 fun h' => hb ((hlt _ _).2 h')
      intro c' hc' hc'n
      refine le_trans ?_ hnot
      simp only [c, child, left]
      split
      · rename_i hcond
        simp only [Bool.and_eq_true, decide_eq_true_eq] at hcond
        rcases isChild_iff.1 hc' with rfl | rfl
        · exact ((hlt _ _).1 hcond.2).le
        · exact le_rfl
      · rename_i hcond
        rcases isChild_iff.1 hc' with rfl | rfl
        · exact le_rfl
        · simp only [Bool.and_eq_true, decide_eq_true_eq, not_and] at hcond
          exact not_lt.1 fun h' => hcond hc'n ((hlt _ _).2 h')
    refine ⟨o.finish (by omega) hstop, Array.size_setIfInBounds, slotsOf_set v hpos hn x,
      fun i hi => ?_⟩
    rw [getD_setIfInBounds v (by omega), if_neg (by omega)]
  | case3 v pos h =>
    -- the hole has no children among the first `n` slots
    have hstop : ∀ c', IsChild c' pos → c' < n → key (v.getD c' default) ≤ key x := by
      intro c' hc' hc'n
      rcases isChild_iff.1 hc' with rfl | rfl <;> omega
    refine ⟨o.finish (by omega) hstop, Array.size_setIfInBounds, slotsOf_set v hpos hn x,
      fun i hi => ?_⟩
    rw [getD_setIfInBounds v (by omega), if_neg (by omega)]

end Down

@[simp]
theorem size_siftUp (lt : β → β → Bool) (x : β) (v : Array β) (pos : Nat) :
    (siftUp lt x v pos).size = v.size := by
  fun_induction siftUp lt x v pos <;> simp_all

@[simp]
theorem size_siftDown (lt : β → β → Bool) (x : β) (n : Nat) (v : Array β) (pos : Nat) :
    (siftDown lt x n v pos).size = v.size := by
  fun_induction siftDown lt x n v pos <;> simp_all

@[simp]
theorem size_heapStep (lt : β → β → Bool) (k : Nat) (v : Array β) (x : β) (j : Nat) :
    (heapStep lt k v x j).size = v.size := by
  unfold heapStep
  split
  · simp
  · split <;> simp

end Order


/-! ## Heap selection -/

section Selection

open List

variable {β K : Type} [LinearOrder K] [Inhabited β] {key : β → K} {lt : β → β → Bool}

variable (lt) in
/-- The heap after streaming the entries of a list into `k` slots. -/
def heapFill (k : Nat) (l : List β) : Array β :=
  l.zipIdx.foldl (fun v p => heapStep lt k v p.1 p.2) (Array.replicate k default)

theorem heapFill_append (k : Nat) (l : List β) (x : β) :
    heapFill lt k (l ++ [x]) = heapStep lt k (heapFill lt k l) x l.length := by
  rw [heapFill, List.zipIdx_append, List.foldl_append, List.zipIdx_singleton, List.foldl_cons,
    List.foldl_nil, Nat.zero_add]
  rfl

/-- After streaming the entries of a list, the heap holds the best `k` of them. -/
theorem heapFill_spec (hlt : ComparesBy key lt) (k : Nat) :
    ∀ l : List β, (l.map key).Nodup →
      (heapFill lt k l).size = k ∧ IsHeap key (heapFill lt k l) (min l.length k) ∧
        slotsOf (heapFill lt k l) (min l.length k) = ((sortByKey key l).take k : Multiset β) := by
  intro l
  induction l using List.reverseRecOn with
  | nil =>
    intro _
    refine ⟨by simp [heapFill], fun c hc0 hc => by simp at hc, ?_⟩
    simp [slotsOf, sortByKey]
  | append_singleton l x ih =>
    intro hd
    have hdl : (l.map key).Nodup := (List.map_append .. ▸ hd).sublist (by simp)
    obtain ⟨hsize, hheap, hslots⟩ := ih hdl
    have hdist : KeysDistinct key (l ++ [x]) := keysDistinct_of_nodup hd
    have hx : ∀ a ∈ l, key a ≠ key x := fun a ha hax =>
      absurd (hdist a (by simp [ha]) x (by simp) hax) (by
        rintro rfl
        have := (List.nodup_append.1 (List.map_append .. ▸ hd)).2.2
        exact this (key a) (List.mem_map_of_mem ha) (key a) (by simp) rfl)
    rw [heapFill_append, sortByKey_append_singleton hdist, List.length_append,
      List.length_singleton]
    set S := sortByKey key l with hS
    set v := heapFill lt k l with hv
    have hSl : S.length = l.length := (sortByKey_perm l).length_eq
    unfold heapStep
    by_cases hj : l.length < k
    · -- a slot is free: `x` is sifted up from it
      rw [if_pos hj, min_eq_left (by omega)]
      rw [min_eq_left hj.le] at hheap hslots
      have o : UpOrder key v (l.length + 1) l.length x :=
        ⟨fun c hc0 hc hcj _ => hheap c hc0 (by omega),
         fun _ c hc hcn => by obtain ⟨_, h⟩ := hc; omega,
         fun c hc hcn => by obtain ⟨_, h⟩ := hc; omega⟩
      obtain ⟨hheap', hsize', hslots'⟩ := siftUp_spec hlt x v l.length (by omega) (by omega) o
      refine ⟨by rw [hsize', hsize], hheap', ?_⟩
      rw [slotsOf_succ v l.length, hslots, List.take_of_length_le (by omega), Multiset.cons_add] at hslots'
      rw [List.take_of_length_le (by rw [List.orderedInsert_length]; omega),
        Multiset.coe_eq_coe.2 (List.perm_orderedInsert _ _ _), ← Multiset.cons_coe]
      apply add_right_cancel (b := {v.getD l.length default})
      rw [hslots', ← Multiset.singleton_add, ← Multiset.singleton_add]
      abel
    rw [if_neg hj]
    rw [min_eq_right (by omega)] at hheap hslots
    rw [min_eq_right (by omega)]
    rcases Nat.eq_zero_or_pos k with rfl | hk
    · -- no slots: nothing is kept
      refine ⟨by split <;> simp [hsize], fun c hc0 hc => by omega, by simp [slotsOf]⟩
    -- the root is the worst of the best `k` so far: the `k`-th sorted entry
    have hk1 : k - 1 < S.length := by omega
    have hSd : KeysDistinct key S := (keysDistinct_of_nodup hdl).perm (sortByKey_perm l).symm
    have hroot : v.getD 0 default = S[k - 1] := by
      have hmem0 : v.getD 0 default ∈ S.take k := by
        rw [← Multiset.mem_coe, ← hslots]; exact mem_slotsOf hk
      have hmemk : S[k - 1] ∈ slotsOf v k := by
        rw [hslots, Multiset.mem_coe]; exact List.mem_take_iff_getElem.2 ⟨k - 1, by omega, rfl⟩
      obtain ⟨i, hi, hvi⟩ := exists_of_mem_slotsOf hmemk
      have h1 : key S[k - 1] ≤ key (v.getD 0 default) := hvi ▸ hheap.le_root i hi
      have h2 : key (v.getD 0 default) ≤ key S[k - 1] := by
        obtain ⟨i', hi', hSi'⟩ := List.mem_take_iff_getElem.1 hmem0
        have hle : key S[i'] ≤ key S[k - 1] := by
          rcases Nat.lt_or_ge i' (k - 1) with h | h
          · exact List.pairwise_iff_getElem.1 (ascending_sortByKey l) _ _ _ _ h
          · obtain rfl : i' = k - 1 := by omega
            exact le_rfl
        rwa [hSi'] at hle
      exact hSd _ (List.mem_of_mem_take hmem0) _ (List.getElem_mem _) (le_antisymm h2 h1)
    have htake : S.take k = S.take (k - 1) ++ [S[k - 1]] := by
      rw [← List.take_succ_eq_append_getElem hk1, Nat.sub_add_cancel hk]
    split
    · -- `x` beats the root, which drops out; `x` is sifted down from the root
      rename_i hb
      rw [hroot, hlt] at hb
      have o : DownOrder key v k 0 x :=
        ⟨hheap.orderedExcept 0, fun h => absurd rfl h, fun h => absurd rfl h⟩
      obtain ⟨hheap', hsize', hslots', -⟩ := siftDown_spec hlt x k v 0 hk (by omega) o
      refine ⟨by rw [hsize', hsize], hheap', ?_⟩
      have hnew := take_orderedInsert_of_lt S (k - 1) hk1 hb
      rw [Nat.sub_add_cancel hk] at hnew
      rw [hnew, Multiset.coe_eq_coe.2 (List.perm_orderedInsert _ _ _), ← Multiset.cons_coe]
      rw [hslots, htake, hroot, ← Multiset.coe_add, Multiset.coe_singleton] at hslots'
      apply add_right_cancel (b := {S[k - 1]})
      rw [hslots', ← Multiset.singleton_add x]
      abel
    · -- `x` comes after the root and is dropped
      rename_i hb
      rw [hroot, hlt] at hb
      have hafter : key S[k - 1] < key x :=
        lt_of_le_of_ne (not_lt.1 hb) (hx _ ((sortByKey_perm l).subset (List.getElem_mem _)))
      have hsame := take_orderedInsert_of_gt S (k - 1) hk1 (ascending_sortByKey l) hafter
      rw [Nat.sub_add_cancel hk] at hsame
      exact ⟨hsize, hheap, by rw [hsame, hslots]⟩


variable (lt) in
/-- One step of emptying a heap: the root goes to slot `last`, and the entry that stood there is
sifted down into the heap of the first `last` slots. -/
def drainStep (v : Array β) (last : Nat) : Array β :=
  siftDown lt (v.getD last default) last (v.setIfInBounds last (v.getD 0 default)) 0

theorem drainHeap_eq (k : Nat) (v : Array β) :
    drainHeap lt k v = ((List.range (k - 1)).map fun t => k - 1 - t).foldl (drainStep lt) v := rfl

/-- Emptying a heap of `m + 1` slots, whose later slots are sorted and above it, into slots
`m, m - 1, …, 1` sorts all `k` slots and keeps their entries. -/
theorem drain_spec (hlt : ComparesBy key lt) {k : Nat} (m : Nat) :
    ∀ v : Array β, v.size = k → m + 1 ≤ k → IsHeap key v (m + 1) →
      (∀ i j, m + 1 ≤ i → i < j → j < k → key (v.getD i default) ≤ key (v.getD j default)) →
      (∀ a < m + 1, ∀ b, m + 1 ≤ b → b < k → key (v.getD a default) ≤ key (v.getD b default)) →
      (((List.range m).map fun t => m - t).foldl (drainStep lt) v).size = k ∧
      (∀ i j, i < j → j < k → key ((((List.range m).map fun t => m - t).foldl (drainStep lt) v).getD
        i default) ≤ key ((((List.range m).map fun t => m - t).foldl (drainStep lt) v).getD j default)) ∧
      slotsOf (((List.range m).map fun t => m - t).foldl (drainStep lt) v) k = slotsOf v k := by
  induction m with
  | zero =>
    intro v hv _ _ htail habove
    refine ⟨hv, fun i j hij hj => ?_, rfl⟩
    rcases Nat.eq_zero_or_pos i with rfl | hi
    · exact habove 0 (by omega) j (by omega) hj
    · exact htail i j (by omega) hij hj
  | succ m ih =>
    intro v hv hk hheap htail habove
    rw [List.range_succ_eq_map, List.map_cons, List.map_map, List.foldl_cons]
    have hlasts : ((fun t => m + 1 - t) ∘ Nat.succ) = fun t => m - t := by
      funext t; simp only [Function.comp, Nat.succ_eq_add_one]; omega
    rw [hlasts, Nat.sub_zero]
    -- the root goes to slot `m + 1`, and the entry there is sifted down from the root
    set v1 := v.setIfInBounds (m + 1) (v.getD 0 default) with hv1
    have hget1 := getD_setIfInBounds v (show m + 1 < v.size by omega) (v.getD 0 default)
    have o : DownOrder key v1 (m + 1) 0 (v.getD (m + 1) default) := by
      refine ⟨fun c hc0 hc _ hpc => ?_, fun h => absurd rfl h, fun h => absurd rfl h⟩
      rw [hv1, hget1, hget1, if_neg (by omega), if_neg (by omega)]
      exact hheap c hc0 (by omega)
    obtain ⟨hheap', hsize', hslots', hframe⟩ :=
      siftDown_spec hlt (v.getD (m + 1) default) (m + 1) v1 0 (by omega)
        (by rw [hv1, Array.size_setIfInBounds]; omega) o
    set v2 := siftDown lt (v.getD (m + 1) default) (m + 1) v1 0 with hv2
    have hstep : drainStep lt v (m + 1) = v2 := rfl
    rw [hstep]
    have hroot1 : v1.getD 0 default = v.getD 0 default := by rw [hv1, hget1, if_neg (by omega)]
    have hlow1 : slotsOf v1 (m + 1) = slotsOf v (m + 1) :=
      slotsOf_congr fun i hi => by rw [hv1, hget1, if_neg (by omega)]
    have hat : v2.getD (m + 1) default = v.getD 0 default := by
      rw [hframe _ le_rfl, hv1, hget1, if_pos rfl]
    have hhigh : ∀ i, m + 1 < i → v2.getD i default = v.getD i default := fun i hi => by
      rw [hframe _ (by omega), hv1, hget1, if_neg (by omega)]
    -- the heap now holds the first `m + 2` slots but the root
    have hheld : slotsOf v2 (m + 1) + {v.getD 0 default} = slotsOf v (m + 2) := by
      rw [← hroot1, hslots', hlow1, slotsOf_succ v (m + 1), ← Multiset.singleton_add, add_comm]
    -- slots from `m + 1` on: the old root, then the sorted slots above the heap
    have htail2 : ∀ i j, m + 1 ≤ i → i < j → j < k →
        key (v2.getD i default) ≤ key (v2.getD j default) := by
      intro i j hi hij hj
      rcases Nat.lt_or_ge (m + 1) i with hi' | hi'
      · rw [hhigh i hi', hhigh j (by omega)]
        exact htail i j (by omega) hij hj
      · obtain rfl : i = m + 1 := by omega
        rw [hat, hhigh j (by omega)]
        exact habove 0 (by omega) j (by omega) hj
    -- every entry left in the heap was in the old heap, under its root
    have habove2 : ∀ a < m + 1, ∀ b, m + 1 ≤ b → b < k →
        key (v2.getD a default) ≤ key (v2.getD b default) := by
      intro a ha b hb hbk
      have hmem : v2.getD a default ∈ slotsOf v (m + 2) := by
        rw [← hheld]; exact Multiset.mem_add.2 (.inl (mem_slotsOf ha))
      obtain ⟨a', ha', hva'⟩ := exists_of_mem_slotsOf hmem
      rw [← hva']
      rcases Nat.lt_or_ge (m + 1) b with hb' | hb'
      · rw [hhigh b hb']
        exact habove a' ha' b (by omega) hbk
      · obtain rfl : b = m + 1 := by omega
        rw [hat]
        exact hheap.le_root a' ha'
    obtain ⟨hwsize, hwsorted, hwslots⟩ := ih v2
      (by rw [hv2, size_siftDown, hv1, Array.size_setIfInBounds, hv]) (by omega) hheap' htail2
      habove2
    refine ⟨hwsize, hwsorted, hwslots.trans ?_⟩
    apply slotsOf_extend (n := m + 2) _ (fun i hi _ => hhigh i (by omega)) hk
    rw [slotsOf_succ v2 (m + 1), hat, ← hheld, ← Multiset.singleton_add, add_comm]

/-- Heap selection empties the heap that streaming its input leaves. -/
theorem heapSelect_eq_drainHeap (k : Nat) (xs : Array β) :
    heapSelect lt k xs = drainHeap lt k (heapFill lt k xs.toList) := by
  rw [heapSelect, ← Array.foldl_toList, Array.toList_zipIdx]
  rfl

/-- Heap selection keeps the best `k` entries of its input, best first. -/
theorem heapSelect_toList (hlt : ComparesBy key lt) {k : Nat} (xs : Array β) (hk : k ≤ xs.size)
    (hd : (xs.toList.map key).Nodup) :
    (heapSelect lt k xs).toList = (sortByKey key xs.toList).take k := by
  obtain ⟨hsize, hheap, hslots⟩ := heapFill_spec hlt k xs.toList hd
  rw [Array.length_toList, min_eq_right hk] at hheap hslots
  rw [heapSelect_eq_drainHeap, drainHeap_eq]
  set S := sortByKey key xs.toList with hS
  rcases Nat.eq_zero_or_pos k with rfl | hk0
  · -- no slots: nothing is kept
    have : heapFill lt 0 xs.toList = #[] := Array.eq_empty_of_size_eq_zero hsize
    simp [this]
  obtain ⟨hwsize, hwsorted, hwslots⟩ := drain_spec hlt (k - 1) (heapFill lt k xs.toList) hsize
    (by omega) (by rw [Nat.sub_add_cancel hk0]; exact hheap) (fun i j hi hij hj => by omega)
    (fun a ha b hb hbk => by omega)
  set w := ((List.range (k - 1)).map fun t => k - 1 - t).foldl (drainStep lt)
    (heapFill lt k xs.toList) with hw
  have hSk : (S.take k).length = k := by
    rw [List.length_take, (sortByKey_perm _).length_eq, Array.length_toList]; omega
  have hperm : w.toList ~ S.take k := by
    rw [← Multiset.coe_eq_coe, ← hslots, ← hwslots, slotsOf_eq_take w (by omega),
      List.take_of_length_le (by simp [hwsize])]
  have hasc : Ascending key w.toList := by
    unfold Ascending
    rw [List.pairwise_iff_getElem]
    intro i j hi hj hij
    simp only [Array.length_toList] at hi hj
    have := hwsorted i j hij (by omega)
    rwa [getD_eq_getElem (by simpa using hi), getD_eq_getElem (by simpa using hj)] at this
  exact eq_of_perm_of_ascending hperm hasc
    ((ascending_sortByKey _).sublist (List.take_sublist _ _))
    ((keysDistinct_of_nodup hd).perm (sortByKey_perm _).symm |>.subperm
      ((List.take_sublist _ _).subperm) |>.perm hperm.symm)

end Selection

end Select

end TensorSelect
