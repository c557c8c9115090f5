import Mathlib
import TensorSelect.Select.Bubble
import TensorSelect.Proofs.Select.Sorting

/-!
# Bubble selection keeps the best entries

Both bubble selections leave the best `k` entries of their input in their first `k` slots, best
first, for a strict order that comes from keys that tell the entries apart:

* `bubbleInsert_toList`: streaming insertion into `k` sorted slots gives the first `k` elements
  of the sorted input. After each entry the slots hold the best of the entries so far
  (`insertSteps_take`); an entry that beats the last slot is inserted at its place
  (`insertAt_toList`) and pushes the last one out.
* `bubblePasses_take`: after `p` passes the first `p` positions hold the first `p` sorted
  entries, since pass `p` carries the least entry from `p` on down to `p` (`bubblePass_spec`).
-/

namespace TensorSelect

namespace Select

/-! ## Insertion into sorted slots -/

section Insertion

open List

variable {β K : Type} [LinearOrder K] [Inhabited β] {key : β → K} {lt : β → β → Bool}

/-- `insertAt` puts `x` at its place among the sorted slots before `pos`, moving the later ones
back by one; the slot at `pos` is overwritten and the rest are kept. -/
theorem insertAt_toList (hlt : ComparesBy key lt) (x : β) :
    ∀ (v : Array β) (pos : Nat), pos < v.size → Ascending key (v.toList.take pos) →
      (∀ a ∈ v.toList.take pos, key a ≠ key x) →
      (insertAt lt x v pos).toList =
        (v.toList.take pos).orderedInsert (KeyLE key) x ++ v.toList.drop (pos + 1) := by
  intro v pos
  induction pos generalizing v with
  | zero =>
    intro h0 _ _
    simp [insertAt, List.set_eq_take_append_cons_drop, h0]
  | succ pos ih =>
    intro hpos ha hx
    have hp : pos < v.toList.length := by simp; omega
    have htake : v.toList.take (pos + 1) = v.toList.take pos ++ [v.toList[pos]] :=
      List.take_succ_eq_append_getElem hp
    rw [htake] at ha hx ⊢
    simp only [insertAt, getD_eq_getElem hp]
    split
    · -- `x` comes before the last sorted slot, which moves back into the slot at `pos + 1`
      rename_i hxp
      have hlt' := (hlt _ _).1 hxp
      have hw : pos < (v.setIfInBounds (pos + 1) v.toList[pos]).size := by simp; omega
      have hwt : (v.setIfInBounds (pos + 1) v.toList[pos]).toList.take pos = v.toList.take pos := by
        simp [List.take_set_of_le]
      rw [ih _ hw (by rw [hwt]; exact ha.sublist (List.sublist_append_left _ _))
        (by rw [hwt]; exact fun a h => hx a (List.mem_append_left _ h)), hwt,
        orderedInsert_append_of_lt hlt']
      rw [Array.toList_setIfInBounds, List.set_eq_take_append_cons_drop, if_pos (by simp; omega),
        List.drop_left' (by simp; omega)]
      simp
    · -- `x` comes after every sorted slot, and takes the slot at `pos + 1`
      rename_i hxp
      have hge : key v.toList[pos] < key x := by
        have hne := hx _ (List.mem_append_right _ (List.mem_singleton_self _))
        have hnlt : ¬ key x < key v.toList[pos] := fun h => hxp ((hlt _ _).2 h)
        exact lt_of_le_of_ne (not_lt.1 hnlt) hne
      have hall : ∀ a ∈ v.toList.take pos ++ [v.toList[pos]], key a < key x := by
        intro a h
        rcases List.mem_append.1 h with h | h
        · exact lt_of_le_of_lt ((List.pairwise_append.1 ha).2.2 a h _ (List.mem_singleton_self _)) hge
        · rw [List.mem_singleton.1 h]; exact hge
      rw [orderedInsert_of_forall_lt hall, Array.toList_setIfInBounds,
        List.set_eq_take_append_cons_drop, if_pos (by simp; omega), htake]
      simp

/-! ## Bubble selection by insertion -/

/-- After the first entries of a stream, the slots hold the best `k` of them, best first. -/
theorem insertSteps_take (hlt : ComparesBy key lt) (k : Nat) :
    ∀ l : List β, (l.map key).Nodup →
      (l.zipIdx.foldl (fun v p => insertStep lt k v p.1 p.2) (Array.replicate k default)).size = k ∧
      (l.zipIdx.foldl (fun v p => insertStep lt k v p.1 p.2)
        (Array.replicate k default)).toList.take l.length = (sortByKey key l).take k := by
  intro l
  induction l using List.reverseRecOn with
  | nil => intro _; simp [sortByKey]
  | append_singleton l x ih =>
    intro hd
    have hdl : (l.map key).Nodup := (List.map_append .. ▸ hd).sublist (by simp)
    obtain ⟨hsize, htake⟩ := ih hdl
    have hx : ∀ a ∈ l, key a ≠ key x := by
      intro a ha hax
      have := (List.nodup_append.1 (List.map_append .. ▸ hd)).2.2
      exact this (key a) (List.mem_map_of_mem ha) (key x) (by simp) hax
    have hS : sortByKey key (l ++ [x]) = (sortByKey key l).orderedInsert (KeyLE key) x :=
      sortByKey_append_singleton (fun a ha b hb hab => by
        rw [List.mem_append, List.mem_singleton] at ha hb
        rcases ha with ha | rfl <;> rcases hb with hb | rfl
        · exact List.inj_on_of_nodup_map hdl ha hb hab
        · exact absurd hab (hx a ha)
        · exact absurd hab.symm (hx b hb)
        · rfl)
    have hSl : (sortByKey key l).length = l.length := (sortByKey_perm l).length_eq
    have hmem : ∀ a ∈ sortByKey key l, key a ≠ key x := fun a ha => hx a ((sortByKey_perm l).subset ha)
    rw [List.zipIdx_append, List.foldl_append, List.zipIdx_singleton, List.foldl_cons,
      List.foldl_nil, List.length_append, List.length_singleton, hS]
    generalize l.zipIdx.foldl (fun v p => insertStep lt k v p.1 p.2) (Array.replicate k default) = v
      at hsize htake
    simp only [zero_add]
    unfold insertStep
    split
    · -- a free slot is left: the entry is inserted among the sorted ones
      rename_i hj
      have hv : v.toList.take l.length = sortByKey key l := by
        rw [htake, List.take_of_length_le (by omega)]
      refine ⟨?_, ?_⟩
      · rw [size_insertAt]
        exact hsize
      rw [insertAt_toList hlt x v l.length (by omega) (by rw [hv]; exact ascending_sortByKey l)
        (by rw [hv]; exact hmem), hv, List.take_left' (by rw [List.orderedInsert_length, hSl]),
        List.take_of_length_le (by rw [List.orderedInsert_length, hSl]; omega)]
    · rename_i hj
      -- the slots are full: they hold the best `k` so far
      have hv : v.toList = (sortByKey key l).take k := by
        rw [← htake, List.take_of_length_le (by simp; omega)]
      rcases Nat.eq_zero_or_pos k with rfl | hk
      · -- without slots nothing is kept
        have hnil : ∀ w : Array β, w.size = 0 → w.toList.take (l.length + 1) = [] := by
          intro w hw
          have : w.toList = [] := List.eq_nil_of_length_eq_zero (by simpa using hw)
          rw [this, List.take_nil]
        split
        · exact ⟨by rw [size_insertAt, hsize], by rw [hnil _ (by rw [size_insertAt, hsize])]; rfl⟩
        · exact ⟨hsize, by rw [hnil _ hsize]; rfl⟩
      have hSk : k - 1 < (sortByKey key l).length := by omega
      have hlast : v.getD (k - 1) default = (sortByKey key l)[k - 1] := by
        rw [getD_eq_getElem (by simp; omega)]
        simp only [hv, List.getElem_take]
      have hvk : v.toList.take (l.length + 1) = (sortByKey key l).take k := by
        rw [List.take_of_length_le (by simp; omega), hv]
      split
      · -- the entry beats the last kept one, which drops out
        rename_i hbeat
        rw [hlast, hlt _ _] at hbeat
        have hfront : v.toList.take (k - 1) = (sortByKey key l).take (k - 1) := by
          rw [hv, List.take_take, min_eq_left (by omega)]
        have hrest : v.toList.drop (k - 1 + 1) = [] := List.drop_of_length_le (by simp; omega)
        refine ⟨by rw [size_insertAt, hsize], ?_⟩
        rw [insertAt_toList hlt x v (k - 1) (by omega)
            (by rw [hfront]; exact (ascending_sortByKey l).sublist (List.take_sublist _ _))
            (by rw [hfront]; exact fun a ha => hmem a (List.mem_of_mem_take ha)),
          hrest, List.append_nil, hfront,
          List.take_of_length_le (by rw [List.orderedInsert_length]; simp; omega)]
        have hnew := take_orderedInsert_of_lt _ _ hSk hbeat
        rw [Nat.sub_add_cancel hk] at hnew
        exact hnew.symm
      · -- the entry comes after the last kept one and is dropped
        rename_i hbeat
        rw [hlast, hlt _ _] at hbeat
        have hafter : key (sortByKey key l)[k - 1] < key x :=
          lt_of_le_of_ne (not_lt.1 hbeat) (hmem _ (List.getElem_mem _))
        refine ⟨hsize, ?_⟩
        have hsame := take_orderedInsert_of_gt _ _ hSk (ascending_sortByKey l) hafter
        rw [Nat.sub_add_cancel hk] at hsame
        rw [hvk, hsame]

/-- Bubble selection by insertion keeps the best `k` entries of its input, best first. -/
theorem bubbleInsert_toList (hlt : ComparesBy key lt) (k : Nat) (xs : Array β)
    (hk : k ≤ xs.size) (hd : (xs.toList.map key).Nodup) :
    (bubbleInsert lt k xs).toList = (sortByKey key xs.toList).take k := by
  obtain ⟨hsize, htake⟩ := insertSteps_take hlt k xs.toList hd
  have hfold : bubbleInsert lt k xs = xs.toList.zipIdx.foldl
      (fun v p => insertStep lt k v p.1 p.2) (Array.replicate k default) := by
    rw [bubbleInsert, ← Array.foldl_toList, Array.toList_zipIdx]
  rw [hfold, ← htake, List.take_of_length_le (by simp [hsize]; omega)]

end Insertion

/-! ## Bubble selection by passes -/

section BubblePasses

open List

variable {β K : Type} [LinearOrder K] [Inhabited β] {key : β → K} {lt : β → β → Bool}

/-- The entries at or after position `p`, the least of which a pass brings to `p`. -/
def IsLeast (key : β → K) (m : β) (l : List β) : Prop := m ∈ l ∧ ∀ b ∈ l, key m ≤ key b

/-- The compare-exchanges of a pass, from the last position down `n` places, leave the earlier
positions alone and carry the least entry they passed to the position before the last they
compared. -/
theorem descend_spec (hlt : ComparesBy key lt) (v : Array β) :
    ∀ n, n < v.size →
      (((List.range n).map fun t => v.size - 1 - t).foldl (exchangeDown lt) v).toList ~ v.toList ∧
      (∀ i < v.size - 1 - n,
        (((List.range n).map fun t => v.size - 1 - t).foldl (exchangeDown lt) v)[i]? = v[i]?) ∧
      ∃ m, (((List.range n).map fun t => v.size - 1 - t).foldl (exchangeDown lt) v)[v.size - 1 - n]? =
          some m ∧ IsLeast key m (v.toList.drop (v.size - 1 - n)) := by
  intro n
  induction n with
  | zero =>
    intro hn
    have hlast : v.toList.drop (v.size - 1) = [v[v.size - 1]] := by
      rw [List.drop_eq_getElem_cons (by simp; omega), List.drop_of_length_le (by simp; omega)]
      simp
    refine ⟨List.Perm.refl _, fun _ _ => rfl, v[v.size - 1], ?_, ?_⟩
    · simp [Array.getElem?_eq_getElem (show v.size - 1 < v.size by omega)]
    · rw [Nat.sub_zero, hlast]
      exact ⟨List.mem_singleton_self _, fun b hb => by rw [List.mem_singleton.1 hb]⟩
  | succ n ih =>
    intro hn
    obtain ⟨hperm, hkeep, m, hm, hleast⟩ := ih (by omega)
    rw [List.range_succ, List.map_append, List.foldl_append, List.map_singleton, List.foldl_cons,
      List.foldl_nil]
    generalize ((List.range n).map fun t => v.size - 1 - t).foldl (exchangeDown lt) v = w
      at hperm hkeep hm
    -- the pass now compares positions `q - 1` and `q`
    set q := v.size - 1 - n with hq
    have hsize : w.size = v.size := by simpa using hperm.length_eq
    have hq1 : q - 1 < w.size := by omega
    have hq0 : q < w.size := by omega
    have hwq : w[q] = m := by simpa [Array.getElem?_eq_getElem hq0] using hm
    have hwq1 : w[q - 1] = v[q - 1] := by
      have := hkeep (q - 1) (by omega)
      rwa [Array.getElem?_eq_getElem hq1, Array.getElem?_eq_getElem (by omega),
        Option.some.injEq] at this
    have hstep : exchangeDown lt w q = exchange lt w (q - 1, q) := rfl
    refine ⟨?_, ?_, ?_⟩
    · rw [hstep]
      exact (exchange_perm w _).trans hperm
    · intro i hi
      rw [hstep, getElem?_exchange_of_ne w _ (by simp; omega) (by simp; omega)]
      exact hkeep i (by omega)
    · refine ⟨_, by rw [show v.size - 1 - (n + 1) = q - 1 by omega, hstep,
        getElem?_exchange_fst hlt w hq1 hq0], ?_⟩
      rw [hwq, hwq1, show v.size - 1 - (n + 1) = q - 1 by omega,
        List.drop_eq_getElem_cons (show q - 1 < v.toList.length by simp; omega),
        show q - 1 + 1 = q by omega, Array.getElem_toList]
      obtain ⟨hmem, hle⟩ := hleast
      split
      · -- the entry carried so far beats the one before it
        rename_i h
        refine ⟨List.mem_cons_of_mem _ hmem, fun b hb => ?_⟩
        rcases List.mem_cons.1 hb with rfl | hb
        · exact h.le
        · exact hle b hb
      · rename_i h
        refine ⟨List.mem_cons_self .., fun b hb => ?_⟩
        rcases List.mem_cons.1 hb with rfl | hb
        · exact le_rfl
        · exact le_trans (not_lt.1 h) (hle b hb)

/-- A pass leaves the positions before `p` alone and brings the least entry from `p` on to
`p`. -/
theorem bubblePass_spec (hlt : ComparesBy key lt) (v : Array β) {p : Nat}
    (hp : p < v.size) :
    (bubblePass lt v p).toList ~ v.toList ∧ (∀ i < p, (bubblePass lt v p)[i]? = v[i]?) ∧
      ∃ m, (bubblePass lt v p)[p]? = some m ∧ IsLeast key m (v.toList.drop p) := by
  have h := descend_spec hlt v (v.size - 1 - p) (by omega)
  rw [show v.size - 1 - (v.size - 1 - p) = p by omega] at h
  exact h

/-- After `p` passes the first `p` positions hold the best `p` entries, best first. -/
theorem bubblePasses_spec (hlt : ComparesBy key lt) (v : Array β)
    (hd : (v.toList.map key).Nodup) :
    ∀ p, p ≤ v.size →
      ((List.range p).foldl (bubblePass lt) v).toList ~ v.toList ∧
      ((List.range p).foldl (bubblePass lt) v).toList.take p = (sortByKey key v.toList).take p := by
  intro p
  induction p with
  | zero => intro _; exact ⟨List.Perm.refl _, by simp⟩
  | succ p ih =>
    intro hp
    obtain ⟨hperm, htake⟩ := ih (by omega)
    rw [List.range_succ, List.foldl_append, List.foldl_cons, List.foldl_nil]
    generalize (List.range p).foldl (bubblePass lt) v = w at hperm htake
    set S := sortByKey key v.toList with hS
    have hwsize : w.size = v.size := by simpa using hperm.length_eq
    have hSperm : S ~ v.toList := sortByKey_perm v.toList
    have hpS : p < S.length := by rw [hSperm.length_eq]; simp; omega
    obtain ⟨hperm', hkeep, m, hm, hmin⟩ := bubblePass_spec hlt w (p := p) (by omega)
    -- the entries from `p` on are the sorted ones from `p` on, in some order
    have hrest : w.toList.drop p ~ S.drop p := by
      have := hperm.trans hSperm.symm
      rw [← List.take_append_drop p w.toList, ← List.take_append_drop p S, htake] at this
      exact List.perm_append_left_iff _ |>.1 this
    -- so the least of them is the `p`-th sorted one, their keys being distinct
    have hSp : m = S[p] := by
      have hSdrop : S.drop p = S[p] :: S.drop (p + 1) := List.drop_eq_getElem_cons hpS
      have hasc : Ascending key (S.drop p) := (ascending_sortByKey v.toList).sublist (List.drop_sublist _ _)
      rw [hSdrop] at hasc hrest
      obtain ⟨hmem, hle⟩ := hmin
      have hm' : m ∈ S[p] :: S.drop (p + 1) := hrest.subset hmem
      have h1 : key S[p] ≤ key m := by
        rcases List.mem_cons.1 hm' with h | h
        · rw [h]
        · exact List.rel_of_pairwise_cons hasc h
      have h2 : key m ≤ key S[p] := hle _ (hrest.symm.subset (List.mem_cons_self ..))
      exact List.inj_on_of_nodup_map hd (hSperm.subset (List.mem_of_mem_drop (hSdrop ▸ hm')))
        (hSperm.subset (List.getElem_mem hpS)) (le_antisymm h2 h1)
    refine ⟨hperm'.trans hperm, ?_⟩
    have hfront : (bubblePass lt w p).toList.take p = w.toList.take p :=
      take_eq_of_getElem? fun i hi => by simpa using hkeep i hi
    rw [List.take_add_one, List.take_add_one, hfront, htake, Array.getElem?_toList, hm, hSp,
      List.getElem?_eq_getElem hpS]

/-- Bubble selection by passes keeps the best `k` entries of its input in its first `k` slots,
best first. -/
theorem bubblePasses_take (hlt : ComparesBy key lt) {k : Nat} (v : Array β) (hk : k ≤ v.size)
    (hd : (v.toList.map key).Nodup) :
    (bubblePasses lt k v).toList.take k = (sortByKey key v.toList).take k :=
  (bubblePasses_spec hlt v hd k hk).2

end BubblePasses

end Select

end TensorSelect
