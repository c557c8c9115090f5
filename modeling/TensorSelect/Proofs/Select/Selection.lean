import Mathlib
import TensorSelect.Select.Item
import TensorSelect.Proofs.Element.Ranks
import TensorSelect.Proofs.Select.Network
import TensorSelect.Proofs.Select.Bubble
import TensorSelect.Proofs.Select.Bitonic
import TensorSelect.Proofs.Select.Heap

/-!
# What a selection keeps

The answer of a selection over one work item, stated without any of its algorithms: the pairs of
the work item (each value with its index along the axis), stably sorted best first by rank
(`bestFirst`), of which the first `k` are kept, and listed by index when the output asks for it
(`keptPairs`).

Main statement: `Method.select_pairs`. Every method keeps exactly these pairs, whatever its
algorithm, implementation and networks, provided three things hold (`Method.Fits`): `k` is at
most the axis, the indices stay below the padding index of the index network when there is one,
and the networks are bitonic networks on powers of two with room for what they sort.

The proof puts every algorithm on one key. The order `Entry.before` of a mode is the order of
the key (rank read in the mode's direction, index) (`comparesBy_before`). Entries with distinct
indices have distinct keys under it, so the answer of each algorithm is the first `k` of the list
sorted by that key (`Method.rank_take`). For the bitonic network this needs the padding to lose
every tie, which `Ranked.Bounded` gives. Finally, the stable sort by rank is the sort by that
same key (`bestFirst_eq_sortByKey`), because a stable sort leaves equal ranks in the order of
their indices.
-/

namespace TensorSelect

/-! ## Modes read as directions -/

namespace Mode

/-- A mode's reading of ranks, under which the better of two ranks is the smaller one: negated
for `max`. -/
def direct : Mode → Int → Int
  | .max, a => -a
  | _, a => a

theorem prefers_iff (m : Mode) (a b : Int) : m.prefers a b = true ↔ m.direct a < m.direct b := by
  cases m <;> simp [prefers, direct]

theorem direct_inj (m : Mode) {a b : Int} : m.direct a = m.direct b ↔ a = b := by
  cases m <;> simp [direct]

/-- The padding value of a mode loses against every value of a bounded type. -/
theorem direct_le_sentinel {α : Type} [Ranked α] [Ranked.Bounded α] (m : Mode) (x : α) :
    m.direct (Ranked.rank x) ≤ m.direct (Ranked.rank (m.sentinel : α)) := by
  cases m with
  | max => simpa [direct, sentinel] using Ranked.Bounded.bottom_le x
  | min => exact Ranked.Bounded.le_top x
  | unnamed n => exact Ranked.Bounded.le_top x

end Mode

namespace Select

/-! ## The answer of a selection -/

section Spec

variable {α : Type} (rank : α → Int) (m : Mode)

/-- The pairs of a work item, each value with its index along the axis, stably sorted best
first by rank: the larger first in mode `max`, the smaller first otherwise, and equal ranks in
their order along the axis. The index is an integer, as the output holds it. -/
def bestFirst (xs : List α) : List (α × Int) :=
  (xs.zipIdx.mergeSort fun a b => decide (m.direct (rank a.1) ≤ m.direct (rank b.1))).map
    fun p => (p.1, (p.2 : Int))

/-- The pairs a selection keeps: the first `k` of `bestFirst`, listed by index when the output
is in the order of the axis. -/
def keptPairs (sortBy : SortBy) (k : Nat) (xs : List α) : List (α × Int) :=
  match sortBy with
  | .index => ((bestFirst rank m xs).take k).mergeSort fun a b => decide (a.2 ≤ b.2)
  | _ => (bestFirst rank m xs).take k

/-- The key of a pair in mode `m`: its rank read in the mode's direction, then its index. -/
def pairKey (p : α × Nat) : Int ×ₗ Nat := toLex (m.direct (rank p.1), p.2)

/-- The stable sort by rank is the sort by rank and index: it leaves equal ranks in their order
along the axis, which is the order of their indices. -/
theorem bestFirst_eq_sortByKey (xs : List α) :
    bestFirst rank m xs = (sortByKey (pairKey rank m) xs.zipIdx).map fun p => (p.1, (p.2 : Int)) := by
  -- numbering the pairs by their position numbers each pair by its own index
  have hnum : ∀ a ∈ xs.zipIdx.zipIdx, a.1.2 = a.2 := by
    intro a ha
    rw [List.mem_zipIdx_iff_getElem?, List.getElem?_zipIdx] at ha
    obtain ⟨x, -, hx⟩ := Option.map_eq_some_iff.1 ha
    rw [← hx]
    simp
  unfold bestFirst sortByKey
  congr 1
  rw [← List.mergeSort_zipIdx,
    @List.map_mergeSort _ _ _ (fun a b => decide (KeyLE (pairKey rank m) a b)) _ _ ?_,
    List.zipIdx_map_fst]
  intro a ha b hb
  rw [Bool.eq_iff_iff, decide_eq_true_iff]
  simp only [List.zipIdxLE, KeyLE, pairKey, Prod.Lex.toLex_le_toLex]
  rw [hnum a ha, hnum b hb]
  split_ifs with h1 h2 <;> simp only [decide_eq_true_eq, true_iff, false_iff] at * <;> omega

theorem length_bestFirst (xs : List α) : (bestFirst rank m xs).length = xs.length := by
  simp [bestFirst, List.length_mergeSort]

/-- A selection keeps `k` pairs, or all of them when there are fewer. -/
theorem length_keptPairs (sortBy : SortBy) (k : Nat) (xs : List α) :
    (keptPairs rank m sortBy k xs).length = min k xs.length := by
  unfold keptPairs
  split <;> simp [List.length_mergeSort, length_bestFirst]

/-- Renaming the values, ranks kept, renames the pairs sorted best first. -/
theorem bestFirst_map {β : Type} (rank' : β → Int) (tag : α → β)
    (htag : ∀ x, rank' (tag x) = rank x) (xs : List α) :
    bestFirst rank' m (xs.map tag) = (bestFirst rank m xs).map (Prod.map tag id) := by
  unfold bestFirst
  rw [List.zipIdx_map, ← List.map_mergeSort (l := xs.zipIdx) (f := Prod.map tag id)
    (r := fun a b => decide (m.direct (rank a.1) ≤ m.direct (rank b.1)))
    (fun a _ b _ => by simp [htag]), List.map_map, List.map_map]
  rfl

/-- Renaming the values, ranks kept, renames the kept pairs. -/
theorem keptPairs_map {β : Type} (rank' : β → Int) (tag : α → β)
    (htag : ∀ x, rank' (tag x) = rank x) (sortBy : SortBy) (k : Nat) (xs : List α) :
    keptPairs rank' m sortBy k (xs.map tag) =
      (keptPairs rank m sortBy k xs).map (Prod.map tag id) := by
  unfold keptPairs
  split
  · rw [bestFirst_map rank m rank' tag htag, ← List.map_take]
    symm
    apply List.map_mergeSort
    intro _ _ _ _
    rfl
  · rw [bestFirst_map rank m rank' tag htag, List.map_take]

end Spec

/-! ## Entries ordered by one key -/

section Keys

variable {α : Type}

/-- The key that orders the entries of a selection in mode `m`: the rank read in the mode's
direction, then the label. -/
def Entry.orderKey (m : Mode) (e : Entry α) : Int ×ₗ Int := toLex (m.direct e.key, e.index)

/-- The value and the label of an entry, as the output holds them. -/
def Entry.pair (e : Entry α) : α × Int := (e.value, e.index)

theorem comparesBy_before (m : Mode) : ComparesBy (Entry.orderKey m) (Entry.before (α := α) m) := by
  intro x y
  simp only [Entry.before, Entry.orderKey, Prod.Lex.toLex_lt_toLex, Bool.or_eq_true,
    Mode.prefers_iff, Bool.and_eq_true, beq_iff_eq, decide_eq_true_eq, Mode.direct_inj]

theorem comparesBy_byIndex : ComparesBy Entry.index (Entry.byIndex (α := α)) := by
  intro x y
  simp [Entry.byIndex]

/-- Entries with distinct labels have distinct keys. -/
theorem nodup_orderKey (m : Mode) {l : List (Entry α)} (h : (l.map Entry.index).Nodup) :
    (l.map (Entry.orderKey m)).Nodup := by
  apply List.Nodup.of_map (fun key => (ofLex key).2)
  simpa [List.map_map, Function.comp_def, Entry.orderKey] using h

variable [Ranked α]

theorem entries_toList (xs : Array α) :
    (Method.entries xs).toList = xs.toList.zipIdx.map fun p => Entry.of p.1 (wrapInt32 p.2) := by
  simp [Method.entries, Array.toList_zipIdx]

/-- The labels of a work item are its places along the axis, as 32-bit integers. -/
theorem index_entries (xs : Array α) :
    (Method.entries xs).toList.map Entry.index =
      (List.range xs.size).map fun (j : Nat) => wrapInt32 j := by
  rw [entries_toList, List.map_map, List.range_eq_range', ← Array.length_toList,
    ← List.zipIdx_map_snd, List.map_map]
  apply List.map_congr_left
  intro p _
  rw [Function.comp_apply, Entry.index_of, Function.comp_apply]

/-- On an axis of at most `2^31` elements each label is the place itself. -/
theorem entries_toList_of_le {xs : Array α} (h : xs.size ≤ 2 ^ 31) :
    (Method.entries xs).toList = xs.toList.zipIdx.map fun p => Entry.of p.1 (p.2 : Int) := by
  rw [entries_toList]
  apply List.map_congr_left
  intro p hp
  have hj : p.2 < xs.size := by simpa using (List.mem_zipIdx' hp).1
  rw [wrapInt32_of_mem (by omega) (by omega)]

/-- On an axis of at most `2^32` elements the labels still tell the elements apart. -/
theorem nodup_index_entries {xs : Array α} (h : xs.size ≤ 2 ^ 32) :
    ((Method.entries xs).toList.map Entry.index).Nodup := by
  rw [index_entries]
  refine List.Nodup.map_on ?_ List.nodup_range
  intro a ha b hb hab
  simp only [List.mem_range] at ha hb
  exact_mod_cast wrapInt32_inj (by omega) (by omega) (by omega) (by omega) hab

theorem mem_entries_of_le {xs : Array α} (h : xs.size ≤ 2 ^ 31) {e : Entry α}
    (he : e ∈ (Method.entries xs).toList) : ∃ x, ∃ j < xs.size, e = Entry.of x (j : Int) := by
  rw [entries_toList_of_le h, List.mem_map] at he
  obtain ⟨⟨x, j⟩, hp, rfl⟩ := he
  exact ⟨x, j, by simpa using (List.mem_zipIdx' hp).1, rfl⟩

/-- Reading the places as labels keeps the order of the keys. -/
theorem orderKey_le_iff (m : Mode) (a b : α × Nat) :
    Entry.orderKey m (Entry.of a.1 (a.2 : Int)) ≤ Entry.orderKey m (Entry.of b.1 (b.2 : Int)) ↔
      pairKey Ranked.rank m a ≤ pairKey Ranked.rank m b := by
  simp only [Entry.orderKey, pairKey, Entry.of, Prod.Lex.toLex_le_toLex, Nat.cast_le]

/-- On an axis of at most `2^31` elements, sorting the entries by key is sorting their pairs
best first. -/
theorem pair_sortByKey_entries (m : Mode) {xs : Array α} (h : xs.size ≤ 2 ^ 31) :
    (sortByKey (Entry.orderKey m) (Method.entries xs).toList).map Entry.pair =
      bestFirst Ranked.rank m xs.toList := by
  have hsort : sortByKey (Entry.orderKey m) (xs.toList.zipIdx.map fun p => Entry.of p.1 (p.2 : Int)) =
      (sortByKey (pairKey Ranked.rank m) xs.toList.zipIdx).map fun p => Entry.of p.1 (p.2 : Int) := by
    symm
    apply List.map_mergeSort
    intro a _ b _
    rw [Bool.eq_iff_iff, decide_eq_true_iff, decide_eq_true_iff]
    exact (orderKey_le_iff m a b).symm
  rw [bestFirst_eq_sortByKey, entries_toList_of_le h, hsort, List.map_map]
  rfl

end Keys

/-! ## Every algorithm sorts by the key -/

/-- What a method needs to select right from `n` elements: `k` at most `n`; at most `2^31`
elements, so that every label is its element's place; places below the padding index when the
output is listed by index; and networks that sort what the method applies them to. -/
structure Method.Fits (m : Method) (n : Nat) : Prop where
  k_le : m.k ≤ n
  axis_le : n ≤ 2 ^ 31
  index_le : m.sortBy = .index → (n : Int) ≤ indexPadding
  network : m.network.Sorts n m.k (m.algorithm == .bitonic) (m.sortBy == .index)

/-- On a network of at most `2^31` positions, a method reads the network's own pairs: the
specialised kernel's stored pairs are exact. -/
theorem Method.pairs_bitonicPairs (m : Method) {p : Nat} (hp : p ≤ 31) :
    m.pairs (bitonicPairs (2 ^ p)) = bitonicPairs (2 ^ p) := by
  have hpow : 2 ^ p ≤ 2 ^ 31 := Nat.pow_le_pow_right (by decide) hp
  unfold Method.pairs
  split
  · conv_rhs => rw [← List.map_id (bitonicPairs (2 ^ p))]
    apply List.map_congr_left
    intro q hq
    have hlt := bitonicPairs_lt rfl q hq
    rw [storedPair_of_lt (by omega) (by omega)]
    simp
  · rfl

section Algorithms

variable {α : Type} [Ranked α]

/-- The padding of the bitonic network comes after every entry: it loses on rank or ties and
has a later place. -/
theorem orderKey_lt_padding [Ranked.Bounded α] (m : Mode) {xs : Array α} (h : xs.size ≤ 2 ^ 31)
    {e : Entry α} (he : e ∈ (Method.entries xs).toList) (t : Nat) :
    Entry.orderKey m e < Entry.orderKey m (Entry.of (m.sentinel : α) ((xs.size + t : Nat) : Int)) := by
  obtain ⟨x, j, hj, rfl⟩ := mem_entries_of_le h he
  rw [Entry.orderKey, Entry.orderKey, Prod.Lex.toLex_lt_toLex']
  exact ⟨m.direct_le_sentinel _, fun _ => by simp [Entry.of]; omega⟩

/-- The padding of a work item up to `2^p ≤ 2^31` positions, labelled with the places past the
axis. -/
theorem padding_labels (m : Mode) (xs : Array α) {p : Nat} (hp : p ≤ 31) :
    ((List.range (2 ^ p - (Method.entries xs).size)).map fun (t : Nat) =>
        Entry.of (m.sentinel : α) (wrapInt32 ((Method.entries xs).size + t : Nat))) =
      (List.range (2 ^ p - xs.size)).map fun (t : Nat) =>
        Entry.of (m.sentinel : α) ((xs.size + t : Nat) : Int) := by
  have hsize : (Method.entries xs).size = xs.size := by simp [Method.entries]
  have hpow : 2 ^ p ≤ 2 ^ 31 := Nat.pow_le_pow_right (by decide) hp
  rw [hsize]
  apply List.map_congr_left
  intro t ht
  have := List.mem_range.1 ht
  rw [wrapInt32_of_mem (by omega) (by omega)]

variable [Inhabited α]

/-- The index network lists the `k` kept entries by index: their places lie below the padding
index, so the padding sorts after them. -/
theorem take_runPairs_byIndex (m : Mode) (xs : Array α) (hn : (xs.size : Int) ≤ indexPadding)
    {k q : Nat} (hk : k ≤ xs.size) (hq : k ≤ 2 ^ q) :
    (runPairs Entry.byIndex (bitonicPairs (2 ^ q))
      (((sortByKey (Entry.orderKey m) (Method.entries xs).toList).take k).toArray ++
        Array.replicate (2 ^ q - k) ({ value := default, key := 0, index := indexPadding } : Entry α))
      ).toList.take k =
      sortByKey Entry.index ((sortByKey (Entry.orderKey m) (Method.entries xs).toList).take k) := by
  have hA : xs.size ≤ 2 ^ 31 := by
    have : indexPadding = 2147483647 := rfl
    omega
  have hperm : (sortByKey (Entry.orderKey m) (Method.entries xs).toList).Perm
      (Method.entries xs).toList :=
    sortByKey_perm _
  set kept := (sortByKey (Entry.orderKey m) (Method.entries xs).toList).take k
  set padding := Array.replicate (2 ^ q - k)
    ({ value := default, key := 0, index := indexPadding } : Entry α)
  have hlen : kept.length = k := by
    simp only [kept, List.length_take, hperm.length_eq, Array.length_toList]
    simp [Method.entries, hk]
  have hv : (kept.toArray ++ padding).size = 2 ^ q := by simp [padding, hlen]; omega
  -- every kept entry is an entry of the work item, labelled below the padding index
  have hbelow : ∀ a ∈ kept, a.index < indexPadding := by
    intro a ha
    obtain ⟨x, j, hj, rfl⟩ := mem_entries_of_le hA (hperm.subset (List.mem_of_mem_take ha))
    show (j : Int) < indexPadding
    omega
  have hkept : KeysDistinct Entry.index kept :=
    (keysDistinct_of_nodup (nodup_index_entries (by omega))).subperm
      ((List.take_sublist _ _).subperm.trans hperm.subperm)
  have hpad : KeysDistinct Entry.index padding.toList := by
    intro a ha b hb _
    simp only [padding, Array.toList_replicate] at ha hb
    rw [List.eq_of_mem_replicate ha, List.eq_of_mem_replicate hb]
  have hlt : ∀ a ∈ kept, ∀ b ∈ padding.toList, a.index < b.index := by
    intro a ha b hb
    simp only [padding, Array.toList_replicate] at hb
    rw [List.eq_of_mem_replicate hb]
    exact hbelow a ha
  have hd : KeysDistinct Entry.index (kept ++ padding.toList) :=
    hkept.append hpad fun a ha b hb => (hlt a ha b hb).ne
  rw [runPairs_bitonicPairs_eq comparesBy_byIndex _ hv (by rwa [Array.toList_append]),
    Array.toList_append, List.toList_toArray, sortByKey_append hd hlt, List.take_left']
  rw [(sortByKey_perm _).length_eq, hlen]

variable [Ranked.Bounded α]

/-- The bitonic network sorts the padded entries: the entries sorted, then the padding. -/
theorem take_runPairs_padded (m : Mode) (xs : Array α) {p : Nat} (hn : xs.size ≤ 2 ^ p)
    (hp : p ≤ 31) {k : Nat} (hk : k ≤ xs.size) :
    (runPairs (Entry.before m) (bitonicPairs (2 ^ p)) (Method.entries xs ++
      ((List.range (2 ^ p - (Method.entries xs).size)).map fun (t : Nat) =>
        Entry.of m.sentinel (wrapInt32 ((Method.entries xs).size + t : Nat))).toArray)).toList.take k =
      (sortByKey (Entry.orderKey m) (Method.entries xs).toList).take k := by
  have hpow : 2 ^ p ≤ 2 ^ 31 := Nat.pow_le_pow_right (by decide) hp
  have hA : xs.size ≤ 2 ^ 31 := le_trans hn hpow
  have hsize : (Method.entries xs).size = xs.size := by simp [Method.entries]
  rw [padding_labels m xs hp]
  set es := Method.entries xs
  set padding := (List.range (2 ^ p - xs.size)).map fun (t : Nat) =>
    Entry.of (m.sentinel : α) ((xs.size + t : Nat) : Int)
  have hv : (es ++ padding.toArray).size = 2 ^ p := by simp [padding, es, hsize]; omega
  -- the labels are `0, …, 2^p - 1`, so the keys tell the entries apart
  have hidx : ((es ++ padding.toArray).toList.map Entry.index).Nodup := by
    have hfirst : es.toList.map Entry.index = (List.range xs.size).map Int.ofNat := by
      rw [index_entries]
      apply List.map_congr_left
      intro j hj
      have := List.mem_range.1 hj
      exact wrapInt32_of_mem (by omega) (by omega)
    have : (es ++ padding.toArray).toList.map Entry.index = (List.range (2 ^ p)).map Int.ofNat := by
      rw [Array.toList_append, List.map_append, hfirst, List.toList_toArray]
      conv_rhs => rw [show 2 ^ p = xs.size + (2 ^ p - xs.size) by omega, List.range_add,
        List.map_append, List.map_map]
      simp only [padding, List.map_map, Function.comp_def, Entry.of]
      rfl
    rw [this]
    exact List.nodup_range.map Int.ofNat_injective
  have hd := keysDistinct_of_nodup (nodup_orderKey m hidx)
  have hlt : ∀ a ∈ es.toList, ∀ b ∈ padding, Entry.orderKey m a < Entry.orderKey m b := by
    intro a ha b hb
    obtain ⟨t, -, rfl⟩ := List.mem_map.1 hb
    exact orderKey_lt_padding m hA ha t
  rw [Array.toList_append, List.toList_toArray] at hd
  rw [runPairs_bitonicPairs_eq (comparesBy_before m) _ hv (by rwa [Array.toList_append]),
    Array.toList_append, List.toList_toArray, sortByKey_append hd hlt,
    List.take_append_of_le_length]
  rw [(sortByKey_perm _).length_eq, Array.length_toList, hsize]
  exact hk

/-- Every algorithm ranks the first `k` entries as the sort by key does. -/
theorem Method.rank_take (m : Method) (xs : Array α) (hfit : m.Fits xs.size) :
    (m.rank (Method.entries xs)).toList.take m.k =
      (sortByKey (Entry.orderKey m.mode) (Method.entries xs).toList).take m.k := by
  have hlt := comparesBy_before (α := α) m.mode
  have hk : m.k ≤ (Method.entries xs).size := by simpa [Method.entries] using hfit.k_le
  have hd := nodup_orderKey m.mode (nodup_index_entries (le_trans hfit.axis_le (by decide)))
  unfold Method.rank
  split
  · -- the bubble streams into `k` slots in place, or makes `k` passes
    split
    · rw [bubbleInsert_toList hlt m.k _ hk hd, List.take_take, min_self]
    · exact bubblePasses_take hlt _ hk hd
  · -- the bitonic network sorts the whole padded axis
    rename_i halg
    obtain ⟨p, hp31, hp, hn, hpairs⟩ := hfit.network.value (by simp [halg])
    rw [hpairs, hp, m.pairs_bitonicPairs hp31, toNat_two_pow]
    exact take_runPairs_padded m.mode xs hn hp31 hfit.k_le
  · -- every other algorithm runs the heap
    rw [heapSelect_toList hlt _ hk hd, List.take_take, min_self]

/-- Every method keeps the pairs of `keptPairs`: the first `k` of the pairs stably sorted best
first by rank, listed by index when the output asks for it. -/
theorem Method.select_pairs (m : Method) (xs : Array α) (hfit : m.Fits xs.size) :
    (m.select (Method.entries xs)).toList.map Entry.pair =
      keptPairs Ranked.rank m.mode m.sortBy m.k xs.toList := by
  have hkept : ((m.rank (Method.entries xs)).extract 0 m.k).toList =
      (sortByKey (Entry.orderKey m.mode) (Method.entries xs).toList).take m.k := by
    rw [Array.toList_extract, List.extract_eq_take_drop, List.drop_zero, Nat.sub_zero]
    exact m.rank_take xs hfit
  cases hs : m.sortBy with
  | index =>
    obtain ⟨q, hq31, hq, hkq, hpairs⟩ := hfit.network.index (by simp [hs])
    have harr : (m.rank (Method.entries xs)).extract 0 m.k =
        ((sortByKey (Entry.orderKey m.mode) (Method.entries xs).toList).take m.k).toArray := by
      rw [← hkept, Array.toArray_toList]
    simp only [Method.select, keptPairs, hs, harr, hpairs, hq, m.pairs_bitonicPairs hq31,
      toNat_two_pow, Array.toList_extract, List.extract_eq_take_drop, List.drop_zero,
      Nat.sub_zero]
    rw [take_runPairs_byIndex m.mode xs (hfit.index_le hs) hfit.k_le hkq,
      ← pair_sortByKey_entries m.mode hfit.axis_le, ← List.map_take, sortByKey]
    apply List.map_mergeSort
    intro _ _ _ _
    rfl
  | value | unnamed _ =>
    simp only [Method.select, keptPairs, hs]
    rw [hkept, List.map_take, pair_sortByKey_entries m.mode hfit.axis_le]

/-- The `r`-th pair a method keeps, for `r < k`, is the value and the index of its `r`-th
selected entry. -/
theorem Method.getElem?_keptPairs (m : Method) (xs : Array α) (hfit : m.Fits xs.size) {r : Nat}
    (hr : r < m.k) :
    (keptPairs Ranked.rank m.mode m.sortBy m.k xs.toList)[r]? =
      some ((m.select (Method.entries xs)).getD r default).pair := by
  have hsel := m.select_pairs xs hfit
  have hlen : r < (m.select (Method.entries xs)).size := by
    have hl := congrArg List.length hsel
    rw [List.length_map, Array.length_toList, length_keptPairs, Array.length_toList] at hl
    have := hfit.k_le
    omega
  rw [← hsel, List.getElem?_map, Array.getElem?_toList, Array.getD_eq_getD_getElem?,
    Array.getElem?_eq_getElem hlen]
  rfl

/-- The bitonic selection on a network built for an axis of at most `2^31` elements keeps the
best `k` pairs of the work item, best first: the axis is padded to the next power of two with
sentinels at places past it, which lose every tie, and the network sorts the whole padded axis. -/
theorem Method.bitonic_take (m : Method) (xs : Array α) {indexPass : Bool}
    (halg : m.algorithm = .bitonic) (hnet : m.network = Network.build xs.size m.k indexPass)
    (hk : m.k ≤ xs.size) (hA : xs.size ≤ 2 ^ 31) :
    ((m.rank (Method.entries xs)).toList.take m.k).map Entry.pair =
      (bestFirst Ranked.rank m.mode xs.toList).take m.k := by
  obtain ⟨p, hp⟩ := nextPow2_eq_pow xs.size
  have hn : xs.size ≤ 2 ^ p := hp ▸ le_nextPow2 _
  have hp31 : p ≤ 31 :=
    (Nat.pow_le_pow_iff_right (by decide)).1 (hp ▸ nextPow2_le_pow (p := 31) hA)
  have hsize : nextPow2Word (xs.size : Int) = ((2 ^ p : Nat) : Int) := by
    rw [nextPow2Word_of_le (by omega), Int.toNat_natCast, hp]
  have hrank : m.rank (Method.entries xs) = runPairs (Entry.before m.mode) (bitonicPairs (2 ^ p))
      (Method.entries xs ++ ((List.range (2 ^ p - (Method.entries xs).size)).map fun (t : Nat) =>
        Entry.of m.mode.sentinel (wrapInt32 ((Method.entries xs).size + t : Nat))).toArray) := by
    simp only [Method.rank, halg, hnet, Network.build, hsize, Int.toNat_natCast,
      m.pairs_bitonicPairs hp31]
  rw [hrank, take_runPairs_padded m.mode xs hn hp31 hk, List.map_take, pair_sortByKey_entries m.mode hA]

end Algorithms

/-! ## The bitonic network -/

/-- The bitonic network on `n = 2^m` positions has `n/2 · m(m+1)/2` compare-exchange pairs, each
of two distinct positions below `n`, and sorts every array of `n` elements of a strict total
order. Its pairs are stored as 32-bit integers, as they are up to `n = 2^31`. Building it first
reserves room for the stored positions, which succeeds up to `n = 2^36` and stops past it, up to
`2^62`. So on every work item of every ordered type with at most `2^31` elements, the network of
its axis is built, and the bitonic selection leaves the best `k` pairs of the work item, best
first, in its first `k` positions: the padding sentinels sit at places past the axis and lose
every tie. Each lane of a call is such a work item (`Sweep.gather`). -/
theorem bitonic_network_sorts (m : Nat) :
    (bitonicPairs (2 ^ m)).length = 2 ^ m / 2 * m * (m + 1) / 2 ∧
    (∀ p ∈ bitonicPairs (2 ^ m), p.1 ≠ p.2 ∧ p.1 < 2 ^ m ∧ p.2 < 2 ^ m) ∧
    (∀ {β : Type} [Inhabited β] (lt : β → β → Bool),
      IsStrictTotalOrder β (fun a b => lt a b = true) → ∀ v : Array β, v.size = 2 ^ m →
        (runPairs lt (bitonicPairs (2 ^ m)) v).toList.Perm v.toList ∧
        (runPairs lt (bitonicPairs (2 ^ m)) v).toList.Pairwise fun a b => lt b a = false) ∧
    (m ≤ 31 → (bitonicPairs (2 ^ m)).map storedPair =
      (bitonicPairs (2 ^ m)).map fun p => ((p.1 : Int), (p.2 : Int))) ∧
    (m ≤ 62 → ∀ k : Int, Network.reserve (2 ^ m) k true false = .ok () ↔ m ≤ 36) ∧
    (∀ {α : Type} [Ranked α] [Ranked.Bounded α] [Inhabited α] (meth : Method) (xs : Array α)
      (indexPass : Bool), meth.algorithm = .bitonic →
      meth.network = Network.build xs.size meth.k indexPass → meth.k ≤ xs.size →
      xs.size ≤ 2 ^ 31 →
        Network.reserve xs.size meth.k true indexPass = .ok () ∧
        ((meth.rank (Method.entries xs)).toList.take meth.k).map Entry.pair =
          (bestFirst Ranked.rank meth.mode xs.toList).take meth.k) := by
  refine ⟨length_bitonicPairs m, fun p hp => ⟨bitonicPairs_ne p hp, bitonicPairs_lt rfl p hp⟩,
    ?_, ?_, fun hm k => Network.reserve_two_pow_iff hm k, ?_⟩
  · intro β _ lt hlt v hv
    exact runPairs_bitonicPairs_sorted lt v hv
  · intro hm
    have hpow : 2 ^ m ≤ 2 ^ 31 := Nat.pow_le_pow_right (by decide) hm
    apply List.map_congr_left
    intro p hp
    have := bitonicPairs_lt rfl p hp
    exact storedPair_of_lt (by omega) (by omega)
  · intro α _ _ _ meth xs indexPass halg hnet hk hA
    exact ⟨Network.reserve_of_le (by omega) (by omega) true indexPass,
      meth.bitonic_take xs halg hnet hk hA⟩

/-- The bitonic selection keeping the two largest of three 32-bit integers. -/
def bitonicTopTwo : Method :=
  { algorithm := .bitonic, inPlace := false, implementation := .kernel, mode := .max,
    sortBy := .value, k := 2, network := Network.build 3 2 false }

theorem bitonic_network_sorts_four :
    IsStrictTotalOrder Nat (fun a b => decide (a < b) = true) ∧ (#[3, 1, 2, 0] : Array Nat).size = 2 ^ 2 ∧
    ((runPairs (fun a b : Nat => decide (a < b)) (bitonicPairs (2 ^ 2)) #[3, 1, 2, 0]).toList.Perm
        [3, 1, 2, 0] ∧
      (runPairs (fun a b : Nat => decide (a < b)) (bitonicPairs (2 ^ 2)) #[3, 1, 2, 0]).toList.Pairwise
        fun a b => decide (b < a) = false) ∧
    2 ≤ 31 ∧ (bitonicPairs (2 ^ 2)).map storedPair =
      (bitonicPairs (2 ^ 2)).map (fun p => ((p.1 : Int), (p.2 : Int))) ∧
    2 ≤ 62 ∧ (Network.reserve (2 ^ 2) 2 true false = .ok () ↔ 2 ≤ 36) ∧
    bitonicTopTwo.algorithm = .bitonic ∧
    bitonicTopTwo.network = Network.build (#[5, -1, 7] : Array Int32).size bitonicTopTwo.k false ∧
    bitonicTopTwo.k ≤ (#[5, -1, 7] : Array Int32).size ∧ (#[5, -1, 7] : Array Int32).size ≤ 2 ^ 31 ∧
    Network.reserve (#[5, -1, 7] : Array Int32).size bitonicTopTwo.k true false = .ok () ∧
    ((bitonicTopTwo.rank (Method.entries (#[5, -1, 7] : Array Int32))).toList.take
        bitonicTopTwo.k).map Entry.pair =
      (bestFirst Ranked.rank bitonicTopTwo.mode [5, -1, 7]).take bitonicTopTwo.k := by
  have hsto : IsStrictTotalOrder Nat fun a b => decide (a < b) = true := by
    simpa using (inferInstance : IsStrictTotalOrder Nat (· < ·))
  exact ⟨hsto, rfl, (bitonic_network_sorts 2).2.2.1 _ hsto _ rfl, by decide,
    (bitonic_network_sorts 2).2.2.2.1 (by decide), by decide,
    (bitonic_network_sorts 2).2.2.2.2.1 (by decide) 2, rfl, rfl, by decide, by decide,
    (bitonic_network_sorts 2).2.2.2.2.2 bitonicTopTwo #[5, -1, 7] false rfl rfl (by decide)
      (by decide)⟩

end Select

end TensorSelect
