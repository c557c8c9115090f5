import Mathlib
import TensorSelect.Select.Network

/-!
# Orders by a key

The selection algorithms compare elements with a strict order `lt` that comes from a key in a
linear order (`lt a b` exactly when `key a < key b`). This module holds what they share:

* `sortByKey`: the elements in ascending order of keys, the sorted list the algorithms are
  measured against; `eq_sortByKey` says that an ascending rearrangement of a list whose keys tell
  its elements apart (`KeysDistinct`) is that list, so every algorithm that sorts gives the same
  answer;
* how inserting one element changes the sorted list and its first `k` elements
  (`sortByKey_append_singleton`, `take_orderedInsert_of_lt`, `take_orderedInsert_of_gt`);
* what one compare-exchange does: it only moves elements (`exchange_perm`), leaves the positions
  outside its pair alone, and leaves the better of its pair first (`getElem?_exchange_fst`).
-/

namespace TensorSelect

namespace Select

/-! ## Keys that tell elements apart -/

section Distinct

open List

variable {β K : Type} (key : β → K)

/-- The keys of a list tell its elements apart. -/
def KeysDistinct (l : List β) : Prop := ∀ a ∈ l, ∀ b ∈ l, key a = key b → a = b

variable {key}

theorem keysDistinct_of_nodup {l : List β} (h : (l.map key).Nodup) : KeysDistinct key l :=
  fun _ ha _ hb hab => List.inj_on_of_nodup_map h ha hb hab

theorem KeysDistinct.perm {l l' : List β} (hd : KeysDistinct key l) (hp : l ~ l') :
    KeysDistinct key l' :=
  fun a ha b hb => hd a (hp.mem_iff.2 ha) b (hp.mem_iff.2 hb)

theorem KeysDistinct.subperm {l l' : List β} (hd : KeysDistinct key l) (hp : l' <+~ l) :
    KeysDistinct key l' :=
  fun a ha b hb => hd a (hp.subset ha) b (hp.subset hb)

theorem KeysDistinct.append {l₁ l₂ : List β} (h₁ : KeysDistinct key l₁) (h₂ : KeysDistinct key l₂)
    (hne : ∀ a ∈ l₁, ∀ b ∈ l₂, key a ≠ key b) : KeysDistinct key (l₁ ++ l₂) := by
  intro a ha b hb hab
  rcases List.mem_append.1 ha with ha | ha <;> rcases List.mem_append.1 hb with hb | hb
  · exact h₁ a ha b hb hab
  · exact absurd hab (hne a ha b hb)
  · exact absurd hab.symm (hne b hb a ha)
  · exact h₂ a ha b hb hab

end Distinct

/-! ## Orders by a key -/

section Keys

open List

variable {β K : Type} [LinearOrder K] (key : β → K)

/-- `lt` compares by the key: `lt a b` exactly when `a`'s key is below `b`'s. -/
def ComparesBy (lt : β → β → Bool) : Prop := ∀ a b, lt a b = true ↔ key a < key b

/-- `a` comes no later than `b`: its key is at most `b`'s. -/
def KeyLE (a b : β) : Prop := key a ≤ key b

instance keyLE_decidable : DecidableRel (KeyLE key) :=
  fun a b => inferInstanceAs (Decidable (key a ≤ key b))

instance keyLE_total : Std.Total (KeyLE key) := ⟨fun a b => le_total (key a) (key b)⟩

instance keyLE_trans : IsTrans β (KeyLE key) := ⟨fun _ _ _ => le_trans⟩

/-- A list in ascending order of keys. -/
def Ascending (l : List β) : Prop := l.Pairwise (KeyLE key)

/-- The elements of a list in ascending order of keys, elements of one key in their order in
the list. -/
def sortByKey (l : List β) : List β := l.mergeSort fun a b => decide (KeyLE key a b)

variable {key}

theorem sortByKey_perm (l : List β) : sortByKey key l ~ l := List.mergeSort_perm _ _

theorem ascending_sortByKey (l : List β) : Ascending key (sortByKey key l) := by
  have h : (sortByKey key l).Pairwise fun a b => decide (KeyLE key a b) = true :=
    List.pairwise_mergeSort (fun a b c hab hbc =>
      decide_eq_true (le_trans (of_decide_eq_true hab) (of_decide_eq_true hbc) : KeyLE key a c))
    (fun a b => by simpa [KeyLE] using le_total (key a) (key b)) l
  exact h.imp of_decide_eq_true

/-- Two ascending lists of the same elements, told apart by their keys, are equal. -/
theorem eq_of_perm_of_ascending {l₁ l₂ : List β} (hp : l₁ ~ l₂) (h₁ : Ascending key l₁)
    (h₂ : Ascending key l₂) (hd : KeysDistinct key l₁) : l₁ = l₂ :=
  hp.eq_of_pairwise (fun a b ha hb hab hba => hd a ha b (hp.mem_iff.2 hb) (le_antisymm hab hba))
    h₁ h₂

/-- An ascending arrangement of a list told apart by its keys is the sorted list. -/
theorem eq_sortByKey {l l' : List β} (hp : l' ~ l) (ha : Ascending key l')
    (hd : KeysDistinct key l) : l' = sortByKey key l :=
  eq_of_perm_of_ascending (hp.trans (sortByKey_perm l).symm) ha (ascending_sortByKey l)
    (hd.perm hp.symm)

theorem orderedInsert_of_forall_lt {l : List β} {x : β} (h : ∀ a ∈ l, key a < key x) :
    l.orderedInsert (KeyLE key) x = l ++ [x] := by
  induction l with
  | nil => rfl
  | cons b l ih =>
    have hb : ¬ KeyLE key x b := not_le.2 (h b (List.mem_cons_self ..))
    rw [List.orderedInsert_of_not_le _ _ hb, ih (fun a ha => h a (List.mem_cons_of_mem _ ha))]
    rfl

theorem orderedInsert_append_of_lt {l : List β} {x y : β} (h : key x < key y) :
    (l ++ [y]).orderedInsert (KeyLE key) x = l.orderedInsert (KeyLE key) x ++ [y] := by
  induction l with
  | nil => simp [KeyLE, h.le]
  | cons b l ih =>
    by_cases hb : KeyLE key x b
    · simp [hb]
    · simp [hb, ih]

/-- Inserting into a sorted list keeps it sorted: the sorted list of one more element. -/
theorem sortByKey_append_singleton {l : List β} {x : β} (hd : KeysDistinct key (l ++ [x])) :
    sortByKey key (l ++ [x]) = (sortByKey key l).orderedInsert (KeyLE key) x := by
  symm
  apply eq_sortByKey _ ((ascending_sortByKey l).orderedInsert x _) hd
  calc (sortByKey key l).orderedInsert (KeyLE key) x ~ x :: sortByKey key l :=
        List.perm_orderedInsert _ _ _
    _ ~ x :: l := (sortByKey_perm l).cons x
    _ ~ l ++ [x] := List.perm_append_singleton x l |>.symm

/-- Sorting a list whose first part comes wholly before its second sorts the two parts apart. -/
theorem sortByKey_append {l₁ l₂ : List β} (hd : KeysDistinct key (l₁ ++ l₂))
    (hlt : ∀ a ∈ l₁, ∀ b ∈ l₂, key a < key b) :
    sortByKey key (l₁ ++ l₂) = sortByKey key l₁ ++ sortByKey key l₂ := by
  symm
  apply eq_sortByKey ((sortByKey_perm l₁).append (sortByKey_perm l₂)) _ hd
  refine List.pairwise_append.2 ⟨ascending_sortByKey l₁, ascending_sortByKey l₂, ?_⟩
  intro a ha b hb
  exact (hlt a ((sortByKey_perm l₁).subset ha) b ((sortByKey_perm l₂).subset hb)).le

theorem take_orderedInsert_of_lt {x : β} :
    ∀ (S : List β) (k : Nat) (hk : k < S.length), key x < key S[k] →
      (S.orderedInsert (KeyLE key) x).take (k + 1) = (S.take k).orderedInsert (KeyLE key) x
  | [], _, hk, _ => absurd hk (by simp)
  | b :: S, k, hk, hx => by
    by_cases hb : KeyLE key x b
    · cases k with
      | zero => simp [hb]
      | succ k => simp [hb]
    · cases k with
      | zero => exact absurd hx.le (by simpa [KeyLE] using hb)
      | succ k =>
        simp only [List.orderedInsert_of_not_le _ _ hb, List.take_succ_cons]
        rw [take_orderedInsert_of_lt S k (by simpa using hk) (by simpa using hx)]

theorem take_orderedInsert_of_gt {x : β} :
    ∀ (S : List β) (k : Nat) (hk : k < S.length), Ascending key S → key S[k] < key x →
      (S.orderedInsert (KeyLE key) x).take (k + 1) = S.take (k + 1)
  | [], _, hk, _, _ => absurd hk (by simp)
  | b :: S, k, hk, ha, hx => by
    -- the first element comes no later than the `k`-th, so before `x`
    have hbk : key b ≤ key (b :: S)[k] := by
      cases k with
      | zero => exact le_rfl
      | succ k => exact List.rel_of_pairwise_cons ha (List.getElem_mem _)
    have hb : ¬ KeyLE key x b := not_le.2 (lt_of_le_of_lt hbk hx)
    rw [List.orderedInsert_of_not_le _ _ hb]
    cases k with
    | zero => rfl
    | succ k =>
      simp only [List.take_succ_cons]
      rw [take_orderedInsert_of_gt S k (by simpa using hk) ha.of_cons (by simpa using hx)]

end Keys

/-! ## Arrays as lists -/

section Arrays

variable {β : Type}

/-- The getter of an array as that of its list. -/
theorem getD_eq_getElem [Inhabited β] {v : Array β} {i : Nat} (hi : i < v.toList.length) :
    v.getD i default = v.toList[i] := by
  simp at hi
  simp [hi]

/-- Two lists agree up to `p` when they agree at every position before it. -/
theorem take_eq_of_getElem? {l l' : List β} {p : Nat} (h : ∀ i < p, l[i]? = l'[i]?) :
    l.take p = l'.take p := by
  apply List.ext_getElem?
  intro i
  by_cases hi : i < p
  · simp [hi, h i hi]
  · simp [hi]

end Arrays

/-! ## Compare-exchange -/

section Exchange

open List

variable {β K : Type} [LinearOrder K] [Inhabited β] {key : β → K} {lt : β → β → Bool}

/-- A compare-exchange only moves entries. -/
theorem exchange_perm (v : Array β) (p : Nat × Nat) : (exchange lt v p).toList ~ v.toList := by
  unfold exchange Array.swapIfInBounds
  split
  · split
    · split
      · exact Array.perm_iff_toList_perm.1 (Array.swap_perm _ _)
      · exact List.Perm.refl _
    · exact List.Perm.refl _
  · exact List.Perm.refl _

/-- A compare-exchange leaves the positions outside its pair as they were. -/
theorem getElem?_exchange_of_ne (v : Array β) (p : Nat × Nat) {i : Nat} (h1 : i ≠ p.1)
    (h2 : i ≠ p.2) : (exchange lt v p)[i]? = v[i]? := by
  unfold exchange
  split
  · by_cases hi : i < v.size
    · rw [Array.getElem?_eq_getElem (by simpa using hi), Array.getElem?_eq_getElem hi,
        Array.getElem_swapIfInBounds]
      simp [h1, h2]
    · rw [Array.getElem?_eq_none (by simpa using hi), Array.getElem?_eq_none (by omega)]
  · rfl

section Pair

variable (hlt : ComparesBy key lt) (v : Array β) {a b : Nat}
  (ha : a < v.size) (hb : b < v.size) (hab : a ≠ b)
include hlt ha hb

/-- The first position of a compare-exchange ends with the better of the pair. -/
theorem getElem?_exchange_fst :
    (exchange lt v (a, b))[a]? = some (if key v[b] < key v[a] then v[b] else v[a]) := by
  unfold exchange
  simp only [Array.getD_eq_getD_getElem?, Array.getElem?_eq_getElem ha,
    Array.getElem?_eq_getElem hb, Option.getD_some]
  by_cases h : key v[b] < key v[a]
  · rw [if_pos ((hlt _ _).2 h), if_pos h, Array.getElem?_eq_getElem (by simpa using ha),
      Array.getElem_swapIfInBounds]
    simp [hb]
  · rw [if_neg (fun h' => h ((hlt _ _).1 h')), if_neg h, Array.getElem?_eq_getElem ha]

include hab in
/-- The second position of a compare-exchange ends with the worse of the pair. -/
theorem getElem?_exchange_snd :
    (exchange lt v (a, b))[b]? = some (if key v[b] < key v[a] then v[a] else v[b]) := by
  unfold exchange
  simp only [Array.getD_eq_getD_getElem?, Array.getElem?_eq_getElem ha,
    Array.getElem?_eq_getElem hb, Option.getD_some]
  by_cases h : key v[b] < key v[a]
  · rw [if_pos ((hlt _ _).2 h), if_pos h, Array.getElem?_eq_getElem (by simpa using hb),
      Array.getElem_swapIfInBounds]
    simp [Ne.symm hab, ha]
  · rw [if_neg (fun h' => h ((hlt _ _).1 h')), if_neg h, Array.getElem?_eq_getElem hb]

end Pair

end Exchange

end Select

end TensorSelect
