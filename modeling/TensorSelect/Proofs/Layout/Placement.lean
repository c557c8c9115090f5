import Mathlib
import TensorSelect.Layout.Pack
import TensorSelect.Proofs.Layout.RowMajor

/-!
# Where a layout stores each position

A layout stores each position of a static shape at a position of its physical dimensions
(`Layout.physicalOf`, `Layout.physicalIndex`): channel-last moves the channel index to the end,
and blocked(b) splits it into the block `c / b` and the lane `c mod b`. A position within the
logical dimensions goes to a position within the physical ones (`Within.physicalIndex`), and
distinct positions to distinct ones (`Within.physicalIndex_inj`). When the stored size fits a
machine word, the addressing of the layout computes the row-major number of the physical
position (`Layout.offset_eq_rowMajor`).

So packing succeeds and stores each element at that number (`Layout.pack_spec`), and unpacking
reads each element back from there (`Layout.unpack_spec`).

The last section resolves an axis the same way: every position of the shape belongs to a work
item of `Layout.resolve`, and element `j` of that work item is stored where the layout stores the
position with index `j` on the axis. This holds for the input addressing and, with fewer
elements along the axis, for the output one (`Layout.resolve_offset`).
-/

namespace TensorSelect

theorem exists_cons_cons {l : List Int} (h : 2 ≤ l.length) : ∃ x y rest, l = x :: y :: rest := by
  match l, h with
  | x :: y :: rest, _ => exact ⟨x, y, rest, rfl⟩

/-- The layouts usable at a rank: planar, channel-last with a channel axis, or blocked by a power
of two with a channel axis. -/
theorem Tag.kind_cases {t : Tag} {r : Nat} (hv : t.validateRank r = .ok ()) :
    t.kind = .planar ∨ (t.kind = .channelLast ∧ 2 ≤ r) ∨
      (t.kind = .blocked ∧ (∃ n : Nat, t.blockSize = 2 ^ n) ∧ 2 ≤ r) := by
  have hval := Tag.validate_of_validateRank hv
  rw [Tag.validateRank_eq hval] at hv
  rw [Tag.validate_eq] at hval
  rcases t with ⟨kind, b⟩
  have h2 : kind ≠ .planar → 2 ≤ r := by
    intro hk
    split at hv
    · rename_i h
      simpa [hk] using h
    · cases hv
  cases kind with
  | planar => exact Or.inl rfl
  | channelLast => exact Or.inr (Or.inl ⟨rfl, h2 (by simp)⟩)
  | blocked => exact Or.inr (Or.inr ⟨rfl, by simpa using hval, h2 (by simp)⟩)
  | unnamed n => simp at hval

theorem one_le_of_pow {b : Int} (hb : ∃ n : Nat, b = 2 ^ n) : 1 ≤ b := by
  obtain ⟨n, rfl⟩ := hb
  exact one_le_pow₀ (by norm_num)

namespace Layout

/-- The axes in channel-last order: the batch axis, the axes after the channels, the channels. -/
def moveChannel (l : List Int) : List Int := l.take 1 ++ l.drop 2 ++ (l.drop 1).take 1

/-- The physical dimensions of a layout, computed exactly: the channels moved to the end on
channel-last, and on blocked(b) counted in whole blocks, with one more axis of `b` lanes. -/
def physicalOf (t : Tag) (dims : List Int) : List Int :=
  match t.kind with
  | .channelLast => moveChannel dims
  | .blocked =>
    dims.set channelAxis ((dims.getD channelAxis 0 + t.blockSize - 1) / t.blockSize) ++
      [t.blockSize]
  | _ => dims

/-- The physical position at which a layout stores a logical position. -/
def physicalIndex (t : Tag) (idx : List Int) : List Int :=
  match t.kind with
  | .channelLast => moveChannel idx
  | .blocked =>
    idx.set channelAxis (idx.getD channelAxis 0 / t.blockSize) ++
      [idx.getD channelAxis 0 % t.blockSize]
  | _ => idx

/-- The physical axis that holds logical axis `a` of a shape of rank `r`. -/
def physicalAxis (t : Tag) (r a : Nat) : Nat :=
  match t.kind with
  | .channelLast => if a = 0 then 0 else if a = 1 then r - 1 else a - 1
  | _ => a

theorem moveChannel_cons_cons (x y : Int) (rest : List Int) :
    moveChannel (x :: y :: rest) = x :: (rest ++ [y]) := by
  simp [moveChannel]

/-! ## Physical dimensions -/

/-- The stored size of a shape is the product of its physical dimensions. -/
theorem storedSize_eq_prod (s : Shape) (t : Tag) : s.storedSize t = (physicalOf t s.dims).prod := by
  rcases t with ⟨kind, b⟩
  cases kind with
  | channelLast =>
    -- the channels only move
    have hperm : (moveChannel s.dims).Perm s.dims := by
      conv_rhs => rw [← List.take_append_drop 1 s.dims]
      rw [moveChannel, List.append_assoc]
      refine List.Perm.append_left _ ?_
      conv_rhs => rw [← List.take_append_drop 1 (s.dims.drop 1), List.drop_drop]
      exact List.perm_append_comm
    simp [Shape.storedSize, physicalOf, Tag.isBlocked, hperm.prod_eq]
  | blocked => simp [Shape.storedSize, physicalOf, Tag.isBlocked, List.prod_append]
  | planar | unnamed _ => simp [Shape.storedSize, physicalOf, Tag.isBlocked]

section Physical

variable {dims : List Int} {t : Tag}

/-- The channels, rounded up to whole blocks, fit a machine word when the stored size does, so
the machine computes the blocks exactly. -/
theorem ceilDiv_channels (hk : t.kind = .blocked) (hb : ∃ n : Nat, t.blockSize = 2 ^ n)
    (h2 : 2 ≤ dims.length) (hpos : ∀ d ∈ dims, 1 ≤ d) (hfit : (physicalOf t dims).prod < 2 ^ 63) :
    ceilDiv (dims.getD channelAxis 0) t.blockSize =
      (dims.getD channelAxis 0 + t.blockSize - 1) / t.blockSize := by
  obtain ⟨x, y, rest, rfl⟩ := exists_cons_cons h2
  have hb1 := one_le_of_pow hb
  have hx : 1 ≤ x := hpos x (by simp)
  have hy : 1 ≤ y := hpos y (by simp)
  have hR := one_le_prod (l := rest) fun z hz => hpos z (by simp [hz])
  set b := t.blockSize
  set q := (y + b - 1) / b
  have hq : 0 ≤ q := Int.ediv_nonneg (by omega) (by omega)
  have hprod : (physicalOf t (x :: y :: rest)).prod = x * (q * b) * rest.prod := by
    simp [physicalOf, hk, channelAxis, List.prod_append, q, b]
    ring
  have hround : y + b - 1 < 2 ^ 63 := by
    refine round_fits hb hy (lt_of_le_of_lt ?_ hfit)
    rw [hprod]
    calc q * b = 1 * (q * b) * 1 := by ring
      _ ≤ x * (q * b) * rest.prod := by gcongr
  simpa [channelAxis] using ceilDiv_eq hb1 (by omega) hround

/-- The physical dimensions that `physicalDims` computes, and the physical axis of each logical
one. -/
theorem physicalDims_eq (hv : t.validateRank dims.length = .ok ()) (hpos : ∀ d ∈ dims, 1 ≤ d)
    (hfit : (physicalOf t dims).prod < 2 ^ 63) :
    ∃ axisMap, physicalDims dims t = .ok (physicalOf t dims, axisMap) ∧
      ∀ a < dims.length, axisMap.getD a 0 = physicalAxis t dims.length a := by
  rcases Tag.kind_cases hv with hk | ⟨hk, -⟩ | ⟨hk, hb, h2⟩
  · exact ⟨List.range dims.length, by simp [physicalDims, hv, hk, physicalOf],
      fun a ha => by simp [physicalAxis, hk, List.getD_eq_getElem?_getD, ha]⟩
  · refine ⟨(List.range dims.length).map fun a =>
        if a = 0 then 0 else if a = 1 then dims.length - 1 else a - 1,
      by simp [physicalDims, hv, hk, physicalOf, moveChannel], fun a ha => ?_⟩
    simp [physicalAxis, hk, List.getD_eq_getElem?_getD, ha]
  · refine ⟨List.range dims.length, ?_,
      fun a ha => by simp [physicalAxis, hk, List.getD_eq_getElem?_getD, ha]⟩
    have hc := ceilDiv_channels hk hb h2 hpos hfit
    simp only [List.getD_eq_getElem?_getD] at hc
    simp [physicalDims, hv, hk, physicalOf, hc]

theorem length_physicalOf (hv : t.validateRank dims.length = .ok ()) :
    (physicalOf t dims).length = dims.length + if t.kind = .blocked then 1 else 0 := by
  rcases Tag.kind_cases hv with hk | ⟨hk, h2⟩ | ⟨hk, -, h2⟩
  · simp [physicalOf, hk]
  · obtain ⟨x, y, rest, rfl⟩ := exists_cons_cons h2
    simp [physicalOf, hk, moveChannel_cons_cons]
  · simp [physicalOf, hk]

theorem one_le_physicalOf (hv : t.validateRank dims.length = .ok ()) (hpos : ∀ d ∈ dims, 1 ≤ d) :
    ∀ d ∈ physicalOf t dims, 1 ≤ d := by
  rcases Tag.kind_cases hv with hk | ⟨hk, h2⟩ | ⟨hk, hb, h2⟩
  · simpa [physicalOf, hk] using hpos
  · obtain ⟨x, y, rest, rfl⟩ := exists_cons_cons h2
    intro d hd
    apply hpos
    simp only [physicalOf, hk, moveChannel_cons_cons, List.mem_cons, List.mem_append] at hd ⊢
    tauto
  · obtain ⟨x, y, rest, rfl⟩ := exists_cons_cons h2
    have hb1 := one_le_of_pow hb
    have hy : 1 ≤ y := hpos y (by simp)
    intro d hd
    simp only [physicalOf, hk, channelAxis, List.getD_cons_succ, List.getD_cons_zero,
      List.set_cons_succ, List.set_cons_zero, List.cons_append, List.mem_cons, List.mem_append,
      List.not_mem_nil, or_false] at hd
    rcases hd with rfl | rfl | hd | rfl
    · exact hpos _ (by simp)
    · exact (Int.le_ediv_iff_mul_le (by omega)).2 (by omega)
    · exact hpos d (by simp [hd])
    · exact hb1

end Physical

end Layout

/-! ## Physical positions -/

namespace Within

open Layout

variable {dims idx : List Int} {t : Tag}

/-- A position within the logical dimensions is stored at a position within the physical ones. -/
theorem physicalIndex (h : Within dims idx) (hv : t.validateRank dims.length = .ok ()) :
    Within (physicalOf t dims) (Layout.physicalIndex t idx) := by
  rcases Tag.kind_cases hv with hk | ⟨hk, h2⟩ | ⟨hk, hb, h2⟩
  · simpa [physicalOf, Layout.physicalIndex, hk] using h
  · simp only [physicalOf, Layout.physicalIndex, hk, moveChannel]
    exact ((h.take 1).append (h.drop 2)).append ((h.drop 1).take 1)
  · obtain ⟨x, y, rest, rfl⟩ := exists_cons_cons h2
    obtain ⟨⟨h0, hx⟩, ⟨h1, hy⟩, hrest⟩ : (0 ≤ idx.getD 0 0 ∧ idx.getD 0 0 < x) ∧
        (0 ≤ idx.getD 1 0 ∧ idx.getD 1 0 < y) ∧ Within rest (idx.drop 2) :=
      ⟨h.getD_mem (by simp), h.getD_mem (by simp), by simpa using h.drop 2⟩
    obtain ⟨i0, i1, irest, rfl⟩ := exists_cons_cons (show 2 ≤ idx.length by simp [h.length_eq])
    simp only [List.getD_cons_zero, List.getD_cons_succ, List.drop_succ_cons,
      List.drop_zero] at h0 hx h1 hy hrest
    have hb1 := one_le_of_pow hb
    -- the block of a channel lies below the number of blocks, its lane below the block size
    have hblock : i1 / t.blockSize < (y + t.blockSize - 1) / t.blockSize := by
      have hle : i1 / t.blockSize ≤ (y - 1) / t.blockSize := Int.ediv_le_ediv (by omega) (by omega)
      have hsplit : (y - 1 + t.blockSize * 1) / t.blockSize = (y - 1) / t.blockSize + 1 :=
        Int.add_mul_ediv_left _ 1 (by omega)
      rw [show y + t.blockSize - 1 = y - 1 + t.blockSize * 1 by ring, hsplit]
      omega
    simp only [physicalOf, Layout.physicalIndex, hk, channelAxis, List.getD_cons_succ,
      List.getD_cons_zero, List.set_cons_succ, List.set_cons_zero, List.cons_append]
    exact .cons h0 hx (.cons (Int.ediv_nonneg h1 (by omega)) hblock
      (hrest.append (.cons (Int.emod_nonneg _ (by omega)) (Int.emod_lt_of_pos _ (by omega)) .nil)))

/-- Distinct positions within the dimensions are stored at distinct positions. -/
theorem physicalIndex_inj (h : Within dims idx) {idx' : List Int} (h' : Within dims idx')
    (hv : t.validateRank dims.length = .ok ())
    (heq : Layout.physicalIndex t idx = Layout.physicalIndex t idx') : idx = idx' := by
  have hl : idx.length = idx'.length := by rw [h.length_eq, h'.length_eq]
  rcases Tag.kind_cases hv with hk | ⟨hk, h2⟩ | ⟨hk, hb, h2⟩
  · simpa [Layout.physicalIndex, hk] using heq
  · obtain ⟨i0, i1, irest, rfl⟩ := exists_cons_cons (show 2 ≤ idx.length by have := h.length_eq; omega)
    obtain ⟨j0, j1, jrest, rfl⟩ := exists_cons_cons (show 2 ≤ idx'.length by have := h'.length_eq; omega)
    simp only [Layout.physicalIndex, hk, moveChannel_cons_cons, List.cons.injEq] at heq
    obtain ⟨rfl, hrest⟩ := heq
    obtain ⟨rfl, h1⟩ := List.append_inj' hrest rfl
    cases h1
    rfl
  · obtain ⟨i0, i1, irest, rfl⟩ := exists_cons_cons (show 2 ≤ idx.length by have := h.length_eq; omega)
    obtain ⟨j0, j1, jrest, rfl⟩ := exists_cons_cons (show 2 ≤ idx'.length by have := h'.length_eq; omega)
    simp only [Layout.physicalIndex, hk, channelAxis, List.getD_cons_succ, List.getD_cons_zero,
      List.set_cons_succ, List.set_cons_zero, List.cons_append, List.cons.injEq] at heq
    obtain ⟨rfl, hdiv, hrest⟩ := heq
    obtain ⟨rfl, hmod⟩ := List.append_inj' hrest rfl
    simp only [List.cons.injEq, and_true] at hmod
    -- a channel is its block and its lane
    rw [← Int.ediv_mul_add_emod i1 t.blockSize, ← Int.ediv_mul_add_emod j1 t.blockSize, hdiv, hmod]

end Within

namespace Layout

/-! ## The addressing of a layout -/

/-- The sum that the addressing folds over the indexed elements of a list is a sum over the
axes. -/
theorem foldl_zipIdx_eq_sum (l : List Int) (g : Int × Nat → Int) :
    (l.zipIdx.map g).foldl (· + ·) 0 = ∑ a ∈ Finset.range l.length, g (l.getD a 0, a) := by
  suffices h : ∀ (n : Nat) (acc : Int), ((l.zipIdx n).map g).foldl (· + ·) acc =
      acc + ∑ a ∈ Finset.range l.length, g (l.getD a 0, n + a) by
    simpa using h 0 0
  induction l with
  | nil => intro n acc; simp
  | cons x l ih =>
    intro n acc
    have hshift : ∀ a, n + 1 + a = n + (a + 1) := fun a => by omega
    rw [List.zipIdx_cons, List.map_cons, List.foldl_cons, ih, List.length_cons,
      Finset.sum_range_succ']
    simp only [List.getD_cons_succ, List.getD_cons_zero, Nat.add_zero, hshift]
    ring

/-- The strides of positive dimensions whose product fits a machine word are exact. -/
theorem stridesOf_getD_exact {P : List Int} (hpos : ∀ d ∈ P, 1 ≤ d) (hfit : P.prod < 2 ^ 63)
    {a : Nat} (ha : a < P.length) : (Shape.stridesOf P).getD a 0 = (P.drop (a + 1)).prod := by
  rw [Shape.stridesOf_getD ha]
  have h1 := one_le_prod (l := P.drop (a + 1)) fun x hx => hpos x (List.mem_of_mem_drop hx)
  exact wrapWord_eq_self (by omega) (lt_of_le_of_lt (prod_drop_le hpos (a + 1)) hfit)

/-- Indices weighted by the products of the dimensions after their axes, times a last factor,
sum to the row-major number scaled by that factor. -/
theorem sum_getD_mul_eq_rowMajor {rest irest : List Int} (hl : irest.length = rest.length)
    {f : Nat → Int} {c : Int} (hf : ∀ a < irest.length, f a = (rest.drop (a + 1)).prod * c) :
    ∑ k ∈ Finset.range irest.length, irest.getD k 0 * f k = rowMajor rest irest * c := by
  rw [rowMajor_eq_sum hl, Finset.sum_mul]
  refine Finset.sum_congr rfl fun k hk => ?_
  rw [hf k (Finset.mem_range.1 hk)]
  ring

/-- When the stored size fits a machine word, the addressing of a layout gives each position
within the dimensions the row-major number of the physical position that stores it. -/
theorem offset_eq_rowMajor {dims idx : List Int} {t : Tag} (h : Within dims idx)
    (hv : t.validateRank dims.length = .ok ()) (hpos : ∀ d ∈ dims, 1 ≤ d)
    (hfit : (physicalOf t dims).prod < 2 ^ 63) :
    Addressing.offset ⟨t, physicalOf t dims, Shape.stridesOf (physicalOf t dims)⟩ idx =
      rowMajor (physicalOf t dims) (physicalIndex t idx) := by
  have hr := (h.physicalIndex hv).rowMajor_mem
  rw [← wrapWord_eq_self hr.1 (by linarith [hr.2])]
  have hS := fun a (ha : a < (physicalOf t dims).length) =>
    stridesOf_getD_exact (one_le_physicalOf hv hpos) hfit ha
  rcases Tag.kind_cases hv with hk | ⟨hk, h2⟩ | ⟨hk, hb, h2⟩
  · -- planar: each index weighted by the stride of its axis
    simp only [Addressing.offset, hk, foldl_zipIdx_eq_sum]
    congr 1
    simp only [physicalIndex, physicalOf, hk] at hS ⊢
    rw [rowMajor_eq_sum h.length_eq]
    refine Finset.sum_congr rfl fun a ha => ?_
    rw [hS a (by rw [← h.length_eq]; simpa using ha)]
  · obtain ⟨x, y, rest, rfl⟩ := exists_cons_cons h2
    obtain ⟨i0, i1, irest, rfl⟩ := exists_cons_cons (show 2 ≤ idx.length by
      have := h.length_eq; omega)
    have hl : irest.length = rest.length := by simpa using h.length_eq
    have hP : physicalOf t (x :: y :: rest) = x :: (rest ++ [y]) := by
      simp [physicalOf, hk, moveChannel_cons_cons]
    rw [hP] at hS
    -- the channels take the last stride; every later axis the stride of the axis before it
    have h0 : (Shape.stridesOf (x :: (rest ++ [y]))).getD 0 0 = rest.prod * y := by
      rw [hS 0 (by simp)]
      simp [List.prod_append]
    have hlast : (Shape.stridesOf (x :: (rest ++ [y]))).getD (irest.length + 1) 0 = 1 := by
      rw [hS _ (by simp; omega)]
      simp [hl]
    have hmid : ∀ a < irest.length,
        (Shape.stridesOf (x :: (rest ++ [y]))).getD (a + 1) 0 = (rest.drop (a + 1)).prod * y := by
      intro a ha
      rw [hS (a + 1) (by simp; omega), List.drop_succ_cons,
        List.drop_append_of_le_length (by omega), List.prod_append, List.prod_singleton]
    simp only [Addressing.offset, hk, foldl_zipIdx_eq_sum, physicalIndex, moveChannel_cons_cons,
      hP, List.length_cons, Finset.sum_range_succ']
    congr 1
    simp only [channelAxis, List.getD_cons_succ, List.getD_cons_zero, Nat.add_one_ne_zero,
      add_eq_right, Nat.add_sub_cancel, zero_add, if_false, if_true, h0, hlast, rowMajor_cons,
      rowMajor_append (show irest.length = rest.length from hl), List.prod_append,
      List.prod_singleton, rowMajor_nil, List.prod_nil]
    rw [sum_getD_mul_eq_rowMajor hl hmid]
    ring
  · obtain ⟨x, y, rest, rfl⟩ := exists_cons_cons h2
    obtain ⟨i0, i1, irest, rfl⟩ := exists_cons_cons (show 2 ≤ idx.length by
      have := h.length_eq; omega)
    have hl : irest.length = rest.length := by simpa using h.length_eq
    have hi1 : 0 ≤ i1 := (h.getD_mem (a := 1) (by simp)).1
    set b := t.blockSize with hbdef
    set q := (y + b - 1) / b
    have hP : physicalOf t (x :: y :: rest) = x :: q :: (rest ++ [b]) := by
      simp [physicalOf, hk, channelAxis, q, b]
    rw [hP] at hS
    -- a channel's block takes the stride of the channel axis, its lane the last stride
    have h0 : (Shape.stridesOf (x :: q :: (rest ++ [b]))).getD 0 0 = q * (rest.prod * b) := by
      rw [hS 0 (by simp)]
      simp [List.prod_append]
    have h1 : (Shape.stridesOf (x :: q :: (rest ++ [b]))).getD 1 0 = rest.prod * b := by
      rw [hS 1 (by simp)]
      simp [List.prod_append]
    have hlast : (Shape.stridesOf (x :: q :: (rest ++ [b]))).getD (irest.length + 1 + 1) 0 = 1 := by
      rw [hS _ (by simp; omega)]
      simp [hl]
    have hmid : ∀ a < irest.length, (Shape.stridesOf (x :: q :: (rest ++ [b]))).getD (a + 1 + 1) 0 =
        (rest.drop (a + 1)).prod * b := by
      intro a ha
      rw [hS (a + 1 + 1) (by simp; omega), List.drop_succ_cons, List.drop_succ_cons,
        List.drop_append_of_le_length (by omega), List.prod_append, List.prod_singleton]
    simp only [Addressing.offset, hk, foldl_zipIdx_eq_sum, physicalIndex, hP, List.length_cons,
      Finset.sum_range_succ']
    congr 1
    simp only [channelAxis, List.getD_cons_succ, List.getD_cons_zero, Nat.add_one_ne_zero,
      add_eq_right, zero_add, if_false, if_true, h0, h1, hlast, List.set_cons_succ,
      List.set_cons_zero, List.cons_append, rowMajor_cons,
      rowMajor_append (show irest.length = rest.length from hl), List.prod_append,
      rowMajor_nil, List.prod_nil, Int.tdiv_eq_ediv_of_nonneg hi1,
      Int.tmod_eq_emod_of_nonneg hi1, zero_ne_one, List.prod_cons, ← hbdef]
    rw [sum_getD_mul_eq_rowMajor hl hmid]
    ring

/-- The logical elements of a shape are no more than it stores. -/
theorem prod_le_physicalOf {dims : List Int} {t : Tag} (hv : t.validateRank dims.length = .ok ())
    (hpos : ∀ d ∈ dims, 1 ≤ d) : dims.prod ≤ (physicalOf t dims).prod := by
  rcases Tag.kind_cases hv with hk | ⟨hk, h2⟩ | ⟨hk, hb, h2⟩
  · simp [physicalOf, hk]
  · rw [← storedSize_eq_prod ⟨.invalid, dims⟩]
    simp [Shape.storedSize, Tag.isBlocked, hk]
  · obtain ⟨x, y, rest, rfl⟩ := exists_cons_cons h2
    have hb1 := one_le_of_pow hb
    have hx : 1 ≤ x := hpos x (by simp)
    have hy : 1 ≤ y := hpos y (by simp)
    have hR := one_le_prod (l := rest) fun z hz => hpos z (by simp [hz])
    -- the channels, rounded up to whole blocks, are at least the channels
    have hround : y ≤ (y + t.blockSize - 1) / t.blockSize * t.blockSize := by
      have := Int.lt_ediv_add_one_mul_self (y + t.blockSize - 1) (show 0 < t.blockSize by omega)
      linarith
    have hxR : 0 ≤ x * rest.prod := by positivity
    simp only [physicalOf, hk, channelAxis, List.getD_cons_succ, List.getD_cons_zero,
      List.set_cons_succ, List.set_cons_zero, List.cons_append, List.prod_cons, List.prod_append,
      List.prod_nil]
    calc x * (y * rest.prod) = (x * rest.prod) * y := by ring
      _ ≤ (x * rest.prod) * ((y + t.blockSize - 1) / t.blockSize * t.blockSize) := by gcongr
      _ = _ := by ring

/-- The size of a static shape whose elements fit a machine word is the product of its
dimensions. -/
theorem size_eq_prod {s : Shape} (hs : s.isStatic = true) (hpos : ∀ d ∈ s.dims, 1 ≤ d)
    (hfit : s.dims.prod < 2 ^ 63) : s.size = s.dims.prod := by
  have := one_le_prod hpos
  simp only [Shape.size, hs, if_true, ← List.prod_eq_foldl]
  exact wrapWord_eq_self (by omega) hfit

/-! ## Packing and unpacking -/

section Folds

variable {β γ : Type}

/-- A fold whose every step finds its slot in range never stops: it sets the slots in turn. -/
theorem foldlM_slot (L : List γ) (g : γ → Int) (n : β → Nat) (upd : β → γ → Nat → β)
    (hn : ∀ out w i, n (upd out w i) = n out) (init : β)
    (hL : ∀ w ∈ L, 0 ≤ g w ∧ g w < n init) :
    L.foldlM (fun out w => do let i ← slot (g w) (n out); pure (upd out w i)) init =
      .ok (L.foldl (fun out w => upd out w (g w).toNat) init) := by
  induction L generalizing init with
  | nil => rfl
  | cons w L ih =>
    have hw := hL w List.mem_cons_self
    have hslot : slot (g w) (n init) = .ok (g w).toNat := by
      simp only [slot]
      exact if_pos ⟨hw.1, hw.2⟩
    simp only [List.foldlM_cons, hslot, except_ok_bind, except_pure, List.foldl_cons]
    exact ih _ fun w' hw' => by rw [hn]; exact hL w' (List.mem_cons_of_mem w hw')

theorem size_foldl_setIfInBounds (L : List γ) (pos : γ → Nat) (val : γ → β) (init : Array β) :
    (L.foldl (fun out w => out.setIfInBounds (pos w) (val w)) init).size = init.size := by
  induction L generalizing init with
  | nil => rfl
  | cons w L ih => rw [List.foldl_cons, ih, Array.size_setIfInBounds]

/-- Writes that miss a slot leave it alone. -/
theorem foldl_setIfInBounds_getElem?_of_forall_ne (L : List γ) (pos : γ → Nat) (val : γ → β)
    (init : Array β) {p : Nat} (h : ∀ w ∈ L, pos w ≠ p) :
    (L.foldl (fun out w => out.setIfInBounds (pos w) (val w)) init)[p]? = init[p]? := by
  induction L generalizing init with
  | nil => rfl
  | cons w L ih =>
    rw [List.foldl_cons, ih _ fun w' hw' => h w' (List.mem_cons_of_mem w hw'),
      Array.getElem?_setIfInBounds_ne (h w List.mem_cons_self)]

/-- After writes to distinct slots, each slot written holds what was written to it. -/
theorem foldl_setIfInBounds_getElem? (L : List γ) (pos : γ → Nat) (val : γ → β)
    (init : Array β) (hnd : (L.map pos).Nodup) {w : γ} (hw : w ∈ L) (hlt : pos w < init.size) :
    (L.foldl (fun out w => out.setIfInBounds (pos w) (val w)) init)[pos w]? = some (val w) := by
  induction L generalizing init with
  | nil => cases hw
  | cons w' L ih =>
    rw [List.map_cons, List.nodup_cons] at hnd
    rw [List.foldl_cons]
    rcases List.mem_cons.1 hw with rfl | hw
    · -- no later write reaches the slot of the first
      have hne : ∀ w'' ∈ L, pos w'' ≠ pos w := fun w'' hw'' heq =>
        hnd.1 (heq ▸ List.mem_map_of_mem hw'')
      rw [foldl_setIfInBounds_getElem?_of_forall_ne L pos val _ hne,
        Array.getElem?_setIfInBounds_self_of_lt hlt]
    · exact ih _ hnd.2 hw (by rwa [Array.size_setIfInBounds])

end Folds

section Positions

variable {s : Shape}

/-- The positions that packing and unpacking visit, each with its number: every one lies within
the dimensions and carries its row-major number, and every position within the dimensions whose
number is below the limit is among them. -/
theorem positions_zipIdx (limit : Nat) (hs : s.isStatic = true) (hok : s.ok = true)
    (hpos : ∀ d ∈ s.dims, 1 ≤ d) :
    ∃ L, s.positions limit = .ok L ∧ L.length = min limit s.size.toNat ∧
      (∀ w ∈ L.zipIdx, Within s.dims w.1 ∧ rowMajor s.dims w.1 = w.2) ∧
      ∀ idx, Within s.dims idx → (rowMajor s.dims idx).toNat < L.length →
        (idx, (rowMajor s.dims idx).toNat) ∈ L.zipIdx := by
  obtain ⟨L, hL, hlen, hLq⟩ := Shape.positions_rowMajor s limit hs hok hpos
  refine ⟨L, hL, hlen, fun w hw => ?_, fun idx hidx hlt => ?_⟩
  · have hget := List.mem_zipIdx_iff_getElem?.1 hw
    obtain ⟨q, hq, hqw, hqv⟩ := hLq w.2 (by
      by_contra hge
      rw [List.getElem?_eq_none (by omega)] at hget
      cases hget)
    rw [hq, Option.some.injEq] at hget
    exact hget ▸ ⟨hqw, hqv⟩
  · obtain ⟨q, hq, hqw, hqv⟩ := hLq _ hlt
    have hnum := hidx.rowMajor_mem
    have heq : q = idx := hqw.rowMajor_inj hidx (by rw [hqv]; omega)
    exact List.mem_zipIdx_iff_getElem?.2 (heq ▸ hq)

end Positions

section Storing

variable {α : Type} [Inhabited α] {s : Shape} {t : Tag}

/-- The addressing of a static shape in a layout usable at its rank, when its stored size fits a
machine word: the physical dimensions and their strides. -/
theorem addressing_eq (hs : s.isStatic = true) (hpos : ∀ d ∈ s.dims, 1 ≤ d)
    (hv : t.validateRank s.rank = .ok ()) (hfit : (physicalOf t s.dims).prod < 2 ^ 63) :
    addressing s t = .ok ⟨t, physicalOf t s.dims, Shape.stridesOf (physicalOf t s.dims)⟩ := by
  obtain ⟨axisMap, hphys, -⟩ := physicalDims_eq hv hpos hfit
  simp [addressing, hs, hphys]

/-- Distinct positions within a shape are stored at distinct numbers: packing never writes two
positions to one slot. -/
theorem nodup_stored {dims : List Int} (hv : t.validateRank dims.length = .ok ())
    {L : List (List Int)} (hmem : ∀ w ∈ L.zipIdx, Within dims w.1 ∧ rowMajor dims w.1 = w.2) :
    (L.zipIdx.map fun w => (rowMajor (physicalOf t dims) (physicalIndex t w.1)).toNat).Nodup := by
  have hzip : L.zipIdx.Nodup := List.Nodup.of_map Prod.snd (by
    rw [List.zipIdx_map_snd]; exact List.nodup_range' ..)
  refine List.Nodup.map_on (fun w hw w' hw' heq => ?_) hzip
  have hW := (hmem w hw).1
  have hW' := (hmem w' hw').1
  have := (hW.physicalIndex hv).rowMajor_mem
  have := (hW'.physicalIndex hv).rowMajor_mem
  -- equal numbers of physical positions come from equal positions, with equal numbers
  have he : w.1 = w'.1 := hW.physicalIndex_inj hW' hv
    ((hW.physicalIndex hv).rowMajor_inj (hW'.physicalIndex hv) (by omega))
  have h1 := (hmem w hw).2
  have h2 := (hmem w' hw').2
  rw [he] at h1
  exact Prod.ext he (by omega)

/-- Packing a shape's logical data of the right length visits every position within the shape,
each once with its number, and writes its element, over blank data of the stored size, at the
offset the addressing gives it. -/
theorem pack_run (hs : s.isStatic = true) (hok : s.ok = true) (hpos : ∀ d ∈ s.dims, 1 ≤ d)
    (hv : t.validateRank s.rank = .ok ()) (hfit : s.storedSize t < 2 ^ 63) (x : Array α)
    (hx : (x.size : Int) = s.size) :
    ∃ L : List (List Int), (∀ w ∈ L.zipIdx, Within s.dims w.1 ∧ rowMajor s.dims w.1 = w.2) ∧
      (∀ idx, Within s.dims idx → (idx, (rowMajor s.dims idx).toNat) ∈ L.zipIdx) ∧
      pack s t x = .ok (L.zipIdx.foldl (fun out w => out.setIfInBounds
          ((Addressing.mk t (physicalOf t s.dims) (Shape.stridesOf (physicalOf t s.dims))).offset
            w.1).toNat (x.getD w.2 default))
        (Array.replicate (physicalOf t s.dims).prod.toNat default)) := by
  rw [storedSize_eq_prod] at hfit
  have hP := one_le_prod (one_le_physicalOf hv hpos)
  have hD := prod_le_physicalOf hv hpos
  have hsize := size_eq_prod hs hpos (by omega)
  obtain ⟨L, hL, hlen, hmem, hall⟩ := positions_zipIdx x.size hs hok hpos
  refine ⟨L, hmem, fun idx hidx => hall idx hidx (by have := hidx.rowMajor_mem; omega), ?_⟩
  -- each position goes to the number of its physical position, inside the stored data
  have hin : ∀ w ∈ L.zipIdx, 0 ≤ rowMajor (physicalOf t s.dims) (physicalIndex t w.1) ∧
      rowMajor (physicalOf t s.dims) (physicalIndex t w.1) < (physicalOf t s.dims).prod :=
    fun w hw => ((hmem w hw).1.physicalIndex hv).rowMajor_mem
  set m := Addressing.mk t (physicalOf t s.dims) (Shape.stridesOf (physicalOf t s.dims))
  simp only [pack, addressing_eq hs hpos hv hfit, except_mapError_ok, except_ok_bind, hx, ne_eq,
    not_true_eq_false, if_false, hL, Except.toOption, Option.getD, blank, Addressing.size,
    product_eq_prod ⟨by omega, hfit⟩, if_neg (show ¬ (physicalOf t s.dims).prod < 0 by omega)]
  exact foldlM_slot L.zipIdx (fun w => m.offset w.1) Array.size
    (fun out w i => out.setIfInBounds i (x.getD w.2 default))
    (fun _ _ _ => Array.size_setIfInBounds) _ fun w hw => by
      rw [offset_eq_rowMajor (hmem w hw).1 hv hpos hfit, Array.size_replicate]
      have := hin w hw
      omega

/-- Packing a shape's logical data of the right length succeeds: it stores each element at the
number of the physical position of its position, in data of the stored size. -/
theorem pack_spec (hs : s.isStatic = true) (hok : s.ok = true) (hpos : ∀ d ∈ s.dims, 1 ≤ d)
    (hv : t.validateRank s.rank = .ok ()) (hfit : s.storedSize t < 2 ^ 63) (x : Array α)
    (hx : (x.size : Int) = s.size) :
    ∃ p, pack s t x = .ok p ∧ (p.size : Int) = s.storedSize t ∧
      ∀ idx, Within s.dims idx →
        p[(rowMajor (physicalOf t s.dims) (physicalIndex t idx)).toNat]? =
          x[(rowMajor s.dims idx).toNat]? := by
  obtain ⟨L, hmem, hall, hpack⟩ := pack_run hs hok hpos hv hfit x hx
  rw [storedSize_eq_prod] at hfit ⊢
  have hP := one_le_prod (one_le_physicalOf hv hpos)
  have hD := prod_le_physicalOf hv hpos
  have hsize := size_eq_prod hs hpos (by omega)
  set m := Addressing.mk t (physicalOf t s.dims) (Shape.stridesOf (physicalOf t s.dims))
  have hoff : ∀ w ∈ L.zipIdx, m.offset w.1 = rowMajor (physicalOf t s.dims) (physicalIndex t w.1) :=
    fun w hw => offset_eq_rowMajor (hmem w hw).1 hv hpos hfit
  have hin : ∀ w ∈ L.zipIdx, 0 ≤ rowMajor (physicalOf t s.dims) (physicalIndex t w.1) ∧
      rowMajor (physicalOf t s.dims) (physicalIndex t w.1) < (physicalOf t s.dims).prod :=
    fun w hw => ((hmem w hw).1.physicalIndex hv).rowMajor_mem
  refine ⟨_, hpack, by simp [size_foldl_setIfInBounds]; omega, fun idx hidx => ?_⟩
  -- the position is visited once, under its number, and no other position shares its slot
  have hnum := hidx.rowMajor_mem
  have hw := hall idx hidx
  have hnd : (L.zipIdx.map fun w => (m.offset w.1).toNat).Nodup := by
    rw [List.map_congr_left fun w hw => by rw [hoff w hw]]
    exact nodup_stored hv hmem
  rw [← hoff _ hw, foldl_setIfInBounds_getElem? L.zipIdx (fun w => (m.offset w.1).toNat) _ _ hnd hw
    (by rw [Array.size_replicate, hoff _ hw]; have := hin _ hw; omega)]
  have hi : (rowMajor s.dims idx).toNat < x.size := by omega
  simp [Array.getD_eq_getD_getElem?, hi]

/-- Unpacking stored data of the stored size succeeds: it reads each element of the shape back
from the number of the physical position of its position. -/
theorem unpack_spec (hs : s.isStatic = true) (hok : s.ok = true) (hpos : ∀ d ∈ s.dims, 1 ≤ d)
    (hv : t.validateRank s.rank = .ok ()) (hfit : s.storedSize t < 2 ^ 63) (y : Array α)
    (hy : (y.size : Int) = s.storedSize t) :
    ∃ out, unpack s t y = .ok out ∧ (out.size : Int) = s.dims.prod ∧
      ∀ idx, Within s.dims idx →
        out[(rowMajor s.dims idx).toNat]? =
          y[(rowMajor (physicalOf t s.dims) (physicalIndex t idx)).toNat]? := by
  rw [storedSize_eq_prod] at hfit hy
  have hD := prod_le_physicalOf hv hpos
  have hD1 := one_le_prod hpos
  have hsize := size_eq_prod hs hpos (by omega)
  obtain ⟨L, hL, hlen, hmem, hall⟩ := positions_zipIdx s.dims.prod.toNat hs hok hpos
  have hlen' : L.length = s.dims.prod.toNat := by omega
  set m := Addressing.mk t (physicalOf t s.dims) (Shape.stridesOf (physicalOf t s.dims))
  have hoff : ∀ w ∈ L.zipIdx, m.offset w.1 = rowMajor (physicalOf t s.dims) (physicalIndex t w.1) :=
    fun w hw => offset_eq_rowMajor (hmem w hw).1 hv hpos hfit
  have hin : ∀ w ∈ L.zipIdx, 0 ≤ rowMajor (physicalOf t s.dims) (physicalIndex t w.1) ∧
      rowMajor (physicalOf t s.dims) (physicalIndex t w.1) < (physicalOf t s.dims).prod :=
    fun w hw => ((hmem w hw).1.physicalIndex hv).rowMajor_mem
  have hunpack : unpack s t y = .ok (L.zipIdx.foldl
      (fun out w => out.setIfInBounds w.2 (y.getD (m.offset w.1).toNat default))
      (Array.replicate s.dims.prod.toNat default)) := by
    simp only [unpack, addressing_eq hs hpos hv hfit, except_mapError_ok, except_ok_bind,
      Addressing.size, product_eq_prod ⟨by omega, hfit⟩, hy, ne_eq, not_true_eq_false, if_false,
      blank, hsize, if_neg (show ¬ s.dims.prod < 0 by omega), Array.size_replicate, hL,
      Except.toOption, Option.getD]
    exact foldlM_slot L.zipIdx (fun w => m.offset w.1) (fun _ => y.size)
      (fun (out : Array α) (w : List Int × Nat) i => out.setIfInBounds w.2 (y.getD i default))
      (fun _ _ _ => rfl) _
      fun w hw => by rw [hoff w hw]; have := hin w hw; omega
  refine ⟨_, hunpack, by simp [size_foldl_setIfInBounds]; omega, fun idx hidx => ?_⟩
  -- each number is written once, with the element read at the physical position
  have hnum := hidx.rowMajor_mem
  have hw := hall idx hidx (by omega)
  have hnd : (L.zipIdx.map Prod.snd).Nodup := by
    rw [List.zipIdx_map_snd]
    exact List.nodup_range' ..
  rw [foldl_setIfInBounds_getElem? L.zipIdx Prod.snd
    (fun w => y.getD (m.offset w.1).toNat default) _ hnd hw (by simp; omega), hoff _ hw]
  have hi : (rowMajor (physicalOf t s.dims) (physicalIndex t idx)).toNat < y.size := by
    have := (hidx.physicalIndex hv).rowMajor_mem
    omega
  simp [Array.getD_eq_getD_getElem?, hi]

end Storing

/-! ## Resolving an axis -/

section Resolve

/-- Changing one axis of a list and then moving the channels is changing the physical axis that
holds it. -/
theorem moveChannel_set {l : List Int} (h2 : 2 ≤ l.length) {a : Nat} (ha : a < l.length) (v : Int) :
    moveChannel (l.set a v) =
      (moveChannel l).set (if a = 0 then 0 else if a = 1 then l.length - 1 else a - 1) v := by
  obtain ⟨x, y, rest, rfl⟩ := exists_cons_cons h2
  rcases a with _ | _ | a
  · simp [moveChannel_cons_cons]
  · simp [moveChannel_cons_cons, List.set_append_right]
  · simp only [List.length_cons] at ha
    simp [moveChannel_cons_cons, List.set_append_left _ _ (show a < rest.length by omega)]

variable {dims idx : List Int} {t : Tag} {a : Nat}

/-- Away from the blocked channel axis, a layout keeps each axis whole: changing the extent of a
logical axis changes the physical axis that holds it. -/
theorem physicalOf_set (hv : t.validateRank dims.length = .ok ()) (ha : a < dims.length)
    (hna : ¬ (t.kind = .blocked ∧ a = channelAxis)) (A : Int) :
    physicalOf t (dims.set a A) = (physicalOf t dims).set (physicalAxis t dims.length a) A := by
  rcases Tag.kind_cases hv with hk | ⟨hk, h2⟩ | ⟨hk, -, h2⟩
  · simp [physicalOf, physicalAxis, hk]
  · simp [physicalOf, physicalAxis, hk, moveChannel_set h2 ha]
  · have ha1 : a ≠ channelAxis := fun h => hna ⟨hk, h⟩
    have hget : (dims.set a A).getD channelAxis 0 = dims.getD channelAxis 0 := by
      simp [List.getD_eq_getElem?_getD, ha1]
    simp only [physicalOf, physicalAxis, hk, hget]
    rw [List.set_comm _ _ ha1, List.set_append_left _ _ (by simpa using ha)]

/-- The same for positions: changing the index on a logical axis changes the index on the
physical axis that holds it. -/
theorem physicalIndex_set (hv : t.validateRank idx.length = .ok ()) (ha : a < idx.length)
    (hna : ¬ (t.kind = .blocked ∧ a = channelAxis)) (j : Int) :
    physicalIndex t (idx.set a j) = (physicalIndex t idx).set (physicalAxis t idx.length a) j := by
  rcases Tag.kind_cases hv with hk | ⟨hk, h2⟩ | ⟨hk, -, h2⟩
  · simp [physicalIndex, physicalAxis, hk]
  · simp [physicalIndex, physicalAxis, hk, moveChannel_set h2 ha]
  · have ha1 : a ≠ channelAxis := fun h => hna ⟨hk, h⟩
    have hget : (idx.set a j).getD channelAxis 0 = idx.getD channelAxis 0 := by
      simp [List.getD_eq_getElem?_getD, ha1]
    simp only [physicalIndex, physicalAxis, hk, hget]
    rw [List.set_comm _ _ ha1, List.set_append_left _ _ (by simpa using ha)]

theorem physicalAxis_lt (hv : t.validateRank dims.length = .ok ()) (ha : a < dims.length) :
    physicalAxis t dims.length a < (physicalOf t dims).length := by
  rw [length_physicalOf hv]
  rcases Tag.kind_cases hv with hk | ⟨hk, h2⟩ | ⟨hk, -, h2⟩
  · simp [physicalAxis, hk, ha]
  · simp only [physicalAxis, hk]
    split_ifs <;> simp <;> omega
  · simp [physicalAxis, hk]
    omega

/-- On the blocked channel axis of a shape `x :: y :: rest`, the work items are the batch
indices `o` before the numbers of the positions `irest` of the axes after the channels, and each
channel is a block and a lane: element `j` of work item `(o, rowMajor rest irest)`, with `A`
elements along the axis, is stored where the layout stores `o :: j :: irest`. -/
theorem resolve_channel_offset {s : Shape} {d : Dims} (hs : s.isStatic = true)
    (hpos : ∀ x ∈ s.dims, 1 ≤ x) (hv : t.validateRank s.rank = .ok ())
    (hfit : s.storedSize t < 2 ^ 63) (hk : t.kind = .blocked)
    (hd : resolve s channelAxis t = .ok d) {x y : Int} {rest : List Int}
    (hdims : s.dims = x :: y :: rest) :
    d.outer = x ∧ d.inner = rest.prod ∧
      ∀ o, 0 ≤ o → o < x → ∀ irest, Within rest irest →
      ∀ A, 1 ≤ A → A ≤ y →
        (d.withAxis A).exactSize = (physicalOf t (s.dims.set channelAxis A)).prod ∧
        ∀ j, 0 ≤ j → j < A →
          (d.withAxis A).offset o (rowMajor rest irest) j =
            rowMajor (physicalOf t (s.dims.set channelAxis A)) (physicalIndex t (o :: j :: irest)) := by
  have hb : ∃ n : Nat, t.blockSize = 2 ^ n := by
    rcases Tag.kind_cases hv with hk' | ⟨hk', -⟩ | ⟨-, hb, -⟩ <;> simp_all
  have h2 : channelAxis < s.rank := by simp [Shape.rank, hdims, channelAxis]
  obtain ⟨hex, hax, -⟩ := exact_of_resolve hs hpos h2 hv hfit hd
  have hblk : t.isBlocked = true := by simp [Tag.isBlocked, hk]
  rw [resolve_eq_axisBlocked h2 hs hv hblk] at hd
  cases hd
  rcases s with ⟨dtype, dims⟩
  simp only at hdims
  subst hdims
  have hb1 := one_le_of_pow hb
  rw [storedSize_eq_prod] at hfit
  have hPpos := one_le_physicalOf hv hpos
  have hRfit : rest.prod < 2 ^ 63 := by
    have hle := prod_drop_le hPpos 2
    simp only [physicalOf, hk, channelAxis, List.getD_cons_succ, List.getD_cons_zero,
      List.set_cons_succ, List.set_cons_zero, List.cons_append, List.drop_succ_cons,
      List.drop_zero, List.prod_append, List.prod_singleton] at hle hfit
    nlinarith
  have hR1 : 1 ≤ rest.prod := one_le_prod fun z hz => hpos z (by simp [hz])
  have hI : product rest = rest.prod := product_eq_prod ⟨by omega, hRfit⟩
  refine ⟨rfl, by simp [hI, channelAxis], fun o ho0 ho irest hirest A hA1 hA => ?_⟩
  have hR := hirest.rowMajor_mem
  have hexA := hex.withAxis hA1 (hax ▸ hA)
  refine ⟨?_, fun j hj0 hj => ?_⟩
  · simp [Dims.exactSize, Dims.blocks, physicalOf, hk, channelAxis, hI, List.prod_append]
    ring
  · rw [Dims.offset_eq_place hexA ⟨ho0, by simpa using ho, hR.1,
      by simpa [hI, channelAxis] using hR.2, hj0, by simpa using hj⟩]
    simp [Dims.place, Dims.blocks, physicalOf, physicalIndex, hk, channelAxis, hI,
      rowMajor_append hirest.length_eq]
    ring

/-- On the blocked channel axis, the work item of a position is its batch index and the number
of its axes after the channels, and each channel is a block and a lane. -/
theorem resolve_offset_channel {s : Shape} {d : Dims} (hs : s.isStatic = true)
    (hpos : ∀ x ∈ s.dims, 1 ≤ x) (hv : t.validateRank s.rank = .ok ())
    (hfit : s.storedSize t < 2 ^ 63) (hk : t.kind = .blocked)
    (hd : resolve s channelAxis t = .ok d) {idx : List Int} (hidx : Within s.dims idx) :
    ∃ o i, 0 ≤ o ∧ o < d.outer ∧ 0 ≤ i ∧ i < d.inner ∧
      ∀ A, 1 ≤ A → A ≤ s.dims.getD channelAxis 0 →
        (d.withAxis A).exactSize = (physicalOf t (s.dims.set channelAxis A)).prod ∧
        ∀ j, 0 ≤ j → j < A →
          (d.withAxis A).offset o i j =
            rowMajor (physicalOf t (s.dims.set channelAxis A))
              (physicalIndex t (idx.set channelAxis j)) := by
  have h2 : 2 ≤ s.rank := by
    rcases Tag.kind_cases hv with hk' | ⟨hk', -⟩ | ⟨-, -, h2⟩ <;> simp_all
  obtain ⟨x, y, rest, hdims⟩ := exists_cons_cons h2
  rw [hdims] at hidx
  obtain ⟨i0, i1, irest, rfl⟩ := exists_cons_cons (show 2 ≤ idx.length by
    rw [hidx.length_eq]; simp)
  simp only [Within.cons_iff] at hidx
  obtain ⟨⟨h0, hx⟩, -, hrest⟩ := hidx
  obtain ⟨hout, hin, hoff⟩ := resolve_channel_offset hs hpos hv hfit hk hd hdims
  have hR := hrest.rowMajor_mem
  refine ⟨i0, rowMajor rest irest, h0, by rw [hout]; exact hx, hR.1, by rw [hin]; exact hR.2,
    fun A hA1 hA => ?_⟩
  exact hoff i0 h0 hx irest hrest A hA1 (by simpa [hdims, channelAxis] using hA)

/-- A prefix or a suffix of positive dimensions whose product fits a machine word has its
product as its machine product. -/
theorem product_take_drop {P : List Int} (hpos : ∀ x ∈ P, 1 ≤ x) (hfit : P.prod < 2 ^ 63)
    (p : Nat) : product (P.take p) = (P.take p).prod ∧ product (P.drop p) = (P.drop p).prod :=
  ⟨product_eq_prod
      ⟨by linarith [one_le_prod (l := P.take p) fun x hx => hpos x (List.mem_of_mem_take hx)],
        lt_of_le_of_lt (prod_take_le hpos p) hfit⟩,
    product_eq_prod
      ⟨by linarith [one_le_prod (l := P.drop p) fun x hx => hpos x (List.mem_of_mem_drop hx)],
        lt_of_le_of_lt (prod_drop_le hpos p) hfit⟩⟩

/-- Every axis but the blocked channel axis is a whole physical axis `p`. The work items are the
numbers of the physical positions before `p` and after it: element `j` of the work item of a
physical position `Q`, with `A` elements along the axis, is stored at the number of `Q` with `j`
on `p`. -/
theorem resolve_whole_offset {s : Shape} {d : Dims} (hs : s.isStatic = true)
    (hpos : ∀ x ∈ s.dims, 1 ≤ x) (ha : a < s.rank) (hv : t.validateRank s.rank = .ok ())
    (hfit : s.storedSize t < 2 ^ 63) (hab : ¬ (t.kind = .blocked ∧ a = channelAxis))
    (hd : resolve s a t = .ok d) :
    d.outer = ((physicalOf t s.dims).take (physicalAxis t s.dims.length a)).prod ∧
    d.inner = ((physicalOf t s.dims).drop (physicalAxis t s.dims.length a + 1)).prod ∧
      ∀ Q, Within (physicalOf t s.dims) Q →
      ∀ A, 1 ≤ A → A ≤ s.dims.getD a 0 →
        (d.withAxis A).exactSize = (physicalOf t (s.dims.set a A)).prod ∧
        ∀ j, 0 ≤ j → j < A →
          (d.withAxis A).offset
              (rowMajor ((physicalOf t s.dims).take (physicalAxis t s.dims.length a))
                (Q.take (physicalAxis t s.dims.length a)))
              (rowMajor ((physicalOf t s.dims).drop (physicalAxis t s.dims.length a + 1))
                (Q.drop (physicalAxis t s.dims.length a + 1))) j =
            rowMajor (physicalOf t (s.dims.set a A)) (Q.set (physicalAxis t s.dims.length a) j) := by
  obtain ⟨hex, hax, -⟩ := exact_of_resolve hs hpos ha hv hfit hd
  rw [storedSize_eq_prod] at hfit
  obtain ⟨axisMap, hphys, hmap⟩ := physicalDims_eq hv hpos hfit
  have hres := resolve_eq_of_physicalDims ha hs hphys (by simpa [Tag.isBlocked] using hab)
  rw [hmap a ha, hd] at hres
  cases hres
  have hp := physicalAxis_lt hv ha
  set P := physicalOf t s.dims
  set p := physicalAxis t s.dims.length a
  have hT : product (P.take p) = (P.take p).prod :=
    (product_take_drop (one_le_physicalOf hv hpos) hfit p).1
  have hD : product (P.drop (p + 1)) = (P.drop (p + 1)).prod :=
    (product_take_drop (one_le_physicalOf hv hpos) hfit (p + 1)).2
  refine ⟨hT, hD, fun Q hQ A hA1 hA => ?_⟩
  have hWt := (hQ.take p).rowMajor_mem
  have hWd := (hQ.drop (p + 1)).rowMajor_mem
  have hPA : physicalOf t (s.dims.set a A) = P.set p A := physicalOf_set hv ha hab A
  have hexA := hex.withAxis hA1 (hax ▸ hA)
  refine ⟨?_, fun j hj0 hj => ?_⟩
  · simp only [Dims.exactSize, Dims.withAxis, hT, hD, hPA, List.prod_set, if_pos hp]
    simp
  · rw [Dims.offset_eq_place hexA ⟨hWt.1, by simpa [hT] using hWt.2, hWd.1,
      by simpa [hD] using hWd.2, hj0, by simpa using hj⟩, hPA,
      rowMajor_set hQ.length_eq hp]
    simp [Dims.place, hT, hD]

/-- Every axis but the blocked channel axis is a whole physical axis `p`: the work item of a
position is the number of its physical axes before `p` and the number of those after it. -/
theorem resolve_offset_whole {s : Shape} {d : Dims} (hs : s.isStatic = true)
    (hpos : ∀ x ∈ s.dims, 1 ≤ x) (ha : a < s.rank) (hv : t.validateRank s.rank = .ok ())
    (hfit : s.storedSize t < 2 ^ 63) (hab : ¬ (t.kind = .blocked ∧ a = channelAxis))
    (hd : resolve s a t = .ok d) {idx : List Int} (hidx : Within s.dims idx) :
    ∃ o i, 0 ≤ o ∧ o < d.outer ∧ 0 ≤ i ∧ i < d.inner ∧
      ∀ A, 1 ≤ A → A ≤ s.dims.getD a 0 →
        (d.withAxis A).exactSize = (physicalOf t (s.dims.set a A)).prod ∧
        ∀ j, 0 ≤ j → j < A →
          (d.withAxis A).offset o i j =
            rowMajor (physicalOf t (s.dims.set a A)) (physicalIndex t (idx.set a j)) := by
  have hl := hidx.length_eq
  have hW := hidx.physicalIndex hv
  obtain ⟨hout, hin, hoff⟩ := resolve_whole_offset hs hpos ha hv hfit hab hd
  set p := physicalAxis t s.dims.length a
  have hWt := (hW.take p).rowMajor_mem
  have hWd := (hW.drop (p + 1)).rowMajor_mem
  refine ⟨_, _, hWt.1, by rw [hout]; exact hWt.2, hWd.1, by rw [hin]; exact hWd.2,
    fun A hA1 hA => ?_⟩
  obtain ⟨hsize, hA'⟩ := hoff _ hW A hA1 hA
  refine ⟨hsize, fun j hj0 hj => ?_⟩
  -- the position moved along the axis is the physical position moved along `p`
  have hQA : physicalIndex t (idx.set a j) = (physicalIndex t idx).set p j := by
    have h := physicalIndex_set (t := t) (by rw [hl]; exact hv) (by rw [hl]; exact ha) hab j
    rwa [hl] at h
  rw [hQA]
  exact hA' j hj0 hj

/-- Every position of a static shape belongs to a work item `(o, i)` of the addressing that
`resolve` gives along an axis, and element `j` of that work item is stored where the layout
stores the position with index `j` on the axis. This holds for the addressing of the input and,
with `A` elements along the axis, for the addressing that `withAxis` derives from it, whose size
is the stored size of the shape with `A` on the axis. -/
theorem resolve_offset {s : Shape} {d : Dims} (hs : s.isStatic = true)
    (hpos : ∀ x ∈ s.dims, 1 ≤ x) (ha : a < s.rank) (hv : t.validateRank s.rank = .ok ())
    (hfit : s.storedSize t < 2 ^ 63) (hd : resolve s a t = .ok d) {idx : List Int}
    (hidx : Within s.dims idx) :
    ∃ o i, 0 ≤ o ∧ o < d.outer ∧ 0 ≤ i ∧ i < d.inner ∧
      ∀ A, 1 ≤ A → A ≤ s.dims.getD a 0 →
        (d.withAxis A).exactSize = (physicalOf t (s.dims.set a A)).prod ∧
        ∀ j, 0 ≤ j → j < A →
          (d.withAxis A).offset o i j =
            rowMajor (physicalOf t (s.dims.set a A)) (physicalIndex t (idx.set a j)) := by
  by_cases hab : t.kind = .blocked ∧ a = channelAxis
  · obtain ⟨hk, rfl⟩ := hab
    exact resolve_offset_channel hs hpos hv hfit hk hd hidx
  · exact resolve_offset_whole hs hpos ha hv hfit hab hd hidx

end Resolve

end Layout

end TensorSelect
