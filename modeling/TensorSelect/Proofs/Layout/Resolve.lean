import Mathlib
import TensorSelect.Proofs.Layout.Placement

/-!
# Resolving an axis

`Layout.resolve` reduces a static shape, an axis and a layout to the addressing of the work
items along the axis (`Dims`); `Layout.addressing` gives the offset of every logical position.
This module relates the two, for every static shape, axis and layout usable at its rank.

* Sizes. The addressing, the shape in its layout and the addressing of positions measure the
  stored data by one machine integer (`resolve_physicalSize`): each is a wrapped product of the
  same physical dimensions, as the machine computes them (`machinePhysical`), and wrapping a
  product of wrapped factors wraps the product (`product_split`).
* The output. Resolving the shape with `K` on the axis gives the addressing with `K` on its axis
  (`resolve_set`): no other extent of the addressing depends on the axis's.
* Work items, when the stored size fits a machine word. Every logical position lies on exactly
  one work item, whose element `j` is stored where the position with index `j` on the axis is
  (`resolve_item_unique`). A work item that holds no logical position holds only padding, and
  only a blocked layout along another axis than the channels has one (`resolve_item_cases`):
  planar and channel-last layouts store a logical position at every physical one
  (`exists_physicalIndex`), and a blocked layout along the channels splits each work item into
  a batch index and a position after the channels.
-/

namespace TensorSelect

/-! ## Positions around one axis -/

namespace Within

variable {dims idx : List Int}

/-- Moving a position along one axis, within the axis's extent, keeps it within the dimensions. -/
theorem set_of_lt (h : Within dims idx) {a : Nat} (ha : a < dims.length) {j : Int} (hj0 : 0 ≤ j)
    (hj : j < dims.getD a 0) : Within dims (idx.set a j) := by
  have h' := h.set a hj0 hj
  rwa [set_getD_self ha] at h'

/-- A number below the product of the dimensions before axis `p` and one below the product of
those after it number the two halves of a position, whose index on axis `p` is `0`. -/
theorem exists_split {P : List Int} (hpos : ∀ z ∈ P, 1 ≤ z) {p : Nat} (hp : p < P.length)
    {o i : Int} (ho0 : 0 ≤ o) (ho : o < (P.take p).prod) (hi0 : 0 ≤ i)
    (hi : i < (P.drop (p + 1)).prod) :
    ∃ Q, Within P Q ∧ Q.getD p 0 = 0 ∧ rowMajor (P.take p) (Q.take p) = o ∧
      rowMajor (P.drop (p + 1)) (Q.drop (p + 1)) = i := by
  obtain ⟨Q₁, hQ₁, rfl⟩ :=
    exists_within_rowMajor (fun z hz => hpos z (List.mem_of_mem_take hz)) ho0 ho
  obtain ⟨Q₂, hQ₂, rfl⟩ :=
    exists_within_rowMajor (fun z hz => hpos z (List.mem_of_mem_drop hz)) hi0 hi
  have hlen : Q₁.length = p := by
    rw [hQ₁.length_eq, List.length_take]
    omega
  have hsplit : P = P.take p ++ P.getD p 0 :: P.drop (p + 1) := by
    conv_lhs => rw [← List.take_append_drop p P, List.drop_eq_getElem_cons hp]
    simp [List.getD_eq_getElem?_getD, hp]
  have hmid : 1 ≤ P.getD p 0 := by
    simpa [List.getD_eq_getElem?_getD, hp] using hpos _ (List.getElem_mem hp)
  refine ⟨Q₁ ++ 0 :: Q₂, ?_, ?_, ?_, ?_⟩
  · rw [hsplit]
    exact hQ₁.append (.cons le_rfl (by omega) hQ₂)
  · simp [List.getD_eq_getElem?_getD, ← hlen]
  · rw [← hlen, List.take_left' rfl]
  · rw [← hlen]
    simp

end Within

namespace Shape

/-- A static shape stays static with a positive extent on one axis. -/
theorem isStatic_set {s : Shape} (hs : s.isStatic = true) (a : Nat) {K : Int} (hK : 1 ≤ K) :
    ({ s with dims := s.dims.set a K } : Shape).isStatic = true := by
  simp only [isStatic, dynamicDim, Bool.not_eq_eq_eq_not, Bool.not_true, List.contains_eq_mem,
    decide_eq_false_iff_not] at hs ⊢
  intro h
  rcases List.mem_or_eq_of_mem_set h with h | h
  · exact hs h
  · omega

end Shape

namespace Layout

/-! ## The physical dimensions the machine computes -/

/-- The physical dimensions of a layout as the machine computes them: the channels moved to the
end on channel-last; on blocked(b) the channels counted in blocks by the machine's `ceilDiv`,
with one more axis of `b` lanes. -/
def machinePhysical (t : Tag) (dims : List Int) : List Int :=
  match t.kind with
  | .channelLast => moveChannel dims
  | .blocked =>
    dims.set channelAxis (ceilDiv (dims.getD channelAxis 0) t.blockSize) ++ [t.blockSize]
  | _ => dims

section Machine

variable {dims : List Int} {t : Tag}

/-- On a rank that its tag accepts, `physicalDims` gives the machine's physical dimensions and
the physical axis of each logical one. -/
theorem physicalDims_machine (hv : t.validateRank dims.length = .ok ()) :
    physicalDims dims t = .ok (machinePhysical t dims,
      (List.range dims.length).map fun a => physicalAxis t dims.length a) := by
  rcases Tag.kind_cases hv with hk | ⟨hk, -⟩ | ⟨hk, -, -⟩
  · simp [physicalDims, hv, hk, machinePhysical, physicalAxis]
  · simp [physicalDims, hv, hk, machinePhysical, physicalAxis, moveChannel]
  · simp [physicalDims, hv, hk, machinePhysical, physicalAxis]

theorem length_machinePhysical : (machinePhysical t dims).length = (physicalOf t dims).length := by
  rcases t with ⟨kind, b⟩
  cases kind <;> simp [machinePhysical, physicalOf]

/-- Away from the blocked channel axis, changing the extent of a logical axis changes the
physical axis that holds it, also as the machine computes the physical dimensions. -/
theorem machinePhysical_set (hv : t.validateRank dims.length = .ok ()) {a : Nat}
    (ha : a < dims.length) (hna : ¬ (t.kind = .blocked ∧ a = channelAxis)) (A : Int) :
    machinePhysical t (dims.set a A) =
      (machinePhysical t dims).set (physicalAxis t dims.length a) A := by
  rcases Tag.kind_cases hv with hk | ⟨hk, h2⟩ | ⟨hk, -, -⟩
  · simp [machinePhysical, physicalAxis, hk]
  · simp [machinePhysical, physicalAxis, hk, moveChannel_set h2 ha]
  · have ha1 : a ≠ channelAxis := fun h => hna ⟨hk, h⟩
    have hget : (dims.set a A).getD channelAxis 0 = dims.getD channelAxis 0 := by
      simp [List.getD_eq_getElem?_getD, ha1]
    simp only [machinePhysical, physicalAxis, hk, hget]
    rw [List.set_comm _ _ ha1, List.set_append_left _ _ (by simpa using ha)]

theorem physicalAxis_lt_machine (hv : t.validateRank dims.length = .ok ()) {a : Nat}
    (ha : a < dims.length) : physicalAxis t dims.length a < (machinePhysical t dims).length := by
  rw [length_machinePhysical]
  exact physicalAxis_lt hv ha

end Machine

/-! ## Sizes -/

/-- Splitting a machine product around one factor: the wrapped products of the factors before
and after it, multiplied with it and wrapped, make the wrapped product of all. -/
theorem product_split {P : List Int} {p : Nat} (hp : p < P.length) :
    wrapWord (product (P.take p) * P.getD p 0 * product (P.drop (p + 1))) = product P := by
  have hsplit : P.prod = (P.take p).prod * (P.getD p 0 * (P.drop (p + 1)).prod) := by
    rw [← List.prod_take_mul_prod_drop P p, List.drop_eq_getElem_cons hp, List.prod_cons]
    simp [List.getD_eq_getElem?_getD, hp]
  unfold product wrapWord
  rw [Int.mul_bmod_bmod, mul_assoc, Int.bmod_mul_bmod, ← List.prod_eq_foldl,
    ← List.prod_eq_foldl, ← List.prod_eq_foldl, hsplit]

section Sizes

variable {s : Shape} {a : Nat} {t : Tag} {d : Dims}

/-- The addressing of the positions of a static shape in a layout usable at its rank: the
machine's physical dimensions and their strides. -/
theorem addressing_machine (hs : s.isStatic = true) (hv : t.validateRank s.rank = .ok ()) :
    addressing s t = .ok ⟨t, machinePhysical t s.dims, Shape.stridesOf (machinePhysical t s.dims)⟩ := by
  simp [addressing, hs, physicalDims_machine hv]

theorem physicalSize_machine (hs : s.isStatic = true) (hv : t.validateRank s.rank = .ok ()) :
    physicalSize s t = .ok (product (machinePhysical t s.dims)) := by
  simp [physicalSize, hs, physicalDims_machine hv]

/-- Away from the blocked channel axis, an axis resolves to the machine's physical axis that
holds it: the wrapped products of the physical dimensions before and after it, and its extent. -/
theorem resolve_machine (hs : s.isStatic = true) (hv : t.validateRank s.rank = .ok ())
    (ha : a < s.rank) (hab : ¬ (t.kind = .blocked ∧ a = channelAxis)) :
    resolve s a t = .ok
      { outer := product ((machinePhysical t s.dims).take (physicalAxis t s.dims.length a)),
        axis := (machinePhysical t s.dims).getD (physicalAxis t s.dims.length a) 0,
        inner := product ((machinePhysical t s.dims).drop (physicalAxis t s.dims.length a + 1)),
        axisStride :=
          product ((machinePhysical t s.dims).drop (physicalAxis t s.dims.length a + 1)),
        blockSize := if t.isBlocked then t.blockSize else 0 } := by
  have hmap : ((List.range s.dims.length).map fun a => physicalAxis t s.dims.length a).getD a 0 =
      physicalAxis t s.dims.length a := by
    simp [List.getD_eq_getElem?_getD, show a < s.dims.length from ha]
  rw [resolve_eq_of_physicalDims ha hs (physicalDims_machine hv)
    (by simpa [Tag.isBlocked] using hab), hmap]

/-- The addressing of an axis spans the machine product of the physical dimensions. -/
theorem resolve_physicalSize (hs : s.isStatic = true) (hv : t.validateRank s.rank = .ok ())
    (ha : a < s.rank) (hd : resolve s a t = .ok d) :
    d.physicalSize = product (machinePhysical t s.dims) := by
  by_cases hab : t.kind = .blocked ∧ a = channelAxis
  · -- the blocked channel axis: batch, blocks, lanes and the axes after the channels
    obtain ⟨hk, rfl⟩ := hab
    have hblk : t.isBlocked = true := by simp [Tag.isBlocked, hk]
    rw [resolve_eq_axisBlocked ha hs hv hblk] at hd
    cases hd
    have h2 : 2 ≤ s.dims.length := by
      simp only [Shape.rank, channelAxis] at ha
      omega
    obtain ⟨x, y, rest, hdims⟩ := exists_cons_cons h2
    simp only [Dims.physicalSize, if_true, hdims, machinePhysical, hk, product, wrapWord,
      Int.mul_bmod_bmod, ← List.prod_eq_foldl]
    simp [channelAxis, List.prod_append]
    ring_nf
  · rw [resolve_machine hs hv ha hab] at hd
    cases hd
    simp only [Dims.physicalSize, Bool.false_eq_true, if_false]
    exact product_split (physicalAxis_lt_machine hv ha)

end Sizes

/-! ## The output addressing -/

section Output

variable {s : Shape} {a : Nat} {t : Tag} {d : Dims}

/-- Resolving a static shape with `K` elements on the axis gives the addressing of the shape with
`K` on its axis: the batch, the items after the axis and their stride do not depend on the
axis's extent, in any layout. -/
theorem resolve_set (hs : s.isStatic = true) (hv : t.validateRank s.rank = .ok ())
    (ha : a < s.rank) {K : Int} (hK : 1 ≤ K) (hd : resolve s a t = .ok d) :
    resolve { s with dims := s.dims.set a K } a t = .ok (d.withAxis K) := by
  -- the shape with `K` on the axis is static, of the same rank
  have hs' := Shape.isStatic_set hs a hK
  have ha' : a < ({ s with dims := s.dims.set a K } : Shape).rank := by
    simpa [Shape.rank] using ha
  have hv' : t.validateRank ({ s with dims := s.dims.set a K } : Shape).rank = .ok () := by
    simpa [Shape.rank] using hv
  by_cases hab : t.kind = .blocked ∧ a = channelAxis
  · -- the blocked channel axis: the batch and the axes after the channels stay
    obtain ⟨hk, rfl⟩ := hab
    have hblk : t.isBlocked = true := by simp [Tag.isBlocked, hk]
    rw [resolve_eq_axisBlocked ha hs hv hblk] at hd
    cases hd
    rw [resolve_eq_axisBlocked ha' hs' hv' hblk]
    have h1 : 1 < s.dims.length := ha
    simp [Dims.withAxis, List.getD_eq_getElem?_getD, List.drop_set, h1, channelAxis]
  · -- a whole physical axis: only its extent changes
    rw [resolve_machine hs hv ha hab] at hd
    cases hd
    rw [resolve_machine hs' hv' ha' hab]
    have hp := physicalAxis_lt_machine hv ha
    simp only [List.length_set, machinePhysical_set hv ha hab, List.take_set,
      List.set_eq_of_length_le (List.length_take_le _ _), List.drop_set, lt_add_one, if_true,
      Dims.withAxis]
    simp [List.getD_eq_getElem?_getD, hp]

end Output

/-! ## Work items -/

section Items

variable {dims : List Int} {s : Shape} {a : Nat} {t : Tag} {d : Dims} {m : Addressing}

/-- Away from the blocked channel axis, a logical axis and the physical axis that holds it have
one extent. -/
theorem getD_physicalAxis (hv : t.validateRank dims.length = .ok ()) (ha : a < dims.length)
    (hna : ¬ (t.kind = .blocked ∧ a = channelAxis)) :
    (physicalOf t dims).getD (physicalAxis t dims.length a) 0 = dims.getD a 0 := by
  have hset := physicalOf_set hv ha hna (dims.getD a 0)
  rw [set_getD_self ha] at hset
  have hp := physicalAxis_lt hv ha
  rw [hset]
  simp [List.getD_eq_getElem?_getD, hp]

/-- Planar and channel-last layouts store a logical position at every physical one. -/
theorem exists_physicalIndex (hv : t.validateRank dims.length = .ok ()) (hk : t.kind ≠ .blocked)
    {Q : List Int} (hQ : Within (physicalOf t dims) Q) :
    ∃ x, Within dims x ∧ physicalIndex t x = Q := by
  rcases Tag.kind_cases hv with hk' | ⟨hk', h2⟩ | ⟨hk', -, -⟩
  · simp only [physicalOf, hk'] at hQ
    exact ⟨Q, hQ, by simp [physicalIndex, hk']⟩
  · -- channel-last: the index of the channels comes back from the end
    obtain ⟨x, y, rest, rfl⟩ := exists_cons_cons h2
    simp only [physicalOf, hk', moveChannel_cons_cons] at hQ
    obtain ⟨q, Q', rfl⟩ : ∃ q Q', Q = q :: Q' := by
      cases hQ
      exact ⟨_, _, rfl⟩
    obtain ⟨hq, hQ'⟩ := Within.cons_iff.1 hQ
    have hfront : Within rest (Q'.take rest.length) := by simpa using hQ'.take rest.length
    have hback : Within [y] (Q'.drop rest.length) := by simpa using hQ'.drop rest.length
    obtain ⟨c, hc0, hc, hcQ⟩ : ∃ c, 0 ≤ c ∧ c < y ∧ Q'.drop rest.length = [c] := by
      generalize Q'.drop rest.length = l at hback ⊢
      cases hback with
      | cons h0 h1 hnil =>
        cases hnil
        exact ⟨_, h0, h1, rfl⟩
    refine ⟨q :: c :: Q'.take rest.length, .cons hq.1 hq.2 (.cons hc0 hc hfront), ?_⟩
    simp only [physicalIndex, hk', moveChannel_cons_cons]
    rw [← hcQ, List.take_append_drop]
  · exact absurd hk' hk

/-- When the stored size fits a machine word, the addressing of positions stores a position at
the row-major number of its physical position. -/
theorem addressing_offset (hs : s.isStatic = true) (hpos : ∀ x ∈ s.dims, 1 ≤ x)
    (hv : t.validateRank s.rank = .ok ()) (hfit : s.storedSize t < 2 ^ 63)
    (hm : addressing s t = .ok m) {x : List Int} (hx : Within s.dims x) :
    m.offset x = rowMajor (physicalOf t s.dims) (physicalIndex t x) := by
  rw [storedSize_eq_prod] at hfit
  rw [addressing_eq hs hpos hv hfit] at hm
  cases hm
  exact offset_eq_rowMajor hx hv hpos hfit

/-- Every logical position lies on exactly one work item, whose element `j` is stored where the
position with index `j` on the axis is. -/
theorem resolve_item_unique (hs : s.isStatic = true) (hpos : ∀ x ∈ s.dims, 1 ≤ x)
    (ha : a < s.rank) (hv : t.validateRank s.rank = .ok ()) (hfit : s.storedSize t < 2 ^ 63)
    (hd : resolve s a t = .ok d) (hm : addressing s t = .ok m) {x : List Int}
    (hx : Within s.dims x) :
    ∃! w : Int × Int, (0 ≤ w.1 ∧ w.1 < d.outer ∧ 0 ≤ w.2 ∧ w.2 < d.inner) ∧
      ∀ j, 0 ≤ j → j < d.axis → d.offset w.1 w.2 j = m.offset (x.set a j) := by
  obtain ⟨hex, hax, -⟩ := exact_of_resolve hs hpos ha hv hfit hd
  have ha' : a < s.dims.length := ha
  have hself : s.dims.set a d.axis = s.dims := by rw [hax, set_getD_self ha']
  obtain ⟨o, i, ho0, ho, hi0, hi, hoff⟩ := resolve_offset hs hpos ha hv hfit hd hx
  obtain ⟨-, hcol⟩ := hoff d.axis hex.axis_pos hax.le
  rw [Dims.withAxis_axis, hself] at hcol
  have hkey : ∀ j, 0 ≤ j → j < d.axis → d.offset o i j = m.offset (x.set a j) := by
    intro j hj0 hj
    rw [hcol j hj0 hj, addressing_offset hs hpos hv hfit hm (hx.set_of_lt ha' hj0 (hax ▸ hj))]
  refine ⟨(o, i), ⟨⟨ho0, ho, hi0, hi⟩, hkey⟩, ?_⟩
  -- two work items holding element 0 of the column share its offset, so they are one
  rintro ⟨o', i'⟩ ⟨⟨ho0', ho', hi0', hi'⟩, hkey'⟩
  have hin : d.InRange o i 0 := ⟨ho0, ho, hi0, hi, le_rfl, hex.axis_pos⟩
  have hin' : d.InRange o' i' 0 := ⟨ho0', ho', hi0', hi', le_rfl, hex.axis_pos⟩
  have h0 : d.place o' i' 0 = d.place o i 0 := by
    rw [← Dims.offset_eq_place hex hin', ← Dims.offset_eq_place hex hin,
      hkey' 0 le_rfl hex.axis_pos, hkey 0 le_rfl hex.axis_pos]
  obtain ⟨rfl, rfl, -⟩ := Dims.place_inj hex hin' hin h0
  rfl

/-- Along the blocked channels a work item is a batch index and a position after the channels:
it holds the column of one logical position. -/
theorem resolve_item_channel (hs : s.isStatic = true) (hpos : ∀ x ∈ s.dims, 1 ≤ x)
    (h2 : channelAxis < s.rank) (hv : t.validateRank s.rank = .ok ())
    (hfit : s.storedSize t < 2 ^ 63) (hk : t.kind = .blocked)
    (hd : resolve s channelAxis t = .ok d) (hm : addressing s t = .ok m) {o i : Int}
    (ho0 : 0 ≤ o) (ho : o < d.outer) (hi0 : 0 ≤ i) (hi : i < d.inner) :
    ∃ x, Within s.dims x ∧
      ∀ j, 0 ≤ j → j < d.axis → d.offset o i j = m.offset (x.set channelAxis j) := by
  obtain ⟨hex, hax, -⟩ := exact_of_resolve hs hpos h2 hv hfit hd
  obtain ⟨x₀, y, rest, hdims⟩ := exists_cons_cons (show 2 ≤ s.dims.length from h2)
  obtain ⟨hout, hin, hoff⟩ := resolve_channel_offset hs hpos hv hfit hk hd hdims
  obtain ⟨irest, hirest, rfl⟩ :=
    exists_within_rowMajor (fun z hz => hpos z (by simp [hdims, hz])) hi0 (hin ▸ hi)
  have hy : d.axis = y := by rw [hax, hdims]; rfl
  have hself : s.dims.set channelAxis d.axis = s.dims := by rw [hy, hdims]; rfl
  have hA := hex.axis_pos
  have hx : Within s.dims (o :: 0 :: irest) := by
    rw [hdims]
    exact .cons ho0 (hout ▸ ho) (.cons le_rfl (by omega) hirest)
  obtain ⟨-, hcol⟩ := hoff o ho0 (hout ▸ ho) irest hirest d.axis hA hy.le
  rw [Dims.withAxis_axis, hself] at hcol
  refine ⟨o :: 0 :: irest, hx, fun j hj0 hj => ?_⟩
  have hxj : Within s.dims (o :: j :: irest) := by
    rw [hdims]
    exact .cons ho0 (hout ▸ ho) (.cons hj0 (hy ▸ hj) hirest)
  rw [hcol j hj0 hj]
  exact (addressing_offset hs hpos hv hfit hm hxj).symm

/-- On a whole physical axis a work item is a physical position with index `0` on it. Either a
logical position is stored there, and the work item holds its column, or the layout is blocked
and nothing the work item holds is the element of a logical position. -/
theorem resolve_item_whole (hs : s.isStatic = true) (hpos : ∀ x ∈ s.dims, 1 ≤ x)
    (ha : a < s.rank) (hv : t.validateRank s.rank = .ok ()) (hfit : s.storedSize t < 2 ^ 63)
    (hab : ¬ (t.kind = .blocked ∧ a = channelAxis)) (hd : resolve s a t = .ok d)
    (hm : addressing s t = .ok m) {o i : Int} (ho0 : 0 ≤ o) (ho : o < d.outer) (hi0 : 0 ≤ i)
    (hi : i < d.inner) :
    (∃ x, Within s.dims x ∧ ∀ j, 0 ≤ j → j < d.axis → d.offset o i j = m.offset (x.set a j)) ∨
    (t.kind = .blocked ∧
      ∀ j, 0 ≤ j → j < d.axis → ∀ y, Within s.dims y → d.offset o i j ≠ m.offset y) := by
  obtain ⟨hex, hax, -⟩ := exact_of_resolve hs hpos ha hv hfit hd
  have ha' : a < s.dims.length := ha
  have hself : s.dims.set a d.axis = s.dims := by rw [hax, set_getD_self ha']
  have hp := physicalAxis_lt hv ha'
  have hPp := getD_physicalAxis hv ha' hab
  obtain ⟨hout, hin, hoff⟩ := resolve_whole_offset hs hpos ha hv hfit hab hd
  obtain ⟨Q, hQ, hQp, rfl, rfl⟩ :=
    Within.exists_split (one_le_physicalOf hv hpos) hp ho0 (hout ▸ ho) hi0 (hin ▸ hi)
  obtain ⟨-, hcol⟩ := hoff Q hQ d.axis hex.axis_pos hax.le
  rw [Dims.withAxis_axis, hself] at hcol
  -- moving a logical position along the axis moves its physical position along axis `p`
  have hset : ∀ x, Within s.dims x → ∀ j,
      physicalIndex t (x.set a j) = (physicalIndex t x).set (physicalAxis t s.dims.length a) j := by
    intro x hx j
    have h := physicalIndex_set (by rw [hx.length_eq]; exact hv) (by rw [hx.length_eq]; exact ha')
      hab j
    rwa [hx.length_eq] at h
  by_cases hst : ∃ x, Within s.dims x ∧ physicalIndex t x = Q
  · left
    obtain ⟨x, hx, rfl⟩ := hst
    refine ⟨x, hx, fun j hj0 hj => ?_⟩
    rw [hcol j hj0 hj, addressing_offset hs hpos hv hfit hm (hx.set_of_lt ha' hj0 (hax ▸ hj)),
      hset x hx]
  · right
    have hk : t.kind = .blocked := by
      by_contra hk
      exact hst (exists_physicalIndex hv hk hQ)
    refine ⟨hk, fun j hj0 hj y hy heq => hst ?_⟩
    -- a position stored on the column would put the column's head at a position too
    have hQj := hQ.set_of_lt hp hj0 (by rw [hPp, ← hax]; exact hj)
    rw [hcol j hj0 hj, addressing_offset hs hpos hv hfit hm hy] at heq
    have hyQ := hQj.rowMajor_inj (hy.physicalIndex hv) heq
    have hQ0 := set_getD_self (hQ.length_eq ▸ hp)
    rw [hQp] at hQ0
    refine ⟨y.set a 0, hy.set_of_lt ha' le_rfl (by have := hex.axis_pos; omega), ?_⟩
    rw [hset y hy, ← hyQ, List.set_set, hQ0]

/-- Every work item holds the column of a logical position, unless the layout is blocked along
another axis than the channels: then a work item may hold padding only. -/
theorem resolve_item_cases (hs : s.isStatic = true) (hpos : ∀ x ∈ s.dims, 1 ≤ x)
    (ha : a < s.rank) (hv : t.validateRank s.rank = .ok ()) (hfit : s.storedSize t < 2 ^ 63)
    (hd : resolve s a t = .ok d) (hm : addressing s t = .ok m) {o i : Int} (ho0 : 0 ≤ o)
    (ho : o < d.outer) (hi0 : 0 ≤ i) (hi : i < d.inner) :
    (∃ x, Within s.dims x ∧ ∀ j, 0 ≤ j → j < d.axis → d.offset o i j = m.offset (x.set a j)) ∨
    (t.kind = .blocked ∧ a ≠ channelAxis ∧
      ∀ j, 0 ≤ j → j < d.axis → ∀ y, Within s.dims y → d.offset o i j ≠ m.offset y) := by
  by_cases hab : t.kind = .blocked ∧ a = channelAxis
  · obtain ⟨hk, rfl⟩ := hab
    exact .inl (resolve_item_channel hs hpos ha hv hfit hk hd hm ho0 ho hi0 hi)
  · rcases resolve_item_whole hs hpos ha hv hfit hab hd hm ho0 ho hi0 hi with h | ⟨hk, h⟩
    · exact .inl h
    · exact .inr ⟨hk, fun h' => hab ⟨hk, h'⟩, h⟩

/-- An axis number names the axis it normalizes to. -/
theorem resolve_normalizeAxis {axis : Int} (t : Tag) (hax : s.hasAxis axis = true) :
    resolve s axis t = resolve s ((s.normalizeAxis axis).toNat : Nat) t := by
  have h0 : 0 ≤ s.normalizeAxis axis := by
    simp only [Shape.hasAxis, Bool.and_eq_true, decide_eq_true_eq] at hax
    exact hax.1
  have hn : s.normalizeAxis ((s.normalizeAxis axis).toNat : Nat) = s.normalizeAxis axis := by
    rw [Int.toNat_of_nonneg h0]
    exact if_neg (not_lt.2 h0)
  simp only [resolve, hn]

end Items

/-- Resolving an axis of a static shape with positive dimensions, in a layout usable at its rank,
succeeds, and the addressing, the shape's physical size and the addressing of positions measure
one stored size. When that size fits a machine word, the work items address every stored
element once and inside the storage, every logical position lies on exactly one work item,
and a work item that holds no logical position exists only on a blocked layout along an axis
other than the channels, where it holds padding alone. -/
theorem resolve_addresses_each_position (s : Shape) (axis : Int) (t : Tag)
    (hs : s.isStatic = true) (hpos : ∀ x ∈ s.dims, 1 ≤ x) (hax : s.hasAxis axis = true)
    (hv : t.validateRank s.rank = .ok ()) :
    ∃ d m, resolve s axis t = .ok d ∧ addressing s t = .ok m ∧
      physicalSize s t = .ok d.physicalSize ∧ m.size = d.physicalSize ∧
      (s.storedSize t < 2 ^ 63 →
        (∀ o i j o' i' j', d.InRange o i j → d.InRange o' i' j' →
          d.offset o i j = d.offset o' i' j' → o = o' ∧ i = i' ∧ j = j') ∧
        (∀ o i j, d.InRange o i j → 0 ≤ d.offset o i j ∧ d.offset o i j < d.physicalSize) ∧
        (∀ x, Within s.dims x → ∃! w : Int × Int,
          (0 ≤ w.1 ∧ w.1 < d.outer ∧ 0 ≤ w.2 ∧ w.2 < d.inner) ∧
          ∀ j, 0 ≤ j → j < d.axis →
            d.offset w.1 w.2 j = m.offset (x.set (s.normalizeAxis axis).toNat j)) ∧
        (∀ o i, 0 ≤ o → o < d.outer → 0 ≤ i → i < d.inner →
          (∃ x, Within s.dims x ∧ ∀ j, 0 ≤ j → j < d.axis →
            d.offset o i j = m.offset (x.set (s.normalizeAxis axis).toNat j)) ∨
          (t.kind = .blocked ∧ (s.normalizeAxis axis).toNat ≠ channelAxis ∧
            ∀ j, 0 ≤ j → j < d.axis → ∀ y, Within s.dims y → d.offset o i j ≠ m.offset y))) := by
  have ha : (s.normalizeAxis axis).toNat < s.rank := by
    simp only [Shape.hasAxis, Bool.and_eq_true, decide_eq_true_eq] at hax
    omega
  obtain ⟨d, hd⟩ := resolve_ok (s := s) (a := ((s.normalizeAxis axis).toNat : Nat))
    ⟨by omega, by exact_mod_cast ha⟩ hs hv
  have hsize := resolve_physicalSize hs hv ha hd
  refine ⟨d, _, (resolve_normalizeAxis t hax).trans hd, addressing_machine hs hv, ?_, ?_,
    fun hfit => ?_⟩
  · rw [physicalSize_machine hs hv, hsize]
  · rw [hsize]
    rfl
  -- when the stored size fits, the addressing is exact and its offsets are its placements
  obtain ⟨hex, -, -⟩ := exact_of_resolve hs hpos ha hv hfit hd
  refine ⟨fun o i j o' i' j' h h' heq => ?_, fun o i j h => ?_,
    fun x hx => resolve_item_unique hs hpos ha hv hfit hd (addressing_machine hs hv) hx,
    fun o i ho0 ho hi0 hi =>
      resolve_item_cases hs hpos ha hv hfit hd (addressing_machine hs hv) ho0 ho hi0 hi⟩
  · rw [Dims.offset_eq_place hex h, Dims.offset_eq_place hex h'] at heq
    exact Dims.place_inj hex h h' heq
  · rw [Dims.offset_eq_place hex h, Dims.physicalSize_eq hex]
    exact Dims.place_lt hex h

/-- Two images of three rows of two channels, blocked by two channels and resolved along the
last axis: two of the eight work items fall on the padding channel. -/
theorem resolve_addresses_each_position_blocked :
    let s : Shape := ⟨ElemType.float32.toDType, [2, 3, 2]⟩
    let t := Tag.blockedBy 2
    s.isStatic = true ∧ (∀ x ∈ s.dims, 1 ≤ x) ∧ s.hasAxis (-1) = true ∧
    t.validateRank s.rank = .ok () ∧
    ∃ d m, resolve s (-1) t = .ok d ∧ addressing s t = .ok m ∧
      physicalSize s t = .ok d.physicalSize ∧ m.size = d.physicalSize ∧
      (s.storedSize t < 2 ^ 63 →
        (∀ o i j o' i' j', d.InRange o i j → d.InRange o' i' j' →
          d.offset o i j = d.offset o' i' j' → o = o' ∧ i = i' ∧ j = j') ∧
        (∀ o i j, d.InRange o i j → 0 ≤ d.offset o i j ∧ d.offset o i j < d.physicalSize) ∧
        (∀ x, Within s.dims x → ∃! w : Int × Int,
          (0 ≤ w.1 ∧ w.1 < d.outer ∧ 0 ≤ w.2 ∧ w.2 < d.inner) ∧
          ∀ j, 0 ≤ j → j < d.axis →
            d.offset w.1 w.2 j = m.offset (x.set (s.normalizeAxis (-1)).toNat j)) ∧
        (∀ o i, 0 ≤ o → o < d.outer → 0 ≤ i → i < d.inner →
          (∃ x, Within s.dims x ∧ ∀ j, 0 ≤ j → j < d.axis →
            d.offset o i j = m.offset (x.set (s.normalizeAxis (-1)).toNat j)) ∨
          (t.kind = .blocked ∧ (s.normalizeAxis (-1)).toNat ≠ channelAxis ∧
            ∀ j, 0 ≤ j → j < d.axis → ∀ y, Within s.dims y → d.offset o i j ≠ m.offset y))) := by
  intro s t
  have hs : s.isStatic = true := rfl
  have hpos : ∀ x ∈ s.dims, 1 ≤ x := by decide
  have hax : s.hasAxis (-1) = true := rfl
  have hv : t.validateRank s.rank = .ok () := (rfl : (Tag.blockedBy 2).validateRank 3 = .ok ())
  exact ⟨hs, hpos, hax, hv, resolve_addresses_each_position s (-1) t hs hpos hax hv⟩

end Layout

end TensorSelect
