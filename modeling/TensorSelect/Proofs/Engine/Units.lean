import Mathlib
import TensorSelect.Proofs.Layout.Resolve
import TensorSelect.Proofs.Select.Outputs
import TensorSelect.Proofs.Engine.Safety

/-!
# Units and lanes

The engine hands the work items of an addressing to its routine in units: unit `u` is the `lanes`
adjacent work items `(u / per, (u mod per) · lanes + lane)`, with `per = inner / lanes`, and the
kernel reaches element `j` of a lane by stepping from the first element of the call by the axis
stride. For every addressing that an axis of a static shape resolves to, this module proves:

* the lanes of a block divide the work items after the axis (`resolve_lanes_dvd`), also when their
  machine product wraps: a power of two that divides a number divides its machine integer
  (`dvd_wrapWord`);
* a call reaches element `j` of lane `lane` where the addressing keeps element `j` of work item
  `(o, i + lane)` (`Sweep.address_eq_offset`), with no condition on sizes: the axis stride is the
  number of work items after the axis (`resolve_axisStride`), and the machine's sums wrap alike;
* when the stored size fits a machine word, the pairs of a unit and a lane correspond one to one
  to the work items (`Sweep.item_bijOn`). When it does not, the count of units wraps, and a sweep
  may run units where there are no work items.
-/

namespace TensorSelect

/-! ## Divisibility through the machine's wrapping -/

/-- A divisor of a number that divides the word modulus, or that the modulus divides, divides the
number's machine integer. -/
theorem dvd_wrapWord {b x : Int} (hx : b ∣ x)
    (hb : b ∣ (wordModulus : Int) ∨ (wordModulus : Int) ∣ b) : b ∣ wrapWord x := by
  unfold wrapWord
  rcases hb with hb | hb
  · -- wrapping subtracts a multiple of the modulus
    have hsub : b ∣ x.bmod wordModulus - x := hb.trans Int.dvd_bmod_sub_self
    simpa using dvd_add hsub hx
  · -- the modulus divides the number, which wraps to zero
    rw [Int.dvd_iff_bmod_eq_zero.1 (hb.trans hx)]
    exact dvd_zero b

/-- A power of two that ends a list of dimensions divides their machine product. -/
theorem pow_dvd_product (M : List Int) (n : Nat) : (2 : Int) ^ n ∣ product (M ++ [2 ^ n]) := by
  unfold product
  rw [List.foldl_append, List.foldl_cons, List.foldl_nil]
  have hmod : (wordModulus : Int) = 2 ^ 64 := rfl
  refine dvd_wrapWord (dvd_mul_left _ _) ?_
  rw [hmod]
  rcases le_total n 64 with h | h
  · exact .inl (pow_dvd_pow 2 h)
  · exact .inr (pow_dvd_pow 2 h)

/-! ## The addressing of a resolved axis -/

/-- The work items of an addressing. -/
def Dims.workItems (d : Dims) : Set (Int × Int) :=
  {w | 0 ≤ w.1 ∧ w.1 < d.outer ∧ 0 ≤ w.2 ∧ w.2 < d.inner}

namespace Layout

variable {s : Shape} {a : Nat} {t : Tag} {d : Dims}

/-- Unless the axis itself is blocked, the axis stride of a resolved axis is the number of work
items after it. -/
theorem resolve_axisStride (hs : s.isStatic = true) (hv : t.validateRank s.rank = .ok ())
    (ha : a < s.rank) (hd : resolve s a t = .ok d) (hb : d.axisBlocked = false) :
    d.axisStride = d.inner := by
  by_cases hab : t.kind = .blocked ∧ a = channelAxis
  · obtain ⟨hk, rfl⟩ := hab
    rw [resolve_eq_axisBlocked ha hs hv (by simp [Tag.isBlocked, hk])] at hd
    cases hd
    cases hb
  · rw [resolve_machine hs hv ha hab] at hd
    cases hd
    rfl

/-- The lanes of a block divide the work items after a resolved axis. On a blocked layout along
another axis than the channels the block is the last physical axis, so its size is a factor of
the machine product of the axes after the resolved one. -/
theorem resolve_lanes_dvd (hs : s.isStatic = true) (hv : t.validateRank s.rank = .ok ())
    (ha : a < s.rank) (hd : resolve s a t = .ok d) : d.lanes ∣ d.inner := by
  by_cases hab : t.kind = .blocked ∧ a = channelAxis
  · -- along the blocked channels a call takes one work item
    obtain ⟨hk, rfl⟩ := hab
    rw [resolve_eq_axisBlocked ha hs hv (by simp [Tag.isBlocked, hk])] at hd
    cases hd
    simp [Dims.lanes]
  · rw [resolve_machine hs hv ha hab] at hd
    cases hd
    rcases Tag.kind_cases hv with hk | ⟨hk, -⟩ | ⟨hk, ⟨n, hn⟩, -⟩
    · simp [Dims.lanes, Tag.isBlocked, hk]
    · simp [Dims.lanes, Tag.isBlocked, hk]
    · have hb0 : (0 : Int) < 2 ^ n := by positivity
      simp only [Dims.lanes, Tag.isBlocked, hk, machinePhysical, physicalAxis, hn]
      -- the block is the last physical axis, after the resolved one
      rw [List.drop_append_of_le_length (by simpa [Shape.rank] using ha)]
      simp only [BEq.rfl, ↓reduceIte, gt_iff_lt, hb0, decide_true, Bool.not_false, Bool.and_self]
      exact pow_dvd_product _ n

end Layout

/-! ## Units of a sweep -/

namespace Select.Sweep

variable (s : Sweep)

/-- The work item of lane `lane` of unit `u`. -/
def item (u lane : Nat) : Int × Int := ((s.unitStart u).1, (s.unitStart u).2 + lane)

/-- The pairs of a unit and one of its lanes. -/
def unitLanes : Set (Nat × Nat) := {p | p.1 < s.unitCount ∧ p.2 < s.lanes}

/-- The same sweep keeping nothing and writing where it reads: it has the units of `s`. -/
def unitsOnly : Sweep := { s with outDims := s.dims, method := { s.method with k := 0 } }

/-- A call reaches element `j` of lane `lane` where the addressing keeps element `j` of work item
`(o, i + lane)`, when the axis stride of an addressing whose axis is not blocked is the number
of work items after the axis and the reference takes one lane. -/
theorem address_eq_offset {d : Dims} (hstride : d.axisBlocked = false → d.axisStride = d.inner)
    {o i j lane : Int} (hlane : s.method.implementation = .reference → lane = 0) :
    s.address d o i j lane = d.offset o (i + lane) j := by
  unfold address
  split
  · split
    · rfl
    · rename_i hb
      have hb : d.axisBlocked = false := by simpa using hb
      -- the kernel's sum wraps as the addressing's does
      simp only [Dims.offset, hb, hstride hb, Bool.false_eq_true, if_false]
      unfold wrapWord
      rw [add_assoc, Int.bmod_add_bmod]
      congr 1
      ring
  · rename_i href
    rw [hlane href, add_zero]

variable {s}

/-- A sweep whose input addressing is exact, with the lanes that the engine gives it, has exact
units: the same sweep keeping nothing is exact. -/
theorem exact_unitsOnly (hd : s.dims.Exact)
    (hl : s.lanes = (if s.method.implementation = .kernel then s.dims.lanes else 1).toNat) :
    s.unitsOnly.Exact := by
  have hone : s.dims.axisBlocked = true ∨ s.method.implementation = .reference → s.lanes = 1 := by
    rintro (hb | href)
    · have h1 : s.dims.lanes = 1 := by simp [Dims.lanes, hb]
      split at hl <;> simp_all
    · simp [href] at hl
      exact hl
  have hpos : 1 ≤ s.lanes := by
    have := Dims.one_le_lanes s.dims
    split at hl <;> omega
  have hdvd : (s.lanes : Int) ∣ s.dims.inner := by
    split at hl
    · rw [hl, Int.toNat_of_nonneg (by linarith [Dims.one_le_lanes s.dims])]
      exact hd.lanes_dvd
    · simp [hl]
  have hk : ((0 : Nat) : Int) ≤ s.dims.axis := by simp only [Nat.cast_zero]; linarith [hd.axis_pos]
  exact { dims := hd, outDims := hd, outer := rfl, inner := rfl, blocked := rfl, k_le := hk,
          lanes_pos := hpos, lanes_dvd := hdvd, one_lane := hone }

theorem Exact.item_mapsTo (h : s.Exact) :
    Set.MapsTo (fun p : Nat × Nat => s.item p.1 p.2) s.unitLanes s.dims.workItems := by
  rintro ⟨u, lane⟩ ⟨hu, hlane⟩
  obtain ⟨ho0, ho, hi0, hi⟩ := h.unitStart_mem (u := u) hu
  have hlane' : (lane : Int) < s.lanes := by exact_mod_cast hlane
  refine ⟨ho0, ho, ?_, ?_⟩ <;> simp only [item] <;> omega

theorem Exact.item_injOn (h : s.Exact) :
    Set.InjOn (fun p : Nat × Nat => s.item p.1 p.2) s.unitLanes := by
  rintro ⟨u, l⟩ ⟨-, hl⟩ ⟨u', l'⟩ ⟨-, hl'⟩ he
  simp only [item, h.unitStart_eq, Prod.mk.injEq] at he
  obtain ⟨hq, hr⟩ := he
  -- the place after the axis splits into the unit's block and the lane
  obtain ⟨hm, hlane⟩ := mul_add_inj (Int.natCast_nonneg l) (by exact_mod_cast hl)
    (Int.natCast_nonneg l') (by exact_mod_cast hl') hr
  have hu : (u : Int) = u' := by
    rw [← Int.ediv_mul_add_emod (u : Int) (s.dims.inner / s.lanes),
      ← Int.ediv_mul_add_emod (u' : Int) (s.dims.inner / s.lanes), hq, hm]
  simp only [Prod.mk.injEq]
  exact ⟨by exact_mod_cast hu, by exact_mod_cast hlane⟩

theorem Exact.item_surjOn (h : s.Exact) :
    Set.SurjOn (fun p : Nat × Nat => s.item p.1 p.2) s.unitLanes s.dims.workItems := by
  rintro ⟨o, i⟩ ⟨ho0, ho, hi0, hi⟩
  obtain ⟨u, hu, lane, hlane, h1, h2⟩ := h.unit_of_item ho0 ho hi0 hi
  exact ⟨(u, lane), ⟨hu, hlane⟩, Prod.ext h1 h2⟩

/-- The units of an exact sweep tile its work items: each work item is one lane of one unit. -/
theorem Exact.item_bijOn (h : s.Exact) :
    Set.BijOn (fun p : Nat × Nat => s.item p.1 p.2) s.unitLanes s.dims.workItems :=
  ⟨h.item_mapsTo, h.item_injOn, h.item_surjOn⟩

end Select.Sweep

/-! ## Units over a resolved axis -/

namespace Select

/-- Along every axis of a static shape with positive dimensions, in every layout usable at its
rank, the lanes of a block divide the work items after the axis of its addressing, whatever the
extent on the axis. A sweep over that addressing with the lanes the engine gives it (those of a
block for the kernel, one for the reference) reaches element `j` of lane `lane` of the call at
`(o, i)` where the addressing, and the output addressing of any extent on the axis, keep element
`j` of work item `(o, i + lane)`. When the stored size fits a machine word, the units and their
lanes correspond one to one to the work items. -/
theorem units_tile_work_items (s : Shape) (axis : Int) (t : Tag) (hs : s.isStatic = true)
    (hpos : ∀ x ∈ s.dims, 1 ≤ x) (hax : s.hasAxis axis = true)
    (hv : t.validateRank s.rank = .ok ()) :
    ∃ d, Layout.resolve s axis t = .ok d ∧ d.lanes ∣ d.inner ∧
      (∀ K, (d.withAxis K).lanes ∣ (d.withAxis K).inner) ∧
      ∀ sw : Sweep, sw.dims = d →
        sw.lanes = (if sw.method.implementation = .kernel then d.lanes else 1).toNat →
        (∀ (o i j : Int) (lane : Nat), lane < sw.lanes →
          sw.address d o i j lane = d.offset o (i + lane) j ∧
          ∀ K, sw.address (d.withAxis K) o i j lane = (d.withAxis K).offset o (i + lane) j) ∧
        (s.storedSize t < 2 ^ 63 →
          Set.BijOn (fun p : Nat × Nat => sw.item p.1 p.2) sw.unitLanes d.workItems) := by
  have ha : (s.normalizeAxis axis).toNat < s.rank := by
    simp only [Shape.hasAxis, Bool.and_eq_true, decide_eq_true_eq] at hax
    omega
  obtain ⟨d, hd⟩ := Layout.resolve_ok (s := s) (a := ((s.normalizeAxis axis).toNat : Nat))
    ⟨by omega, by exact_mod_cast ha⟩ hs hv
  have hdvd := Layout.resolve_lanes_dvd hs hv ha hd
  have hstride := Layout.resolve_axisStride hs hv ha hd
  refine ⟨d, (Layout.resolve_normalizeAxis t hax).trans hd, hdvd, fun K => by simpa using hdvd,
    fun sw hsd hl => ⟨fun o i j lane hlane => ?_, fun hfit => ?_⟩⟩
  · -- the reference takes one lane
    have hlane0 : sw.method.implementation = .reference → (lane : Int) = 0 := by
      intro href
      simp [href] at hl
      omega
    exact ⟨sw.address_eq_offset hstride hlane0,
      fun K => sw.address_eq_offset (by simpa using hstride) hlane0⟩
  · -- when the stored size fits, the addressing is exact, and so are the units
    obtain ⟨hex, -, -⟩ := Layout.exact_of_resolve hs hpos ha hv hfit hd
    subst hsd
    exact (Sweep.exact_unitsOnly hex hl).item_bijOn

/-- Two images of three rows of two channels, blocked by two channels and resolved along the
last axis: the kernel takes the two lanes of a block in one call. -/
theorem units_tile_work_items_blocked :
    let s : Shape := ⟨ElemType.float32.toDType, [2, 3, 2]⟩
    let t := Tag.blockedBy 2
    s.isStatic = true ∧ (∀ x ∈ s.dims, 1 ≤ x) ∧ s.hasAxis (-1) = true ∧
    t.validateRank s.rank = .ok () ∧
    ∃ d, Layout.resolve s (-1) t = .ok d ∧ d.lanes ∣ d.inner ∧
      (∀ K, (d.withAxis K).lanes ∣ (d.withAxis K).inner) ∧
      ∀ sw : Sweep, sw.dims = d →
        sw.lanes = (if sw.method.implementation = .kernel then d.lanes else 1).toNat →
        (∀ (o i j : Int) (lane : Nat), lane < sw.lanes →
          sw.address d o i j lane = d.offset o (i + lane) j ∧
          ∀ K, sw.address (d.withAxis K) o i j lane = (d.withAxis K).offset o (i + lane) j) ∧
        (s.storedSize t < 2 ^ 63 →
          Set.BijOn (fun p : Nat × Nat => sw.item p.1 p.2) sw.unitLanes d.workItems) := by
  intro s t
  have hs : s.isStatic = true := rfl
  have hpos : ∀ x ∈ s.dims, 1 ≤ x := by decide
  have hax : s.hasAxis (-1) = true := rfl
  have hv : t.validateRank s.rank = .ok () := (rfl : (Tag.blockedBy 2).validateRank 3 = .ok ())
  exact ⟨hs, hpos, hax, hv, units_tile_work_items s (-1) t hs hpos hax hv⟩

end Select

end TensorSelect
