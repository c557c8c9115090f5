import Mathlib
import TensorSelect.Layout.Dims

/-!
# Exact addressing

The addressing of a layout (`Dims`) is computed in machine integers: every product and offset
wraps modulo `2^64`. This module says when nothing wraps, and what the addressing then is.

* `Dims.Exact`: positive extents and a size that fits a machine word. Then every offset is the
  exact position of its element (`Dims.offset_eq_place`), the positions of the elements of the
  work items lie in `[0, size)` (`Dims.place_lt`), no two elements share one
  (`Dims.place_inj`), and the addressing of the first `k` elements along the axis is exact too
  (`Dims.Exact.withAxis`).
* `Shape.storedSize`: the number of elements a shape stores in a layout, padding included,
  computed exactly. A static shape with positive dimensions whose stored size fits a machine word
  resolves, along every axis and in every layout usable at its rank, to an exact addressing of
  that size (`Layout.resolve_exact`).

The first section lets `simp` run code written in `Except`; the second relates the checks of a
layout tag to what they accept.
-/

namespace TensorSelect

section ExceptSteps

variable {ε ε' α β : Type}

@[simp]
theorem except_throw (e : ε) : (throw e : Except ε α) = .error e := rfl

@[simp]
theorem except_pure (a : α) : (pure a : Except ε α) = .ok a := rfl

@[simp]
theorem except_ok_bind (a : α) (f : α → Except ε β) : (Except.ok a >>= f : Except ε β) = f a := rfl

@[simp]
theorem except_error_bind (e : ε) (f : α → Except ε β) :
    (Except.error e >>= f : Except ε β) = .error e := rfl

@[simp]
theorem except_mapError_ok (g : ε → ε') (a : α) :
    (Except.ok a : Except ε α).mapError g = .ok a := rfl

@[simp]
theorem except_mapError_error (g : ε → ε') (e : ε) :
    (Except.error e : Except ε α).mapError g = .error (g e) := rfl

end ExceptSteps

/-! ## Layout tags -/

/-- The bit test of a block size is the powers of two. -/
theorem Tag.isPowerOfTwo_iff (b : Int) : Tag.isPowerOfTwo b = true ↔ ∃ n : Nat, b = 2 ^ n := by
  simp only [Tag.isPowerOfTwo, Bool.and_eq_true, decide_eq_true_eq, beq_iff_eq]
  constructor
  · rintro ⟨hpos, hand⟩
    obtain ⟨n, hn⟩ := (Nat.and_sub_one_eq_zero_iff_isPowerOfTwo (by omega)).1 hand
    refine ⟨n, ?_⟩
    rw [← Int.toNat_of_nonneg hpos.le, hn]
    push_cast
    rfl
  · rintro ⟨n, rfl⟩
    have h2 : ((2 : Int) ^ n).toNat = 2 ^ n := by simp [Int.toNat_pow_of_nonneg]
    rw [h2]
    exact ⟨by positivity, (Nat.and_sub_one_eq_zero_iff_isPowerOfTwo (by positivity)).2 ⟨n, rfl⟩⟩

instance decidablePowerOfTwo (b : Int) : Decidable (∃ n : Nat, b = 2 ^ n) :=
  decidable_of_iff _ (Tag.isPowerOfTwo_iff b)

/-- The failure that the check of a tag reports when the tag is not valid: the code that names
no layout, or else the block size. -/
def Tag.invalidError (t : Tag) : Layout.Error :=
  match t.kind with
  | .unnamed n => .unknownKind n
  | _ => .blockSize t.blockSize

/-- A tag is valid when it is planar, channel-last, or blocked by a power of two. -/
theorem Tag.validate_eq (t : Tag) : t.validate =
    if t.kind = .planar ∨ t.kind = .channelLast ∨
        (t.kind = .blocked ∧ ∃ n : Nat, t.blockSize = 2 ^ n) then .ok ()
    else .error t.invalidError := by
  rcases t with ⟨kind, b⟩
  cases kind <;> simp [Tag.validate, Tag.invalidError, ← Tag.isPowerOfTwo_iff]

/-- For a valid tag, only a layout other than planar at a rank without a channel axis fails. -/
theorem Tag.validateRank_eq {t : Tag} (ht : t.validate = .ok ()) (r : Nat) :
    t.validateRank r = if t.kind = .planar ∨ 2 ≤ r then .ok () else .error (.needsChannelAxis t r) := by
  simp only [Tag.validateRank, ht, channelAxis]
  by_cases hp : t.kind = .planar
  · simp [hp]
  · by_cases hr : 2 ≤ r
    · simp [hp, hr, show ¬ r ≤ 1 by omega]
    · simp [hp, hr, show r ≤ 1 by omega]

theorem Tag.validate_of_validateRank {t : Tag} {r : Nat} (h : t.validateRank r = .ok ()) :
    t.validate = .ok () := by
  unfold Tag.validateRank at h
  cases hv : t.validate with
  | error e => simp [hv] at h
  | ok u => rfl

theorem Layout.physicalDims_ok {dims : List Int} {t : Tag}
    (hv : t.validateRank dims.length = .ok ()) : ∃ p, Layout.physicalDims dims t = .ok p := by
  simp only [Layout.physicalDims, hv, except_ok_bind]
  split <;> simp

/-- A static shape with an axis has an addressing in every layout usable at its rank. -/
theorem Layout.resolve_ok {s : Shape} {a : Int} {t : Tag} (ha : 0 ≤ a ∧ a < s.rank)
    (hs : s.isStatic = true) (hv : t.validateRank s.rank = .ok ()) :
    ∃ d, Layout.resolve s a t = .ok d := by
  have hn : s.normalizeAxis a = a := by simp [Shape.normalizeAxis]; omega
  obtain ⟨⟨physical, axisMap⟩, hp⟩ := Layout.physicalDims_ok hv
  simp only [Layout.resolve, hn, hs, hp]
  simp only [Bool.or_eq_true, decide_eq_true_eq, except_throw, Bool.not_true, Bool.false_eq_true,
    if_false, except_mapError_ok, except_ok_bind]
  rw [if_neg (by omega)]
  split <;> exact ⟨_, rfl⟩

/-! ## Products that do not wrap -/

theorem wrapWord_eq_self {x : Int} (h0 : 0 ≤ x) (h1 : x < 2 ^ 63) : wrapWord x = x :=
  wrapWord_of_mem (by omega) (by norm_num at h1; omega)

theorem one_le_prod {l : List Int} (h : ∀ x ∈ l, 1 ≤ x) : 1 ≤ l.prod := by
  induction l with
  | nil => simp
  | cons x l ih =>
    simp only [List.mem_cons, forall_eq_or_imp] at h
    simp only [List.prod_cons]
    have := ih h.2
    nlinarith [h.1]

theorem product_eq_prod {l : List Int} (h : 0 ≤ l.prod ∧ l.prod < 2 ^ 63) : product l = l.prod := by
  rw [product, ← List.prod_eq_foldl]
  exact wrapWord_eq_self h.1 h.2

theorem prod_take_le {l : List Int} (h : ∀ x ∈ l, 1 ≤ x) (p : Nat) : (l.take p).prod ≤ l.prod := by
  have h1 := one_le_prod (l := l.take p) (fun x hx => h x (List.mem_of_mem_take hx))
  have h2 := one_le_prod (l := l.drop p) (fun x hx => h x (List.mem_of_mem_drop hx))
  rw [← List.prod_take_mul_prod_drop l p]
  nlinarith

theorem prod_drop_le {l : List Int} (h : ∀ x ∈ l, 1 ≤ x) (p : Nat) : (l.drop p).prod ≤ l.prod := by
  have h1 := one_le_prod (l := l.take p) (fun x hx => h x (List.mem_of_mem_take hx))
  have h2 := one_le_prod (l := l.drop p) (fun x hx => h x (List.mem_of_mem_drop hx))
  rw [← List.prod_take_mul_prod_drop l p]
  nlinarith

/-- A digit after a prefix in mixed radix: `x * Y + y` lies in `[0, X * Y)`. -/
theorem mul_add_mem {x y X Y : Int} (hx0 : 0 ≤ x) (hx : x < X) (hy0 : 0 ≤ y) (hy : y < Y) :
    0 ≤ x * Y + y ∧ x * Y + y < X * Y := by
  constructor <;> nlinarith

/-- The digits of a number in mixed radix are unique: `x * Y + y` determines `x` and `y`. -/
theorem mul_add_inj {x y x' y' Y : Int} (hy0 : 0 ≤ y) (hy : y < Y) (hy0' : 0 ≤ y') (hy' : y' < Y)
    (h : x * Y + y = x' * Y + y') : x = x' ∧ y = y' := by
  have hY : Y ≠ 0 := by omega
  have hdigit : ∀ {x y : Int}, 0 ≤ y → y < Y → (x * Y + y) / Y = x := by
    intro x y h0 h1
    rw [Int.add_comm, Int.add_mul_ediv_right _ _ hY, Int.ediv_eq_zero_of_lt h0 h1, Int.zero_add]
  have hx : x = x' := by
    rw [← hdigit (x := x) hy0 hy, ← hdigit (x := x') hy0' hy', h]
  subst hx
  exact ⟨rfl, by omega⟩

theorem ceilDiv_eq {a b : Int} (hb : 1 ≤ b) (ha : 0 ≤ a) (h : a + b - 1 < 2 ^ 63) :
    ceilDiv a b = (a + b - 1) / b := by
  rw [ceilDiv, wrapWord_eq_self (by omega) h, Int.tdiv_eq_ediv_of_nonneg (by omega)]

/-! ## Exact addressings -/

namespace Dims

variable (d : Dims)

/-- The blocks of the axis of an addressing whose axis is blocked, counted exactly. -/
def blocks : Int := (d.axis + d.blockSize - 1) / d.blockSize

/-- The number of elements an addressing covers, padding included, computed exactly. -/
def exactSize : Int :=
  if d.axisBlocked then d.outer * d.blocks * d.blockSize * d.inner else d.outer * d.axis * d.inner

/-- The position of element `j` of work item `(o, i)`, computed exactly. -/
def place (o i j : Int) : Int :=
  if d.axisBlocked then ((o * d.blocks + j / d.blockSize) * d.inner + i) * d.blockSize + j % d.blockSize
  else (o * d.axis + j) * d.inner + i

/-- An addressing with positive extents whose size fits a machine word: it computes every offset
exactly. -/
structure Exact : Prop where
  outer_pos : 1 ≤ d.outer
  axis_pos : 1 ≤ d.axis
  inner_pos : 1 ≤ d.inner
  stride_eq : d.axisBlocked = false → d.axisStride = d.inner
  block_pos : d.axisBlocked = true → 1 ≤ d.blockSize
  round_fits : d.axisBlocked = true → d.axis + d.blockSize - 1 < 2 ^ 63
  lanes_dvd : d.lanes ∣ d.inner
  fits : d.exactSize < 2 ^ 63

variable {d}

/-- A work item `(o, i)` and element `j` of an addressing. -/
def InRange (d : Dims) (o i j : Int) : Prop :=
  0 ≤ o ∧ o < d.outer ∧ 0 ≤ i ∧ i < d.inner ∧ 0 ≤ j ∧ j < d.axis

theorem blocks_pos (hd : d.Exact) (hb : d.axisBlocked = true) : 1 ≤ d.blocks := by
  have := hd.block_pos hb
  have := hd.axis_pos
  simp only [blocks]
  exact (Int.le_ediv_iff_mul_le (by omega)).2 (by omega)

theorem div_lt_blocks (hd : d.Exact) (hb : d.axisBlocked = true) {j : Int} (hj : j < d.axis) :
    j / d.blockSize < d.blocks := by
  have hbp := hd.block_pos hb
  have hsplit : (d.axis - 1 + d.blockSize * 1) / d.blockSize = (d.axis - 1) / d.blockSize + 1 :=
    Int.add_mul_ediv_left _ 1 (by omega)
  have hle : j / d.blockSize ≤ (d.axis - 1) / d.blockSize := Int.ediv_le_ediv (by omega) (by omega)
  simp only [blocks]
  rw [show d.axis + d.blockSize - 1 = d.axis - 1 + d.blockSize * 1 by ring, hsplit]
  omega

theorem place_lt (hd : d.Exact) {o i j : Int} (h : InRange d o i j) :
    0 ≤ d.place o i j ∧ d.place o i j < d.exactSize := by
  obtain ⟨ho0, ho, hi0, hi, hj0, hj⟩ := h
  unfold place exactSize
  split
  · rename_i hb
    have hbp : 0 < d.blockSize := hd.block_pos hb
    -- block, work item and lane are the digits of the position, in that order
    have h1 := mul_add_mem ho0 ho (Int.ediv_nonneg hj0 hbp.le) (div_lt_blocks hd hb hj)
    have h2 := mul_add_mem h1.1 h1.2 hi0 hi
    have h3 := mul_add_mem h2.1 h2.2 (Int.emod_nonneg j hbp.ne') (Int.emod_lt_of_pos j hbp)
    refine ⟨h3.1, ?_⟩
    calc _ < d.outer * d.blocks * d.inner * d.blockSize := h3.2
      _ = _ := by ring
  · have h1 := mul_add_mem ho0 ho hj0 hj
    exact mul_add_mem h1.1 h1.2 hi0 hi

/-- Distinct elements of the work items have distinct positions. -/
theorem place_inj (hd : d.Exact) {o i j o' i' j' : Int} (h : InRange d o i j)
    (h' : InRange d o' i' j') (heq : d.place o i j = d.place o' i' j') :
    o = o' ∧ i = i' ∧ j = j' := by
  obtain ⟨ho0, ho, hi0, hi, hj0, hj⟩ := h
  obtain ⟨ho0', ho', hi0', hi', hj0', hj'⟩ := h'
  unfold place at heq
  split at heq
  · rename_i hb
    have hbp : 0 < d.blockSize := hd.block_pos hb
    -- lane, work item and block are the digits of the position, last to first
    obtain ⟨h1, hlane⟩ := mul_add_inj (Int.emod_nonneg j hbp.ne') (Int.emod_lt_of_pos j hbp)
      (Int.emod_nonneg j' hbp.ne') (Int.emod_lt_of_pos j' hbp) heq
    obtain ⟨h2, hitem⟩ := mul_add_inj hi0 hi hi0' hi' h1
    obtain ⟨hout, hblock⟩ := mul_add_inj (Int.ediv_nonneg hj0 hbp.le) (div_lt_blocks hd hb hj)
      (Int.ediv_nonneg hj0' hbp.le) (div_lt_blocks hd hb hj') h2
    refine ⟨hout, hitem, ?_⟩
    rw [← Int.ediv_mul_add_emod j d.blockSize, ← Int.ediv_mul_add_emod j' d.blockSize, hblock,
      hlane]
  · obtain ⟨h1, hitem⟩ := mul_add_inj hi0 hi hi0' hi' heq
    obtain ⟨hout, hj⟩ := mul_add_inj hj0 hj hj0' hj' h1
    exact ⟨hout, hitem, hj⟩

theorem exactSize_nonneg (hd : d.Exact) : 0 ≤ d.exactSize := by
  have := hd.outer_pos
  have := hd.axis_pos
  have := hd.inner_pos
  unfold exactSize
  split
  · rename_i hb
    have := hd.block_pos hb
    have := blocks_pos hd hb
    positivity
  · positivity

/-- The work items of an addressing are no more than its elements. -/
theorem outer_mul_inner_le (hd : d.Exact) : d.outer * d.inner ≤ d.exactSize := by
  have hO := hd.outer_pos
  have hA := hd.axis_pos
  have hI := hd.inner_pos
  unfold exactSize
  split
  · rename_i hb
    have := hd.block_pos hb
    have := blocks_pos hd hb
    calc d.outer * d.inner = d.outer * 1 * 1 * d.inner := by ring
      _ ≤ d.outer * d.blocks * d.blockSize * d.inner := by gcongr
  · calc d.outer * d.inner = d.outer * 1 * d.inner := by ring
      _ ≤ d.outer * d.axis * d.inner := by gcongr

/-- The elements of one batch position, along the axis and after it, are no more than the
elements: the blocks of a blocked axis cover it. -/
theorem axis_mul_inner_le (hd : d.Exact) : d.axis * d.inner ≤ d.exactSize := by
  have hO := hd.outer_pos
  have hI := hd.inner_pos
  unfold exactSize
  split
  · rename_i hb
    have hbp := hd.block_pos hb
    have hcover : d.axis ≤ d.blocks * d.blockSize := by
      have hlast := div_lt_blocks hd hb (j := d.axis - 1) (by omega)
      have hround := Int.lt_ediv_add_one_mul_self (d.axis - 1) (by omega : 0 < d.blockSize)
      nlinarith
    have hX : 0 ≤ d.blocks * d.blockSize * d.inner := by
      have := blocks_pos hd hb
      positivity
    calc d.axis * d.inner ≤ d.blocks * d.blockSize * d.inner := by gcongr
      _ ≤ d.outer * (d.blocks * d.blockSize * d.inner) := le_mul_of_one_le_left hX hO
      _ = d.outer * d.blocks * d.blockSize * d.inner := by ring
  · calc d.axis * d.inner = 1 * d.axis * d.inner := by ring
      _ ≤ d.outer * d.axis * d.inner := by gcongr; nlinarith [hd.axis_pos]

theorem ceilDiv_axis (hd : d.Exact) (hb : d.axisBlocked = true) :
    ceilDiv d.axis d.blockSize = d.blocks :=
  ceilDiv_eq (hd.block_pos hb) (by linarith [hd.axis_pos]) (hd.round_fits hb)

/-- The addressing computes the exact position of every element of every work item. -/
theorem offset_eq_place (hd : d.Exact) {o i j : Int} (h : InRange d o i j) :
    d.offset o i j = d.place o i j := by
  have hp := place_lt hd h
  have hfit := hd.fits
  rw [← wrapWord_eq_self hp.1 (by linarith [hp.2])]
  unfold offset place
  split
  · rename_i hb
    obtain ⟨-, -, -, -, hj0, -⟩ := h
    dsimp only
    rw [ceilDiv_axis hd hb, Int.tdiv_eq_ediv_of_nonneg hj0, Int.tmod_eq_emod_of_nonneg hj0]
    congr 1
    ring
  · rfl

theorem physicalSize_eq (hd : d.Exact) : d.physicalSize = d.exactSize := by
  have h0 := exactSize_nonneg hd
  have hfit := hd.fits
  rw [← wrapWord_eq_self h0 hfit]
  unfold physicalSize exactSize
  split
  · rename_i hb
    rw [ceilDiv_axis hd hb]
  · rfl

/-- The addressing of the first `k` elements along the axis is exact too. -/
theorem Exact.withAxis (hd : d.Exact) {k : Int} (hk1 : 1 ≤ k) (hk : k ≤ d.axis) :
    (d.withAxis k).Exact := by
  have hI := hd.inner_pos
  have hO := hd.outer_pos
  refine { outer_pos := hd.outer_pos, axis_pos := hk1, inner_pos := hd.inner_pos,
           stride_eq := hd.stride_eq, block_pos := hd.block_pos, lanes_dvd := hd.lanes_dvd,
           round_fits := fun hb => by
             have := hd.round_fits hb
             show k + d.blockSize - 1 < 2 ^ 63
             omega,
           fits := ?_ }
  have hfit := hd.fits
  unfold exactSize at hfit ⊢
  show (if d.axisBlocked = true then d.outer * (d.withAxis k).blocks * d.blockSize * d.inner
    else d.outer * k * d.inner) < 2 ^ 63
  split
  · rename_i hb
    rw [if_pos hb] at hfit
    have hbp := hd.block_pos hb
    simp only [blocks, axis_withAxis, blockSize_withAxis] at *
    have hmono : (k + d.blockSize - 1) / d.blockSize ≤ (d.axis + d.blockSize - 1) / d.blockSize :=
      Int.ediv_le_ediv (by omega) (show k + d.blockSize - 1 ≤ d.axis + d.blockSize - 1 by omega)
    have hB : 0 ≤ (k + d.blockSize - 1) / d.blockSize :=
      Int.ediv_nonneg (show 0 ≤ k + d.blockSize - 1 by omega) (by omega)
    calc d.outer * ((k + d.blockSize - 1) / d.blockSize) * d.blockSize * d.inner
        ≤ d.outer * ((d.axis + d.blockSize - 1) / d.blockSize) * d.blockSize * d.inner := by
          gcongr
      _ < 2 ^ 63 := hfit
  · rename_i hb
    rw [if_neg hb] at hfit
    calc d.outer * k * d.inner ≤ d.outer * d.axis * d.inner := by gcongr
      _ < 2 ^ 63 := hfit

end Dims

/-! ## Resolving a shape -/

/-- The number of elements a shape stores in a layout, padding included, computed exactly: the
product of its dimensions, with the channels rounded up to whole blocks on a blocked layout. -/
def Shape.storedSize (s : Shape) (t : Tag) : Int :=
  if t.isBlocked then
    (s.dims.set channelAxis ((s.dims.getD channelAxis 0 + t.blockSize - 1) / t.blockSize)).prod *
      t.blockSize
  else s.dims.prod

namespace Layout

/-- The addressing along position `p` of a list of physical dimensions. -/
theorem exact_of_physical {physical : List Int} {p : Nat} (hp : p < physical.length)
    (hpos : ∀ x ∈ physical, 1 ≤ x) (hfit : physical.prod < 2 ^ 63) (bs : Int)
    (hbs : 0 < bs → bs ∣ (physical.drop (p + 1)).prod) :
    Dims.Exact { outer := product (physical.take p), axis := physical.getD p 0,
                 inner := product (physical.drop (p + 1)),
                 axisStride := product (physical.drop (p + 1)), blockSize := bs } ∧
      physical.prod = product (physical.take p) * physical.getD p 0 *
        product (physical.drop (p + 1)) := by
  have htake := one_le_prod (l := physical.take p) (fun x hx => hpos x (List.mem_of_mem_take hx))
  have hdrop := one_le_prod (l := physical.drop (p + 1)) (fun x hx => hpos x (List.mem_of_mem_drop hx))
  have hget : physical.getD p 0 = physical[p] := by simp [List.getD_eq_getElem?_getD, hp]
  have hmid : 1 ≤ physical[p] := hpos _ (List.getElem_mem hp)
  have hsplit : physical.prod = (physical.take p).prod * physical[p] * (physical.drop (p + 1)).prod := by
    rw [← List.prod_take_mul_prod_drop physical p, List.drop_eq_getElem_cons hp, List.prod_cons,
      mul_assoc]
  have hT : product (physical.take p) = (physical.take p).prod :=
    product_eq_prod ⟨by omega, lt_of_le_of_lt (prod_take_le hpos p) hfit⟩
  have hD : product (physical.drop (p + 1)) = (physical.drop (p + 1)).prod :=
    product_eq_prod ⟨by omega, lt_of_le_of_lt (prod_drop_le hpos (p + 1)) hfit⟩
  rw [hT, hD, hget]
  refine ⟨{ outer_pos := htake, axis_pos := hmid, inner_pos := hdrop,
            stride_eq := fun _ => rfl, block_pos := (fun h => nomatch h),
            round_fits := (fun h => nomatch h), lanes_dvd := ?_, fits := ?_ }, hsplit⟩
  · unfold Dims.lanes
    split
    · rename_i h
      simp only [Bool.and_eq_true, decide_eq_true_eq] at h
      exact hbs h.1
    · exact one_dvd _
  · simp only [Dims.exactSize, Bool.false_eq_true, if_false]
    rw [← hsplit]
    exact hfit

/-- Rounding up to whole blocks of a power of two stays inside a machine word when the rounded
size does. -/
theorem round_fits {c b : Int} (hb : ∃ n : Nat, b = 2 ^ n) (hc : 1 ≤ c)
    (hfit : (c + b - 1) / b * b < 2 ^ 63) : c + b - 1 < 2 ^ 63 := by
  obtain ⟨n, rfl⟩ := hb
  have hb0 : (0 : Int) < 2 ^ n := by positivity
  set q := (c + 2 ^ n - 1) / 2 ^ n with hq
  have hq1 : 1 ≤ q := (Int.le_ediv_iff_mul_le hb0).2 (by omega)
  -- the block size divides the word size, so the rounded size is at least one block short of it
  have hn : n ≤ 63 := by
    by_contra h
    have : (2 : Int) ^ 63 < 2 ^ n := pow_lt_pow_right₀ (by norm_num) (by omega)
    nlinarith
  have hdvd : (2 : Int) ^ n ∣ 2 ^ 63 - q * 2 ^ n :=
    dvd_sub (pow_dvd_pow 2 hn) (dvd_mul_left _ _)
  have hgap : 2 ^ n ≤ (2 : Int) ^ 63 - q * 2 ^ n := Int.le_of_dvd (by omega) hdvd
  have hlt : c + 2 ^ n - 1 < (q + 1) * 2 ^ n := by
    have := Int.lt_ediv_add_one_mul_self (c + 2 ^ n - 1) hb0
    linarith
  linarith

theorem resolve_eq_of_physicalDims {s : Shape} {a : Nat} {t : Tag} {physical : List Int}
    {axisMap : List Nat} (ha : a < s.rank) (hs : s.isStatic = true)
    (hp : Layout.physicalDims s.dims t = .ok (physical, axisMap))
    (hna : ¬ (t.isBlocked = true ∧ a = channelAxis)) :
    Layout.resolve s a t = .ok
      { outer := product (physical.take (axisMap.getD a 0)),
        axis := physical.getD (axisMap.getD a 0) 0,
        inner := product (physical.drop (axisMap.getD a 0 + 1)),
        axisStride := product (physical.drop (axisMap.getD a 0 + 1)),
        blockSize := if t.isBlocked then t.blockSize else 0 } := by
  have hn : s.normalizeAxis a = a := by simp [Shape.normalizeAxis]
  have hr : ¬ ((s.rank = 0 ∨ (a : Int) < 0) ∨ (s.rank : Int) ≤ a) := by omega
  simp only [Layout.resolve, hn, hs, hp]
  simp only [Bool.or_eq_true, decide_eq_true_eq, except_throw, Bool.not_true, Bool.false_eq_true,
    if_false, except_mapError_ok, except_ok_bind, if_neg hr]
  split
  · rename_i h
    simp only [Bool.and_eq_true, decide_eq_true_eq, Nat.cast_inj] at h
    exact absurd h hna
  · rfl

theorem resolve_eq_axisBlocked {s : Shape} {t : Tag} (h1 : channelAxis < s.rank)
    (hs : s.isStatic = true) (hv : t.validateRank s.rank = .ok ()) (hb : t.isBlocked = true) :
    Layout.resolve s channelAxis t = .ok
      { outer := s.dims.getD 0 0, axis := s.dims.getD channelAxis 0,
        inner := product (s.dims.drop (channelAxis + 1)), axisStride := 1,
        blockSize := t.blockSize, axisBlocked := true } := by
  have hn : s.normalizeAxis channelAxis = channelAxis := by simp [Shape.normalizeAxis]
  have hr : ¬ ((s.rank = 0 ∨ ((channelAxis : Nat) : Int) < 0) ∨ (s.rank : Int) ≤ (channelAxis : Nat)) := by
    simp only [channelAxis] at h1 ⊢; omega
  obtain ⟨⟨physical, axisMap⟩, hp⟩ := Layout.physicalDims_ok hv
  simp only [Layout.resolve, hn, hs, hp]
  simp only [Bool.or_eq_true, decide_eq_true_eq, except_throw, Bool.not_true, Bool.false_eq_true,
    if_false, except_mapError_ok, except_ok_bind, if_neg hr, hb]
  simp

section Resolve

variable {s : Shape} {a : Nat} {t : Tag}

theorem resolve_exact_planar (hk : t.kind = .planar) (hs : s.isStatic = true)
    (hpos : ∀ x ∈ s.dims, 1 ≤ x) (ha : a < s.rank) (hfit : s.storedSize t < 2 ^ 63) :
    ∃ d, Layout.resolve s a t = .ok d ∧ d.Exact ∧ d.axis = s.dims.getD a 0 ∧
      d.exactSize = s.storedSize t := by
  have hblk : t.isBlocked = false := by simp [Tag.isBlocked, hk]
  have hp : Layout.physicalDims s.dims t = .ok (s.dims, List.range s.dims.length) := by
    simp [Layout.physicalDims, Tag.validateRank, Tag.validate, hk]
  have hmap : (List.range s.dims.length).getD a 0 = a := by
    simp [List.getD_eq_getElem?_getD, show a < s.dims.length from ha]
  have hsize : s.storedSize t = s.dims.prod := by simp [Shape.storedSize, hblk]
  obtain ⟨hd, hsplit⟩ := exact_of_physical (show a < s.dims.length from ha) hpos
    (hsize ▸ hfit) 0 (fun h => absurd h (lt_irrefl 0))
  refine ⟨_, resolve_eq_of_physicalDims ha hs hp (by simp [hblk]), ?_⟩
  simp only [hmap, hblk, Bool.false_eq_true, if_false]
  exact ⟨hd, by simp, by simp [Dims.exactSize, hsize, hsplit]⟩

theorem resolve_exact_channelLast (hk : t.kind = .channelLast) (hs : s.isStatic = true)
    (hpos : ∀ x ∈ s.dims, 1 ≤ x) (ha : a < s.rank) (h2 : 2 ≤ s.rank)
    (hfit : s.storedSize t < 2 ^ 63) :
    ∃ d, Layout.resolve s a t = .ok d ∧ d.Exact ∧ d.axis = s.dims.getD a 0 ∧
      d.exactSize = s.storedSize t := by
  have hblk : t.isBlocked = false := by simp [Tag.isBlocked, hk]
  rcases s with ⟨dtype, dims⟩
  obtain ⟨x, y, rest, rfl⟩ : ∃ x y rest, dims = x :: y :: rest := by
    match dims, h2 with
    | x :: y :: rest, _ => exact ⟨x, y, rest, rfl⟩
  simp only [Shape.rank, List.length_cons] at ha h2
  -- the channels move to the end; the other axes keep their order
  let f : Nat → Nat := fun b => if b = 0 then 0 else if b = 1 then rest.length + 2 - 1 else b - 1
  have hp : Layout.physicalDims (x :: y :: rest) t =
      .ok (x :: (rest ++ [y]), (List.range (rest.length + 2)).map f) := by
    simp [Layout.physicalDims, Tag.validateRank, Tag.validate, hk, channelAxis, f]
  have hmap : ((List.range (rest.length + 2)).map f).getD a 0 = f a := by
    simp [List.getD_eq_getElem?_getD, ha]
  have hplt : f a < (x :: (rest ++ [y])).length := by
    simp only [f, List.length_cons, List.length_append]
    split_ifs <;> omega
  have hget : (x :: (rest ++ [y])).getD (f a) 0 = (x :: y :: rest).getD a 0 := by
    rcases a with _ | _ | a
    · simp [f]
    · simp [f, List.getD_eq_getElem?_getD]
    · simp only [f, List.getD_eq_getElem?_getD]
      simp [List.getElem?_append_left (show a < rest.length by omega)]
  have hsize : (Shape.mk dtype (x :: y :: rest)).storedSize t = (x :: (rest ++ [y])).prod := by
    simp only [Shape.storedSize, hblk, Bool.false_eq_true, if_false, List.prod_cons,
      List.prod_append, List.prod_nil]
    ring
  have hposP : ∀ z ∈ x :: (rest ++ [y]), 1 ≤ z := by
    intro z hz
    apply hpos
    simp only [List.mem_cons, List.mem_append] at hz ⊢
    tauto
  obtain ⟨hd, hsplit⟩ := exact_of_physical hplt hposP (hsize ▸ hfit) 0
    (fun h => absurd h (lt_irrefl 0))
  refine ⟨_, resolve_eq_of_physicalDims (by simpa [Shape.rank] using ha) hs hp (by simp [hblk]), ?_⟩
  simp only [hmap, hblk, Bool.false_eq_true, if_false]
  exact ⟨hd, hget, by simp [Dims.exactSize, hsize, hsplit]⟩

theorem resolve_exact_blocked (hk : t.kind = .blocked) (hb : ∃ n : Nat, t.blockSize = 2 ^ n)
    (hs : s.isStatic = true) (hpos : ∀ x ∈ s.dims, 1 ≤ x) (ha : a < s.rank) (h2 : 2 ≤ s.rank)
    (hfit : s.storedSize t < 2 ^ 63) :
    ∃ d, Layout.resolve s a t = .ok d ∧ d.Exact ∧ d.axis = s.dims.getD a 0 ∧
      d.exactSize = s.storedSize t := by
  have hblk : t.isBlocked = true := by simp [Tag.isBlocked, hk]
  have hb1 : 1 ≤ t.blockSize := by
    obtain ⟨n, hn⟩ := hb
    rw [hn]
    exact one_le_pow₀ (by norm_num)
  rcases s with ⟨dtype, dims⟩
  obtain ⟨x, y, rest, rfl⟩ : ∃ x y rest, dims = x :: y :: rest := by
    match dims, h2 with
    | x :: y :: rest, _ => exact ⟨x, y, rest, rfl⟩
  simp only [Shape.rank, List.length_cons] at ha h2
  have hx : 1 ≤ x := hpos x (by simp)
  have hy : 1 ≤ y := hpos y (by simp)
  have hrest : ∀ z ∈ rest, 1 ≤ z := fun z hz => hpos z (by simp [hz])
  have hR := one_le_prod hrest
  set b := t.blockSize with hbdef
  set q := (y + b - 1) / b with hq
  have hq1 : 1 ≤ q := (Int.le_ediv_iff_mul_le (by omega)).2 (by omega)
  have hsize : (Shape.mk dtype (x :: y :: rest)).storedSize t = x * q * rest.prod * b := by
    simp [Shape.storedSize, hblk, channelAxis, hq]
    ring
  rw [hsize] at hfit
  -- the channels, rounded up to whole blocks, fit a word, so rounding computes them exactly
  have hxR : 1 ≤ x * rest.prod := one_le_mul_of_one_le_of_one_le hx hR
  have hround : y + b - 1 < 2 ^ 63 := by
    refine round_fits hb hy (lt_of_le_of_lt ?_ hfit)
    rw [← hq]
    calc q * b = 1 * (q * b) := by ring
      _ ≤ (x * rest.prod) * (q * b) := by gcongr
      _ = x * q * rest.prod * b := by ring
  have hceil : ceilDiv y b = q := ceilDiv_eq hb1 (by omega) hround
  have hRfit : rest.prod < 2 ^ 63 := by
    have hxqb : 1 ≤ x * q * b := one_le_mul_of_one_le_of_one_le (one_le_mul_of_one_le_of_one_le hx hq1) hb1
    calc rest.prod = 1 * rest.prod := by ring
      _ ≤ (x * q * b) * rest.prod := by gcongr
      _ = x * q * rest.prod * b := by ring
      _ < 2 ^ 63 := hfit
  by_cases ha1 : a = channelAxis
  · subst ha1
    refine ⟨_, resolve_eq_axisBlocked (by simp [Shape.rank, channelAxis]) hs
      (by simp [Tag.validateRank, Tag.validate, hk, ← hbdef, (Tag.isPowerOfTwo_iff b).2 hb,
        channelAxis, Shape.rank]) hblk, ?_, ?_, ?_⟩
    · have hI : product rest = rest.prod := product_eq_prod ⟨by omega, hRfit⟩
      refine { outer_pos := hx, axis_pos := hy, inner_pos := ?_,
               stride_eq := (fun h => nomatch h), block_pos := fun _ => hb1,
               round_fits := fun _ => hround, lanes_dvd := ?_, fits := ?_ }
      · simpa [channelAxis, hI] using hR
      · simp [Dims.lanes]
      · simp [Dims.exactSize, Dims.blocks, channelAxis, hI, ← hbdef, ← hq]
        linarith
    · simp [channelAxis]
    · simp [Dims.exactSize, Dims.blocks, channelAxis, ← hbdef, ← hq, hsize,
        product_eq_prod ⟨(by omega : (0 : Int) ≤ rest.prod), hRfit⟩]
      ring
  · have hp : Layout.physicalDims (x :: y :: rest) t =
        .ok (x :: q :: (rest ++ [b]), List.range (rest.length + 2)) := by
      simp [Layout.physicalDims, Tag.validateRank, Tag.validate, hk, channelAxis, ← hbdef,
        (Tag.isPowerOfTwo_iff b).2 hb, hceil]
    have hmap : (List.range (rest.length + 2)).getD a 0 = a := by
      simp [List.getD_eq_getElem?_getD, ha]
    have hplt : a < (x :: q :: (rest ++ [b])).length := by simp; omega
    have hget : (x :: q :: (rest ++ [b])).getD a 0 = (x :: y :: rest).getD a 0 := by
      rcases a with _ | _ | a
      · simp
      · simp [channelAxis] at ha1
      · simp [List.getD_eq_getElem?_getD, List.getElem?_append_left (show a < rest.length by omega)]
    have hposP : ∀ z ∈ x :: q :: (rest ++ [b]), 1 ≤ z := by
      intro z hz
      simp only [List.mem_cons, List.mem_append, List.not_mem_nil, or_false] at hz
      rcases hz with rfl | rfl | hz | rfl
      · exact hx
      · exact hq1
      · exact hrest z hz
      · exact hb1
    have hprod : (x :: q :: (rest ++ [b])).prod = x * q * rest.prod * b := by
      simp [List.prod_append]
      ring
    have hlast : b ∈ (x :: q :: (rest ++ [b])).drop (a + 1) := by
      rw [show x :: q :: (rest ++ [b]) = (x :: q :: rest) ++ [b] by simp,
        List.drop_append_of_le_length (by simp; omega)]
      simp
    obtain ⟨hd, hsplit⟩ := exact_of_physical hplt hposP (hprod ▸ hfit) b
      (fun _ => List.dvd_prod hlast)
    refine ⟨_, resolve_eq_of_physicalDims (by simpa [Shape.rank] using ha) hs hp
      (by simp [ha1]), ?_⟩
    simp only [hmap, hblk, if_true]
    refine ⟨hd, hget, ?_⟩
    simp only [Dims.exactSize, Bool.false_eq_true, if_false]
    rw [← hsplit, hprod, hsize]

/-- A static shape with positive dimensions whose stored size fits a machine word resolves,
along each of its axes and in every layout usable at its rank, to an exact addressing of that
size, whose axis is the axis of the shape. -/
theorem resolve_exact (hs : s.isStatic = true) (hpos : ∀ x ∈ s.dims, 1 ≤ x) (ha : a < s.rank)
    (hv : t.validateRank s.rank = .ok ()) (hfit : s.storedSize t < 2 ^ 63) :
    ∃ d, Layout.resolve s a t = .ok d ∧ d.Exact ∧ d.axis = s.dims.getD a 0 ∧
      d.exactSize = s.storedSize t := by
  have hval := Tag.validate_of_validateRank hv
  have hrank := hv
  rw [Tag.validateRank_eq hval] at hrank
  rw [Tag.validate_eq] at hval
  rcases t with ⟨kind, b⟩
  have h2 : kind ≠ .planar → 2 ≤ s.rank := by
    intro hk
    split at hrank
    · rename_i h
      simpa [hk] using h
    · cases hrank
  cases kind with
  | planar => exact resolve_exact_planar rfl hs hpos ha hfit
  | channelLast => exact resolve_exact_channelLast rfl hs hpos ha (h2 (by simp)) hfit
  | blocked =>
    have hb : ∃ n : Nat, b = 2 ^ n := by simpa using hval
    exact resolve_exact_blocked rfl hb hs hpos ha (h2 (by simp)) hfit
  | unnamed n => simp at hval

/-- The addressing that an axis resolves to is exact, spans the axis and fills the stored size. -/
theorem exact_of_resolve (hs : s.isStatic = true) (hpos : ∀ x ∈ s.dims, 1 ≤ x) (ha : a < s.rank)
    (hv : t.validateRank s.rank = .ok ()) (hfit : s.storedSize t < 2 ^ 63) {d : Dims}
    (hd : Layout.resolve s a t = .ok d) :
    d.Exact ∧ d.axis = s.dims.getD a 0 ∧ d.exactSize = s.storedSize t := by
  obtain ⟨d', hd', hex⟩ := resolve_exact hs hpos ha hv hfit
  rw [hd] at hd'
  cases hd'
  exact hex

end Resolve

end Layout

end TensorSelect
