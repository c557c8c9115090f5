import Mathlib
import TensorSelect.Proofs.Engine.Answer
import TensorSelect.Proofs.Layout.Placement
import TensorSelect.Proofs.Layout.Resolve

/-!
# Every layout selects the same

An engine configured with a layout runs on data packed in that layout. The layout changes only
where the elements are stored, never what is selected: running on the packed data and unpacking
the outputs gives what the planar layout gives on the logical data (`layouts_agree`), for every
ordered element type, shape, axis and layout, and for the kernels as for the reference, as long
as the stored size and the workers stay below `2^31`. Within that bound configuring succeeds
(`configure_small`: the tables and the scratch buffers fit one allocation each), and a run over
buffers meets no hazard (`Ready.safe_of_small`: no more units than stored elements, so the
pool's counter does not wrap, and an axis short enough for the kernel's networks).

The proof reads a run through its layout. At the stored position of every position of the
output, a run writes the entry that its method selects from the stored column of that position
(`Ready.run_stored`): the input elements at the positions that differ from it only on the axis,
read where the layout stores them (`Layout.storedColumn`). Packing makes the stored columns of
the packed data the planar columns of the logical data (`storedColumn_of_stored`). What a method
keeps depends only on its mode, its order and `k` (`Method.select_pair_eq`), which the two
engines share. Unpacking reads the outputs back from their stored positions
(`Layout.unpack_spec`).
-/

namespace TensorSelect

namespace Select

/-! ## What a method keeps -/

section Implementation

variable {α : Type} [Ranked α] [Ranked.Bounded α] [Inhabited α]

/-- What a method keeps is determined by its mode, its order and `k`: two methods that fit a work
item and agree on these keep the same value with the same label at every rank, whatever their
algorithm, implementation and networks, since both keep the pairs of `keptPairs`. -/
theorem Method.select_pair_eq {m m' : Method} (xs : Array α) (hfit : m.Fits xs.size)
    (hfit' : m'.Fits xs.size) (hmode : m'.mode = m.mode) (hsort : m'.sortBy = m.sortBy)
    (hk : m'.k = m.k) {r : Nat} (hr : r < m.k) :
    ((m'.select (Method.entries xs)).getD r default).pair =
      ((m.select (Method.entries xs)).getD r default).pair := by
  have h := m.getElem?_keptPairs xs hfit hr
  have h' := m'.getElem?_keptPairs xs hfit' (hk ▸ hr)
  rw [hmode, hsort, hk, h] at h'
  exact (Option.some.inj h').symm

end Implementation

end Select

namespace Layout

@[simp]
theorem physicalOf_planar (dims : List Int) : physicalOf Tag.planar dims = dims := rfl

@[simp]
theorem physicalIndex_planar (idx : List Int) : physicalIndex Tag.planar idx = idx := rfl

/-- The planar layout stores no more elements than a layout usable at the rank, which only
pads. -/
theorem storedSize_planar_le {s : Shape} {t : Tag} (hv : t.validateRank s.rank = .ok ())
    (hpos : ∀ d ∈ s.dims, 1 ≤ d) : s.storedSize Tag.planar ≤ s.storedSize t := by
  rw [storedSize_eq_prod, storedSize_eq_prod, physicalOf_planar]
  exact prod_le_physicalOf hv hpos

/-- The column of a position along an axis, in data stored in a layout: the elements at the
positions that differ from it only on the axis, read where the layout stores them. -/
def storedColumn {β : Type} [Inhabited β] (t : Tag) (dims : List Int) (a : Nat) (xs : Array β)
    (idx : List Int) : Array β :=
  (Array.range (dims.getD a 0).toNat).map fun (j : Nat) =>
    xs.getD (rowMajor (physicalOf t dims) (physicalIndex t (idx.set a j))).toNat default

/-- Data that stores each position where a layout stores it has the stored columns of the
planar data. -/
theorem storedColumn_of_stored {β : Type} [Inhabited β] {t : Tag} {dims : List Int} {a : Nat}
    {xs ps : Array β}
    (hps : ∀ idx, Within dims idx →
      ps[(rowMajor (physicalOf t dims) (physicalIndex t idx)).toNat]? = xs[(rowMajor dims idx).toNat]?)
    {idx : List Int} (hidx : ∀ j : Int, 0 ≤ j → j < dims.getD a 0 → Within dims (idx.set a j)) :
    storedColumn t dims a ps idx = storedColumn Tag.planar dims a xs idx := by
  unfold storedColumn
  refine Array.map_congr_left fun j hj => ?_
  rw [Array.mem_range] at hj
  simp only [Array.getD_eq_getD_getElem?, physicalOf_planar, physicalIndex_planar]
  rw [hps _ (hidx j (by omega) (by omega))]

end Layout

namespace Select.Sweep

variable {s : Sweep} {α : Type} [Ranked α] [Inhabited α]

/-- A run that computes every offset exactly, with tables that serve it, keeps the sizes of its
outputs. -/
theorem Exact.run_size (h : s.Exact) (ht : s.Tabled) {input vs vs' : Array α} {is is' : Array Int}
    (hin : (input.size : Int) = s.dims.physicalSize)
    (hvs : (vs.size : Int) = s.outDims.physicalSize) (his : is.size = vs.size)
    (hrun : (s.run input).run (vs, is) = .ok () (vs', is')) :
    vs'.size = vs.size ∧ is'.size = is.size := by
  have hbounds := h.inBounds ht
  rw [← hin, ← hvs] at hbounds
  rw [run_of_inBounds s input hbounds his, written_eq_foldl] at hrun
  simp only [EStateM.Result.ok.injEq, true_and, Prod.ext_iff] at hrun
  rw [← hrun.1, ← hrun.2]
  simp

end Select.Sweep

/-! ## Buffers of one ordered element type -/

/-- The buffers of one ordered element type, seen as arrays of its values: every buffer of the
type wraps an array, and the operations on buffers act on the wrapped arrays. -/
structure Storage.Typed (t : ElemType) where
  /-- The values of the element type. -/
  Value : Type
  [ranked : Ranked Value]
  [inhabited : Inhabited Value]
  [bounded : Ranked.Bounded Value]
  wrap : Array Value → Storage
  elemType_wrap (xs : Array Value) : (wrap xs).elemType = t := by intros; rfl
  size_wrap (xs : Array Value) : (wrap xs).size = xs.size := by intros; rfl
  mapExcept_wrap {ε : Type} (op : {β : Type} → [Inhabited β] → Array β → Except ε (Array β))
    (xs : Array Value) : Storage.mapExcept op (wrap xs) = wrap <$> op xs := by intros; rfl
  zipRanked_wrap {γ : Type}
    (op : {β : Type} → [Ranked β] → [Inhabited β] → Array β → Array β → Array β × γ)
    (xs ys : Array Value) :
    Storage.zipRanked op (wrap xs) (wrap ys) = some (wrap (op xs ys).1, (op xs ys).2) := by
    intros; rfl
  eq_wrap (b : Storage) : b.elemType = t → ∃ xs, b = wrap xs := by
    intro b hb
    cases b <;> first | exact ⟨_, rfl⟩ | cases hb

attribute [instance] Storage.Typed.ranked Storage.Typed.inhabited Storage.Typed.bounded

/-- The view of the buffers of every element type but `bool`, which has no order. -/
def Storage.typed : (t : ElemType) → t ≠ .bool → Storage.Typed t
  | .bool, h => absurd rfl h
  | .int8, _ => { Value := Int8, wrap := .int8 }
  | .int16, _ => { Value := Int16, wrap := .int16 }
  | .int32, _ => { Value := Int32, wrap := .int32 }
  | .int64, _ => { Value := Int64, wrap := .int64 }
  | .uint8, _ => { Value := UInt8, wrap := .uint8 }
  | .uint16, _ => { Value := UInt16, wrap := .uint16 }
  | .uint32, _ => { Value := UInt32, wrap := .uint32 }
  | .uint64, _ => { Value := UInt64, wrap := .uint64 }
  | .float16, _ => { Value := Binary16, wrap := .float16 }
  | .float32, _ => { Value := Binary32, wrap := .float32 }
  | .float64, _ => { Value := Binary64, wrap := .float64 }
  | .bfloat16, _ => { Value := BFloat16, wrap := .bfloat16 }

namespace Select.Engine

open SetupCheck Layout

variable {e : Engine}

/-- What a prepared engine's run writes, read through its layout: the run ends when the pool
hands out every unit, and at the stored position of every position of the output shape it writes
the entry that its method selects from the stored column of that position in the input, of the
rank that the position has on the axis. This needs an axis of at most `2^31` elements, on which
the kernel reads its networks where they are stored. -/
theorem Ready.run_stored {α : Type} [Ranked α] [Inhabited α] (hr : Ready e)
    (hp : e.prepared = true) (hfit : e.current.storedSize e.config.layout < 2 ^ 63)
    (haxis : e.dims.axis ≤ 2 ^ 31) (input vs : Array α) (is : Array Int)
    (hin : (input.size : Int) = e.dims.physicalSize)
    (hvs : (vs.size : Int) = e.outDims.physicalSize) (his : is.size = vs.size) :
    ∃ vs' is', (∀ sp : Spread, sp.wraps = false → sp.leading = e.sweep.unitCount →
        runArrays e.sweep sp input vs is = (vs', is', none)) ∧ vs'.size = vs.size ∧
      is'.size = is.size ∧ ∀ idx, Within e.outputShape.dims idx →
        vs'[(rowMajor (physicalOf e.config.layout e.outputShape.dims)
            (physicalIndex e.config.layout idx)).toNat]? =
          some ((e.sweep.method.select (Method.entries (storedColumn e.config.layout
            e.current.dims e.axis input idx))).getD (idx.getD e.axis 0).toNat default).value ∧
        is'[(rowMajor (physicalOf e.config.layout e.outputShape.dims)
            (physicalIndex e.config.layout idx)).toNat]? =
          some ((e.sweep.method.select (Method.entries (storedColumn e.config.layout
            e.current.dims e.axis input idx))).getD (idx.getD e.axis 0).toNat default).index := by
  have hP := hr.prepared hp
  have hC := hr.configured hP.configured
  obtain ⟨ha, hv⟩ := hr.axis_layout hp
  obtain ⟨-, hax⟩ := hr.dims_exact hp hfit
  have hex := hr.sweep_exact hp hfit
  have hk1 : 1 ≤ e.config.k := hC.settings kPositive (by simp [SetupCheck.settings])
  have hkA := hP.k_le
  -- on an axis of at most `2^31` elements the kernel's networks are stored exactly
  have htab := hr.sweep_tabled hp hfit fun _ => ⟨fun _ => haxis, fun _ => by omega⟩
  obtain ⟨vs', is', hrun, hsel⟩ := hex.run_selects htab input hin hvs his
  obtain ⟨hsv, hsi⟩ := hex.run_size htab hin hvs his hrun
  refine ⟨vs', is', fun sp hw hl => ?_, hsv, hsi, fun idx hidx => ?_⟩
  · simp [runArrays, e.sweep.runSpread_eq_run input hw hl, hrun]
  have hout : e.outputShape.dims = e.current.dims.set e.axis e.config.k := by
    simp [outputShape, hP.configured, hp]
  rw [hout] at hidx ⊢
  have hlen : e.axis < e.current.dims.length := ha
  -- the index on the axis is the rank; the positions along the axis are positions of the input
  obtain ⟨hr0, hrk⟩ : 0 ≤ idx.getD e.axis 0 ∧ idx.getD e.axis 0 < e.config.k := by
    simpa [List.getD_eq_getElem?_getD, hlen] using hidx.getD_mem (a := e.axis) (by simpa using hlen)
  have hcolumn : ∀ j : Int, 0 ≤ j → j < e.current.dims.getD e.axis 0 →
      Within e.current.dims (idx.set e.axis j) := fun j hj0 hj => hidx.set_set hlen hj0 hj
  obtain ⟨o, i, ho0, ho, hi0, hi, hoff⟩ := resolve_offset hP.static hP.dims_pos ha hv hfit
    hP.resolve (hcolumn 0 le_rfl (by omega))
  have houtput := (hoff e.config.k hk1 hkA).2
  have hinput := (hoff _ (by omega) le_rfl).2
  rw [set_getD_self hlen, ← hax, Dims.withAxis_axis] at hinput
  -- the run writes rank `r` of work item `(o, i)` where the layout stores the position
  have hpos : e.outDims.offset o i ((idx.getD e.axis 0).toNat : Nat) =
      rowMajor (physicalOf e.config.layout (e.current.dims.set e.axis e.config.k))
        (physicalIndex e.config.layout idx) := by
    rw [hP.outDims, Int.toNat_of_nonneg hr0, houtput _ hr0 hrk, List.set_set,
      set_getD_self (by have := hidx.length_eq; simp at this; omega)]
  -- and reads the elements of the work item where the layout stores their positions
  have hcol : e.dims.column input o i =
      storedColumn e.config.layout e.current.dims e.axis input idx := by
    unfold Dims.column storedColumn
    rw [hax]
    refine Array.map_congr_left fun j hj => ?_
    rw [Array.mem_range] at hj
    rw [hinput j (by omega) (by omega), List.set_set]
  have hk' : (idx.getD e.axis 0).toNat < e.sweep.method.k := by
    simp only [sweep]
    omega
  obtain ⟨h1, h2⟩ := hsel o i ho0 ho hi0 hi _ hk'
  have hdims : e.sweep.dims = e.dims := rfl
  have houtDims : e.sweep.outDims = e.outDims := rfl
  rw [hdims, houtDims, hpos, hcol] at h1 h2
  exact ⟨h1, h2⟩

/-- The facts about the prepared shape that packing and unpacking need: static, with an element
type, positive dimensions, an axis and a layout usable at its rank. -/
theorem Ready.current_facts (hr : Ready e) (hp : e.prepared = true) :
    e.current.isStatic = true ∧ e.current.ok = true ∧ (∀ d ∈ e.current.dims, 1 ≤ d) ∧
      e.axis < e.current.rank ∧ e.config.layout.validateRank e.current.rank = .ok () := by
  have hP := hr.prepared hp
  obtain ⟨ty, hty, -⟩ := hr.current_ordered hp
  obtain ⟨ha, hv⟩ := hr.axis_layout hp
  refine ⟨hP.static, ?_, hP.dims_pos, ha, hv⟩
  simp [Shape.ok, hty, ElemType.toDType_ne_invalid]

/-- The logical size of a prepared shape is at most its stored size, so it fits a machine word
when the stored size does. -/
theorem Ready.prod_lt (hr : Ready e) (hp : e.prepared = true)
    (hfit : e.current.storedSize e.config.layout < 2 ^ 63) : e.current.dims.prod < 2 ^ 63 := by
  obtain ⟨-, -, hpos, -, hv⟩ := hr.current_facts hp
  have := prod_le_physicalOf hv hpos
  rw [storedSize_eq_prod] at hfit
  omega

/-- The input of a prepared engine whose shape fits a machine word is the shape stored in the
engine's layout. -/
theorem Ready.physicalSize_dims (hr : Ready e) (hp : e.prepared = true)
    (hfit : e.current.storedSize e.config.layout < 2 ^ 63) :
    e.dims.physicalSize = e.current.storedSize e.config.layout := by
  obtain ⟨hs, -, hpos, ha, hv⟩ := hr.current_facts hp
  obtain ⟨hdx, -, hsize⟩ := exact_of_resolve hs hpos ha hv hfit (hr.prepared hp).resolve
  rw [Dims.physicalSize_eq hdx, hsize]

/-- The output shape of a prepared engine is its shape with `k` on the axis. It has the facts
of the prepared shape, and stored in the engine's layout it fills the output exactly. -/
theorem Ready.output_facts (hr : Ready e) (hp : e.prepared = true)
    (hfit : e.current.storedSize e.config.layout < 2 ^ 63) :
    e.outputShape = { e.current with dims := e.current.dims.set e.axis e.config.k } ∧
      e.outputShape.isStatic = true ∧ e.outputShape.ok = true ∧
      (∀ d ∈ e.outputShape.dims, 1 ≤ d) ∧
      e.config.layout.validateRank e.outputShape.rank = .ok () ∧
      e.outputShape.storedSize e.config.layout = e.outDims.physicalSize ∧
      e.outDims.physicalSize < 2 ^ 63 := by
  have hP := hr.prepared hp
  have hC := hr.configured hP.configured
  obtain ⟨hs, hok, hpos, ha, hv⟩ := hr.current_facts hp
  have hk1 : 1 ≤ e.config.k := hC.settings kPositive (by simp [SetupCheck.settings])
  have hout : e.outputShape = { e.current with dims := e.current.dims.set e.axis e.config.k } := by
    simp [outputShape, hP.configured, hp]
  have hpos' : ∀ d ∈ e.current.dims.set e.axis e.config.k, 1 ≤ d := by
    intro d hd
    rcases List.mem_or_eq_of_mem_set hd with hd | rfl
    · exact hpos d hd
    · exact hk1
  -- the output addressing is the input one with `k` on the axis
  have hex : e.outDims.Exact := (hr.sweep_exact hp hfit).outDims
  obtain ⟨o, i, -, -, -, -, hoff⟩ := resolve_offset hs hpos ha hv hfit hP.resolve (within_zeros hpos).1
  have hsize : e.outDims.physicalSize =
      (physicalOf e.config.layout (e.current.dims.set e.axis e.config.k)).prod := by
    rw [Dims.physicalSize_eq hex, hP.outDims, (hoff _ hk1 hP.k_le).1]
  refine ⟨hout, ?_, ?_, ?_, ?_, ?_, ?_⟩
  · simp [hout, Shape.isStatic, dynamicDim]
    intro h
    have := hpos' _ h
    omega
  · simpa [hout, Shape.ok] using hok
  · simpa [hout] using hpos'
  · simpa [hout, Shape.rank] using hv
  · rw [hout, storedSize_eq_prod, hsize]
  · rw [Dims.physicalSize_eq hex]
    exact hex.fits

/-- The addressing of a shape with `K` on an axis is the shape's addressing with `K` on the axis,
in every layout usable at its rank: the batch, the items after the axis and their stride do not
depend on the axis's extent. A prepared engine's output addressing is therefore the addressing
of its output shape, and the output length that a run requires is the output shape's size in
the engine's layout. -/
theorem output_addressing_law (s : Shape) (axis : Int) (t : Tag) (K : Int)
    (hs : s.isStatic = true) (hax : s.hasAxis axis = true) (hv : t.validateRank s.rank = .ok ())
    (hK : 1 ≤ K) :
    (∃ d s', Layout.resolve s axis t = .ok d ∧ s.withDim axis K = .ok s' ∧
      Layout.resolve s' axis t = .ok (d.withAxis K)) ∧
    ∀ e : Engine, Reachable e → e.prepared = true →
      Layout.resolve e.outputShape e.axis e.config.layout = .ok e.outDims ∧
      Layout.physicalSize e.outputShape e.config.layout = .ok e.outDims.physicalSize := by
  refine ⟨?_, fun e he hp => ?_⟩
  · -- the axis number names the same axis of the shape with `K` on it
    set a := (s.normalizeAxis axis).toNat with ha_def
    have ha : a < s.rank := by
      simp only [Shape.hasAxis, Bool.and_eq_true, decide_eq_true_eq] at hax
      omega
    have hrank : ({ s with dims := s.dims.set a K } : Shape).rank = s.rank := List.length_set
    have hn : ({ s with dims := s.dims.set a K } : Shape).normalizeAxis axis =
        s.normalizeAxis axis := by
      simp only [Shape.normalizeAxis, hrank]
    have hax' : ({ s with dims := s.dims.set a K } : Shape).hasAxis axis = true := by
      unfold Shape.hasAxis at hax ⊢
      rw [hn, hrank]
      exact hax
    obtain ⟨d, hd⟩ := resolve_ok (s := s) (a := (a : Int)) ⟨by omega, by exact_mod_cast ha⟩ hs hv
    refine ⟨d, { s with dims := s.dims.set a K }, (resolve_normalizeAxis t hax).trans hd,
      by simp [Shape.withDim, hax, ha_def], ?_⟩
    rw [resolve_normalizeAxis t hax', hn]
    exact resolve_set hs hv ha hK hd
  · -- the output shape is the prepared shape with `k` on the axis
    have hr := he.ready
    have hP := hr.prepared hp
    obtain ⟨hs, -, -, ha, hv⟩ := hr.current_facts hp
    have hk1 : 1 ≤ e.config.k :=
      (hr.configured hP.configured).settings kPositive (by simp [SetupCheck.settings])
    have hout : e.outputShape = { e.current with dims := e.current.dims.set e.axis e.config.k } := by
      simp [outputShape, hP.configured, hp]
    have hres := resolve_set hs hv ha hk1 hP.resolve
    rw [← hP.outDims, ← hout] at hres
    have hs' : e.outputShape.isStatic = true := hout ▸ Shape.isStatic_set hs e.axis hk1
    have hv' : e.config.layout.validateRank e.outputShape.rank = .ok () := by
      simpa [hout, Shape.rank] using hv
    have ha' : e.axis < e.outputShape.rank := by
      simpa [hout, Shape.rank] using ha
    refine ⟨hres, ?_⟩
    rw [physicalSize_machine hs' hv', resolve_physicalSize hs' hv' ha' hres]

/-- The axis of a prepared engine, and the units of its sweep, are no more than the stored size
of its shape: the elements of one batch position along the axis are stored elements, and a unit
takes at least one work item. -/
theorem Ready.axis_units_le (hr : Ready e) (hp : e.prepared = true)
    (hfit : e.current.storedSize e.config.layout < 2 ^ 63) :
    e.dims.axis ≤ e.current.storedSize e.config.layout ∧
      (e.sweep.unitCount : Int) ≤ e.current.storedSize e.config.layout := by
  have hex := hr.sweep_exact hp hfit
  have hdx : e.dims.Exact := hex.dims
  have hsize : e.dims.exactSize = e.current.storedSize e.config.layout := by
    rw [← Dims.physicalSize_eq hdx, hr.physicalSize_dims hp hfit]
  have hI := hdx.inner_pos
  have hO := hdx.outer_pos
  constructor
  · have := Dims.axis_mul_inner_le hdx
    nlinarith [hdx.axis_pos]
  · have hper : e.dims.inner / e.sweep.lanes ≤ e.dims.inner := Int.ediv_le_self _ (by omega)
    calc (e.sweep.unitCount : Int) = e.dims.outer * (e.dims.inner / e.sweep.lanes) :=
          hex.unitCount_eq
      _ ≤ e.dims.outer * e.dims.inner := Int.mul_le_mul_of_nonneg_left hper (by omega)
      _ ≤ e.current.storedSize e.config.layout := hsize ▸ Dims.outer_mul_inner_le hdx

/-- A run of a prepared engine over buffers meets no hazard when the stored size of its shape and
its workers stay below `2^31`: the call arguments fit one allocation, the counter does not wrap,
since there are no more units than stored elements, and the axis is short enough for the
kernel's networks. -/
theorem Ready.safe_of_small (hr : Ready e) (hp : e.prepared = true)
    (hsmall : e.current.storedSize e.config.layout + e.pool.workers < 2 ^ 31) (i v : Storage) :
    ¬ e.Hazard (.buffer i) (.buffer v) := by
  have hW : (0 : Int) ≤ e.pool.workers := Int.natCast_nonneg _
  have hfit : e.current.storedSize e.config.layout < 2 ^ 63 := by omega
  obtain ⟨haxis, hunits⟩ := hr.axis_units_le hp hfit
  obtain ⟨-, hax⟩ := hr.dims_exact hp hfit
  have hk : e.config.k ≤ e.dims.axis := hax ▸ (hr.prepared hp).k_le
  have hmax : Panic.maxAlloc = 2 ^ 48 := rfl
  rintro (h | h | h | ⟨-, h⟩ | ⟨-, ⟨-, h⟩ | ⟨-, h⟩⟩)
  · simp [Operand.isBuffer] at h
  · simp [Operand.isBuffer] at h
  · omega
  · omega
  · omega
  · omega

/-- Committing a checked shape settles the engine when the stored size of the shape and the
workers stay below `2^31`: the tables of the shape are found or built, since the axis and its
lanes are short, and every worker's scratch buffer is made, since it holds at most twice the axis
on every lane. -/
theorem Ready.commit_ok {s : Shape} {d : Dims} (hr : Ready e) (hc : e.configured = true)
    (h : e.checkPrepare s = .ok d)
    (hsmall : s.storedSize e.config.layout + e.pool.workers < 2 ^ 31) :
    ∃ found scratch,
      (Engine.commit s d).run e = .ok () ((e.withTables found).settle s d scratch) := by
  obtain ⟨hs, hf, hpos, hk, hres⟩ := checkPrepare_ok h
  have hC := hr.configured hc
  obtain ⟨ha, hv⟩ := hC.axis_layout hf
  have hW : (0 : Int) ≤ e.pool.workers := Int.natCast_nonneg _
  obtain ⟨hdx, hax, hsize⟩ := exact_of_resolve hs hpos ha hv (by omega) hres
  have hk1 : 1 ≤ e.config.k := hC.settings kPositive (by simp [SetupCheck.settings])
  have hA1 := hdx.axis_pos
  -- a call's lanes are among the work items after the axis, so the axis times the lanes is at
  -- most the stored size
  have hL := e.one_le_workAmount d
  have hLi : e.workAmount d ≤ d.inner := by
    unfold workAmount
    split
    · exact Int.le_of_dvd (by linarith [hdx.inner_pos]) hdx.lanes_dvd
    · exact hdx.inner_pos
  have hAL : d.axis * e.workAmount d ≤ s.storedSize e.config.layout := by
    calc d.axis * e.workAmount d ≤ d.axis * d.inner := Int.mul_le_mul_of_nonneg_left hLi (by omega)
      _ ≤ d.exactSize := Dims.axis_mul_inner_le hdx
      _ = s.storedSize e.config.layout := hsize
  have hAA : d.axis ≤ d.axis * e.workAmount d := le_mul_of_one_le_right (by omega) hL
  have hkA : (e.tablesKey s d).axisLen = d.axis := hax.symm
  have hkK : (e.tablesKey s d).k = e.config.k := rfl
  have hkL : (e.tablesKey s d).lanes = e.workAmount d := rfl
  -- the tables of the shape are found or built
  obtain ⟨t, ht⟩ : ∃ t, Tables.build (e.tablesKey s d) = .ok t :=
    Tables.build_ok (by rw [hkA]; omega) (by rw [hkA]; omega) (by rw [hkK]; omega)
      (by rw [hkL]; exact hL) (by rw [hkA, hkL]; omega)
  obtain ⟨found, hfind⟩ : ∃ found,
      Tables.find e.tables e.tablesCache (e.tablesKey s d) = .ok found := Tables.find_ok ht
  obtain ⟨hbuild, -⟩ := Tables.find_built hr.cache hr.tables hfind
  -- every scratch buffer holds at most twice the axis on every lane
  obtain ⟨hp1, hp2⟩ := Tables.scratchPositions_le hbuild (by rw [hkK]; exact hk1)
    (by rw [hkK, hkA]; omega)
  rw [hkA] at hp2
  have hn : found.1.scratchPositions * e.workAmount d ≤ 2 * (d.axis * e.workAmount d) := by
    calc found.1.scratchPositions * e.workAmount d ≤ 2 * d.axis * e.workAmount d :=
          Int.mul_le_mul_of_nonneg_right hp2 (by omega)
      _ = 2 * (d.axis * e.workAmount d) := by ring
  have hn0 : 0 ≤ found.1.scratchPositions * e.workAmount d := mul_nonneg (by omega) (by omega)
  have hscratch : e.scratchSize found.1 d = found.1.scratchPositions * e.workAmount d :=
    wrapWord_eq_self hn0 (by omega)
  have hmax : Panic.maxAlloc = 2 ^ 48 := rfl
  obtain ⟨scratch, hens⟩ := ensureScratch_ok e.scratch e.pool.workers s.dtype
    (n := e.scratchSize found.1 d) (by omega) (by omega) (by omega)
  refine ⟨found, scratch, ?_⟩
  rw [commit_run, hfind]
  dsimp only
  rw [hens]

/-- Configuring for a static shape that passes every check succeeds when the stored size of the
shape and the engine's workers stay below `2^31`: it prepares the engine installed with the
settings, which keeps its pool. -/
theorem configure_small (e : Engine) {c : Config} {s : Shape}
    (hall : ∀ ch : SetupCheck, ch.Passes c s) (hs : s.isStatic = true)
    (hsmall : s.storedSize c.layout + e.pool.workers < 2 ^ 31) :
    ∃ e', (configure c s).run e = .ok () e' ∧ Ready e' ∧ e'.prepared = true ∧ e'.current = s ∧
      e'.config = c ∧ e'.axis = axisIndex c s ∧ e'.pool = e.pool := by
  have h : checkSetup c s = .ok (axisIndex c s) := by
    rw [checkSetup_eq, firstFailure_eq_none_iff.2 hall]
  obtain ⟨d, hd⟩ := checkPrepare_install e h hs
  have hr := ready_install (e := e) h
  obtain ⟨found, scratch, hcommit⟩ := hr.commit_ok rfl hd hsmall
  have hrun : (configure c s).run e = (commit s d).run (e.reset.install c s (axisIndex c s)) := by
    simp [configure_run, h, hs, prepare_run, hd]
  rw [hcommit] at hrun
  exact ⟨_, hrun, hr.commit rfl hd hcommit, rfl, rfl, rfl, rfl, rfl⟩

/-- Two prepared engines that differ only in their layout, the second one planar, select the
same when the stored size stays below `2^31`: running the first on data packed in its layout and
unpacking its outputs gives the outputs of the planar one on the logical data. -/
theorem run_unpack_planar {α : Type} [Ranked α] [Ranked.Bounded α] [Inhabited α] {eₜ eₚ : Engine}
    (hrₜ : Ready eₜ) (hpₜ : eₜ.prepared = true) (hrₚ : Ready eₚ) (hpₚ : eₚ.prepared = true)
    (hcur : eₚ.current = eₜ.current) (haxis : eₚ.axis = eₜ.axis)
    (hconfig : eₚ.config = { eₜ.config with layout := Tag.planar })
    (hsmall : eₜ.current.storedSize eₜ.config.layout < 2 ^ 31) {x p : Array α}
    (hx : (x.size : Int) = eₜ.current.size)
    (hpack : Layout.pack eₜ.current eₜ.config.layout x = .ok p)
    {vₜ vₚ : Array α} {iₜ iₚ : Array Int}
    (hvₜ : (vₜ.size : Int) = eₜ.outDims.physicalSize) (hiₜ : iₜ.size = vₜ.size)
    (hvₚ : (vₚ.size : Int) = eₚ.outDims.physicalSize) (hiₚ : iₚ.size = vₚ.size) :
    ∃ vₜ' iₜ' vₚ' iₚ',
      (∀ sp : Spread, sp.wraps = false → sp.leading = eₜ.sweep.unitCount →
        runArrays eₜ.sweep sp p vₜ iₜ = (vₜ', iₜ', none)) ∧
      (∀ sp : Spread, sp.wraps = false → sp.leading = eₚ.sweep.unitCount →
        runArrays eₚ.sweep sp x vₚ iₚ = (vₚ', iₚ', none)) ∧
      Layout.unpack eₜ.outputShape eₜ.config.layout vₜ' = .ok vₚ' ∧
      Layout.unpack eₜ.outputShape eₜ.config.layout iₜ' = .ok iₚ' := by
  have hplanar : eₚ.config.layout = Tag.planar := by rw [hconfig]
  have hk : eₚ.config.k = eₜ.config.k := by rw [hconfig]
  obtain ⟨hs, hok, hpos, ha, hv⟩ := hrₜ.current_facts hpₜ
  have hlen : eₜ.axis < eₜ.current.dims.length := ha
  have hfit : eₜ.current.storedSize eₜ.config.layout < 2 ^ 63 := by omega
  have hprod := hrₜ.prod_lt hpₜ hfit
  have hfitₚ : eₚ.current.storedSize eₚ.config.layout < 2 ^ 63 := by
    rwa [hcur, hplanar, storedSize_eq_prod, physicalOf_planar]
  -- both axes are the axis of the shape, below `2^31`
  obtain ⟨-, haxₜ⟩ := hrₜ.dims_exact hpₜ hfit
  obtain ⟨-, haxₚ⟩ := hrₚ.dims_exact hpₚ hfitₚ
  have hAₜ : eₜ.dims.axis < 2 ^ 31 := by have := (hrₜ.axis_units_le hpₜ hfit).1; omega
  have hAₚ : eₚ.dims.axis = eₜ.dims.axis := by rw [haxₚ, haxₜ, hcur, haxis]
  have hpad : indexPadding = 2147483647 := rfl
  have hfitsₜ := hrₜ.method_fits hpₜ hfit (by omega) fun _ => by omega
  have hfitsₚ := hrₚ.method_fits hpₚ hfitₚ (by omega) fun _ => by omega
  rw [hAₚ] at hfitsₚ
  obtain ⟨p', hp', hpsize, hpread⟩ := pack_spec hs hok hpos hv hfit x hx
  rw [hpack, Except.ok.injEq] at hp'
  subst hp'
  -- the input sizes: the stored size in the layout, the logical size in the planar one
  have hinₜ : (p.size : Int) = eₜ.dims.physicalSize := by
    rw [hrₜ.physicalSize_dims hpₜ hfit, hpsize]
  have hinₚ : (x.size : Int) = eₚ.dims.physicalSize := by
    rw [hrₚ.physicalSize_dims hpₚ hfitₚ, hx, hcur, hplanar, storedSize_eq_prod,
      physicalOf_planar, size_eq_prod hs hpos hprod]
  obtain ⟨vₜ', iₜ', hrunₜ, hsvₜ, hsiₜ, hstoredₜ⟩ :=
    hrₜ.run_stored hpₜ hfit (by omega) p vₜ iₜ hinₜ hvₜ hiₜ
  obtain ⟨vₚ', iₚ', hrunₚ, hsvₚ, hsiₚ, hstoredₚ⟩ :=
    hrₚ.run_stored hpₚ hfitₚ (by omega) x vₚ iₚ hinₚ hvₚ hiₚ
  refine ⟨vₜ', iₜ', vₚ', iₚ', hrunₜ, hrunₚ, ?_⟩
  -- both engines have one output shape; the planar one stores it as it is
  obtain ⟨hS, hSs, hSok, hSpos, hSv, hSsize, hSfit⟩ := hrₜ.output_facts hpₜ hfit
  obtain ⟨hSₚ, -, -, -, -, hSsizeₚ, -⟩ := hrₚ.output_facts hpₚ hfitₚ
  have hSeq : eₚ.outputShape = eₜ.outputShape := by rw [hSₚ, hS, hcur, haxis, hk]
  rw [hSeq, hplanar, storedSize_eq_prod, physicalOf_planar] at hSsizeₚ
  simp only [hcur, haxis, hplanar, hSeq, physicalOf_planar, physicalIndex_planar] at hstoredₚ
  have hfitS : eₜ.outputShape.storedSize eₜ.config.layout < 2 ^ 63 := by rwa [hSsize]
  obtain ⟨outV, hunV, hsV, hreadV⟩ :=
    unpack_spec hSs hSok hSpos hSv hfitS vₜ' (by rw [hsvₜ, hvₜ, hSsize])
  obtain ⟨outI, hunI, hsI, hreadI⟩ :=
    unpack_spec hSs hSok hSpos hSv hfitS iₜ' (by rw [hsiₜ, hiₜ, hvₜ, hSsize])
  -- at every position the two methods keep the same pair from the same column
  have hsel : ∀ idx, Within eₜ.outputShape.dims idx →
      ((eₜ.sweep.method.select (Method.entries (storedColumn eₜ.config.layout eₜ.current.dims
          eₜ.axis p idx))).getD (idx.getD eₜ.axis 0).toNat default).pair =
        ((eₚ.sweep.method.select (Method.entries (storedColumn Tag.planar eₜ.current.dims
          eₜ.axis x idx))).getD (idx.getD eₜ.axis 0).toNat default).pair := by
    intro idx hidx
    simp only [hS] at hidx
    obtain ⟨hr0, hrk⟩ : 0 ≤ idx.getD eₜ.axis 0 ∧ idx.getD eₜ.axis 0 < eₜ.config.k := by
      simpa [List.getD_eq_getElem?_getD, hlen] using
        hidx.getD_mem (a := eₜ.axis) (by simpa using hlen)
    rw [storedColumn_of_stored hpread fun j hj0 hj => hidx.set_set hlen hj0 hj]
    have hsize : (storedColumn Tag.planar eₜ.current.dims eₜ.axis x idx).size =
        eₜ.dims.axis.toNat := by
      simp [storedColumn, haxₜ]
    rw [← hsize] at hfitsₜ hfitsₚ
    exact Method.select_pair_eq _ hfitsₚ hfitsₜ (by simp [sweep, hconfig])
      (by simp [sweep, hconfig]) (by simp [sweep, hk]) (by simp only [sweep, hk]; omega)
  rw [hunV, hunI]
  refine ⟨congrArg _ (ext_rowMajor hSpos hsV (by rw [hsvₚ, hvₚ, ← hSsizeₚ]) fun idx hidx => ?_),
    congrArg _ (ext_rowMajor hSpos hsI (by rw [hsiₚ, hiₚ, hvₚ, ← hSsizeₚ]) fun idx hidx => ?_)⟩
  · rw [hreadV idx hidx, (hstoredₜ idx hidx).1, (hstoredₚ idx hidx).1]
    exact congrArg (fun q => some q.1) (hsel idx hidx)
  · rw [hreadI idx hidx, (hstoredₜ idx hidx).2, (hstoredₚ idx hidx).2]
    exact congrArg (fun q => some q.2) (hsel idx hidx)

/-- A run of a prepared engine whose stored size and workers stay below `2^31`, over buffers of
its element type and of the lengths that it checks, passes its checks, hands out every unit and
leaves the outputs of its sweep over the arrays of the buffers. -/
theorem Ready.execute_buffers (hr : Ready e) (hp : e.prepared = true)
    (hsmall : e.current.storedSize e.config.layout + e.pool.workers < 2 ^ 31)
    {i v r : Storage} {indices is' : Array Int} (hi : i.elemType.toDType = e.current.dtype)
    (hv : v.elemType = i.elemType) (hin : (i.size : Int) = e.dims.physicalSize)
    (hvs : (v.size : Int) = e.outDims.physicalSize)
    (his : (indices.size : Int) = e.outDims.physicalSize)
    (hz : ∀ sp : Spread, sp.wraps = false → sp.leading = e.sweep.unitCount →
      Storage.zipRanked (fun is vs => runArrays e.sweep sp is vs indices) i v =
        some (r, is', none)) :
    (e.execute (.buffer i)).run (.buffer v, indices) = .ok () (.buffer r, is') := by
  have hP := hr.prepared hp
  have hc : e.checkRun (.buffer i) (.buffer v) indices = .ok () := by
    simp [checkRun, hP.configured, hp, Operand.dtype, Operand.length, hi, hv, hin, hvs, his]
  have hW : (0 : Int) ≤ e.pool.workers := Int.natCast_nonneg _
  have hfit : e.current.storedSize e.config.layout < 2 ^ 63 := by omega
  have hunits := (hr.axis_units_le hp hfit).2
  have h0 := (hr.sweep_exact hp hfit).unitCount_ne_zero
  have hmax : Panic.maxAlloc = 2 ^ 48 := rfl
  have hm : Panic.checkMake e.pool.workers 184 = .ok () :=
    Panic.checkMake_eq_ok.2 ⟨hW, by omega⟩
  -- the pool starts the sweep and hands out every unit, in order, without wrapping
  obtain ⟨sp, hsw, hsp, hnw, hall⟩ := Pool.spread_of_lt (p := e.pool)
    (t := e.options.minParallelUnits) (show (1 : Int) ≤ e.sweep.unitCount by omega)
    (fun _ => by omega)
  rw [execute_run_of_buffers hm hsw hsp hc (hz sp hnw (by rw [hall]; omega))]
  simp only [hnw, Bool.false_eq_true, if_false]

/-- The planar layout passes the checks of the layout, so settings that pass every check on a
shape still pass them in the planar layout. -/
theorem passes_planar {c : Config} {s : Shape} (hall : ∀ ch : SetupCheck, ch.Passes c s) :
    ∀ ch : SetupCheck, ch.Passes { c with layout := Tag.planar } s := by
  intro ch
  have h := hall ch
  -- only the two checks of the layout read it
  cases ch <;> first | exact Or.inl rfl | exact h

/-- Configuring one engine for a static shape that passes every check, in a layout and in the
planar layout, succeeds when the stored size in the layout and the workers stay below `2^31`,
and prepares two engines for the shape whose settings differ only in the layout. Both keep the
pool of the engine. -/
theorem configure_layouts (e : Engine) {c : Config} {s : Shape}
    (hall : ∀ ch : SetupCheck, ch.Passes c s) (hs : s.isStatic = true)
    (hsmall : s.storedSize c.layout + e.pool.workers < 2 ^ 31) :
    ∃ eₜ eₚ, (configure c s).run e = .ok () eₜ ∧
      (configure { c with layout := Tag.planar } s).run e = .ok () eₚ ∧
      Ready eₜ ∧ eₜ.prepared = true ∧ Ready eₚ ∧ eₚ.prepared = true ∧
      eₜ.current = s ∧ eₚ.current = s ∧ eₜ.config = c ∧
      eₚ.config = { c with layout := Tag.planar } ∧ eₚ.axis = eₜ.axis ∧
      eₜ.pool = e.pool ∧ eₚ.pool = e.pool := by
  obtain ⟨eₜ, hrunₜ, hrₜ, hpₜ, hcurₜ, hcₜ, haₜ, hpoolₜ⟩ := configure_small e hall hs hsmall
  -- the planar layout stores no more elements than the layout
  obtain ⟨-, -, hpos, -, hv⟩ := hrₜ.current_facts hpₜ
  rw [hcurₜ, hcₜ] at hv
  rw [hcurₜ] at hpos
  have hplanar := storedSize_planar_le hv hpos
  obtain ⟨eₚ, hrunₚ, hrₚ, hpₚ, hcurₚ, hcₚ, haₚ, hpoolₚ⟩ :=
    configure_small e (passes_planar hall) hs (show s.storedSize Tag.planar + _ < _ by omega)
  exact ⟨eₜ, eₚ, hrunₜ, hrunₚ, hrₜ, hpₜ, hrₚ, hpₚ, hcurₜ, hcurₚ, hcₜ, hcₚ,
    by rw [haₚ, haₜ]; rfl, hpoolₜ, hpoolₚ⟩

/-- An engine configured with a layout, run on data packed in the layout, selects what the
engine configured with the planar layout selects on the data: configuring a static shape that
passes every check, in the layout and in the planar layout, prepares both engines for one output
shape; the data packs; and runs of both engines over output buffers of the lengths they check
succeed, and unpacking the values and the indices of the first from the output shape in the layout
gives the values and the indices of the second. This holds for every ordered element type, every
layout, and for kernels as for the reference, when the shape in the layout, padding included,
and the pool's workers stay below `2^31`: preparing then makes its tables and scratch buffers,
and the pool's counter hands out every unit without wrapping. -/
theorem layouts_agree (e : Engine) (c : Config) (s : Shape)
    (hall : ∀ ch : SetupCheck, ch.Passes c s) (hs : s.isStatic = true)
    (hsmall : s.storedSize c.layout + e.pool.workers < 2 ^ 31) (x : Storage)
    (hx : x.elemType.toDType = s.dtype)
    (hsize : (x.size : Int) = s.size) :
    ∃ eₜ eₚ p, (configure c s).run e = .ok () eₜ ∧
      (configure { c with layout := Tag.planar } s).run e = .ok () eₚ ∧
      eₜ.outputShape = eₚ.outputShape ∧ Storage.mapExcept (Layout.pack s c.layout) x = .ok p ∧
      ∀ (vₜ vₚ : Storage) (iₜ iₚ : Array Int), vₜ.elemType = x.elemType →
        vₚ.elemType = x.elemType → (vₜ.size : Int) = eₜ.outDims.physicalSize →
        (iₜ.size : Int) = eₜ.outDims.physicalSize → (vₚ.size : Int) = eₚ.outDims.physicalSize →
        (iₚ.size : Int) = eₚ.outDims.physicalSize →
        ∃ vₜ' iₜ' vₚ' iₚ',
          (eₜ.execute (.buffer p)).run (.buffer vₜ, iₜ) = .ok () (.buffer vₜ', iₜ') ∧
          (eₚ.execute (.buffer x)).run (.buffer vₚ, iₚ) = .ok () (.buffer vₚ', iₚ') ∧
          Storage.mapExcept (Layout.unpack eₜ.outputShape c.layout) vₜ' = .ok vₚ' ∧
          Layout.unpack eₜ.outputShape c.layout iₜ' = .ok iₚ' := by
  obtain ⟨eₜ, eₚ, hrunₜ, hrunₚ, hrₜ, hpₜ, hrₚ, hpₚ, hcurₜ, hcurₚ, hcₜ, hcₚ, haxis, hpoolₜ,
    hpoolₚ⟩ := configure_layouts e hall hs hsmall
  have hW : (0 : Int) ≤ e.pool.workers := Int.natCast_nonneg _
  have hcur : eₚ.current = eₜ.current := hcurₚ.trans hcurₜ.symm
  have hconfig : eₚ.config = { eₜ.config with layout := Tag.planar } := by rw [hcₚ, hcₜ]
  have hlayout : eₜ.config.layout = c.layout := by rw [hcₜ]
  have hplanar : eₚ.config.layout = Tag.planar := by rw [hcₚ]
  have hk : eₚ.config.k = eₜ.config.k := by rw [hcₚ, hcₜ]
  obtain ⟨hsₜ, hokₜ, hposₜ, -, hvₜ⟩ := hrₜ.current_facts hpₜ
  have hsmallₜ : eₜ.current.storedSize eₜ.config.layout + eₜ.pool.workers < 2 ^ 31 := by
    rwa [hcurₜ, hlayout, hpoolₜ]
  have hfitₜ : eₜ.current.storedSize eₜ.config.layout < 2 ^ 63 := by omega
  -- the logical size fits too, and it is what the planar layout stores
  have hprod := hrₜ.prod_lt hpₜ hfitₜ
  have hplanarSize : eₚ.current.storedSize eₚ.config.layout ≤
      eₜ.current.storedSize eₜ.config.layout := by
    rw [hcur, hplanar]
    exact storedSize_planar_le hvₜ hposₜ
  have hsmallₚ : eₚ.current.storedSize eₚ.config.layout + eₚ.pool.workers < 2 ^ 31 := by
    rw [hpoolₚ]
    rw [hpoolₜ] at hsmallₜ
    omega
  have hfitₚ : eₚ.current.storedSize eₚ.config.layout < 2 ^ 63 := by omega
  obtain ⟨hS, -⟩ := hrₜ.output_facts hpₜ hfitₜ
  obtain ⟨hSₚ, -⟩ := hrₚ.output_facts hpₚ hfitₚ
  have hSeq : eₜ.outputShape = eₚ.outputShape := by rw [hSₚ, hS, hcur, haxis, hk]
  -- the buffers are arrays of the values of the element type
  obtain ⟨t, ht, hb⟩ : dtypeOrdered.Passes c s := hall dtypeOrdered
  have hxt : x.elemType = t := ElemType.toDType_inj (hx.trans ht)
  let T := Storage.typed t hb
  obtain ⟨xs, rfl⟩ := T.eq_wrap x hxt
  have hxs : (xs.size : Int) = eₜ.current.size := by rw [hcurₜ, ← hsize, T.size_wrap]
  have hdims : (xs.size : Int) = eₚ.dims.physicalSize := by
    rw [hrₚ.physicalSize_dims hpₚ hfitₚ, hxs, hcur, hplanar, storedSize_eq_prod,
      physicalOf_planar, size_eq_prod hsₜ hposₜ hprod]
  obtain ⟨p, hpack, hpsize, -⟩ := pack_spec hsₜ hokₜ hposₜ hvₜ hfitₜ xs hxs
  refine ⟨eₜ, eₚ, T.wrap p, hrunₜ, hrunₚ, hSeq,
    by rw [T.mapExcept_wrap, ← hcurₜ, ← hlayout, hpack]; rfl, ?_⟩
  intro vₜ vₚ iₜ iₚ htₜ htₚ hvsₜ hisₜ hvsₚ hisₚ
  obtain ⟨ysₜ, rfl⟩ := T.eq_wrap vₜ (htₜ.trans hxt)
  obtain ⟨ysₚ, rfl⟩ := T.eq_wrap vₚ (htₚ.trans hxt)
  rw [T.size_wrap] at hvsₜ hvsₚ
  obtain ⟨vₜ', iₜ', vₚ', iₚ', hrₜ', hrₚ', hunV, hunI⟩ := run_unpack_planar hrₜ hpₜ hrₚ hpₚ hcur
    haxis hconfig (by omega) hxs hpack hvsₜ (by omega : iₜ.size = ysₜ.size) hvsₚ
    (by omega : iₚ.size = ysₚ.size)
  -- both runs pass their checks and run over the arrays
  refine ⟨T.wrap vₜ', iₜ', T.wrap vₚ', iₚ', ?_, ?_, ?_, by rwa [← hlayout]⟩
  · refine hrₜ.execute_buffers hpₜ hsmallₜ (by rw [T.elemType_wrap, hcurₜ, ht])
      (by rw [T.elemType_wrap, T.elemType_wrap]) ?_ (by rwa [T.size_wrap]) hisₜ
      fun sp hw hl => by simp only [T.zipRanked_wrap, hrₜ' sp hw hl]
    rw [T.size_wrap, hrₜ.physicalSize_dims hpₜ hfitₜ, hpsize]
  · exact hrₚ.execute_buffers hpₚ hsmallₚ (by rw [T.elemType_wrap, hcur, hcurₜ, ht])
      (by rw [T.elemType_wrap, T.elemType_wrap]) (by rwa [T.size_wrap])
      (by rwa [T.size_wrap]) hisₚ fun sp hw hl => by simp only [T.zipRanked_wrap, hrₚ' sp hw hl]
  · rw [T.mapExcept_wrap, ← hlayout, hunV]
    rfl

/-- Two rows of three 32-bit integers stored in blocks of two channels, the largest of each row
kept: the blocked engine on the packed rows and the planar engine on the rows agree. -/
theorem layouts_agree_blocked_rows :
    let host : Host := { platform := ⟨"amd64", 32, 16⟩, cores := 2 }
    let e : Engine := { host, options := Options.default host }
    let c : Config := { axis := 1, k := 1, layout := Tag.blockedBy 2 }
    let s : Shape := ⟨ElemType.int32.toDType, [2, 3]⟩
    let x : Storage := .int32 #[5, 1, 4, 2, 6, 3]
    (∀ ch : SetupCheck, ch.Passes c s) ∧ s.isStatic = true ∧
      s.storedSize c.layout + e.pool.workers < 2 ^ 31 ∧ x.elemType.toDType = s.dtype ∧
      (x.size : Int) = s.size ∧
      ∃ eₜ eₚ p, (configure c s).run e = .ok () eₜ ∧
        (configure { c with layout := Tag.planar } s).run e = .ok () eₚ ∧
        eₜ.outputShape = eₚ.outputShape ∧ Storage.mapExcept (Layout.pack s c.layout) x = .ok p ∧
        ∀ (vₜ vₚ : Storage) (iₜ iₚ : Array Int), vₜ.elemType = x.elemType →
          vₚ.elemType = x.elemType → (vₜ.size : Int) = eₜ.outDims.physicalSize →
          (iₜ.size : Int) = eₜ.outDims.physicalSize → (vₚ.size : Int) = eₚ.outDims.physicalSize →
          (iₚ.size : Int) = eₚ.outDims.physicalSize →
          ∃ vₜ' iₜ' vₚ' iₚ',
            (eₜ.execute (.buffer p)).run (.buffer vₜ, iₜ) = .ok () (.buffer vₜ', iₜ') ∧
            (eₚ.execute (.buffer x)).run (.buffer vₚ, iₚ) = .ok () (.buffer vₚ', iₚ') ∧
            Storage.mapExcept (Layout.unpack eₜ.outputShape c.layout) vₜ' = .ok vₚ' ∧
            Layout.unpack eₜ.outputShape c.layout iₜ' = .ok iₚ' := by
  intro host e c s x
  have hall : ∀ ch : SetupCheck, ch.Passes c s := fun ch => by cases ch <;> decide
  exact ⟨hall, rfl, by decide, rfl, by decide,
    layouts_agree e c s hall rfl (by decide) x rfl (by decide)⟩

/-- Rows of three channels blocked by two, the channels resolved with one kept: the output
addressing is the input one with one channel. -/
theorem output_addressing_law_blocked :
    let s : Shape := ⟨ElemType.float32.toDType, [4, 3]⟩
    let t := Tag.blockedBy 2
    s.isStatic = true ∧ s.hasAxis 1 = true ∧ t.validateRank s.rank = .ok () ∧ (1 : Int) ≤ 1 ∧
    (∃ d s', Layout.resolve s 1 t = .ok d ∧ s.withDim 1 1 = .ok s' ∧
      Layout.resolve s' 1 t = .ok (d.withAxis 1)) ∧
    ∀ e : Engine, Reachable e → e.prepared = true →
      Layout.resolve e.outputShape e.axis e.config.layout = .ok e.outDims ∧
      Layout.physicalSize e.outputShape e.config.layout = .ok e.outDims.physicalSize := by
  intro s t
  have hs : s.isStatic = true := rfl
  have hax : s.hasAxis 1 = true := rfl
  have hv : t.validateRank s.rank = .ok () := (rfl : (Tag.blockedBy 2).validateRank 2 = .ok ())
  exact ⟨hs, hax, hv, le_rfl, output_addressing_law s 1 t 1 hs hax hv le_rfl⟩

end Select.Engine

end TensorSelect
