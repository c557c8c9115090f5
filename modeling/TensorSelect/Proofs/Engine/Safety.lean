import Mathlib
import TensorSelect.Proofs.Engine.Invariant
import TensorSelect.Proofs.Select.Run
import TensorSelect.Proofs.Pool.Saturate

/-!
# What a run that passes its checks does

A run checks its arguments (`checkRun`), makes the call arguments of its workers, and then sweeps
the input on the engine's pool; every read and write of the sweep is checked again against its
buffer, and the first offset outside one stops the run. This module shows that on every engine
that requests can reach, a run that passes its checks stops exactly on a `Hazard`
(`execute_completes`):

* an input or values argument that is no buffer of the element type, such as a `[]int`, which
  the checks take for 64-bit integers, or a slice of a named type: the first call takes it as
  one;
* call arguments for more workers than one allocation holds;
* a sweep shared by workers whose count, with the units, reaches `2^31`: the pool's wait group
  cannot count the workers, or its shared counter wraps and hands out the unit `-2^31 - 1`;
* the specialised kernel on a network of more than `2^31` positions, since it stores positions
  as 32-bit integers and reads a stored pair below zero.

Otherwise the run ends, having read and written inside its buffers. This needs the prepared
shape to fit a machine word, padding included: the sizes that the checks compare are machine
integers, and past that they wrap, so that buffers too short for the shape pass the checks.

The proof goes through what a reachable engine keeps (`Reachable.ready`): a prepared engine
holds the exact addressing of its shape (`Ready.dims_exact`), so its sweep computes every offset
exactly (`Ready.sweep_exact`); its tables were built for its shape, so the kernel finds the
label of every element and, on networks of at most `2^31` positions, reads no stored pair below
zero (`Ready.sweep_tabled`), and on larger ones reads one (`Ready.pairReads_neg`); and its
scratch buffers serve the run (`Ready.servesRun`).
-/

namespace TensorSelect

/-! ## Element types and buffers -/

theorem ElemType.toDType_inj {t u : ElemType} (h : t.toDType = u.toDType) : t = u := by
  have := congrArg DType.elemType? h
  simpa using this

theorem ElemType.toDType_ne_invalid (t : ElemType) : t.toDType ≠ DType.invalid := by
  intro h
  have hcode := congrArg DType.elemType? h
  have hnone : DType.invalid.elemType? = none := rfl
  rw [ElemType.elemType?_toDType, hnone] at hcode
  cases hcode

theorem Shape.rank_of_fits {s t : Shape} (h : s.fits t = true) : s.rank = t.rank := by
  simp only [Shape.fits, Bool.and_eq_true, beq_iff_eq] at h
  exact h.1.2

theorem Shape.dtype_of_fits {s t : Shape} (h : s.fits t = true) : s.dtype = t.dtype := by
  simp only [Shape.fits, Bool.and_eq_true, beq_iff_eq] at h
  exact h.1.1

/-- Two buffers of one ordered type combine: the operation runs on their arrays. -/
theorem Storage.zipRanked_eq_some {γ : Type}
    (op : {α : Type} → [Ranked α] → [Inhabited α] → Array α → Array α → Array α × γ)
    {i v : Storage} (h : i.elemType = v.elemType) (hb : i.elemType ≠ .bool) (P : γ → Prop)
    (hop : ∀ {α : Type} [Ranked α] [Inhabited α] (xs ys : Array α), xs.size = i.size →
      ys.size = v.size → P (op xs ys).2) :
    ∃ r g, Storage.zipRanked op i v = some (r, g) ∧ P g := by
  cases i <;> cases v <;> first
    | exact ⟨_, _, rfl, hop _ _ rfl rfl⟩
    | exact absurd rfl hb
    | exact absurd h (by simp [Storage.elemType])

namespace Select.Operand

/-- Whether an argument is a buffer, a slice of its element type. -/
def isBuffer : Operand → Bool
  | buffer _ => true
  | _ => false

/-- A buffer argument of an ordered type is a buffer of that type. -/
theorem eq_buffer {x : Operand} (hb : x.isBuffer = true) {t : ElemType}
    (hd : x.dtype = t.toDType) : ∃ b : Storage, x = .buffer b ∧ b.elemType = t := by
  cases x with
  | buffer b => exact ⟨b, rfl, ElemType.toDType_inj hd⟩
  | _ => simp [isBuffer] at hb

theorem ne_buffer {x : Operand} (hb : x.isBuffer = false) (b : Storage) : x ≠ .buffer b := by
  rintro rfl
  simp [isBuffer] at hb

end Select.Operand

/-! ## How the pool hands out the units -/

/-- How a sweep of `n ≥ 1` units that the pool starts hands them out: at least one unit first,
all of them in order unless the counter wraps, and the counter wraps exactly when the sweep is
shared and its units and workers reach `2^31`. -/
theorem Pool.spread_of_sweep {p : Pool} {n t : Int} {sp : Spread} (hn : 1 ≤ n)
    (h : p.sweep n t = .ok sp) :
    1 ≤ sp.leading ∧ (sp.wraps = false → sp.leading = n.toNat) ∧
      (sp.wraps = true ↔ (!p.isEnabled || n < max t 2 || p.workers == 1) = false ∧
        2 ^ 31 ≤ n + p.workers) := by
  cases hsh : (!p.isEnabled || n < max t 2 || p.workers == 1) with
  | true =>
    rw [p.sweep_of_inline (by omega) hsh] at h
    cases h
    simp only [Spread.leading, Spread.wraps]
    exact ⟨by omega, fun _ => trivial, by simp⟩
  | false =>
    rw [p.sweep_of_shared (by omega) hsh] at h
    have hl : p.limit ≠ 0 := by
      simp only [Bool.or_eq_false_iff, Bool.not_eq_false', Pool.isEnabled, bne_iff_ne] at hsh
      exact hsh.1.1
    -- the sweep was started, so the pool has fewer than `2^31` workers
    have hW : p.workers < 2 ^ 31 := by
      by_contra hW
      rw [p.saturate_of_le hl (by omega)] at h
      cases h
    rw [p.saturate_of_lt hW] at h
    simp only [Except.map, List.length_range, Except.ok.injEq] at h
    subst h
    simp only [Spread.leading, Spread.wraps, decide_eq_true_eq, true_and]
    refine ⟨by split <;> omega, fun hw => ?_, by omega⟩
    simp only [decide_eq_false_iff_not, not_le] at hw
    rw [if_pos hw]

/-- A sweep of `n ≥ 1` units that the pool runs inline, or shares among workers whose count,
with the units, stays below `2^31`, is started, and hands out every unit in order. -/
theorem Pool.spread_of_lt {p : Pool} {n t : Int} (hn : 1 ≤ n)
    (h : (!p.isEnabled || n < max t 2 || p.workers == 1) = false → n + p.workers < 2 ^ 31) :
    ∃ sp, p.sweep n t = .ok sp ∧ sp ≠ .idle ∧ sp.wraps = false ∧ sp.leading = n.toNat := by
  obtain ⟨sp, hsw⟩ : ∃ sp, p.sweep n t = .ok sp := by
    cases hsh : (!p.isEnabled || n < max t 2 || p.workers == 1) with
    | true => exact ⟨_, p.sweep_of_inline (by omega) hsh⟩
    | false => exact p.sweep_ok_of_lt (by have := h hsh; omega) _ _
  obtain ⟨hlead, hall, hwraps⟩ := Pool.spread_of_sweep hn hsw
  have hnw : sp.wraps = false := by
    cases hw : sp.wraps
    · rfl
    · obtain ⟨hsh, hbig⟩ := hwraps.1 hw
      have := h hsh
      omega
  refine ⟨sp, hsw, ?_, hnw, hall hnw⟩
  rintro rfl
  simp [Spread.leading] at hlead

namespace Select.Engine

/-! ## What the checks of a run establish -/

theorem checkRun_ok {e : Engine} {input values : Operand} {indices : Array Int}
    (h : e.checkRun input values indices = .ok ()) :
    e.configured = true ∧ e.prepared = true ∧ input.dtype = e.current.dtype ∧
      values.dtype = e.current.dtype ∧ input.length = e.dims.physicalSize ∧
      values.length = e.outDims.physicalSize ∧ (indices.size : Int) = e.outDims.physicalSize := by
  unfold checkRun at h
  simp at h
  split_ifs at h with h0 h1 h2 h3 h4 h5
  obtain ⟨hc, hp⟩ := not_or.1 h0
  exact ⟨by simpa using hc, by simpa using hp, h1, h2, h3, h4, h5⟩

open SetupCheck

/-! ## Prepared engines -/

section Prepared

variable {e : Engine}

/-- A prepared engine selects over an ordered element type. -/
theorem Ready.current_ordered (hr : Ready e) (hp : e.prepared = true) :
    ∃ t : ElemType, e.current.dtype = t.toDType ∧ t ≠ .bool := by
  have hP := hr.prepared hp
  have hC := hr.configured hP.configured
  obtain ⟨t, ht, hb⟩ := hC.shape dtypeOrdered (by simp [SetupCheck.shape])
  exact ⟨t, (Shape.dtype_of_fits hP.fits).symm.trans ht, hb⟩

/-- The axis of a configured engine is an axis of every shape that fits the configured one, and
its layout is usable at the shape's rank. -/
theorem Configured.axis_layout (hC : Configured e) {s : Shape} (hf : e.shape.fits s = true) :
    e.axis < s.rank ∧ e.config.layout.validateRank s.rank = .ok () := by
  have hrank : e.shape.rank = s.rank := Shape.rank_of_fits hf
  constructor
  · rw [hC.axis, ← hrank]
    exact axisIndex_lt _ _ (hC.shape axisInRange (by simp [SetupCheck.shape]))
  · have htag := hC.settings tagValid (by simp [SetupCheck.settings])
    rw [Tag.validateRank_eq (by rw [Tag.validate_eq]; exact if_pos htag), ← hrank]
    exact if_pos (hC.shape tagFitsRank (by simp [SetupCheck.shape]))

/-- The axis of a prepared engine is an axis of its prepared shape, and its layout is usable at
the shape's rank. -/
theorem Ready.axis_layout (hr : Ready e) (hp : e.prepared = true) :
    e.axis < e.current.rank ∧ e.config.layout.validateRank e.current.rank = .ok () := by
  have hP := hr.prepared hp
  exact (hr.configured hP.configured).axis_layout hP.fits

/-- A prepared engine whose shape fits a machine word holds the exact addressing of its axis. -/
theorem Ready.dims_exact (hr : Ready e) (hp : e.prepared = true)
    (hfit : e.current.storedSize e.config.layout < 2 ^ 63) :
    e.dims.Exact ∧ e.dims.axis = e.current.dims.getD e.axis 0 := by
  have hP := hr.prepared hp
  obtain ⟨ha, hv⟩ := hr.axis_layout hp
  obtain ⟨d, hd, hex, hax, -⟩ := Layout.resolve_exact hP.static hP.dims_pos ha hv hfit
  rw [hP.resolve] at hd
  cases hd
  exact ⟨hex, hax⟩

/-- The sweep of a prepared engine whose shape fits a machine word computes every offset
exactly. -/
theorem Ready.sweep_exact (hr : Ready e) (hp : e.prepared = true)
    (hfit : e.current.storedSize e.config.layout < 2 ^ 63) : e.sweep.Exact := by
  have hP := hr.prepared hp
  have hC := hr.configured hP.configured
  obtain ⟨hd, hax⟩ := hr.dims_exact hp hfit
  have hk1 : 1 ≤ e.config.k := hC.settings kPositive (by simp [SetupCheck.settings])
  have hk : e.config.k ≤ e.dims.axis := hax ▸ hP.k_le
  have hl := Dims.one_le_lanes e.dims
  refine { dims := hd, outDims := ?_, outer := ?_, inner := ?_, blocked := ?_, k_le := ?_,
           lanes_pos := ?_, lanes_dvd := ?_, one_lane := ?_ }
  · show e.outDims.Exact
    rw [hP.outDims]
    exact hd.withAxis hk1 hk
  · show e.outDims.outer = e.dims.outer
    rw [hP.outDims, Dims.outer_withAxis]
  · show e.outDims.inner = e.dims.inner
    rw [hP.outDims, Dims.inner_withAxis]
  · show e.outDims.axisBlocked = e.dims.axisBlocked
    rw [hP.outDims, Dims.axisBlocked_withAxis]
  · show ((e.config.k.toNat : Nat) : Int) ≤ e.outDims.axis
    rw [hP.outDims, Dims.axis_withAxis]
    omega
  · show 1 ≤ (e.workAmount e.dims).toNat
    unfold workAmount
    split <;> omega
  · show ((e.workAmount e.dims).toNat : Int) ∣ e.dims.inner
    unfold workAmount
    split
    · rw [Int.toNat_of_nonneg (by omega)]
      exact hd.lanes_dvd
    · simp
  · -- one lane at a time unless the kernel runs on an axis that is not blocked
    show e.dims.axisBlocked = true ∨ e.sweep.method.implementation = .reference →
      (e.workAmount e.dims).toNat = 1
    intro h
    unfold workAmount
    split
    · rename_i hkernel
      rcases h with h | h
      · simp [Dims.lanes, h]
      · simp [sweep, hkernel] at h
    · rfl

/-- What the calls of a run use besides their buffers: the networks of the run fit the axis
and the `k` kept entries, and every worker has a scratch buffer of the run's element type with
room, on every lane, for every position a unit uses. -/
structure ServesRun (e : Engine) : Prop where
  network : e.sweep.method.network.Covers e.dims.axis.toNat e.sweep.method.k
    (e.algorithm == .bitonic) (e.config.sortBy == .index)
  scratch : ∀ w < e.pool.workers, ∃ b, e.scratch[w]? = some b ∧ b.dtype = e.current.dtype ∧
    max (max e.sweep.method.network.size e.sweep.method.network.indexSize) e.sweep.method.k *
      e.sweep.lanes ≤ b.size

/-- A prepared engine whose shape fits a machine word runs the tables built for its shape: the
networks of its axis and `k`, and the labels of its axis and lanes, which bound the axis. -/
theorem Ready.sweep_tables (hr : Ready e) (hp : e.prepared = true)
    (hfit : e.current.storedSize e.config.layout < 2 ^ 63) :
    ∃ t l, e.tables = some t ∧ Tables.build (e.tablesKey e.current e.dims) = .ok t ∧
      Labels.build e.dims.axis (e.workAmount e.dims) = .ok l ∧
      e.sweep.method.network = Network.forPasses e.dims.axis e.config.k
        (e.algorithm == .bitonic) (e.config.sortBy == .index) ∧
      e.sweep.labels = l.lane (e.workAmount e.dims) := by
  have hP := hr.prepared hp
  obtain ⟨-, hax⟩ := hr.dims_exact hp hfit
  obtain ⟨t, ht, hbuild, -⟩ := hP.tables
  obtain ⟨-, l, hl, rfl⟩ := Tables.eq_of_build hbuild
  refine ⟨_, l, ht, hbuild, ?_, ?_, ?_⟩
  · rw [hax]
    exact hl
  · simp [sweep, ht, tablesKey, hax]
  · simp [sweep, ht]

/-- The engine's sweep applies networks that fit its axis and `k`, and its scratch buffers have
room for them. -/
theorem Ready.servesRun (hr : Ready e) (hp : e.prepared = true)
    (hfit : e.current.storedSize e.config.layout < 2 ^ 63) : e.ServesRun := by
  have hP := hr.prepared hp
  have hC := hr.configured hP.configured
  obtain ⟨-, hax⟩ := hr.dims_exact hp hfit
  obtain ⟨t, l, ht, hbuild, hl, hnet, -⟩ := hr.sweep_tables hp hfit
  obtain ⟨hA0, hAb⟩ := Labels.axis_mul_le hl (e.one_le_workAmount e.dims)
  have hk1 : 1 ≤ e.config.k := hC.settings kPositive (by simp [SetupCheck.settings])
  have hk : e.config.k ≤ e.dims.axis := hax ▸ hP.k_le
  have hL := e.one_le_workAmount e.dims
  have hA : e.dims.axis ≤ 2 ^ 46 := by nlinarith
  refine ⟨?_, ?_⟩
  · rw [hnet]
    exact Network.forPasses_covers (e.algorithm == .bitonic) (e.config.sortBy == .index)
      (by omega) (by omega)
  · intro w hw
    obtain ⟨t', ht', hbuild', hscratch⟩ := hP.tables
    obtain ⟨b, hb, hserves⟩ := hscratch w hw
    rw [ht] at ht'
    cases ht'
    simp only [Scratch.serves, Bool.and_eq_true, beq_iff_eq, decide_eq_true_eq,
      hP.scratchSize_eq hC hbuild] at hserves
    refine ⟨b, hb, hserves.1, ?_⟩
    obtain ⟨-, l', -, rfl⟩ := Tables.eq_of_build hbuild
    have hlanes : (e.sweep.lanes : Int) = e.workAmount e.dims := Int.toNat_of_nonneg (by omega)
    have hkk : (e.sweep.method.k : Int) = e.config.k := Int.toNat_of_nonneg (by omega)
    rw [hnet, hlanes, hkk, hax]
    exact hserves.2

/-- The stored pairs that the kernel of a prepared engine reads are not negative when its
networks have at most `2^31` positions, and its labels are the places along the axis: its
tables serve its sweep. -/
theorem Ready.sweep_tabled (hr : Ready e) (hp : e.prepared = true)
    (hfit : e.current.storedSize e.config.layout < 2 ^ 63)
    (hsmall : e.usesKernel = true → (e.algorithm = .bitonic → e.dims.axis ≤ 2 ^ 31) ∧
      (e.config.sortBy = .index → e.config.k ≤ 2 ^ 31)) : e.sweep.Tabled := by
  obtain ⟨t, l, -, -, hl, hnet, hlab⟩ := hr.sweep_tables hp hfit
  have hL := e.one_le_workAmount e.dims
  constructor
  · intro hk j hj lane hlane
    rw [hlab]
    exact Labels.getElem?_lane hl hL hj hlane
  · intro p hp'
    simp only [Sweep.pairReads] at hp'
    split at hp'
    · -- the kernel reads the pairs of the networks it applies, stored exactly
      rename_i hk
      have hkern : e.usesKernel = true := by
        by_contra h
        simp [sweep, h] at hk
      obtain ⟨hv, hi⟩ := hsmall hkern
      simp only [List.mem_flatMap, List.mem_append, List.mem_range, List.mem_cons,
        List.mem_nil_iff, or_false] at hp'
      obtain ⟨q, hq, lane, -, hread⟩ := hp'
      have hstored : 0 ≤ (storedPair q).1 ∧ 0 ≤ (storedPair q).2 := by
        rw [hnet] at hq
        simp only [Network.valuePairs_forPasses, Network.indexPairs_forPasses] at hq
        rcases hq with hq | hq
        · split at hq
          · rename_i hb
            simp only [beq_iff_eq] at hb
            split at hq
            · exact storedPair_nonneg_of_le (hv (by simpa [sweep] using hb)) hq
            · simp at hq
          · simp at hq
        · split at hq
          · rename_i hb
            simp only [beq_iff_eq] at hb
            split at hq
            · exact storedPair_nonneg_of_le (hi (by simpa [sweep] using hb)) hq
            · simp at hq
          · simp at hq
      -- a stored position times the lanes, plus a lane, is not negative
      rcases hread with hread | hread
      · rw [hread]
        exact add_nonneg (mul_nonneg hstored.2 (Int.natCast_nonneg _)) (Int.natCast_nonneg _)
      · rw [hread]
        exact add_nonneg (mul_nonneg hstored.1 (Int.natCast_nonneg _)) (Int.natCast_nonneg _)
    · simp at hp'

/-- The kernel of a prepared engine on a network of more than `2^31` positions reads a stored
pair below zero: the network has at least `2^32` positions, and its first stage compares
`2^31` with `2^31 + 1`, both stored below zero. -/
theorem Ready.pairReads_neg (hr : Ready e) (hp : e.prepared = true)
    (hfit : e.current.storedSize e.config.layout < 2 ^ 63)
    (hbig : e.usesKernel = true ∧ ((e.algorithm = .bitonic ∧ 2 ^ 31 < e.dims.axis) ∨
      (e.config.sortBy = .index ∧ 2 ^ 31 < e.config.k))) :
    ∃ p ∈ e.sweep.pairReads, p < 0 := by
  have hP := hr.prepared hp
  obtain ⟨-, hax⟩ := hr.dims_exact hp hfit
  obtain ⟨t, l, -, -, hl, hnet, -⟩ := hr.sweep_tables hp hfit
  obtain ⟨hA0, hAb⟩ := Labels.axis_mul_le hl (e.one_le_workAmount e.dims)
  have hL := e.one_le_workAmount e.dims
  have hk : e.config.k ≤ e.dims.axis := hax ▸ hP.k_le
  have hA : e.dims.axis ≤ 2 ^ 46 := by nlinarith
  obtain ⟨hkern, hcase⟩ := hbig
  -- a network rounded up from more than `2^31` positions has `2^m ≥ 2^32` of them
  have hround : ∀ n : Int, 2 ^ 31 < n → n ≤ 2 ^ 46 →
      ((2 ^ 31 : Nat), (2 ^ 31 + 1 : Nat)) ∈ bitonicPairs (nextPow2Word n).toNat := by
    intro n h1 h2
    obtain ⟨m, hm⟩ := nextPow2_eq_pow n.toNat
    have hle := le_nextPow2 n.toNat
    have hm32 : 32 ≤ m := by
      by_contra hlt
      have : 2 ^ m ≤ 2 ^ 31 := Nat.pow_le_pow_right (by decide) (by omega)
      omega
    rw [nextPow2Word_of_le (by omega), Int.toNat_natCast, hm]
    exact mem_bitonicPairs_of_le hm32
  have hmem : ((2 ^ 31 : Nat), (2 ^ 31 + 1 : Nat)) ∈
      (if e.sweep.method.algorithm == .bitonic then e.sweep.method.network.valuePairs else []) ++
        (if e.sweep.method.sortBy == .index then e.sweep.method.network.indexPairs else []) := by
    rw [hnet]
    rcases hcase with ⟨hb, hbig⟩ | ⟨hi, hbig⟩
    · apply List.mem_append_left
      simp only [sweep, hb, beq_self_eq_true, if_true, Network.valuePairs_forPasses]
      exact hround _ hbig hA
    · apply List.mem_append_right
      simp only [sweep, hi, beq_self_eq_true, if_true, Network.indexPairs_forPasses]
      exact hround _ hbig (by omega)
  have hkernel : e.sweep.method.implementation = .kernel := by simp [sweep, hkern]
  refine ⟨(storedPair ((2 ^ 31 : Nat), (2 ^ 31 + 1 : Nat))).2 * e.sweep.lanes + (0 : Nat), ?_, ?_⟩
  · simp only [Sweep.pairReads, hkernel]
    exact List.mem_flatMap.2 ⟨_, hmem, List.mem_flatMap.2 ⟨0, List.mem_range.2 (by
      show 0 < (e.workAmount e.dims).toNat
      omega), List.mem_cons_self ..⟩⟩
  · rw [storedPair_two_pow_31]
    have : (1 : Int) ≤ e.sweep.lanes := by
      show (1 : Int) ≤ ((e.workAmount e.dims).toNat : Int)
      omega
    push_cast
    nlinarith

end Prepared

/-! ## Runs -/

section Runs

variable {α : Type} [Ranked α] [Inhabited α] {s : Sweep} {sp : Spread}

theorem runArrays_of_inBounds (hw : sp.wraps = false) (hl : sp.leading = s.unitCount)
    {input values : Array α} {indices : Array Int} (h : s.InBounds input.size values.size)
    (hsize : indices.size = values.size) : (runArrays s sp input values indices).2.2 = none := by
  simp [runArrays, s.runSpread_eq_run input hw hl, Sweep.run_of_inBounds s input h hsize]

theorem runArrays_stop_of_pairReads (hl : 1 ≤ sp.leading) (input values : Array α)
    (indices : Array Int) (h : ∃ p ∈ s.pairReads, p < 0) :
    (runArrays s sp input values indices).2.2.isSome = true := by
  obtain ⟨q, st', hq⟩ := s.runSpread_error_of_pairReads input hl (values, indices) h
  simp [runArrays, hq]

end Runs

/-- What stops a run that passed its checks before its sweep ends: an input or values argument
that is no buffer of the element type (a `[]int`, a slice of a named type); call arguments for
more workers than one allocation holds; a sweep shared by workers whose count, with the units,
reaches `2^31`, which the pool's wait group cannot count or whose shared counter wraps; or the
specialised kernel on a network of more than `2^31` positions, which it stores below zero. -/
def Hazard (e : Engine) (input values : Operand) : Prop :=
  input.isBuffer = false ∨ values.isBuffer = false ∨ Panic.maxAlloc < e.pool.workers * 184 ∨
    ((!e.pool.isEnabled || (e.sweep.unitCount : Int) < max e.options.minParallelUnits 2 ||
        e.pool.workers == 1) = false ∧ 2 ^ 31 ≤ e.sweep.unitCount + e.pool.workers) ∨
    (e.usesKernel = true ∧ ((e.algorithm = .bitonic ∧ 2 ^ 31 < e.dims.axis) ∨
      (e.config.sortBy = .index ∧ 2 ^ 31 < e.config.k)))

instance (e : Engine) (input values : Operand) : Decidable (e.Hazard input values) := by
  unfold Hazard
  infer_instance

section Execute

variable {e : Engine} {input values : Operand} {indices : Array Int}

/-- On a prepared engine whose shape fits a machine word, a run that passes its checks and meets
a hazard stops: before the sweep, at the first call, or where the counter wraps. -/
theorem execute_error_of_hazard (hr : Ready e) (hp : e.prepared = true)
    (hfit : e.current.storedSize e.config.layout < 2 ^ 63)
    (hc : e.checkRun input values indices = .ok ()) (hz : e.Hazard input values) :
    ∃ err st, (e.execute input).run (values, indices) = .error err st := by
  have hex := hr.sweep_exact hp hfit
  have h0 := hex.unitCount_ne_zero
  obtain ⟨-, -, hdi, hdv, -, -, -⟩ := checkRun_ok hc
  obtain ⟨t, ht, hbool⟩ := hr.current_ordered hp
  cases hm : Panic.checkMake e.pool.workers 184 with
  | error q => exact ⟨_, _, execute_run_of_args_error hc hm⟩
  | ok _ =>
  cases hsw : e.pool.sweep e.sweep.unitCount e.options.minParallelUnits with
  | error q => exact ⟨_, _, execute_run_of_sweep_error hc hm hsw⟩
  | ok sp =>
  obtain ⟨hlead, -, hwraps⟩ := Pool.spread_of_sweep (by omega) hsw
  have hsp : sp ≠ .idle := by rintro rfl; simp [Spread.leading] at hlead
  -- an argument that is no buffer stops the first call
  cases hib : input.isBuffer with
  | false => exact ⟨_, _, execute_run_of_input hc hm hsw hsp (Operand.ne_buffer hib)⟩
  | true =>
  obtain ⟨i, rfl, hi⟩ := Operand.eq_buffer hib (hdi.trans ht)
  cases hvb : values.isBuffer with
  | false => exact ⟨_, _, execute_run_of_values hm hsw hsp hc (Operand.ne_buffer hvb)⟩
  | true =>
  obtain ⟨v, rfl, hv⟩ := Operand.eq_buffer hvb (hdv.trans ht)
  -- over buffers, the sweep stops on a stored pair below zero, or the counter wraps
  have hrest : sp.wraps = true ∨ ∃ p ∈ e.sweep.pairReads, p < 0 := by
    rcases hz with h | h | h | h | h
    · simp [Operand.isBuffer] at h
    · simp [Operand.isBuffer] at h
    · rw [Panic.checkMake_eq_ok] at hm
      omega
    · exact .inl (hwraps.2 ⟨h.1, by exact_mod_cast h.2⟩)
    · exact .inr (hr.pairReads_neg hp hfit h)
  obtain ⟨r, g, hzip, hg⟩ := Storage.zipRanked_eq_some
    (fun is vs => runArrays e.sweep sp is vs indices) (hi.trans hv.symm) (by rw [hi]; exact hbool)
    (fun g => (∃ p ∈ e.sweep.pairReads, p < 0) → g.2.isSome = true)
    (fun xs ys _ _ hneg => runArrays_stop_of_pairReads hlead xs ys indices hneg)
  obtain ⟨is', stop⟩ := g
  rw [execute_run_of_buffers hm hsw hsp hc hzip]
  cases stop with
  | some q => exact ⟨_, _, rfl⟩
  | none =>
    rcases hrest with hw | hneg
    · simp only [hw, if_true]
      exact ⟨_, _, rfl⟩
    · simp only [Option.isSome_none, Bool.false_eq_true, imp_false] at hg
      exact absurd hneg hg

/-- On a prepared engine whose shape fits a machine word, a run that passes its checks and meets
no hazard runs to the end, inside its buffers. -/
theorem execute_ok_of_safe (hr : Ready e) (hp : e.prepared = true)
    (hfit : e.current.storedSize e.config.layout < 2 ^ 63)
    (hc : e.checkRun input values indices = .ok ()) (hz : ¬ e.Hazard input values) :
    e.sweep.InBounds input.length values.length ∧
      ∃ st, (e.execute input).run (values, indices) = .ok () st := by
  have hex := hr.sweep_exact hp hfit
  have h0 := hex.unitCount_ne_zero
  obtain ⟨-, -, hdi, hdv, hli, hlv, hls⟩ := checkRun_ok hc
  obtain ⟨t, ht, hbool⟩ := hr.current_ordered hp
  simp only [Hazard, not_or, not_and, not_lt, Bool.not_eq_false] at hz
  obtain ⟨hib, hvb, hm, hshared, hsmall⟩ := hz
  have htab := hr.sweep_tabled hp hfit fun hk =>
    ⟨fun hb => (hsmall hk).1 hb, fun hi => (hsmall hk).2 hi⟩
  have hin : e.sweep.InBounds input.length values.length := by
    rw [hli, hlv]
    exact hex.inBounds htab
  refine ⟨hin, ?_⟩
  obtain ⟨i, rfl, hi⟩ := Operand.eq_buffer hib (hdi.trans ht)
  obtain ⟨v, rfl, hv⟩ := Operand.eq_buffer hvb (hdv.trans ht)
  have hm' : Panic.checkMake e.pool.workers 184 = .ok () :=
    Panic.checkMake_eq_ok.2 ⟨by omega, by omega⟩
  -- the pool starts the sweep and hands out every unit, in order
  obtain ⟨sp, hsw, hsp, hnw, hall⟩ := Pool.spread_of_lt (t := e.options.minParallelUnits)
    (show (1 : Int) ≤ e.sweep.unitCount by omega) (fun hsh => by have := hshared hsh; omega)
  obtain ⟨r, g, hzip, hg⟩ := Storage.zipRanked_eq_some
    (fun is vs => runArrays e.sweep sp is vs indices) (hi.trans hv.symm) (by rw [hi]; exact hbool)
    (fun g => g.2 = none) (by
      intro α _ _ xs ys hxs hys
      apply runArrays_of_inBounds hnw (by rw [hall]; omega)
      · rw [hxs, hys]
        simpa [Operand.length] using hin
      · have : (indices.size : Int) = ys.size := by rw [hys, hls, ← hlv]; rfl
        exact_mod_cast this)
  obtain ⟨is', stop⟩ := g
  dsimp only at hg
  subst hg
  rw [execute_run_of_buffers hm' hsw hsp hc hzip]
  simp only [hnw, Bool.false_eq_true, if_false]
  exact ⟨_, rfl⟩

end Execute

/-- On every engine that requests can reach, a run either fails a check before it writes
anything; or passes the checks, meets a hazard and stops, without failing a check (an argument
that is no buffer of the element type, call arguments too large to make, a shared sweep whose
workers and units reach `2^31`, or the kernel on a network of more than `2^31` positions); or
passes the checks, meets no hazard and runs to the end: every offset it reads lies in the input,
every label in the labels, every offset it writes in the values and indices, the networks it
applies fit what they sort, and every worker's scratch buffer serves it. This needs the prepared
shape to fit a machine word, padding included; the sizes are computed as machine integers and
wrap past it. -/
theorem execute_completes (e : Engine) (he : Reachable e)
    (hfit : e.prepared = true → e.current.storedSize e.config.layout < 2 ^ 63)
    (input values : Operand) (indices : Array Int) :
    (∃ err, (e.execute input).run (values, indices) = .error (.check err) (values, indices)) ∨
      (e.checkRun input values indices = .ok () ∧ e.Hazard input values ∧
        ∃ err st, (e.execute input).run (values, indices) = .error err st ∧
          ∀ c, err ≠ .check c) ∨
      (e.checkRun input values indices = .ok () ∧ ¬ e.Hazard input values ∧
        e.sweep.InBounds input.length values.length ∧ (indices.size : Int) = values.length ∧
        e.ServesRun ∧ ∃ st, (e.execute input).run (values, indices) = .ok () st) := by
  cases hc : e.checkRun input values indices with
  | error err => exact .inl ⟨err, execute_run_of_checkRun_error hc⟩
  | ok u =>
    right
    have hr := he.ready
    obtain ⟨-, hp, -, -, -, hlv, hls⟩ := checkRun_ok hc
    by_cases hz : e.Hazard input values
    · -- a stop past the checks is no failed check
      left
      obtain ⟨err, st, hrun⟩ := execute_error_of_hazard hr hp (hfit hp) hc hz
      refine ⟨rfl, hz, err, st, hrun, ?_⟩
      rintro c rfl
      have := (checkRun_of_execute_check hrun).1
      rw [hc] at this
      cases this
    · right
      obtain ⟨hin, hrun⟩ := execute_ok_of_safe hr hp (hfit hp) hc hz
      exact ⟨rfl, hz, hin, by rw [hls, hlv], hr.servesRun hp (hfit hp), hrun⟩

/-- The engine of a machine with four cores, configured to keep the two largest of each row of
a `2 × 3` tensor of binary32 values: configuring a static shape prepares it at once. -/
def rowsEngine : Engine :=
  let host : Host := { platform := ⟨"amd64", 32, 16⟩, cores := 4 }
  after ((configure { axis := 1, k := 2 } ⟨ElemType.float32.toDType, [2, 3]⟩).run
    { host, options := Options.default host })

/-- The engine above keeps the two largest of each row of `2 × 3` values, once prepared. -/
example : rowsEngine.prepared = true ∧ rowsEngine.dims.exactSize = 6 := by
  decide

theorem reachable_rowsEngine : Reachable rowsEngine := by
  unfold rowsEngine
  exact .configured _ _ (.created _ _) (by decide)

theorem rowsEngine_fits :
    rowsEngine.prepared = true → rowsEngine.current.storedSize rowsEngine.config.layout < 2 ^ 63 := by
  decide

theorem execute_completes_rows :
    Reachable rowsEngine ∧
      (rowsEngine.prepared = true →
        rowsEngine.current.storedSize rowsEngine.config.layout < 2 ^ 63) ∧
      ((∃ err, (rowsEngine.execute (.buffer (.float32 (Array.replicate 6 default)))).run
          (.buffer (.float32 (Array.replicate 4 default)), Array.replicate 4 0) =
          .error (.check err) (.buffer (.float32 (Array.replicate 4 default)), Array.replicate 4 0)) ∨
        (rowsEngine.checkRun (.buffer (.float32 (Array.replicate 6 default)))
            (.buffer (.float32 (Array.replicate 4 default))) (Array.replicate 4 0) = .ok () ∧
          rowsEngine.Hazard (.buffer (.float32 (Array.replicate 6 default)))
            (.buffer (.float32 (Array.replicate 4 default))) ∧
          ∃ err st, (rowsEngine.execute (.buffer (.float32 (Array.replicate 6 default)))).run
            (.buffer (.float32 (Array.replicate 4 default)), Array.replicate 4 0) =
            .error err st ∧ ∀ c, err ≠ .check c) ∨
        (rowsEngine.checkRun (.buffer (.float32 (Array.replicate 6 default)))
            (.buffer (.float32 (Array.replicate 4 default))) (Array.replicate 4 0) = .ok () ∧
          ¬ rowsEngine.Hazard (.buffer (.float32 (Array.replicate 6 default)))
            (.buffer (.float32 (Array.replicate 4 default))) ∧
          rowsEngine.sweep.InBounds 6 4 ∧ ((Array.replicate 4 (0 : Int)).size : Int) = 4 ∧
          rowsEngine.ServesRun ∧
          ∃ st, (rowsEngine.execute (.buffer (.float32 (Array.replicate 6 default)))).run
            (.buffer (.float32 (Array.replicate 4 default)), Array.replicate 4 0) = .ok () st)) := by
  exact ⟨reachable_rowsEngine, rowsEngine_fits,
    execute_completes rowsEngine reachable_rowsEngine rowsEngine_fits _ _ _⟩

end Select.Engine

end TensorSelect
