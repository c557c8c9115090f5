import Mathlib
import TensorSelect.Select.Sweep
import TensorSelect.Proofs.Layout.Addressing

/-!
# Runs that stay inside their buffers

A sweep runs its units one after the other. Each unit checks the offsets it reads against the
input and the labels, then the scratch indices of the stored pairs of its networks, and then
writes, checking each offset against the outputs; it stops at the first one outside. This
module says when none is outside and what the run then leaves:

* `InBounds n m`: every offset that a unit reads lies in `[0, n)`, every label it reads in the
  labels, no stored pair it reads is below zero, and every offset it writes lies in `[0, m)`;
* `run_of_inBounds`: such a sweep runs to the end, and leaves the outputs with every write of
  every unit made in order (`written`);
* `runSpread_eq_forM`: a pool runs the units in the order that it hands them out
  (`Spread.order`), which is the order in which every race that ends starts its calls
  (`Pool.sweep_runs_every_unit_once`); when the counter does not wrap that is the sweep itself
  (`runSpread_eq_run`);
* `runSpread_error_of_pairReads`: a run whose kernel reads a stored pair below zero stops at its
  first unit;
* `Exact`: the addressings compute every offset exactly and the units tile the work items;
  `Exact.inBounds` shows that such a sweep, with tables that serve it (`Tabled`), stays inside
  buffers of the sizes of its addressings, through `address_eq_place`: a call reaches each
  element at its exact position.
-/

namespace TensorSelect

namespace Select.Sweep

variable (s : Sweep)

/-! ## Offsets -/

/-- The input offsets that the call at `(o, i)` reads, in the order it reads them. -/
def reads (o i : Int) : List Int :=
  (List.range s.dims.axis.toNat).flatMap fun (j : Nat) =>
    (List.range s.lanes).map fun (lane : Nat) => s.address s.dims o i j lane

/-- The input offsets that unit `u` reads. -/
def unitReads (u : Nat) : List Int := s.reads (s.unitStart u).1 (s.unitStart u).2

/-- The output offsets that the call at `(o, i)` writes, in the order it writes them. -/
def writeOffsets (o i : Int) : List Int :=
  (List.range s.method.k).flatMap fun (r : Nat) =>
    (List.range s.lanes).map fun (lane : Nat) => s.address s.outDims o i r lane

/-- Every offset that a sweep reads lies in an input of `n` elements and every label it reads in
its labels, no stored pair that it reads is below zero, and every offset it writes lies in
outputs of `m` elements. -/
structure InBounds (n m : Int) : Prop where
  reads : ∀ u < s.unitCount, ∀ off ∈ s.unitReads u, 0 ≤ off ∧ off < n
  labels : s.method.implementation = .kernel → s.dims.axis.toNat * s.lanes ≤ s.labels.size
  pairs : ∀ p ∈ s.pairReads, 0 ≤ p
  writes : ∀ u < s.unitCount, ∀ off ∈ s.writeOffsets (s.unitStart u).1 (s.unitStart u).2,
    0 ≤ off ∧ off < m

/-- The checks of a call find nothing outside when its reads lie in the input and, for the
kernel, the labels of its elements lie in the labels. -/
theorem checks_find?_eq_none {n : Nat} {o i : Int} (hr : ∀ off ∈ s.reads o i, 0 ≤ off ∧ off < n)
    (hl : s.method.implementation = .kernel → s.dims.axis.toNat * s.lanes ≤ s.labels.size) :
    (s.checks n o i).find? (fun c => outside c.2 c.1) = none := by
  rw [List.find?_eq_none]
  intro c hc
  simp only [checks, List.mem_flatMap, List.mem_range, List.mem_cons] at hc
  obtain ⟨j, hj, lane, hlane, hc⟩ := hc
  rcases hc with rfl | hc
  · -- an element of the input
    have := hr _ (by simp only [reads, List.mem_flatMap, List.mem_range, List.mem_map]
                     exact ⟨j, hj, lane, hlane, rfl⟩)
    simp only [outside, Bool.or_eq_true, decide_eq_true_eq, not_or, not_lt]
    omega
  · -- its label, read by the kernel only
    split at hc
    · rename_i hk
      simp only [List.mem_singleton] at hc
      subst hc
      have hle := hl hk
      have : j * s.lanes + lane < s.dims.axis.toNat * s.lanes := by nlinarith
      simp only [outside, Bool.or_eq_true, decide_eq_true_eq, not_or, not_lt]
      omega
    · simp at hc

theorem pairReads_find?_eq_none (hp : ∀ p ∈ s.pairReads, 0 ≤ p) :
    s.pairReads.find? (· < 0) = none := by
  rw [List.find?_eq_none]
  intro p hmem
  have := hp p hmem
  simp only [decide_eq_true_eq, not_lt]
  exact this

section Writes

variable {α : Type} [Ranked α] [Inhabited α]

theorem map_fst_writes (input : Array α) (o i : Int) :
    (s.writes input o i).map Prod.fst = s.writeOffsets o i := by
  simp [writes, writeOffsets, List.map_flatMap, Function.comp_def]

end Writes

/-! ## Runs that stay inside their buffers -/

section Put

variable {α : Type}

/-- The output buffers after an entry is written at an offset of both. -/
def put (st : Array α × Array Int) (w : Int × Entry α) : Array α × Array Int :=
  (st.1.set! w.1.toNat w.2.value, st.2.set! w.1.toNat w.2.index)

@[simp]
theorem size_put_fst (st : Array α × Array Int) (w : Int × Entry α) :
    (put st w).1.size = st.1.size := by
  simp [put]

@[simp]
theorem size_put_snd (st : Array α × Array Int) (w : Int × Entry α) :
    (put st w).2.size = st.2.size := by
  simp [put]

@[simp]
theorem size_foldl_put_fst (ws : List (Int × Entry α)) (st : Array α × Array Int) :
    (ws.foldl put st).1.size = st.1.size := by
  induction ws generalizing st with
  | nil => rfl
  | cons w ws ih => simp [ih]

@[simp]
theorem size_foldl_put_snd (ws : List (Int × Entry α)) (st : Array α × Array Int) :
    (ws.foldl put st).2.size = st.2.size := by
  induction ws generalizing st with
  | nil => rfl
  | cons w ws ih => simp [ih]

theorem write_run {off : Int} {st : Array α × Array Int} (e : Entry α)
    (h : 0 ≤ off ∧ off < st.1.size ∧ off < st.2.size) :
    (write off e).run st = .ok () (put st (off, e)) := by
  obtain ⟨vs, is⟩ := st
  obtain ⟨h0, hv, hi⟩ := h
  dsimp only at hv hi
  have hv' : outside vs.size off = false := by simp [outside]; omega
  have hi' : outside is.size off = false := by simp [outside]; omega
  simp [EStateM.run, write, hv', hi', put]

/-- Writes that all land inside the buffers run to the end. -/
theorem forM_write_run (ws : List (Int × Entry α)) {st : Array α × Array Int}
    (h : ∀ w ∈ ws, 0 ≤ w.1 ∧ w.1 < st.1.size ∧ w.1 < st.2.size) :
    (ws.forM fun (w : Int × Entry α) => write w.1 w.2).run st = .ok () (ws.foldl put st) := by
  induction ws generalizing st with
  | nil => rfl
  | cons w ws ih =>
    have hw := h w (List.mem_cons_self ..)
    have hrest : ∀ w' ∈ ws, 0 ≤ w'.1 ∧ w'.1 < (put st w).1.size ∧ w'.1 < (put st w).2.size := by
      intro w' hw'
      simpa using h w' (List.mem_cons_of_mem _ hw')
    simp only [List.forM, EStateM.run_bind, write_run w.2 hw, List.foldl_cons]
    exact ih hrest

end Put

section Units

variable {α : Type} [Ranked α] [Inhabited α]

/-- The output buffers after the units `u, …, u + n - 1` have made their writes. -/
def written (input : Array α) : Nat → Nat → Array α × Array Int → Array α × Array Int
  | 0, _, st => st
  | n + 1, u, st =>
    written input n (u + 1) ((s.writes input (s.unitStart u).1 (s.unitStart u).2).foldl put st)

/-- A unit whose reads lie in the input and the labels, whose stored pairs are not negative and
whose writes lie in the outputs runs to the end, making its writes. -/
theorem unit_run (input : Array α) (u : Nat) {st : Array α × Array Int}
    (hr : ∀ off ∈ s.unitReads u, 0 ≤ off ∧ off < input.size)
    (hl : s.method.implementation = .kernel → s.dims.axis.toNat * s.lanes ≤ s.labels.size)
    (hp : ∀ p ∈ s.pairReads, 0 ≤ p)
    (hw : ∀ off ∈ s.writeOffsets (s.unitStart u).1 (s.unitStart u).2,
      0 ≤ off ∧ off < st.1.size ∧ off < st.2.size) :
    (s.unit input u).run st =
      .ok () ((s.writes input (s.unitStart u).1 (s.unitStart u).2).foldl put st) := by
  have hnone := s.checks_find?_eq_none hr hl
  have hws : ∀ w ∈ s.writes input (s.unitStart u).1 (s.unitStart u).2,
      0 ≤ w.1 ∧ w.1 < st.1.size ∧ w.1 < st.2.size := by
    intro w hmem
    apply hw
    rw [← map_fst_writes s input]
    exact List.mem_map_of_mem hmem
  simp only [unit] at hnone ⊢
  rw [hnone, s.pairReads_find?_eq_none hp]
  exact forM_write_run _ hws

/-- Units that all stay inside the buffers run to the end, one after the other. -/
theorem units_run (input : Array α) (n u : Nat) {st : Array α × Array Int}
    (hr : ∀ v, u ≤ v → v < u + n → ∀ off ∈ s.unitReads v, 0 ≤ off ∧ off < input.size)
    (hl : s.method.implementation = .kernel → s.dims.axis.toNat * s.lanes ≤ s.labels.size)
    (hp : ∀ p ∈ s.pairReads, 0 ≤ p)
    (hw : ∀ v, u ≤ v → v < u + n → ∀ off ∈ s.writeOffsets (s.unitStart v).1 (s.unitStart v).2,
      0 ≤ off ∧ off < st.1.size ∧ off < st.2.size) :
    (s.units input n u).run st = .ok () (s.written input n u st) := by
  induction n generalizing u st with
  | zero => rfl
  | succ n ih =>
    simp only [units, EStateM.run_bind,
      unit_run s input u (hr u le_rfl (by omega)) hl hp (hw u le_rfl (by omega)), written]
    apply ih
    · intro v hv1 hv2
      exact hr v (by omega) (by omega)
    · -- the writes of unit `u` keep the sizes, so the bounds of the later units still hold
      intro v hv1 hv2 off hoff
      rw [size_foldl_put_fst, size_foldl_put_snd]
      exact hw v (by omega) (by omega) off hoff

/-- A sweep that stays inside its buffers runs to the end. -/
theorem run_of_inBounds (input : Array α) {vs : Array α} {is : Array Int}
    (h : s.InBounds input.size vs.size) (hsize : is.size = vs.size) :
    (s.run input).run (vs, is) = .ok () (s.written input s.unitCount 0 (vs, is)) := by
  refine units_run s input _ _ ?_ h.labels h.pairs ?_
  · intro v _ hv
    exact h.reads v (by omega)
  · intro v _ hv off hoff
    have := h.writes v (by omega) off hoff
    dsimp only
    omega

/-! ## The order of the units -/

/-- Running `n` units from `u` on is running the units `u, …, u + n - 1` in turn. -/
theorem units_eq_forM (input : Array α) (n u : Nat) :
    s.units input n u = forM ((List.range' u n).map Int.ofNat) (s.unit input) := by
  induction n generalizing u with
  | zero => rfl
  | succ n ih =>
    rw [units, ih, List.range'_succ, List.map_cons, List.forM_cons]
    rfl

/-- A pool runs the units in the order that it hands them out. -/
theorem runSpread_eq_forM (input : Array α) (sp : Spread) :
    s.runSpread input sp = forM sp.order (s.unit input) := by
  unfold runSpread Spread.order
  rw [units_eq_forM, ← List.range_eq_range', List.forM_append]
  cases sp.wraps
  · simp
  · simp

/-- A pool whose counter does not wrap, and hands out every unit, runs the sweep. -/
theorem runSpread_eq_run (input : Array α) {sp : Spread} (hw : sp.wraps = false)
    (hl : sp.leading = s.unitCount) : s.runSpread input sp = s.run input := by
  simp [runSpread, run, hw, hl]

/-- A unit that reads a stored pair below zero stops, whatever else it reads. -/
theorem unit_error_of_pairReads (input : Array α) (u : Int) (st : Array α × Array Int)
    (h : ∃ p ∈ s.pairReads, p < 0) : ∃ q st', (s.unit input u).run st = .error q st' := by
  obtain ⟨p, hp, hneg⟩ := h
  obtain ⟨q, hq⟩ : ∃ q, s.pairReads.find? (· < 0) = some q := by
    cases hf : s.pairReads.find? (· < 0) with
    | none =>
      have := List.find?_eq_none.1 hf p hp
      simp only [decide_eq_true_eq] at this
      exact absurd hneg this
    | some q => exact ⟨q, rfl⟩
  simp only [unit]
  split
  · exact ⟨_, _, rfl⟩
  · rw [hq]
    exact ⟨_, _, rfl⟩

/-- A run whose kernel reads a stored pair below zero stops at its first unit. -/
theorem runSpread_error_of_pairReads (input : Array α) {sp : Spread} (hl : 1 ≤ sp.leading)
    (st : Array α × Array Int) (h : ∃ p ∈ s.pairReads, p < 0) :
    ∃ q st', (s.runSpread input sp).run st = .error q st' := by
  obtain ⟨n, hn⟩ : ∃ n, sp.leading = n + 1 := ⟨sp.leading - 1, by omega⟩
  obtain ⟨q, st', hq⟩ := s.unit_error_of_pairReads input 0 st h
  refine ⟨q, st', ?_⟩
  simp only [runSpread, hn, units, EStateM.run_bind]
  rw [show ((0 : Nat) : Int) = 0 from rfl, hq]

end Units

/-! ## Sweeps that compute every offset exactly -/

/-- A sweep whose units tile its work items and whose addressings compute every offset exactly:
the output addressing is the input one with `k` or more elements along the axis, the lanes of a
unit divide the work items after the axis, and only the kernel on an axis that is not blocked
takes more than one lane at a time. -/
structure Exact : Prop where
  dims : s.dims.Exact
  outDims : s.outDims.Exact
  outer : s.outDims.outer = s.dims.outer
  inner : s.outDims.inner = s.dims.inner
  blocked : s.outDims.axisBlocked = s.dims.axisBlocked
  k_le : (s.method.k : Int) ≤ s.outDims.axis
  lanes_pos : 1 ≤ s.lanes
  lanes_dvd : (s.lanes : Int) ∣ s.dims.inner
  one_lane : s.dims.axisBlocked = true ∨ s.method.implementation = .reference → s.lanes = 1

variable {s}

theorem Exact.tdiv_eq (h : s.Exact) : s.dims.inner.tdiv s.lanes = s.dims.inner / s.lanes :=
  Int.tdiv_eq_ediv_of_nonneg (by linarith [h.dims.inner_pos])

theorem Exact.per_pos (h : s.Exact) : 1 ≤ s.dims.inner / s.lanes := by
  obtain ⟨c, hc⟩ := h.lanes_dvd
  have hl : (0 : Int) < s.lanes := by exact_mod_cast h.lanes_pos
  have hi := h.dims.inner_pos
  rw [hc, Int.mul_ediv_cancel_left _ hl.ne']
  nlinarith

theorem Exact.per_mul (h : s.Exact) : s.dims.inner / s.lanes * s.lanes = s.dims.inner :=
  Int.ediv_mul_cancel h.lanes_dvd

theorem Exact.unitCount_eq (h : s.Exact) :
    (s.unitCount : Int) = s.dims.outer * (s.dims.inner / s.lanes) := by
  have hper := h.per_pos
  have hl : (1 : Int) ≤ s.lanes := by exact_mod_cast h.lanes_pos
  have hO := h.dims.outer_pos
  have hle : s.dims.outer * (s.dims.inner / s.lanes) ≤ s.dims.outer * s.dims.inner := by
    have := h.per_mul
    gcongr
    nlinarith
  have hfit := lt_of_le_of_lt (le_trans hle (Dims.outer_mul_inner_le h.dims)) h.dims.fits
  rw [unitCount, h.tdiv_eq, wrapWord_eq_self (by positivity) hfit]
  exact Int.toNat_of_nonneg (by positivity)

/-- A sweep that computes every offset exactly has work to do. -/
theorem Exact.unitCount_ne_zero (h : s.Exact) : s.unitCount ≠ 0 := by
  intro h0
  have hcount := h.unitCount_eq
  have hper := h.per_pos
  have hO := h.dims.outer_pos
  rw [h0, Nat.cast_zero] at hcount
  nlinarith

/-- The first lane of every unit lies at least `lanes` places before the end of the work items
after the axis. -/
theorem Exact.unitPlace_add_le (h : s.Exact) (u : Nat) :
    (u : Int) % (s.dims.inner / s.lanes) * s.lanes + s.lanes ≤ s.dims.inner := by
  have hper := h.per_pos
  have hm1 := Int.emod_lt_of_pos (u : Int) (show 0 < s.dims.inner / s.lanes by omega)
  calc (u : Int) % (s.dims.inner / s.lanes) * s.lanes + s.lanes
      = ((u : Int) % (s.dims.inner / s.lanes) + 1) * s.lanes := by ring
    _ ≤ s.dims.inner / s.lanes * s.lanes := by gcongr; omega
    _ = s.dims.inner := h.per_mul

/-- Unit `u` of a sweep that computes every offset exactly starts at work item
`(u / per, (u mod per) · lanes)` with `per = inner / lanes`: the machine's division, remainder and
product are exact there. -/
theorem Exact.unitStart_eq (h : s.Exact) (u : Nat) :
    s.unitStart u = ((u : Int) / (s.dims.inner / s.lanes),
      (u : Int) % (s.dims.inner / s.lanes) * s.lanes) := by
  have hper := h.per_pos
  have hu0 : (0 : Int) ≤ u := Int.natCast_nonneg u
  have hm0 := Int.emod_nonneg (u : Int) (show s.dims.inner / s.lanes ≠ 0 by omega)
  have hl : (0 : Int) ≤ s.lanes := Int.natCast_nonneg _
  have hi0 : 0 ≤ (u : Int) % (s.dims.inner / s.lanes) * s.lanes := by positivity
  have hi1 := h.unitPlace_add_le u
  have hinner : s.dims.inner < 2 ^ 63 :=
    lt_of_le_of_lt (le_trans (by nlinarith [h.dims.outer_pos, h.dims.inner_pos])
      (Dims.outer_mul_inner_le h.dims)) h.dims.fits
  simp only [unitStart, h.tdiv_eq, Int.tdiv_eq_ediv_of_nonneg hu0, Int.tmod_eq_emod_of_nonneg hu0,
    wrapWord_eq_self hi0 (by omega)]

/-- Unit `u` of a sweep that computes every offset exactly is the work items `(o, i + lane)` of
one `o` and `lanes` adjacent places `i + lane` after the axis. -/
theorem Exact.unitStart_mem (h : s.Exact) {u : Nat} (hu : u < s.unitCount) :
    0 ≤ (s.unitStart u).1 ∧ (s.unitStart u).1 < s.dims.outer ∧ 0 ≤ (s.unitStart u).2 ∧
      (s.unitStart u).2 + s.lanes ≤ s.dims.inner := by
  have hper := h.per_pos
  have hu' : (u : Int) < s.dims.outer * (s.dims.inner / s.lanes) := by
    rw [← h.unitCount_eq]; exact_mod_cast hu
  have hu0 : (0 : Int) ≤ u := Int.natCast_nonneg u
  have hm0 := Int.emod_nonneg (u : Int) (show s.dims.inner / s.lanes ≠ 0 by omega)
  have hl : (0 : Int) ≤ s.lanes := Int.natCast_nonneg _
  rw [h.unitStart_eq u]
  refine ⟨Int.ediv_nonneg hu0 (by omega), (Int.ediv_lt_iff_lt_mul (by omega)).2 ?_, by positivity,
    h.unitPlace_add_le u⟩
  linarith

variable (s) in
/-- Under an addressing that computes every offset exactly, a call reaches element `j` of lane
`lane` at the exact position of element `j` of work item `(o, i + lane)`. -/
theorem address_eq_place {d : Dims} (hd : d.Exact)
    (hone : d.axisBlocked = true ∨ s.method.implementation = .reference → s.lanes = 1)
    {o i j : Int} {lane : Nat} (ho0 : 0 ≤ o) (ho : o < d.outer) (hi0 : 0 ≤ i)
    (hi : i + s.lanes ≤ d.inner) (hj0 : 0 ≤ j) (hj : j < d.axis) (hlane : lane < s.lanes) :
    s.address d o i j lane = d.place o (i + lane) j := by
  have hr : Dims.InRange d o (i + lane) j := ⟨ho0, ho, by omega, by omega, hj0, hj⟩
  unfold address
  split
  · split
    · exact Dims.offset_eq_place hd hr
    · -- the kernel steps from the first element of the call by the axis stride
      rename_i hb
      have hb : d.axisBlocked = false := by simpa using hb
      have h0 : d.offset o i 0 = d.place o i 0 :=
        Dims.offset_eq_place hd ⟨ho0, ho, hi0, by omega, le_rfl, by linarith [hd.axis_pos]⟩
      have hp := Dims.place_lt hd hr
      have hstep : d.place o i 0 + j * d.axisStride + lane = d.place o (i + lane) j := by
        simp only [Dims.place, hb, hd.stride_eq hb, Bool.false_eq_true, if_false]
        ring
      rw [h0, hstep, wrapWord_eq_self hp.1 (by linarith [hd.fits])]
  · rename_i href
    have hlane0 : lane = 0 := by have := hone (Or.inr href); omega
    subst hlane0
    simpa using Dims.offset_eq_place hd hr

/-! ## Tables that serve a sweep -/

variable (s) in
/-- The tables that a sweep reads serve it: the specialised kernel finds the label of element `j`
of every lane at `j · lanes + lane`, and it is `j` as a 32-bit integer; and no stored position
of its networks that the kernel reads is below zero. -/
structure Tabled : Prop where
  labels : s.method.implementation = .kernel → ∀ j < s.dims.axis.toNat, ∀ lane < s.lanes,
    s.labels[j * s.lanes + lane]? = some (wrapInt32 j)
  pairs : ∀ p ∈ s.pairReads, 0 ≤ p

/-- The kernel of a sweep with tables that serve it finds every label it reads. -/
theorem Tabled.labels_le (ht : s.Tabled) :
    s.method.implementation = .kernel → s.dims.axis.toNat * s.lanes ≤ s.labels.size := by
  intro hk
  rcases Nat.eq_zero_or_pos s.dims.axis.toNat with hA | hA
  · rw [hA, Nat.zero_mul]
    exact Nat.zero_le _
  rcases Nat.eq_zero_or_pos s.lanes with hL | hL
  · rw [hL, Nat.mul_zero]
    exact Nat.zero_le _
  -- the label of the last element of the last lane is there
  have hlast := ht.labels hk (s.dims.axis.toNat - 1) (by omega) (s.lanes - 1) (by omega)
  have hlt := (Array.getElem?_eq_some_iff.1 hlast).1
  have : s.dims.axis.toNat * s.lanes = (s.dims.axis.toNat - 1) * s.lanes + (s.lanes - 1) + 1 := by
    obtain ⟨a, ha⟩ : ∃ a, s.dims.axis.toNat = a + 1 := ⟨_, (Nat.succ_pred_eq_of_pos hA).symm⟩
    rw [ha, Nat.add_sub_cancel, Nat.succ_mul]
    omega
  omega

/-- Under tables that serve it, a call labels element `j` of every lane with `j` as a 32-bit
integer, as the reference does. -/
theorem Tabled.label_eq (ht : s.Tabled) {j lane : Nat} (hj : j < s.dims.axis.toNat)
    (hlane : lane < s.lanes) : s.label j lane = wrapInt32 j := by
  unfold label
  split
  · rename_i hk
    rw [Array.getD_eq_getD_getElem?, ht.labels hk j hj lane hlane, Option.getD_some]
  · rfl

/-- A sweep that computes every offset exactly, with tables that serve it, reads inside an input
of the size of its input addressing and writes inside outputs of the size of its output
addressing. -/
theorem Exact.inBounds (h : s.Exact) (ht : s.Tabled) :
    s.InBounds s.dims.physicalSize s.outDims.physicalSize where
  labels := ht.labels_le
  pairs := ht.pairs
  reads := by
    intro u hu off hoff
    obtain ⟨ho0, ho, hi0, hi⟩ := h.unitStart_mem hu
    simp only [unitReads, reads, List.mem_flatMap, List.mem_map, List.mem_range] at hoff
    obtain ⟨j, hj, lane, hlane, rfl⟩ := hoff
    have hj' : (j : Int) < s.dims.axis := by omega
    rw [address_eq_place s h.dims h.one_lane ho0 ho hi0 hi (by omega) hj' hlane,
      Dims.physicalSize_eq h.dims]
    exact Dims.place_lt h.dims ⟨ho0, ho, by omega, by omega, by omega, hj'⟩
  writes := by
    intro u hu off hoff
    obtain ⟨ho0, ho, hi0, hi⟩ := h.unitStart_mem hu
    simp only [writeOffsets, List.mem_flatMap, List.mem_map, List.mem_range] at hoff
    obtain ⟨r, hr, lane, hlane, rfl⟩ := hoff
    have hr' : (r : Int) < s.outDims.axis := by linarith [h.k_le]
    rw [← h.outer] at ho
    rw [← h.inner] at hi
    have hone : s.outDims.axisBlocked = true ∨ s.method.implementation = .reference →
        s.lanes = 1 := by
      rw [h.blocked]; exact h.one_lane
    rw [address_eq_place s h.outDims hone ho0 ho hi0 hi (by omega) hr' hlane,
      Dims.physicalSize_eq h.outDims]
    exact Dims.place_lt h.outDims ⟨ho0, ho, by omega, by omega, by omega, hr'⟩

end Select.Sweep

end TensorSelect
