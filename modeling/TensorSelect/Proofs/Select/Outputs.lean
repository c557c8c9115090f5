import Mathlib
import TensorSelect.Proofs.Select.Run
import TensorSelect.Proofs.Select.Selection

/-!
# What a sweep writes

A sweep that computes every offset exactly, with tables that serve it, runs to the end over
buffers of the sizes of its addressings, and leaves at the position of rank `r` of every work
item `(o, i)` the `r`-th entry that its method selects from the elements of that work item, read
at their offsets (`Dims.column`) and labelled with their places along the axis as 32-bit
integers (`Method.entries`): `Exact.run_selects`.

Every call writes the entries of `lanes` adjacent work items, one rank after the other, so the
proof has two parts:

* after a list of writes, a position holds the entry of the writes to it, when there is one
  and all of them write the same entry (`foldl_put_getElem?`);
* every write of a sweep to the position of rank `r` of `(o, i)` comes from a call that read
  `(o, i)`, since distinct elements have distinct positions (`Dims.place_inj`), and the unit
  that starts at `(o, i - i mod lanes)` makes one (`Exact.unit_of_item`).
-/

namespace TensorSelect

/-- The elements of work item `(o, i)` of a buffer under an addressing, in their order along the
axis. -/
def Dims.column {β : Type} [Inhabited β] (d : Dims) (xs : Array β) (o i : Int) : Array β :=
  (Array.range d.axis.toNat).map fun (j : Nat) => xs.getD (d.offset o i j).toNat default

/-- The column of a buffer read through a renaming of its values is the renamed column, when
the offsets of the column lie in the buffer. -/
theorem Dims.column_map {β γ : Type} [Inhabited β] [Inhabited γ] (d : Dims) (f : β → γ)
    (xs : Array β) (o i : Int) (h : ∀ j : Nat, j < d.axis.toNat → (d.offset o i j).toNat < xs.size) :
    d.column (xs.map f) o i = (d.column xs o i).map f := by
  unfold column
  rw [Array.map_map, Array.map_inj_left]
  intro j hj
  have hlt := h j (Array.mem_range.1 hj)
  simp [Array.getD_eq_getD_getElem?, hlt]

namespace Select.Sweep

/-! ## Reading back writes -/

section Put

variable {α : Type}

theorem put_getElem?_of_ne {st : Array α × Array Int} {w : Int × Entry α} {p : Nat}
    (h : w.1.toNat ≠ p) : (put st w).1[p]? = st.1[p]? ∧ (put st w).2[p]? = st.2[p]? := by
  simp [put, Array.set!_eq_setIfInBounds, Array.getElem?_setIfInBounds_ne h]

theorem put_getElem?_self {st : Array α × Array Int} (w : Int × Entry α)
    (h1 : w.1.toNat < st.1.size) (h2 : w.1.toNat < st.2.size) :
    (put st w).1[w.1.toNat]? = some w.2.value ∧ (put st w).2[w.1.toNat]? = some w.2.index := by
  simp [put, Array.set!_eq_setIfInBounds, Array.getElem?_setIfInBounds_self_of_lt h1,
    Array.getElem?_setIfInBounds_self_of_lt h2]

/-- Writes that miss a position leave it alone. -/
theorem foldl_put_getElem?_of_forall_ne (ws : List (Int × Entry α)) (st : Array α × Array Int)
    {p : Nat} (h : ∀ w ∈ ws, w.1.toNat ≠ p) :
    (ws.foldl put st).1[p]? = st.1[p]? ∧ (ws.foldl put st).2[p]? = st.2[p]? := by
  induction ws generalizing st with
  | nil => exact ⟨rfl, rfl⟩
  | cons w ws ih =>
    obtain ⟨h1, h2⟩ := @put_getElem?_of_ne _ st w _ (h w (List.mem_cons_self ..))
    obtain ⟨h3, h4⟩ := ih (put st w) fun w' hw' => h w' (List.mem_cons_of_mem _ hw')
    rw [List.foldl_cons]
    exact ⟨h3.trans h1, h4.trans h2⟩

/-- After writes of which some reach a position, and all that do write one entry, the position
holds that entry. -/
theorem foldl_put_getElem? (ws : List (Int × Entry α)) (st : Array α × Array Int) {p : Nat}
    {e : Entry α} (hmem : ∃ w ∈ ws, w.1.toNat = p) (hall : ∀ w ∈ ws, w.1.toNat = p → w.2 = e)
    (h1 : p < st.1.size) (h2 : p < st.2.size) :
    (ws.foldl put st).1[p]? = some e.value ∧ (ws.foldl put st).2[p]? = some e.index := by
  induction ws generalizing st with
  | nil =>
    obtain ⟨w, hw, -⟩ := hmem
    cases hw
  | cons w ws ih =>
    rw [List.foldl_cons]
    by_cases hlater : ∃ w' ∈ ws, w'.1.toNat = p
    · -- a later write to the position decides what it holds
      exact ih (put st w) hlater (fun w' hw' => hall w' (List.mem_cons_of_mem _ hw'))
        (by simpa using h1) (by simpa using h2)
    · -- the first write is the last one to the position
      push Not at hlater
      obtain ⟨w0, hw0, hp⟩ := hmem
      have hwp : w.1.toNat = p := by
        rcases List.mem_cons.1 hw0 with rfl | hw0
        · exact hp
        · exact absurd hp (hlater w0 hw0)
      have he : w.2 = e := hall w (List.mem_cons_self ..) hwp
      obtain ⟨h3, h4⟩ := foldl_put_getElem?_of_forall_ne ws (put st w) hlater
      subst hwp he
      rw [h3, h4]
      exact put_getElem?_self w h1 h2

end Put

/-! ## The writes of a sweep -/

variable (s : Sweep) {α : Type} [Ranked α] [Inhabited α]

/-- The writes of the units `u, …, u + n - 1`, in the order they are made. -/
def unitWrites (input : Array α) (n u : Nat) : List (Int × Entry α) :=
  (List.range n).flatMap fun (v : Nat) =>
    s.writes input (s.unitStart (u + v : Nat)).1 (s.unitStart (u + v : Nat)).2

theorem written_eq_foldl (input : Array α) (n u : Nat) (st : Array α × Array Int) :
    s.written input n u st = (s.unitWrites input n u).foldl put st := by
  induction n generalizing u st with
  | zero => rfl
  | succ n ih =>
    rw [written, ih, unitWrites, unitWrites, List.range_succ_eq_map, List.flatMap_cons,
      List.flatMap_map, List.foldl_append, Nat.add_zero]
    congr 2
    funext v
    rw [Nat.succ_eq_add_one, Nat.add_comm v 1, Nat.add_assoc]

/-- A write of the call at `(o, i)` puts the kept entry of rank `r` of lane `lane` at the output
offset of that rank and lane. -/
theorem mem_writes {input : Array α} {o i : Int} {w : Int × Entry α} :
    w ∈ s.writes input o i ↔ ∃ r < s.method.k, ∃ lane < s.lanes,
      w = (s.address s.outDims o i r lane,
        (s.method.select (s.gather input o i lane)).getD r default) := by
  simp only [writes, List.mem_flatMap, List.mem_range, List.mem_map]
  constructor
  · rintro ⟨r, hr, lane, hlane, rfl⟩
    refine ⟨r, hr, lane, hlane, ?_⟩
    simp [List.getD_eq_getElem?_getD, hlane]
  · rintro ⟨r, hr, lane, hlane, rfl⟩
    refine ⟨r, hr, lane, hlane, ?_⟩
    simp [List.getD_eq_getElem?_getD, hlane]

variable {s}

/-- Under an exact sweep, work item `(o, i)` is lane `i mod lanes` of unit
`o · (inner / lanes) + i / lanes`. -/
theorem Exact.unit_of_item (h : s.Exact) {o i : Int} (ho0 : 0 ≤ o) (ho : o < s.dims.outer)
    (hi0 : 0 ≤ i) (hi : i < s.dims.inner) :
    ∃ u < s.unitCount, ∃ lane < s.lanes,
      (s.unitStart u).1 = o ∧ (s.unitStart u).2 + lane = i := by
  have hper := h.per_pos
  have hmul := h.per_mul
  have hcount := h.unitCount_eq
  have hL : (0 : Int) < s.lanes := by exact_mod_cast h.lanes_pos
  have hq0 : 0 ≤ i / s.lanes := Int.ediv_nonneg hi0 hL.le
  have hq : i / s.lanes < s.dims.inner / s.lanes :=
    Int.ediv_lt_of_lt_mul hL (by rw [hmul]; exact hi)
  have hu0 : 0 ≤ o * (s.dims.inner / s.lanes) + i / s.lanes := by positivity
  -- the unit counts the blocks of `lanes` work items in order
  have hu : o * (s.dims.inner / s.lanes) + i / s.lanes <
      s.dims.outer * (s.dims.inner / s.lanes) := by
    nlinarith
  have hdiv : (o * (s.dims.inner / s.lanes) + i / s.lanes) / (s.dims.inner / s.lanes) = o := by
    rw [Int.add_comm, Int.add_mul_ediv_right _ _ (by omega), Int.ediv_eq_zero_of_lt hq0 hq,
      Int.zero_add]
  have hmod : (o * (s.dims.inner / s.lanes) + i / s.lanes) % (s.dims.inner / s.lanes) =
      i / s.lanes := by
    rw [Int.add_comm, Int.add_mul_emod_self_right, Int.emod_eq_of_lt hq0 hq]
  have hlane0 : 0 ≤ i % s.lanes := Int.emod_nonneg _ hL.ne'
  have hlane : i % s.lanes < s.lanes := Int.emod_lt_of_pos _ hL
  have hsplit := Int.ediv_mul_add_emod i s.lanes
  refine ⟨(o * (s.dims.inner / s.lanes) + i / s.lanes).toNat, by omega, (i % s.lanes).toNat,
    by omega, ?_, ?_⟩
  · rw [h.unitStart_eq, Int.toNat_of_nonneg hu0]
    exact hdiv
  · rw [h.unitStart_eq, Int.toNat_of_nonneg hu0, hmod, Int.toNat_of_nonneg hlane0]
    omega

omit [Inhabited α] in
/-- The entries of a column are its elements, each labelled with its place as a 32-bit
integer. -/
theorem entries_map_range (n : Nat) (f : Nat → α) :
    Method.entries ((Array.range n).map f) =
      (Array.range n).map fun (j : Nat) => Entry.of (f j) (wrapInt32 j) := by
  apply Array.ext
  · simp [Method.entries]
  · intro j h1 h2
    simp only [Method.entries, Array.getElem_map, Array.getElem_zipIdx, Array.getElem_range,
      Nat.zero_add]

/-- Under an exact sweep with tables that serve it, a call reads the entries of each of its work
items: the elements at their offsets, labelled with their places. -/
theorem Exact.gather_eq (h : s.Exact) (ht : s.Tabled) (input : Array α) {u : Nat}
    (hu : u < s.unitCount) {lane : Nat} (hlane : lane < s.lanes) :
    s.gather input (s.unitStart u).1 (s.unitStart u).2 lane =
      Method.entries (s.dims.column input (s.unitStart u).1 ((s.unitStart u).2 + lane)) := by
  obtain ⟨ho0, ho, hi0, hi⟩ := h.unitStart_mem hu
  rw [Dims.column, entries_map_range]
  unfold gather
  rw [Array.map_inj_left]
  intro j hj
  have hj0 := Array.mem_range.1 hj
  have hj' : (j : Int) < s.dims.axis := by omega
  rw [address_eq_place s h.dims h.one_lane ho0 ho hi0 hi (by omega) hj' hlane,
    Dims.offset_eq_place h.dims ⟨ho0, ho, by omega, by omega, by omega, hj'⟩,
    ht.label_eq hj0 hlane]

/-- Under an exact sweep with tables that serve it, every write of a unit to the position of rank
`r` of work item `(o, i)` writes the entry of rank `r` that the method selects from the entries
of `(o, i)`. -/
theorem Exact.entry_of_mem_unitWrites (h : s.Exact) (ht : s.Tabled) (input : Array α) {o i : Int}
    {r : Nat} (hR : Dims.InRange s.outDims o i r) {w : Int × Entry α}
    (hw : w ∈ s.unitWrites input s.unitCount 0)
    (hp : w.1.toNat = (s.outDims.place o i r).toNat) :
    w.2 = (s.method.select (Method.entries (s.dims.column input o i))).getD r default := by
  simp only [unitWrites, List.mem_flatMap, List.mem_range, Nat.zero_add] at hw
  obtain ⟨v, hv, hw⟩ := hw
  obtain ⟨r', hr', lane, hlane, rfl⟩ := (mem_writes s).1 hw
  obtain ⟨ho0, ho, hi0, hi⟩ := h.unitStart_mem hv
  have hr'' : (r' : Int) < s.outDims.axis := by have := h.k_le; omega
  have hone : s.outDims.axisBlocked = true ∨ s.method.implementation = .reference →
      s.lanes = 1 := by
    rw [h.blocked]
    exact h.one_lane
  have hR' : Dims.InRange s.outDims (s.unitStart v).1 ((s.unitStart v).2 + lane) r' :=
    ⟨ho0, h.outer ▸ ho, by omega, by rw [h.inner]; omega, by omega, hr''⟩
  rw [address_eq_place s h.outDims hone ho0 (h.outer ▸ ho) hi0 (h.inner ▸ hi) (by omega) hr''
    hlane] at hp
  -- both positions lie in the buffer, so they are equal as integers, and then so are the items
  have hpos := (Dims.place_lt h.outDims hR').1
  have hpos' := (Dims.place_lt h.outDims hR).1
  obtain ⟨rfl, hitem, hrank⟩ := Dims.place_inj h.outDims hR' hR (by omega)
  have hrank : r' = r := by exact_mod_cast hrank
  subst hrank
  rw [h.gather_eq ht input hv hlane, hitem]

/-- Under an exact sweep with tables that serve it, the units write at the position of rank `r`
of every work item the entry of rank `r` that the method selects from the entries of that work
item. -/
theorem Exact.written_getElem? (h : s.Exact) (ht : s.Tabled) (input : Array α)
    {st : Array α × Array Int}
    (h1 : (st.1.size : Int) = s.outDims.physicalSize)
    (h2 : (st.2.size : Int) = s.outDims.physicalSize)
    {o i : Int} (ho0 : 0 ≤ o) (ho : o < s.dims.outer) (hi0 : 0 ≤ i) (hi : i < s.dims.inner)
    {r : Nat} (hr : r < s.method.k) :
    (s.written input s.unitCount 0 st).1[(s.outDims.offset o i r).toNat]? =
        some ((s.method.select (Method.entries (s.dims.column input o i))).getD r default).value ∧
      (s.written input s.unitCount 0 st).2[(s.outDims.offset o i r).toNat]? =
        some ((s.method.select (Method.entries (s.dims.column input o i))).getD r default).index := by
  have hr' : (r : Int) < s.outDims.axis := by have := h.k_le; omega
  have hR : Dims.InRange s.outDims o i r :=
    ⟨ho0, h.outer ▸ ho, hi0, h.inner ▸ hi, by omega, hr'⟩
  have hplace := Dims.place_lt h.outDims hR
  have hsize := Dims.physicalSize_eq h.outDims
  rw [Dims.offset_eq_place h.outDims hR, written_eq_foldl]
  apply foldl_put_getElem?
  · -- the unit that holds `(o, i)` writes there
    obtain ⟨u, hu, lane, hlane, hstart1, hstart2⟩ := h.unit_of_item ho0 ho hi0 hi
    obtain ⟨ho0', ho', hi0', hi'⟩ := h.unitStart_mem hu
    have hone : s.outDims.axisBlocked = true ∨ s.method.implementation = .reference →
        s.lanes = 1 := by
      rw [h.blocked]
      exact h.one_lane
    refine ⟨(s.address s.outDims (s.unitStart u).1 (s.unitStart u).2 r lane,
      (s.method.select (s.gather input (s.unitStart u).1 (s.unitStart u).2 lane)).getD r
        default), ?_, ?_⟩
    · simp only [unitWrites, List.mem_flatMap, List.mem_range, Nat.zero_add]
      exact ⟨u, hu, (mem_writes s).2 ⟨r, hr, lane, hlane, rfl⟩⟩
    · rw [address_eq_place s h.outDims hone ho0' (h.outer ▸ ho') hi0' (h.inner ▸ hi') (by omega)
        hr' hlane, hstart1, hstart2]
  · exact fun w hw hp => h.entry_of_mem_unitWrites ht input hR hw hp
  · omega
  · omega

/-- A sweep that computes every offset exactly, with tables that serve it, runs to the end over an
input and outputs of the sizes of its addressings, and leaves at the position of rank `r` of
every work item the entry of rank `r` that its method selects from the entries of that work
item. -/
theorem Exact.run_selects (h : s.Exact) (ht : s.Tabled) (input : Array α) {vs : Array α}
    {is : Array Int}
    (hin : (input.size : Int) = s.dims.physicalSize)
    (hvs : (vs.size : Int) = s.outDims.physicalSize) (his : is.size = vs.size) :
    ∃ vs' is', (s.run input).run (vs, is) = .ok () (vs', is') ∧
      ∀ o i, 0 ≤ o → o < s.dims.outer → 0 ≤ i → i < s.dims.inner → ∀ r < s.method.k,
        vs'[(s.outDims.offset o i r).toNat]? =
            some ((s.method.select (Method.entries (s.dims.column input o i))).getD r
              default).value ∧
          is'[(s.outDims.offset o i r).toNat]? =
            some ((s.method.select (Method.entries (s.dims.column input o i))).getD r
              default).index := by
  have hbounds := h.inBounds ht
  rw [← hin, ← hvs] at hbounds
  refine ⟨_, _, run_of_inBounds s input hbounds his, ?_⟩
  intro o i ho0 ho hi0 hi r hr
  exact h.written_getElem? ht input hvs (by rw [his]; exact hvs) ho0 ho hi0 hi hr

end Select.Sweep

end TensorSelect
