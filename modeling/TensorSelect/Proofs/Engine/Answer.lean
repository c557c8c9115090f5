import Mathlib
import TensorSelect.Proofs.Engine.Safety
import TensorSelect.Proofs.Select.Outputs

/-!
# What a run writes

A run that passes its checks writes, for every work item `(o, i)` and every rank `r < k`, at
the output offset of rank `r` of `(o, i)`, the value and the index of the `r`-th of the pairs
that the selection keeps from the elements of `(o, i)` (`keptPairs`): its elements with their
places along the axis, stably sorted best first, the first `k` kept and listed by index when
the output asks for it. Main statement: `execute_writes_kept`, for every engine that requests
can reach, every element type, algorithm, implementation and layout.

It needs the run to meet no hazard (`Hazard`: buffers of the element type, call arguments that
fit, a shared counter that does not wrap), and three bounds. The prepared shape, padding
included, must fit a machine word, as for `execute_completes`: past that the sizes that the
checks compare wrap. The axis must have at most `2^31` elements: the engine labels each element
with its place as a 32-bit integer, and past `2^31` the labels wrap below zero and sort before
the places they stand for. When the output is listed by index, the axis must also be no longer
than the index that pads the kept entries for the index network (`indexPadding`), or an element
could sort after the padding.

The buffers are read as scalars (`Storage.toScalars`) with the rank of their type
(`Scalar.rank`). The proof runs at each element type through `Storage.zipRanked_toScalars`,
where `Sweep.Exact.run_selects` says what the sweep writes and `Method.getElem?_keptPairs` what
its method selects.
-/

namespace TensorSelect

@[simp]
theorem Storage.size_toScalars (s : Storage) : s.toScalars.size = s.size := by
  cases s <;> simp [Storage.toScalars, Storage.size]

/-- Every fact that holds of an operation over every ordered element type, at every such type
and with its values read as scalars, holds of the operation on two buffers of one ordered
type. -/
theorem Storage.zipRanked_toScalars {γ : Type}
    (op : {α : Type} → [Ranked α] → [Inhabited α] → Array α → Array α → Array α × γ)
    {i v : Storage} (h : i.elemType = v.elemType) (hb : i.elemType ≠ .bool)
    (P : Array Scalar → Array Scalar → Array Scalar → γ → Prop)
    (hop : ∀ {α : Type} [Ranked α] [Ranked.Bounded α] [Inhabited α] (tag : α → Scalar),
      (∀ x, Scalar.rank (tag x) = Ranked.rank x) → ∀ xs ys : Array α,
        P (xs.map tag) (ys.map tag) ((op xs ys).1.map tag) (op xs ys).2) :
    ∃ r g, Storage.zipRanked op i v = some (r, g) ∧ P i.toScalars v.toScalars r.toScalars g := by
  cases i <;> cases v <;> first
    | exact ⟨_, _, rfl, hop _ (fun _ => rfl) _ _⟩
    | exact absurd rfl hb
    | exact absurd h (by simp [Storage.elemType])

namespace Select.Engine

open SetupCheck

section Prepared

variable {e : Engine}

/-- The method of a prepared engine whose shape fits a machine word fits every work item of an
axis of at most `2^31` elements: `k` is at most the axis, the networks are those of the axis,
and the places stay below the padding index when the output is listed by index and the axis is
no longer. -/
theorem Ready.method_fits (hr : Ready e) (hp : e.prepared = true)
    (hfit : e.current.storedSize e.config.layout < 2 ^ 63) (haxis : e.dims.axis ≤ 2 ^ 31)
    (hindex : e.config.sortBy = .index → e.dims.axis ≤ indexPadding) :
    e.sweep.method.Fits e.dims.axis.toNat := by
  have hP := hr.prepared hp
  obtain ⟨-, hax⟩ := hr.dims_exact hp hfit
  obtain ⟨t, l, -, -, -, hnet, -⟩ := hr.sweep_tables hp hfit
  have hk : e.config.k ≤ e.dims.axis := hax ▸ hP.k_le
  refine ⟨?_, by omega, ?_, ?_⟩
  · show e.config.k.toNat ≤ e.dims.axis.toNat
    omega
  · intro hs
    have := hindex hs
    have hpad : indexPadding = 2147483647 := rfl
    show ((e.dims.axis.toNat : Nat) : Int) ≤ indexPadding
    omega
  · have hsorts := Network.forPasses_sorts (e.algorithm == .bitonic) (e.config.sortBy == .index)
      haxis (le_trans hk haxis)
    rw [hnet]
    exact hsorts

end Prepared

theorem size_column {β : Type} [Inhabited β] (d : Dims) (xs : Array β) (o i : Int) :
    (d.column xs o i).size = d.axis.toNat := by
  simp [Dims.column]

/-- On every engine that requests can reach, a run that meets no hazard either fails a check
before it writes anything, or runs to the end over buffers and writes, for every work item
`(o, i)` and every rank `r < k`, at the output offset of rank `r` of `(o, i)`, the value and the
index of the `r`-th pair that the selection keeps from the elements of `(o, i)`. This needs the
prepared shape to fit a machine word, padding included; the axis to have at most `2^31`
elements, so that the 32-bit labels are the places; and, when the output is listed by index,
the axis to be no longer than the padding index. -/
theorem execute_writes_kept (e : Engine) (he : Reachable e)
    (hfit : e.prepared = true → e.current.storedSize e.config.layout < 2 ^ 63)
    (haxis : e.dims.axis ≤ 2 ^ 31) (hindex : e.config.sortBy = .index → e.dims.axis ≤ indexPadding)
    (input values : Operand) (indices : Array Int) (hsafe : ¬ e.Hazard input values) :
    (∃ err, (e.execute input).run (values, indices) = .error (.check err) (values, indices)) ∨
      ∃ xs ys : Storage, ∃ indices' : Array Int, input = .buffer xs ∧
        (e.execute input).run (values, indices) = .ok () (.buffer ys, indices') ∧
        ∀ o i, 0 ≤ o → o < e.dims.outer → 0 ≤ i → i < e.dims.inner → ∀ r < e.config.k.toNat,
          ∃ p, (keptPairs Scalar.rank e.config.mode e.config.sortBy e.config.k.toNat
              (e.dims.column xs.toScalars o i).toList)[r]? = some p ∧
            ys.toScalars[(e.outDims.offset o i r).toNat]? = some p.1 ∧
            indices'[(e.outDims.offset o i r).toNat]? = some p.2 := by
  cases hc : e.checkRun input values indices with
  | error err => exact Or.inl ⟨err, execute_run_of_checkRun_error hc⟩
  | ok u =>
    right
    obtain ⟨-, hp, hdi, hdv, hli, hlv, hls⟩ := checkRun_ok hc
    have hr := he.ready
    have hP := hr.prepared hp
    have hex := hr.sweep_exact hp (hfit hp)
    have hmfit := hr.method_fits hp (hfit hp) haxis hindex
    obtain ⟨-, hax⟩ := hr.dims_exact hp (hfit hp)
    have hk : e.config.k ≤ e.dims.axis := hax ▸ hP.k_le
    -- on an axis of at most `2^31` elements the kernel's networks are stored exactly
    have htab := hr.sweep_tabled hp (hfit hp) fun _ => ⟨fun _ => haxis, fun _ => by omega⟩
    simp only [Hazard, not_or, not_and, not_lt, Bool.not_eq_false] at hsafe
    obtain ⟨hib, hvb, hmake, hshared, -⟩ := hsafe
    obtain ⟨t, ht, hbool⟩ := hr.current_ordered hp
    have hdx : e.dims.Exact := hex.dims
    obtain ⟨i, rfl, hi⟩ := Operand.eq_buffer hib (hdi.trans ht)
    obtain ⟨v, rfl, hv⟩ := Operand.eq_buffer hvb (hdv.trans ht)
    have hm' : Panic.checkMake e.pool.workers 184 = .ok () :=
      Panic.checkMake_eq_ok.2 ⟨by omega, by omega⟩
    obtain ⟨sp, hsw, hsp, hnw, hall⟩ := Pool.spread_of_lt (t := e.options.minParallelUnits)
      (show (1 : Int) ≤ e.sweep.unitCount by have := hex.unitCount_ne_zero; omega)
      (fun hsh => by have := hshared hsh; omega)
    -- every offset of a work item's elements lies in the input
    have hoff : ∀ o i', 0 ≤ o → o < e.dims.outer → 0 ≤ i' → i' < e.dims.inner →
        ∀ j : Nat, j < e.dims.axis.toNat → ((e.dims.offset o i' j).toNat : Int) < e.dims.physicalSize := by
      intro o i' ho0 ho hi0 hi j hj
      have hR : Dims.InRange e.dims o i' j := ⟨ho0, ho, hi0, hi, by omega, by omega⟩
      rw [Dims.offset_eq_place hdx hR, Dims.physicalSize_eq hdx]
      have := Dims.place_lt hdx hR
      omega
    obtain ⟨r, g, hz, hg⟩ := Storage.zipRanked_toScalars
      (fun is vs => runArrays e.sweep sp is vs indices) (hi.trans hv.symm) (by rw [hi]; exact hbool)
      (fun I V R g => (I.size : Int) = e.dims.physicalSize →
        (V.size : Int) = e.outDims.physicalSize → g.2 = none ∧
        ∀ o i', 0 ≤ o → o < e.dims.outer → 0 ≤ i' → i' < e.dims.inner → ∀ r < e.config.k.toNat,
          ∃ p, (keptPairs Scalar.rank e.config.mode e.config.sortBy e.config.k.toNat
              (e.dims.column I o i').toList)[r]? = some p ∧
            R[(e.outDims.offset o i' r).toNat]? = some p.1 ∧
            g.1[(e.outDims.offset o i' r).toNat]? = some p.2)
      (by
        intro α _ _ _ tag htag xs ys hxs hys
        rw [Array.size_map] at hxs hys
        have his : indices.size = ys.size := by
          have : (indices.size : Int) = ys.size := by rw [hys, hls]
          exact_mod_cast this
        obtain ⟨vs', is', hrun, hwritten⟩ := hex.run_selects htab xs hxs hys his
        have hra : runArrays e.sweep sp xs ys indices = (vs', is', none) := by
          simp [runArrays, e.sweep.runSpread_eq_run xs hnw (by rw [hall]; omega), hrun]
        rw [hra]
        refine ⟨rfl, ?_⟩
        intro o i' ho0 ho hi0 hi r hr
        obtain ⟨hval, hidx⟩ := hwritten o i' ho0 ho hi0 hi r hr
        -- the kept pairs of the scalars are those of the typed values, tagged
        have hcol : e.dims.column (xs.map tag) o i' = (e.dims.column xs o i').map tag :=
          Dims.column_map _ _ _ _ _ fun j hj => by have := hoff o i' ho0 ho hi0 hi j hj; omega
        have hfits : e.sweep.method.Fits (e.dims.column xs o i').size := by
          rw [size_column]
          exact hmfit
        have hkept := Method.getElem?_keptPairs e.sweep.method _ hfits hr
        refine ⟨Prod.map tag id
          ((e.sweep.method.select (Method.entries (e.dims.column xs o i'))).getD r default).pair,
          ?_, ?_, ?_⟩
        · rw [hcol, Array.toList_map, keptPairs_map Ranked.rank _ Scalar.rank tag htag,
            List.getElem?_map]
          exact congrArg (Option.map _) hkept
        · show (vs'.map tag)[(e.sweep.outDims.offset o i' r).toNat]? = _
          rw [Array.getElem?_map, hval]
          rfl
        · exact hidx)
    obtain ⟨hstop, hwrites⟩ := hg (by simpa [Operand.length] using hli)
      (by simpa [Operand.length] using hlv)
    obtain ⟨is', stop⟩ := g
    dsimp only at hstop hwrites
    subst hstop
    refine ⟨i, r, is', rfl, ?_, hwrites⟩
    rw [execute_run_of_buffers hm' hsw hsp hc hz]
    simp only [hnw, Bool.false_eq_true, if_false]

/-- The rows engine on six binary32 values: with its two rows of three, its four cores and its
selection by value, it meets every bound and no hazard, and a run either fails a check or writes
the two largest of each row. -/
theorem execute_writes_kept_rows :
    let input : Operand := .buffer (.float32 (Array.replicate 6 default))
    let values : Operand := .buffer (.float32 (Array.replicate 4 default))
    let indices : Array Int := Array.replicate 4 0
    Reachable rowsEngine ∧
      (rowsEngine.prepared = true →
        rowsEngine.current.storedSize rowsEngine.config.layout < 2 ^ 63) ∧
      rowsEngine.dims.axis ≤ 2 ^ 31 ∧
      (rowsEngine.config.sortBy = .index → rowsEngine.dims.axis ≤ indexPadding) ∧
      ¬ rowsEngine.Hazard input values ∧
      ((∃ err, (rowsEngine.execute input).run (values, indices) =
          .error (.check err) (values, indices)) ∨
        ∃ xs ys : Storage, ∃ indices' : Array Int, input = .buffer xs ∧
          (rowsEngine.execute input).run (values, indices) = .ok () (.buffer ys, indices') ∧
          ∀ o i, 0 ≤ o → o < rowsEngine.dims.outer → 0 ≤ i → i < rowsEngine.dims.inner →
            ∀ r < rowsEngine.config.k.toNat,
            ∃ p, (keptPairs Scalar.rank rowsEngine.config.mode rowsEngine.config.sortBy
                rowsEngine.config.k.toNat (rowsEngine.dims.column xs.toScalars o i).toList)[r]? =
                some p ∧
              ys.toScalars[(rowsEngine.outDims.offset o i r).toNat]? = some p.1 ∧
              indices'[(rowsEngine.outDims.offset o i r).toNat]? = some p.2) := by
  intro input values indices
  have haxis : rowsEngine.dims.axis ≤ 2 ^ 31 := by
    decide
  have hindex : rowsEngine.config.sortBy = .index → rowsEngine.dims.axis ≤ indexPadding := by
    decide
  have hsafe : ¬ rowsEngine.Hazard input values := by
    decide
  exact ⟨reachable_rowsEngine, rowsEngine_fits, haxis, hindex, hsafe,
    execute_writes_kept rowsEngine reachable_rowsEngine rowsEngine_fits haxis hindex input values
      indices hsafe⟩

end Select.Engine

end TensorSelect
