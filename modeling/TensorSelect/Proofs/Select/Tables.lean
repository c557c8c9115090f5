import Mathlib
import TensorSelect.Proofs.Select.Network

/-!
# What built tables hold

Tables are built for a key (`Tables.build`): the networks of the key, once their pairs have room,
and the labels of its axis and lanes. Building fails only by stopping, so the tables that an
engine holds were built, and this module says what that gives a run:

* `Tables.eq_of_build`: built tables hold the networks of `Network.forPasses` and the labels that
  `Labels.build` made;
* `Labels.eq_of_build`: making the labels bounds the axis, and its product with the lanes, by
  `2^46`, since one allocation takes at most `2^48` bytes; the labels are the places along the
  axis as 32-bit integers;
* `Labels.getElem?_lane`: a call over `b` lanes finds the label of element `j` of lane `lane` at
  `j · b + lane`;
* `Tables.scratchPositions_mul_le`: the positions a unit uses, per lane, times the lanes, stay
  below `2^47`, so the scratch size that an engine asks for is a machine integer, exact;
* `storedPair_nonneg` and `mem_bitonicPairs_of_le`: the stored positions of a network are not
  negative up to `2^31` positions, and past that the pair `(2^31, 2^31 + 1)` is stored below zero;
* `Tables.find_built` and `ensureScratch_serves`: finding tables among built ones gives built
  ones, and the scratch buffers made serve what they were made for;
* `Labels.build_ok`, `Tables.build_ok`, `Tables.find_ok` and `ensureScratch_ok`: below the
  allocation limit nothing stops, so short axes and few workers always get their tables and
  their scratch buffers.
-/

namespace TensorSelect

theorem Panic.checkMake_eq_ok {n : Int} {size : Nat} :
    Panic.checkMake n size = .ok () ↔ 0 ≤ n ∧ n.toNat * size ≤ Panic.maxAlloc := by
  unfold Panic.checkMake
  split
  · simp only [reduceCtorEq, false_iff, not_and, not_le]
    omega
  · simp only [true_iff]
    omega

namespace Select

/-! ## Labels -/

/-- The block of labels for `b` lanes writes each place `i` of the axis `b` times, so its entry
at `j · b + lane` is the one of place `j`. -/
theorem getElem?_flatMap_replicate {β : Type} (f : Nat → β) (b : Nat) {n j lane : Nat}
    (hj : j < n) (hl : lane < b) :
    ((List.range n).flatMap fun i => List.replicate b (f i))[j * b + lane]? = some (f j) := by
  induction n with
  | zero => omega
  | succ n ih =>
    have hlen : ((List.range n).flatMap fun i => List.replicate b (f i)).length = n * b := by
      simp [List.length_flatMap, Nat.mul_comm]
    rw [List.range_succ, List.flatMap_append, List.flatMap_singleton]
    rcases Nat.lt_succ_iff_lt_or_eq.1 hj with hj | rfl
    · have hlt : j * b + lane < n * b := by nlinarith
      rw [List.getElem?_append_left (by rw [hlen]; exact hlt)]
      exact ih hj
    · rw [List.getElem?_append_right (by rw [hlen]; omega), hlen, Nat.add_sub_cancel_left,
        List.getElem?_replicate]
      simp [hl]

/-- What made labels hold: an axis of at most `2^46` places, labelled `0, 1, …` as 32-bit
integers, and for a block of more than one lane at most `2^46` labels in all, each place's label
written once per lane. -/
theorem Labels.eq_of_build {A b : Int} {l : Labels} (h : Labels.build A b = .ok l) :
    0 ≤ A ∧ A ≤ 2 ^ 46 ∧
      l.seq = ((List.range A.toNat).map fun (j : Nat) => wrapInt32 j).toArray ∧
      (1 < b → A * b ≤ 2 ^ 46 ∧ l.block = some (((List.range A.toNat).flatMap fun (j : Nat) =>
        List.replicate b.toNat (wrapInt32 j)).toArray)) := by
  unfold Labels.build at h
  cases hm : Panic.checkMake A 4 with
  | error p => simp [hm, bind, Except.bind] at h
  | ok u =>
    obtain ⟨hA0, hA⟩ := Panic.checkMake_eq_ok.1 hm
    have hA' : A ≤ 2 ^ 46 := by
      have : Panic.maxAlloc = 2 ^ 48 := rfl
      omega
    simp only [hm, bind, Except.bind] at h
    by_cases hb : 1 < b
    · simp only [hb, if_true] at h
      cases hm2 : Panic.checkMake (wrapWord (A * b)) 4 with
      | error p => simp [hm2] at h
      | ok u2 =>
        -- the block is made at the wrapped length, and filling it stops below the product
        obtain ⟨hn0, hn⟩ := Panic.checkMake_eq_ok.1 hm2
        by_cases hw : wrapWord (A * b) < A * b
        · simp [hm2, hw, throw, throwThe, MonadExceptOf.throw] at h
        simp [hm2, hw, pure, Except.pure] at h
        have : Panic.maxAlloc = 2 ^ 48 := rfl
        refine ⟨hA0, hA', by rw [← h], fun _ => ⟨by omega, by rw [← h]⟩⟩
    · simp [hb, pure, Except.pure] at h
      exact ⟨hA0, hA', by rw [← h], fun h' => absurd h' hb⟩

/-- A call over `b` lanes reads the label of element `j` of lane `lane` at `j · b + lane`, and it
is `j` as a 32-bit integer. -/
theorem Labels.getElem?_lane {A b : Int} {l : Labels} (h : Labels.build A b = .ok l) (hb : 1 ≤ b)
    {j lane : Nat} (hj : j < A.toNat) (hlane : lane < b.toNat) :
    (l.lane b)[j * b.toNat + lane]? = some (wrapInt32 j) := by
  obtain ⟨-, -, hseq, hblock⟩ := Labels.eq_of_build h
  by_cases hb1 : 1 < b
  · simp only [Labels.lane, gt_iff_lt, hb1, if_true, (hblock hb1).2, Option.getD_some,
      List.getElem?_toArray]
    exact getElem?_flatMap_replicate (fun (i : Nat) => wrapInt32 i) b.toNat hj hlane
  · have hlane0 : lane = 0 := by omega
    have hb1' : b.toNat = 1 := by omega
    subst hlane0
    simp only [Labels.lane, gt_iff_lt, hb1, if_false, hseq, hb1', Nat.mul_one, Nat.add_zero,
      List.getElem?_toArray, List.getElem?_map, List.getElem?_range hj, Option.map_some]

/-- Making the labels bounds the axis times the lanes of a call by `2^46`. -/
theorem Labels.axis_mul_le {A b : Int} {l : Labels} (h : Labels.build A b = .ok l) (hb : 1 ≤ b) :
    0 ≤ A ∧ A * b ≤ 2 ^ 46 := by
  obtain ⟨hA0, hA, -, hblock⟩ := Labels.eq_of_build h
  by_cases hb1 : 1 < b
  · exact ⟨hA0, (hblock hb1).1⟩
  · have : b = 1 := by omega
    subst this
    omega

/-- Labels are made for an axis and lanes whose product stays within `2^46`: the sequence, and
for more than one lane the block, fit one allocation, and the block's length does not wrap. -/
theorem Labels.build_ok {A b : Int} (hA : 0 ≤ A) (hb : 1 ≤ b) (hAb : A * b ≤ 2 ^ 46) :
    ∃ l, Labels.build A b = .ok l := by
  have hmax : Panic.maxAlloc = 2 ^ 48 := rfl
  have hAA : A ≤ A * b := by nlinarith
  have hm : Panic.checkMake A 4 = .ok () := Panic.checkMake_eq_ok.2 ⟨hA, by omega⟩
  unfold Labels.build
  by_cases hb1 : 1 < b
  · have hw : wrapWord (A * b) = A * b := wrapWord_of_mem (by omega) (by omega)
    have hm2 : Panic.checkMake (A * b) 4 = .ok () := Panic.checkMake_eq_ok.2 ⟨by omega, by omega⟩
    simp [hm, hb1, hw, hm2, bind, Except.bind, pure, Except.pure]
  · simp [hm, hb1, bind, Except.bind, pure, Except.pure]

/-! ## Built tables -/

/-- Built tables hold the key they were built for, the networks of the key, whose pairs had
room, and the labels of its axis and lanes. -/
theorem Tables.eq_of_build {key : TablesKey} {t : Tables} (h : Tables.build key = .ok t) :
    Network.reserve key.axisLen key.k key.valuePass key.indexPass = .ok () ∧
      ∃ l, Labels.build key.axisLen key.lanes = .ok l ∧
        t = { key, network := Network.forPasses key.axisLen key.k key.valuePass key.indexPass,
              indices := l } := by
  unfold Tables.build at h
  cases hr : Network.reserve key.axisLen key.k key.valuePass key.indexPass with
  | error p => simp [hr, bind, Except.bind] at h
  | ok u =>
    cases hl : Labels.build key.axisLen key.lanes with
    | error p => simp [hr, hl, bind, Except.bind] at h
    | ok l =>
      simp [hr, hl, bind, Except.bind, pure, Except.pure] at h
      exact ⟨rfl, l, rfl, h.symm⟩

theorem Tables.key_of_build {key : TablesKey} {t : Tables} (h : Tables.build key = .ok t) :
    t.key = key := by
  obtain ⟨-, l, -, rfl⟩ := Tables.eq_of_build h
  rfl

/-- Tables are built for an axis and a `k` of at most `2^31` each, over lanes whose product with
the axis stays within `2^46`. -/
theorem Tables.build_ok {key : TablesKey} (hA0 : 0 ≤ key.axisLen) (hA : key.axisLen ≤ 2 ^ 31)
    (hk : key.k ≤ 2 ^ 31) (hl : 1 ≤ key.lanes) (hAl : key.axisLen * key.lanes ≤ 2 ^ 46) :
    ∃ t, Tables.build key = .ok t := by
  obtain ⟨l, hlab⟩ := Labels.build_ok hA0 hl hAl
  refine ⟨{ key, network := Network.forPasses key.axisLen key.k key.valuePass key.indexPass,
            indices := l }, ?_⟩
  simp only [Tables.build, Network.reserve_of_le hA hk, hlab, bind, Except.bind, pure, Except.pure]

theorem nextPow2_le_two_mul {n : Nat} (h : 1 ≤ n) : nextPow2 n ≤ 2 * n := by
  unfold nextPow2
  split
  · omega
  · have := Nat.log2_self_le (n := n - 1) (by omega)
    rw [Nat.pow_eq, Nat.pow_succ]
    omega

/-- A network rounded up from `1 ≤ n ≤ 2^62` positions has at most `2n`. -/
theorem nextPow2Word_le_two_mul {n : Int} (h1 : 1 ≤ n) (h : n ≤ 2 ^ 62) :
    nextPow2Word n ≤ 2 * n := by
  rw [nextPow2Word_of_le h]
  have := nextPow2_le_two_mul (n := n.toNat) (by omega)
  omega

/-- The positions that a unit uses, per lane, are at least one and at most twice the axis:
every network has at most twice the axis, and `k` is at most the axis. -/
theorem Tables.scratchPositions_le {key : TablesKey} {t : Tables}
    (h : Tables.build key = .ok t) (hk1 : 1 ≤ key.k) (hk : key.k ≤ key.axisLen) :
    1 ≤ t.scratchPositions ∧ t.scratchPositions ≤ 2 * key.axisLen := by
  obtain ⟨-, l, hlab, rfl⟩ := Tables.eq_of_build h
  obtain ⟨-, hA, -⟩ := Labels.eq_of_build hlab
  have hsize : (Network.forPasses key.axisLen key.k key.valuePass key.indexPass).size ≤
      2 * key.axisLen := by
    rw [Network.size_forPasses]
    split
    · exact nextPow2Word_le_two_mul (by omega) (by omega)
    · omega
  have hisize : (Network.forPasses key.axisLen key.k key.valuePass key.indexPass).indexSize ≤
      2 * key.axisLen := by
    rw [Network.indexSize_forPasses]
    split
    · have := nextPow2Word_le_two_mul hk1 (by omega)
      omega
    · omega
  simp only [Tables.scratchPositions]
  omega

/-- The positions that a unit uses, per lane, times the lanes of a call stay below `2^47`:
making the labels bounds the axis times the lanes by `2^46`. -/
theorem Tables.scratchPositions_mul_le {key : TablesKey} {t : Tables}
    (h : Tables.build key = .ok t) (hk1 : 1 ≤ key.k) (hk : key.k ≤ key.axisLen)
    (hl : 1 ≤ key.lanes) :
    1 ≤ t.scratchPositions ∧ t.scratchPositions * key.lanes ≤ 2 ^ 47 := by
  obtain ⟨h1, hpos⟩ := Tables.scratchPositions_le h hk1 hk
  obtain ⟨-, l, hlab, -⟩ := Tables.eq_of_build h
  obtain ⟨-, hAb⟩ := Labels.axis_mul_le hlab hl
  refine ⟨h1, ?_⟩
  calc _ ≤ 2 * key.axisLen * key.lanes := Int.mul_le_mul_of_nonneg_right hpos (by omega)
    _ = 2 * (key.axisLen * key.lanes) := by ring
    _ ≤ 2 ^ 47 := by omega

/-! ## Stored positions -/

/-- The pairs of a bitonic network of at most `2^31` positions are stored exactly, at positions
that are not negative. -/
theorem storedPair_nonneg {m : Nat} (hm : m ≤ 31) {p : Nat × Nat} (hp : p ∈ bitonicPairs (2 ^ m)) :
    0 ≤ (storedPair p).1 ∧ 0 ≤ (storedPair p).2 := by
  have hpow : 2 ^ m ≤ 2 ^ 31 := Nat.pow_le_pow_right (by decide) hm
  have hlt := bitonicPairs_lt rfl p hp
  rw [storedPair_of_lt (by omega) (by omega)]
  exact ⟨Int.natCast_nonneg _, Int.natCast_nonneg _⟩

/-- The network rounded up from at most `2^31` positions stores its pairs at positions that are
not negative. -/
theorem storedPair_nonneg_of_le {n : Int} (hn : n ≤ 2 ^ 31) {p : Nat × Nat}
    (hp : p ∈ bitonicPairs (nextPow2Word n).toNat) :
    0 ≤ (storedPair p).1 ∧ 0 ≤ (storedPair p).2 := by
  obtain ⟨m, hm⟩ := nextPow2_eq_pow n.toNat
  have hm31 : m ≤ 31 :=
    (Nat.pow_le_pow_iff_right (by decide)).1 (hm ▸ nextPow2_le_pow (p := 31) (by omega))
  rw [nextPow2Word_of_le (by omega), Int.toNat_natCast, hm] at hp
  exact storedPair_nonneg hm31 hp

/-- Every bitonic network of `2^32` positions or more compares positions `2^31` and `2^31 + 1`
in its first stage. -/
theorem mem_bitonicPairs_of_le {m : Nat} (hm : 32 ≤ m) :
    ((2 ^ 31 : Nat), (2 ^ 31 + 1 : Nat)) ∈ bitonicPairs (2 ^ m) := by
  have hlt : 2 ^ 31 + 1 < 2 ^ m :=
    lt_of_lt_of_le (by decide) (Nat.pow_le_pow_right (by decide) hm)
  have hstage : ((2 : Nat), (1 : Nat)) ∈ bitonicStages (2 ^ m) := by
    simp only [bitonicStages, Nat.log2_two_pow, List.mem_flatMap, List.mem_range, List.mem_map,
      List.mem_reverse]
    exact ⟨0, by omega, 0, by simp, rfl⟩
  simp only [bitonicPairs, List.mem_flatMap]
  refine ⟨(2, 1), hstage, ?_⟩
  simp only [stagePairs, List.mem_filterMap, List.mem_range]
  exact ⟨2 ^ 31, by omega, by decide⟩

/-- The pair `(2^31, 2^31 + 1)` is stored below zero. -/
theorem storedPair_two_pow_31 :
    storedPair ((2 ^ 31 : Nat), (2 ^ 31 + 1 : Nat)) = (-2 ^ 31, -2 ^ 31 + 1) := by
  decide

/-! ## Finding tables and making scratch buffers -/

/-- Finding tables among built ones gives the built tables of the key, and a cache of built
ones; finding stops only where building does. -/
theorem Tables.find_built {current : Option Tables} {cache : List Tables} {key : TablesKey}
    {found : Tables × List Tables}
    (hc : ∀ t ∈ cache, Tables.build t.key = .ok t)
    (ht : ∀ t, current = some t → Tables.build t.key = .ok t)
    (hf : Tables.find current cache key = .ok found) :
    Tables.build key = .ok found.1 ∧ ∀ t ∈ found.2, Tables.build t.key = .ok t := by
  have hlookup : Tables.find.lookup cache key = .ok found →
      Tables.build key = .ok found.1 ∧ ∀ t ∈ found.2, Tables.build t.key = .ok t := by
    intro hl
    unfold Tables.find.lookup at hl
    split at hl
    · rename_i t hfind
      cases hl
      have hkey : t.key = key := by simpa using List.find?_some hfind
      exact ⟨hkey ▸ hc t (List.mem_of_find?_eq_some hfind), hc⟩
    · cases hb : Tables.build key with
      | error p => simp [hb, Except.map] at hl
      | ok t =>
        simp only [hb, Except.map, Except.ok.injEq] at hl
        subst hl
        refine ⟨rfl, ?_⟩
        intro t' ht'
        rcases List.mem_cons.1 ht' with rfl | ht'
        · rw [Tables.key_of_build hb]
          exact hb
        · exact hc t' ht'
  unfold Tables.find at hf
  split at hf
  · rename_i t
    split at hf
    · rename_i hkey
      cases hf
      exact ⟨hkey ▸ ht t rfl, hc⟩
    · exact hlookup hf
  · exact hlookup hf

/-- Finding the tables of a key stops only where building them does. -/
theorem Tables.find_ok {current : Option Tables} {cache : List Tables} {key : TablesKey}
    {t : Tables} (hb : Tables.build key = .ok t) :
    ∃ found, Tables.find current cache key = .ok found := by
  have hlookup : ∃ found, Tables.find.lookup cache key = .ok found := by
    unfold Tables.find.lookup
    split
    · exact ⟨_, rfl⟩
    · exact ⟨_, by rw [hb]; rfl⟩
  unfold Tables.find
  split
  · split
    · exact ⟨_, rfl⟩
    · exact hlookup
  · exact hlookup

/-- Made scratch buffers are the buffers kept and the new ones, in the order of the workers. -/
theorem ensureScratch_eq_ok {pool : List Scratch} {workers : Nat} {d : DType} {n : Int}
    {scratch : List Scratch} (h : ensureScratch pool workers d n = .ok scratch) :
    scratch = (List.range (max workers pool.length)).map fun w =>
      match pool[w]? with
      | some b => if w < workers && !b.serves d n then ⟨d, n.toNat⟩ else b
      | none => ⟨d, n.toNat⟩ := by
  unfold ensureScratch at h
  -- each stop comes before the buffers are listed, so a run that ends lists them
  by_cases hlen : pool.length < workers <;>
    by_cases hany : ((List.range workers).any fun w => !(pool[w]?.any (·.serves d n))) = true <;>
    simp only [hlen, hany, if_true, if_false, Bool.false_eq_true] at h
  · cases hm : Panic.checkMake (workers - pool.length : Nat) 8 with
    | error p => simp [hm, bind, Except.bind] at h
    | ok u =>
      cases hs : checkScratch d n with
      | error p => simp [hm, hs, bind, Except.bind] at h
      | ok u' =>
        rw [hm, hs] at h
        exact (Except.ok.inj h).symm
  · cases hm : Panic.checkMake (workers - pool.length : Nat) 8 with
    | error p => simp [hm, bind, Except.bind] at h
    | ok u =>
      rw [hm] at h
      exact (Except.ok.inj h).symm
  · cases hs : checkScratch d n with
    | error p => simp [hs, bind, Except.bind] at h
    | ok u' =>
      rw [hs] at h
      exact (Except.ok.inj h).symm
  · exact (Except.ok.inj h).symm

/-- Every one of the first `workers` buffers made serves what they were made to serve. -/
theorem ensureScratch_serves {pool : List Scratch} {workers : Nat} {d : DType} {n : Int}
    {scratch : List Scratch} (h : ensureScratch pool workers d n = .ok scratch) {w : Nat}
    (hw : w < workers) : ∃ b, scratch[w]? = some b ∧ b.serves d n = true := by
  have hlt : w < max workers pool.length := lt_of_lt_of_le hw (le_max_left _ _)
  rw [ensureScratch_eq_ok h]
  simp only [List.getElem?_map, List.getElem?_range hlt, Option.map_some, Option.some.injEq,
    exists_eq_left']
  split
  · rename_i b _
    split
    · simp [Scratch.serves]
    · rename_i hnot
      simpa [hw] using hnot
  · simp [Scratch.serves]

theorem ElemType.byteSize_le (t : ElemType) : t.byteSize ≤ 8 := by
  cases t <;> decide

/-- The scratch buffers are made when the slots of the workers, eight bytes each, and a buffer of
`n` positions of eight bytes fit one allocation each. -/
theorem ensureScratch_ok (pool : List Scratch) (workers : Nat) (d : DType) {n : Int}
    (hw : workers * 8 ≤ Panic.maxAlloc) (hn : 0 ≤ n) (hnb : n.toNat * 8 ≤ Panic.maxAlloc) :
    ∃ scratch, ensureScratch pool workers d n = .ok scratch := by
  have hslots : Panic.checkMake ((workers - pool.length : Nat) : Int) 8 = .ok () :=
    Panic.checkMake_eq_ok.2 ⟨by omega, by rw [Int.toNat_natCast]; omega⟩
  -- the values of a buffer take at most eight bytes each, its indices four
  have hbytes : (d.elemType?.map ElemType.byteSize).getD 0 ≤ 8 := by
    cases d.elemType? with
    | none => simp
    | some t => exact ElemType.byteSize_le t
  have hvalues : Panic.checkMakeOf n ((d.elemType?.map ElemType.byteSize).getD 0) = .ok () := by
    unfold Panic.checkMakeOf
    rw [if_neg (by omega), if_neg (by nlinarith)]
  have hindices : Panic.checkMake n 4 = .ok () := Panic.checkMake_eq_ok.2 ⟨hn, by omega⟩
  have hbuffer : checkScratch d n = .ok () := by
    simp only [checkScratch, hvalues, hindices, bind, Except.bind]
  unfold ensureScratch
  by_cases hlen : pool.length < workers <;>
    by_cases hany : ((List.range workers).any fun w => !(pool[w]?.any (·.serves d n))) = true <;>
    simp [hlen, hany, hslots, hbuffer, bind, Except.bind, pure, Except.pure]

end Select

end TensorSelect
