import Mathlib
import TensorSelect.Proofs.Engine.Setup
import TensorSelect.Proofs.Select.Tables

/-!
# What every reachable engine keeps

An engine is made with some options and then configured and prepared any number of times, with
any arguments, as long as each request returns: it succeeds, or fails one of its checks
(`Reachable`). A request that stops does not return, and the engine it leaves is not followed. A
run changes only the buffers it is given. Every engine reached so keeps `Ready`:

* once configured, its settings and shape passed the checks of `configure`, its axis is the one
  they name and its algorithm is one that runs (`Configured`);
* once prepared, its prepared shape passed the checks of `prepare`, its addressing is the one of
  that shape, and it holds the tables built for the shape's key and, for every worker, a scratch
  buffer that serves the shape's element type with room for a unit (`Prepared`);
* every table it holds or caches is what building its key gives.

Each request that returns keeps `Ready` (`Ready.prepare`, `Ready.configure`), and
`Reachable.ready` follows by induction on the requests. `Reachable.prepared_state` spells out
what it says of a prepared engine; the scratch size asked for there is exact, since built tables
bound it (`Tables.scratchPositions_mul_le`).
-/

namespace TensorSelect

theorem Dims.one_le_lanes (d : Dims) : 1 ≤ d.lanes := by
  unfold Dims.lanes
  split
  · rename_i h
    simp only [Bool.and_eq_true, decide_eq_true_eq] at h
    omega
  · exact le_rfl

namespace Select

namespace Engine

open SetupCheck

/-! ## The invariant -/

/-- The engine that a request leaves, whether it succeeds or fails. -/
def after {ε α : Type} : EStateM.Result ε Engine α → Engine
  | .ok _ e => e
  | .error _ e => e

/-- Whether a request returned: it succeeded, or failed one of its checks. A request that stops
does not return. -/
def returned {α : Type} : EStateM.Result RunError Engine α → Bool
  | .ok _ _ => true
  | .error (.check _) _ => true
  | .error _ _ => false

/-- The engines that a sequence of requests can reach: made with some options, then configured
and prepared any number of times, with any arguments, each request returning. A run changes
only its buffers. -/
inductive Reachable : Engine → Prop
  | created (h : Host) (o : Options) : Reachable { host := h, options := o }
  | configured {e : Engine} (c : Config) (s : Shape) : Reachable e →
      returned ((configure c s).run e) = true → Reachable (after ((configure c s).run e))
  | prepared {e : Engine} (s : Shape) : Reachable e →
      returned ((prepare s).run e) = true → Reachable (after ((prepare s).run e))

theorem one_le_workAmount (e : Engine) (d : Dims) : 1 ≤ e.workAmount d := by
  unfold workAmount
  split
  · exact d.one_le_lanes
  · exact le_rfl

/-- What a configured engine keeps: its settings and shape passed every check but the one of `k`
against the axis, it selects along the axis they name, and it runs a named algorithm. -/
structure Configured (e : Engine) : Prop where
  settings : ∀ ch ∈ SetupCheck.settings, ch.Passes e.config e.shape
  shape : ∀ ch ∈ SetupCheck.shape, ch.Passes e.config e.shape
  axis : e.axis = axisIndex e.config e.shape
  algorithm : e.algorithm = .bubble ∨ e.algorithm = .bitonic ∨ e.algorithm = .heap

/-- What a prepared engine keeps: its shape passed the checks of `prepare`, and it holds the
addressing of input and output, the tables of the shape and a scratch buffer for each worker. -/
structure Prepared (e : Engine) : Prop where
  configured : e.configured = true
  fits : e.shape.fits e.current = true
  static : e.current.isStatic = true
  dims_pos : ∀ x ∈ e.current.dims, 1 ≤ x
  k_le : e.config.k ≤ e.current.dims.getD e.axis 0
  resolve : Layout.resolve e.current e.axis e.config.layout = .ok e.dims
  outDims : e.outDims = e.dims.withAxis e.config.k
  tables : ∃ t, e.tables = some t ∧ Tables.build (e.tablesKey e.current e.dims) = .ok t ∧
    ∀ w < e.pool.workers, ∃ b, e.scratch[w]? = some b ∧
      b.serves e.current.dtype (e.scratchSize t e.dims) = true

/-- What every reachable engine keeps. -/
structure Ready (e : Engine) : Prop where
  cache : ∀ t ∈ e.tablesCache, Tables.build t.key = .ok t
  tables : ∀ t, e.tables = some t → Tables.build t.key = .ok t
  configured : e.configured = true → Configured e
  prepared : e.prepared = true → Prepared e

theorem ready_created (h : Host) (o : Options) : Ready { host := h, options := o } where
  cache := by simp
  tables := by simp
  configured := by simp
  prepared := by simp

/-- What the checks of `prepare` establish about a shape they accept. -/
theorem checkPrepare_ok {e : Engine} {s : Shape} {d : Dims} (h : e.checkPrepare s = .ok d) :
    s.isStatic = true ∧ e.shape.fits s = true ∧ (∀ x ∈ s.dims, 1 ≤ x) ∧
      e.config.k ≤ s.dims.getD e.axis 0 ∧ Layout.resolve s e.axis e.config.layout = .ok d := by
  unfold checkPrepare at h
  by_cases hs : s.isStatic = true
  swap
  · simp [hs] at h
  by_cases hf : e.shape.fits s = true
  swap
  · simp [hs, hf] at h
  cases hi : s.dims.findIdx? (· < 1) with
  | some a => simp [hs, hf, hi] at h
  | none =>
    have hpos : ∀ x ∈ s.dims, 1 ≤ x := by
      intro x hx
      have := List.findIdx?_eq_none_iff.1 hi x hx
      simp at this
      omega
    have hk : e.config.k ≤ s.dims.getD e.axis 0 := by
      by_contra hk
      simp only [List.getD_eq_getElem?_getD] at hk
      simp [hs, hf, hi, show s.dims[e.axis]?.getD 0 < e.config.k by omega] at h
    simp only [List.getD_eq_getElem?_getD] at hk
    simp [hs, hf, hi, show ¬ s.dims[e.axis]?.getD 0 < e.config.k by omega] at h
    refine ⟨hs, hf, hpos, by simpa using hk, ?_⟩
    cases hr : Layout.resolve s e.axis e.config.layout with
    | error err => simp [hr] at h
    | ok d' => simp [hr] at h; rw [h]

/-- The algorithm chosen for checked settings is one that runs. -/
theorem choose_runs {c : Config} (hc : algorithmNamed.Passes c s) (axisLen : Int) (known : Bool)
    (o : Options) : let a := (choose c axisLen known o).1
      a = .bubble ∨ a = .bitonic ∨ a = .heap := by
  simp only [Passes, List.mem_cons, List.not_mem_nil, or_false] at hc
  simp only [choose]
  split
  · rename_i h
    rcases hc with h' | h' | h' | h' <;> simp_all
  · split
    · simp
    · split <;> simp

section Steps

variable {e : Engine}

theorem ready_reset : Ready e.reset where
  cache := by simp [Engine.reset]
  tables := by simp [Engine.reset]
  configured := by simp
  prepared := by simp

theorem ready_install {c : Config} {s : Shape} {a : Nat} (h : checkSetup c s = .ok a) :
    Ready (e.reset.install c s a) where
  cache := by simp [Engine.reset, Engine.install]
  tables := by simp [Engine.reset, Engine.install]
  configured := by
    intro _
    obtain ⟨rfl, hall⟩ := passes_of_checkSetup h
    exact { settings := fun ch _ => hall ch, shape := fun ch _ => hall ch, axis := rfl,
            algorithm := choose_runs (hall algorithmNamed) _ _ _ }
  prepared := by simp

/-- Committing a checked shape, when it settles, keeps the invariant: the tables it holds and
caches were built for their keys, and the scratch buffers serve the tables found. -/
theorem Ready.commit {s : Shape} {d : Dims} {e' : Engine} (hr : Ready e) (hc : e.configured = true)
    (h : e.checkPrepare s = .ok d) (hok : (commit s d).run e = .ok () e') : Ready e' := by
  obtain ⟨hs, hf, hpos, hk, hres⟩ := checkPrepare_ok h
  rw [commit_run] at hok
  cases hfind : Tables.find e.tables e.tablesCache (e.tablesKey s d) with
  | error p => rw [hfind] at hok; cases hok
  | ok found =>
    rw [hfind] at hok
    dsimp only at hok
    cases hens : ensureScratch e.scratch e.pool.workers s.dtype (e.scratchSize found.1 d) with
    | error p => rw [hens] at hok; cases hok
    | ok scratch =>
      rw [hens] at hok
      cases hok
      obtain ⟨hbuild, hcache⟩ := Tables.find_built hr.cache hr.tables hfind
      refine { cache := hcache, tables := ?_, configured := fun _ => ?_, prepared := fun _ => ?_ }
      · intro t ht
        cases ht
        rw [Tables.key_of_build hbuild]
        exact hbuild
      · have := hr.configured hc
        exact { settings := this.settings, shape := this.shape, axis := this.axis,
                algorithm := this.algorithm }
      · exact { configured := hc, fits := hf, static := hs, dims_pos := hpos, k_le := hk,
                resolve := hres, outDims := rfl,
                tables := ⟨found.1, rfl, hbuild, fun w hw => ensureScratch_serves hens hw⟩ }

/-- A `prepare` that returns keeps the invariant: it refuses, keeps the prepared shape, fails a
check before any change, or commits and settles. -/
theorem Ready.prepare (hr : Ready e) (s : Shape) (hret : returned ((prepare s).run e) = true) :
    Ready (after ((prepare s).run e)) := by
  rw [prepare_run] at hret ⊢
  by_cases hc : e.configured = true
  swap
  · simpa [hc, after] using hr
  by_cases hsame : (e.prepared && s == e.current) = true
  · simpa [hc, hsame, after] using hr
  cases h : e.checkPrepare s with
  | error err => simpa [hc, hsame, h, after] using hr
  | ok d =>
    simp only [hc, hsame, h, Bool.not_true, Bool.false_eq_true, if_false] at hret ⊢
    -- committing settles, or stops and does not return
    rcases commit_outcome e s d with ⟨e', he', -⟩ | ⟨p, e', he', -⟩ <;> rw [he'] at hret ⊢
    · exact hr.commit hc h he'
    · simp [returned] at hret

/-- A `configure` that returns keeps the invariant: it clears the engine, and installs checked
settings, preparing a static shape. -/
theorem Ready.configure (c : Config) (s : Shape) (hret : returned ((configure c s).run e) = true) :
    Ready (after ((configure c s).run e)) := by
  rw [configure_run] at hret ⊢
  cases h : checkSetup c s with
  | error err => exact ready_reset
  | ok a =>
    simp only [h] at hret ⊢
    split
    · rename_i hs
      rw [if_pos hs] at hret
      exact (ready_install h).prepare s hret
    · exact ready_install h

end Steps

/-- Every reachable engine keeps the invariant. -/
theorem Reachable.ready {e : Engine} (h : Reachable e) : Ready e := by
  induction h with
  | created h o => exact ready_created h o
  | configured c s _ hret _ => exact Ready.configure c s hret
  | prepared s _ hret ih => exact ih.prepare s hret

/-- The scratch size that a prepared engine asks for is exact: the positions of its tables times
the lanes of a call, which built tables keep below `2^47`. -/
theorem Prepared.scratchSize_eq {e : Engine} (hc : Configured e) (hP : Prepared e) {t : Tables}
    (ht : Tables.build (e.tablesKey e.current e.dims) = .ok t) :
    e.scratchSize t e.dims = t.scratchPositions * e.workAmount e.dims := by
  have hk1 : 1 ≤ e.config.k := hc.settings kPositive (by simp [SetupCheck.settings])
  obtain ⟨h1, hle⟩ := Tables.scratchPositions_mul_le ht hk1 hP.k_le (e.one_le_workAmount e.dims)
  have hl := e.one_le_workAmount e.dims
  unfold scratchSize
  exact wrapWord_eq_self (by positivity) (lt_of_le_of_lt hle (by norm_num))

/-- What every reachable prepared engine holds, whatever configurations and preparations reached
it, failed ones and those that found the shape already prepared included (a run changes only its
buffers). It is configured; its prepared shape is static, fits the configured one, has no empty
axis and at least `k` elements along the axis; its addressing is the one of that shape and axis
in the configured layout, and the output's is the same with `k` along the axis. Its tables are
keyed by the axis length, `k`, whether the algorithm is bitonic, whether the output is listed by
index and the lanes of a call, and are what building that key gives, as every cached table is.
Each of the first `workers` scratch buffers holds the shape's element type with room for the
positions a unit uses, per lane, times the lanes. -/
theorem Reachable.prepared_state {e : Engine} (h : Reachable e) (hp : e.prepared = true) :
    e.configured = true ∧
    e.current.isStatic = true ∧ e.shape.fits e.current = true ∧ (∀ x ∈ e.current.dims, 1 ≤ x) ∧
    e.config.k ≤ e.current.dims.getD e.axis 0 ∧
    Layout.resolve e.current e.axis e.config.layout = .ok e.dims ∧
    e.outDims = e.dims.withAxis e.config.k ∧
    (∃ t, e.tables = some t ∧
      t.key = ⟨e.current.dims.getD e.axis 0, e.config.k, e.algorithm == .bitonic,
        e.config.sortBy == .index, e.workAmount e.dims⟩ ∧
      Tables.build t.key = .ok t ∧
      ∀ w < e.pool.workers, ∃ b, e.scratch[w]? = some b ∧ b.dtype = e.current.dtype ∧
        t.scratchPositions * e.workAmount e.dims ≤ b.size) ∧
    ∀ t ∈ e.tablesCache, Tables.build t.key = .ok t := by
  have hr := h.ready
  have hP := hr.prepared hp
  have hC := hr.configured hP.configured
  obtain ⟨t, ht, hbuild, hscratch⟩ := hP.tables
  have hkey : t.key = e.tablesKey e.current e.dims := Tables.key_of_build hbuild
  refine ⟨hP.configured, hP.static, hP.fits, hP.dims_pos, hP.k_le, hP.resolve, hP.outDims,
    ⟨t, ht, hkey, hkey ▸ hbuild, ?_⟩, hr.cache⟩
  intro w hw
  obtain ⟨b, hb, hserves⟩ := hscratch w hw
  simp only [Scratch.serves, Bool.and_eq_true, beq_iff_eq, decide_eq_true_eq,
    hP.scratchSize_eq hC hbuild] at hserves
  exact ⟨b, hb, hserves.1, hserves.2⟩

/-- An engine on a machine with two cores, configured to keep the largest of each column of
16-bit integers with a dynamic number of rows, then prepared for three rows. -/
def columnsEngine : Engine :=
  let host : Host := { platform := ⟨"amd64", 32, 16⟩, cores := 2 }
  let configured := after ((configure { axis := 0, k := 1 } ⟨ElemType.int16.toDType, [-1, 2]⟩).run
    { host, options := Options.default host })
  after ((prepare ⟨ElemType.int16.toDType, [3, 2]⟩).run configured)

theorem reachable_columnsEngine : Reachable columnsEngine := by
  unfold columnsEngine
  exact .prepared _ (.configured _ _ (.created _ _) (by decide)) (by decide)

theorem prepared_state_columns :
    Reachable columnsEngine ∧ columnsEngine.prepared = true ∧
    (columnsEngine.configured = true ∧
    columnsEngine.current.isStatic = true ∧ columnsEngine.shape.fits columnsEngine.current = true ∧
    (∀ x ∈ columnsEngine.current.dims, 1 ≤ x) ∧
    columnsEngine.config.k ≤ columnsEngine.current.dims.getD columnsEngine.axis 0 ∧
    Layout.resolve columnsEngine.current columnsEngine.axis columnsEngine.config.layout =
      .ok columnsEngine.dims ∧
    columnsEngine.outDims = columnsEngine.dims.withAxis columnsEngine.config.k ∧
    (∃ t, columnsEngine.tables = some t ∧
      t.key = ⟨columnsEngine.current.dims.getD columnsEngine.axis 0, columnsEngine.config.k,
        columnsEngine.algorithm == .bitonic, columnsEngine.config.sortBy == .index,
        columnsEngine.workAmount columnsEngine.dims⟩ ∧
      Tables.build t.key = .ok t ∧
      ∀ w < columnsEngine.pool.workers, ∃ b, columnsEngine.scratch[w]? = some b ∧
        b.dtype = columnsEngine.current.dtype ∧
        t.scratchPositions * columnsEngine.workAmount columnsEngine.dims ≤ b.size) ∧
    ∀ t ∈ columnsEngine.tablesCache, Tables.build t.key = .ok t) := by
  have hp : columnsEngine.prepared = true := by decide
  exact ⟨reachable_columnsEngine, hp, reachable_columnsEngine.prepared_state hp⟩

end Engine

end Select

end TensorSelect
