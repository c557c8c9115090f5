import Mathlib
import TensorSelect.Select.Engine
import TensorSelect.Proofs.Layout.Addressing

/-!
# What each request does to the engine

The requests of the engine are state changes (`EStateM`), and this module says once, for each,
what it can do; later proofs cite these equations and never unfold a request.

* `prepare_run`: an unconfigured engine refuses; the prepared shape is kept as it is; otherwise
  the checks of the shape (`checkPrepare`) either fail, and the engine is left as it was, or give
  the addressing that the engine commits to.
* `commit_run`: committing finds the tables, which may stop before any change, then holds them
  and makes the scratch buffers, which may stop with the tables held, and then settles.
* `configure_run`: the engine is cleared first, so a failed check leaves it cleared; otherwise it
  is installed for the settings, and a static shape is prepared at once.
* `execute_run_of_checkRun_error` and `checkRun_of_execute_check`: a run reports a failed check
  exactly when its arguments fail their checks, and then has written nothing. Past the checks,
  the call arguments of the workers do not fit one allocation (`execute_run_of_args_error`),
  the pool stops (`execute_run_of_sweep_error`), has no unit to hand out
  (`execute_run_of_idle`), or hands out units: to buffers (`execute_run_of_buffers`), or to an
  argument that is no slice of the element type, which stops the first call
  (`execute_run_of_input`, `execute_run_of_values`).
-/

namespace TensorSelect

namespace Select.Engine

/-! ## Preparing and configuring -/

theorem commit_run (e : Engine) (s : Shape) (dims : Dims) : (commit s dims).run e =
    match Tables.find e.tables e.tablesCache (e.tablesKey s dims) with
    | .error p => .error (.stop p) e
    | .ok found =>
      match ensureScratch e.scratch e.pool.workers s.dtype (e.scratchSize found.1 dims) with
      | .error p => .error (.stop p) (e.withTables found)
      | .ok scratch => .ok () ((e.withTables found).settle s dims scratch) := by
  simp only [commit, EStateM.run_bind, EStateM.run_get]
  cases Tables.find e.tables e.tablesCache (e.tablesKey s dims) with
  | error p => rfl
  | ok found =>
    simp only [EStateM.run_bind, EStateM.run_set, scratch_withTables, pool_withTables,
      scratchSize_withTables]
    cases ensureScratch e.scratch e.pool.workers s.dtype (e.scratchSize found.1 dims) <;> rfl

/-- Committing either settles the engine on the shape, prepared, or stops, leaving it as
configured and as prepared as it was. -/
theorem commit_outcome (e : Engine) (s : Shape) (dims : Dims) :
    (∃ e', (commit s dims).run e = .ok () e' ∧ e'.configured = e.configured ∧
      e'.prepared = true ∧ e'.current = s) ∨
    (∃ p e', (commit s dims).run e = .error (.stop p) e' ∧ e'.configured = e.configured ∧
      e'.prepared = e.prepared) := by
  rw [commit_run]
  cases Tables.find e.tables e.tablesCache (e.tablesKey s dims) with
  | error p => exact .inr ⟨p, e, rfl, rfl, rfl⟩
  | ok found =>
    dsimp only
    cases ensureScratch e.scratch e.pool.workers s.dtype (e.scratchSize found.1 dims) with
    | error p => exact .inr ⟨p, e.withTables found, rfl, rfl, rfl⟩
    | ok scratch => exact .inl ⟨_, rfl, rfl, rfl, rfl⟩

theorem prepare_run (e : Engine) (s : Shape) : (prepare s).run e =
    if !e.configured then .error (.check .notConfigured) e
    else if e.prepared && s == e.current then .ok () e
    else match e.checkPrepare s with
      | .ok dims => (commit s dims).run e
      | .error err => .error (.check err) e := by
  simp only [prepare, EStateM.run_bind, EStateM.run_get]
  split
  · rfl
  · split
    · rfl
    · cases e.checkPrepare s <;> rfl

/-- A `prepare` that fails a check leaves every field of the engine as it was: all its checks
come before its first change. -/
theorem prepare_error {e e' : Engine} {s : Shape} {err : Error}
    (h : (prepare s).run e = .error (.check err) e') : e' = e := by
  rw [prepare_run] at h
  split at h
  · cases h; rfl
  · split at h
    · cases h
    · split at h
      · -- committing only stops, it never fails a check
        rw [commit_run] at h
        split at h
        · cases h
        · split at h <;> cases h
      · cases h
        rfl

/-- Before any successful configuration, `prepare` refuses and changes nothing. -/
theorem prepare_unconfigured {e : Engine} (h : e.configured = false) (s : Shape) :
    (prepare s).run e = .error (.check .notConfigured) e := by
  simp [prepare_run, h]

theorem configure_run (e : Engine) (c : Config) (s : Shape) : (configure c s).run e =
    match checkSetup c s with
    | .error err => .error (.check err) e.reset
    | .ok a =>
      if s.isStatic then (prepare s).run (e.reset.install c s a)
      else .ok () (e.reset.install c s a) := by
  simp only [configure, EStateM.run_bind, EStateM.run_modify]
  cases checkSetup c s with
  | error err => rfl
  | ok a =>
    dsimp only
    cases s.isStatic <;> rfl

/-! ## Running -/

theorem execute_run_of_checkRun_error {e : Engine} {input values : Operand}
    {indices : Array Int} {err : Error} (h : e.checkRun input values indices = .error err) :
    (e.execute input).run (values, indices) = .error (.check err) (values, indices) := by
  simp [execute, h]

section Past

variable {e : Engine} {input values : Operand} {indices : Array Int} {u : Unit}
  (hc : e.checkRun input values indices = .ok u)
include hc

/-- Past its checks, a run stops before it writes anything when the call arguments of its
workers take more than one allocation may. -/
theorem execute_run_of_args_error {p : Panic} (hm : Panic.checkMake e.pool.workers 184 = .error p) :
    (e.execute input).run (values, indices) = .error (.stop p) (values, indices) := by
  simp [execute, hc, hm]

variable (hm : Panic.checkMake e.pool.workers 184 = .ok ())
include hm

/-- Past its checks, a run whose pool stops on its wait group stops there, before it writes
anything. -/
theorem execute_run_of_sweep_error {p : Panic}
    (hp : e.pool.sweep e.sweep.unitCount e.options.minParallelUnits = .error p) :
    (e.execute input).run (values, indices) = .error (.stop p) (values, indices) := by
  simp [execute, hc, hm, hp]

/-- Past its checks, a run with no units leaves the outputs as they are. -/
theorem execute_run_of_idle
    (hp : e.pool.sweep e.sweep.unitCount e.options.minParallelUnits = .ok .idle) :
    (e.execute input).run (values, indices) = .ok () (values, indices) := by
  simp [execute, hc, hm, hp]

theorem execute_run_of_unitCount_eq_zero (h0 : e.sweep.unitCount = 0) :
    (e.execute input).run (values, indices) = .ok () (values, indices) :=
  execute_run_of_idle hc hm (by rw [h0]; simp [Pool.sweep])

/-- Past its checks, a run whose pool hands out units stops at the first call when its input is
no slice of the element type: the call takes it as one. -/
theorem execute_run_of_input {sp : Spread}
    (hp : e.pool.sweep e.sweep.unitCount e.options.minParallelUnits = .ok sp) (hsp : sp ≠ .idle)
    (hi : ∀ s, input ≠ .buffer s) :
    (e.execute input).run (values, indices) =
      .error (.stop (e.conversionStop input)) (values, indices) := by
  cases sp with
  | idle => exact absurd rfl hsp
  | inline n => cases input <;> simp_all [execute]
  | shared w n => cases input <;> simp_all [execute]

end Past

section Buffers

variable {e : Engine} {indices : Array Int} {u : Unit} {i : Storage} {sp : Spread}
  (hm : Panic.checkMake e.pool.workers 184 = .ok ())
  (hp : e.pool.sweep e.sweep.unitCount e.options.minParallelUnits = .ok sp) (hsp : sp ≠ .idle)
include hm hp hsp

/-- Past its checks, a run over buffers whose pool hands out units leaves the outputs of the
sweep over their arrays; it stops where the sweep stops, and otherwise ends where the pool's
counter wraps, if it wraps. -/
theorem execute_run_of_buffers {v r : Storage} {is' : Array Int} {stop : Option Panic}
    (hc' : e.checkRun (.buffer i) (.buffer v) indices = .ok u)
    (hz : Storage.zipRanked (fun is vs => runArrays e.sweep sp is vs indices) i v =
      some (r, is', stop)) :
    (e.execute (.buffer i)).run (.buffer v, indices) =
      match stop with
      | some p => .error (.stop p) (.buffer r, is')
      | none => if sp.wraps then .error .wrapped (.buffer r, is') else .ok () (.buffer r, is') := by
  cases sp with
  | idle => exact absurd rfl hsp
  | inline n => cases stop <;> simp [execute, hc', hm, hp, hz, Spread.wraps]
  | shared w n =>
    cases stop with
    | some p => simp [execute, hc', hm, hp, hz]
    | none => simp [execute, hc', hm, hp, hz, Spread.wraps]; split <;> rfl

/-- Past its checks, a run over an input buffer whose pool hands out units stops at the first
call when its values are no slice of the element type. -/
theorem execute_run_of_values {values : Operand} (hc' : e.checkRun (.buffer i) values indices = .ok u)
    (hv : ∀ s, values ≠ .buffer s) :
    (e.execute (.buffer i)).run (values, indices) =
      .error (.stop (e.conversionStop values)) (values, indices) := by
  cases sp with
  | idle => exact absurd rfl hsp
  | inline n => cases values <;> simp_all [execute]
  | shared w n => cases values <;> simp_all [execute]

end Buffers

/-- A run reports a failed check only when its arguments fail their checks, and it then leaves
the output buffers as they were. -/
theorem checkRun_of_execute_check {e : Engine} {input values : Operand} {indices : Array Int}
    {err : Error} {st : Operand × Array Int}
    (h : (e.execute input).run (values, indices) = .error (.check err) st) :
    e.checkRun input values indices = .error err ∧ st = (values, indices) := by
  cases hc : e.checkRun input values indices with
  | error err' =>
    rw [execute_run_of_checkRun_error hc] at h
    cases h
    exact ⟨rfl, rfl⟩
  | ok u =>
    -- past its checks, a run ends normally, stops or wraps; it never reports a check
    exfalso
    cases hm : Panic.checkMake e.pool.workers 184 with
    | error p => rw [execute_run_of_args_error hc hm] at h; cases h
    | ok _ =>
    cases hp : e.pool.sweep e.sweep.unitCount e.options.minParallelUnits with
    | error p => rw [execute_run_of_sweep_error hc hm hp] at h; cases h
    | ok sp =>
      by_cases hsp : sp = .idle
      · rw [execute_run_of_idle hc hm (hsp ▸ hp)] at h; cases h
      by_cases hi : ∃ i, input = .buffer i
      · obtain ⟨i, rfl⟩ := hi
        by_cases hv : ∃ v, values = .buffer v
        · obtain ⟨v, rfl⟩ := hv
          cases hz : Storage.zipRanked (fun is vs => runArrays e.sweep sp is vs indices) i v with
          | none => cases sp <;> simp_all [execute]
          | some g =>
            obtain ⟨r, is', stop⟩ := g
            rw [execute_run_of_buffers hm hp hsp hc hz] at h
            cases stop with
            | some p => cases h
            | none => by_cases hw : sp.wraps <;> simp [hw] at h
        · rw [execute_run_of_values hm hp hsp hc (fun s h => hv ⟨s, h⟩)] at h; cases h
      · rw [execute_run_of_input hc hm hp hsp (fun s h => hi ⟨s, h⟩)] at h; cases h

/-- An engine that is not configured runs nothing: its run fails the first check. -/
theorem checkRun_unconfigured {e : Engine} (h : e.configured = false) (input values : Operand)
    (indices : Array Int) : e.checkRun input values indices = .error .notPrepared := by
  simp [checkRun, h]

end Select.Engine

end TensorSelect
