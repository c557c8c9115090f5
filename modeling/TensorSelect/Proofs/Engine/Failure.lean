import Mathlib
import TensorSelect.Proofs.Engine.Setup

/-!
# What a failed request leaves behind

Each request that fails one of its checks and returns its error does so in a state that callers
can rely on:

* a failed `configure` leaves the engine cleared (`configure_error_state`): neither configured
  nor prepared, so its output shape is the invalid one, and every later `prepare` and run fails
  with a configuration failure until a configuration succeeds;
* a failed `prepare` leaves every field of the engine as it was (`prepare_error`), so the runs
  after it behave as if it had not been made;
* a run that fails a check has written nothing (`checkRun_of_execute_check`).

`failed_requests_keep_state` gathers the three. A request that stops does not return an error:
a stop while preparing, making the tables or the workers' scratch buffers, leaves what it has
changed (`commit_outcome`).
-/

namespace TensorSelect

namespace Select.Engine

/-- A failed configuration leaves the engine cleared: it never fails once it has started to
change the engine. -/
theorem configure_error_state {e e' : Engine} {c : Config} {s : Shape} {err : Error}
    (h : (configure c s).run e = .error (.check err) e') : e' = e.reset := by
  cases hc : checkSetup c s with
  | error err' =>
    rw [configure_run_of_error e hc] at h
    cases h
    rfl
  | ok a =>
    -- past its checks a configuration succeeds or stops; it fails no check
    rcases configure_outcome_of_ok e hc with ⟨e'', he'', -⟩ | ⟨-, p, e'', he'', -⟩ <;>
      rw [he''] at h <;> cases h

theorem outputShape_unconfigured {e : Engine} (h : e.configured = false) :
    e.outputShape = ⟨DType.invalid, []⟩ := by
  simp [outputShape, h]

/-- An engine that is not configured refuses to prepare and to run, with a configuration
failure, and changes nothing. -/
theorem unconfigured_refuses {e : Engine} (h : e.configured = false) :
    (∀ s, ∃ err, (prepare s).run e = .error (.check err) e ∧ err.kind = .configuration) ∧
    (∀ input values indices, ∃ err,
      (e.execute input).run (values, indices) = .error (.check err) (values, indices) ∧
        err.kind = .configuration) := by
  refine ⟨fun s => ⟨_, prepare_unconfigured h s, rfl⟩, fun input values indices => ?_⟩
  exact ⟨_, execute_run_of_checkRun_error (checkRun_unconfigured h input values indices), rfl⟩

/-- A failed configuration leaves an engine that is neither configured nor prepared, has the
invalid output shape, and refuses to prepare or run with a configuration failure. A failed
`prepare` changes nothing. A run that fails a check has written nothing. -/
theorem failed_requests_keep_state :
    (∀ (e : Engine) c s err e', (configure c s).run e = .error (.check err) e' →
      e'.configured = false ∧ e'.prepared = false ∧ e'.outputShape = ⟨DType.invalid, []⟩ ∧
      (∀ s', ∃ err', (prepare s').run e' = .error (.check err') e' ∧
        err'.kind = .configuration) ∧
      (∀ input values indices, ∃ err',
        (e'.execute input).run (values, indices) = .error (.check err') (values, indices) ∧
          err'.kind = .configuration)) ∧
    (∀ (e : Engine) s err e', (prepare s).run e = .error (.check err) e' → e' = e) ∧
    (∀ (e : Engine) input values indices err st,
      (e.execute input).run (values, indices) = .error (.check err) st →
        st = (values, indices)) := by
  refine ⟨?_, fun e s err e' h => prepare_error h, ?_⟩
  · intro e c s err e' h
    obtain rfl := configure_error_state h
    have hc : e.reset.configured = false := rfl
    exact ⟨rfl, rfl, outputShape_unconfigured hc, unconfigured_refuses hc⟩
  · intro e input values indices err st h
    exact (checkRun_of_execute_check h).2

end Select.Engine

end TensorSelect
