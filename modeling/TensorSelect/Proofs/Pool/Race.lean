import Mathlib
import TensorSelect.Pool
import TensorSelect.Proofs.Pool.Saturate

/-!
# A shared sweep runs every unit once

A sweep of `n` units runs them inline, in order, when the pool is disabled, has one worker, or
has too few units to share; otherwise `Saturate` starts the pool's `W` workers, and they share
the units through a 32-bit counter, in a race whose steps interleave in any order. `Saturate`
stops on its wait group once `W ≥ 2^31` (`Proofs.Pool.Saturate`), and so does the sweep. This
module proves what every interleaving of the race does, as long as the counter cannot wrap,
that is when `n + W < 2^31` (`sweep_runs_every_unit_once`):

* every call started so far is of a worker below `W` on a unit in `[0, n)`, and no unit is
  called twice;
* once every worker has left, every unit of `[0, n)` has been called, and all `W` workers were
  active;
* whatever has happened, `4 (n + W)` rounds in which each worker takes a step in turn end the
  race.

A worker holds one place at a time, so its calls run one after another. The bound is exact:
once `n + W ≥ 2^31`, some interleaving moves the counter past `2^31 - 1`, and the unit it hands
out next wraps below `0` (`Race.exists_run_calls_wrapped`). Every race that ends has done so
(`Race.WrapInv.order_prefix_of_done`): until the counter wraps at most `2^31 - 1 - n` takes come
past the last unit, and each of the `W` workers leaves on one. The calls then start with the
order of the sweep (`Spread.order`): the units below `n` among the first `2^31 - 1` takes, and
`-2^31 - 1`. With `n ≥ 2^31 - 1` units no take comes past the last one, and no race ends
(`Race.not_done_run`).

The proof is an invariant of the race (`Race.Inv`) kept by every step (`Race.Inv.step`): the
counter is the number of units taken, which are the calls started, `0, 1, …` in order, and the
workers that left; a worker leaves only once every unit has been called. A load that every step
of a worker still in the race lowers (`Race.load_step_lt`) bounds how long the race goes on.
-/

namespace TensorSelect

namespace Race

/-! ## Steps -/

section Steps

variable (r : Race) (w : Nat)

/-- What a step of worker `w` does, by where the worker is. -/
theorem step_cases :
    (r.workers[w]? = some .starting ∧
      r.step w = { r with active := wrapInt32 (r.active + 1), workers := r.workers.set w .taking }) ∨
    (r.workers[w]? = some .taking ∧ r.units ≤ wrapInt32 (r.taken + 1) - 1 ∧
      r.step w = { r with taken := wrapInt32 (r.taken + 1), workers := r.workers.set w .finished }) ∨
    (r.workers[w]? = some .taking ∧ wrapInt32 (r.taken + 1) - 1 < r.units ∧
      r.step w = { r with taken := wrapInt32 (r.taken + 1),
                          workers := r.workers.set w (.running (wrapInt32 (r.taken + 1) - 1)),
                          calls := r.calls ++ [(w, wrapInt32 (r.taken + 1) - 1)] }) ∨
    (∃ u, r.workers[w]? = some (.running u) ∧
      r.step w = { r with workers := r.workers.set w .taking }) ∨
    ((r.workers[w]? = some .finished ∨ r.workers[w]? = none) ∧ r.step w = r) := by
  unfold step
  split
  · next h => exact .inl ⟨h, rfl⟩
  · next h =>
    by_cases hu : r.units ≤ wrapInt32 (r.taken + 1) - 1
    · exact .inr (.inl ⟨h, hu, by simp only [ge_iff_le, hu, if_true]⟩)
    · exact .inr (.inr (.inl ⟨h, by omega, by simp only [ge_iff_le, hu, if_false]⟩))
  · next u h => exact .inr (.inr (.inr (.inl ⟨u, h, rfl⟩)))
  · next h => exact .inr (.inr (.inr (.inr ⟨.inl h, rfl⟩)))
  · next h => exact .inr (.inr (.inr (.inr ⟨.inr h, rfl⟩)))

@[simp]
theorem units_step : (r.step w).units = r.units := by
  rcases step_cases r w with ⟨-, h⟩ | ⟨-, -, h⟩ | ⟨-, -, h⟩ | ⟨-, -, h⟩ | ⟨-, h⟩ <;> rw [h]

@[simp]
theorem length_step : (r.step w).workers.length = r.workers.length := by
  rcases step_cases r w with ⟨-, h⟩ | ⟨-, -, h⟩ | ⟨-, -, h⟩ | ⟨-, -, h⟩ | ⟨-, h⟩ <;> simp [h]

/-- A step of one worker leaves every other worker where it is. -/
theorem getElem?_step_of_ne {v : Nat} (hne : w ≠ v) : (r.step w).workers[v]? = r.workers[v]? := by
  rcases step_cases r w with ⟨-, h⟩ | ⟨-, -, h⟩ | ⟨-, -, h⟩ | ⟨-, -, h⟩ | ⟨-, h⟩ <;>
    simp [h, List.getElem?_set_ne hne]

/-- A worker that has left, or that the race does not have, takes no step. -/
theorem step_of_finished (h : r.workers[w]? = some .finished ∨ r.workers[w]? = none) :
    r.step w = r := by
  unfold step
  rcases h with h | h <;> simp [h]

@[simp]
theorem run_nil : r.run [] = r := rfl

@[simp]
theorem run_cons (l : List Nat) : r.run (w :: l) = (r.step w).run l := rfl

theorem run_append (l₁ l₂ : List Nat) : r.run (l₁ ++ l₂) = (r.run l₁).run l₂ :=
  List.foldl_append

@[simp]
theorem units_run (l : List Nat) : (r.run l).units = r.units := by
  induction l generalizing r with
  | nil => rfl
  | cons w l ih => rw [run_cons, ih, units_step]

@[simp]
theorem length_run (l : List Nat) : (r.run l).workers.length = r.workers.length := by
  induction l generalizing r with
  | nil => rfl
  | cons w l ih => rw [run_cons, ih, length_step]

theorem step_of_taking_ge (hw : r.workers[w]? = some .taking)
    (hu : r.units ≤ wrapInt32 (r.taken + 1) - 1) :
    r.step w = { r with taken := wrapInt32 (r.taken + 1), workers := r.workers.set w .finished } := by
  simp [step, hw, hu]

theorem step_of_taking_lt (hw : r.workers[w]? = some .taking)
    (hu : wrapInt32 (r.taken + 1) - 1 < r.units) :
    r.step w = { r with taken := wrapInt32 (r.taken + 1),
                        workers := r.workers.set w (.running (wrapInt32 (r.taken + 1) - 1)),
                        calls := r.calls ++ [(w, wrapInt32 (r.taken + 1) - 1)] } := by
  simp [step, hw, not_le.2 hu]

theorem step_of_starting (hw : r.workers[w]? = some .starting) :
    r.step w = { r with active := wrapInt32 (r.active + 1), workers := r.workers.set w .taking } := by
  simp [step, hw]

theorem step_of_running {u : Int} (hw : r.workers[w]? = some (.running u)) :
    r.step w = { r with workers := r.workers.set w .taking } := by
  simp [step, hw]

end Steps

/-! ## Counting workers -/

/-- Putting `a` in place of `x` in a list of workers moves one worker from `x`'s count to
`a`'s. -/
theorem count_set_add {l : List Worker} {w : Nat} {x : Worker} (h : l[w]? = some x)
    (a b : Worker) :
    (l.set w a).count b + (if x = b then 1 else 0) = l.count b + (if a = b then 1 else 0) := by
  obtain ⟨hw, rfl⟩ := List.getElem?_eq_some_iff.1 h
  rw [List.count_set hw]
  by_cases hx : l[w] = b
  · have : 0 < l.count b := List.count_pos_iff.2 (hx ▸ List.getElem_mem hw)
    by_cases ha : a = b <;> simp [hx, ha] <;> omega
  · by_cases ha : a = b <;> simp [hx, ha]

/-- A worker that is somewhere else keeps the count of a place below the number of workers. -/
theorem count_lt_length {l : List Worker} {w : Nat} {x b : Worker} (h : l[w]? = some x)
    (hx : x ≠ b) : l.count b < l.length := by
  have hset := count_set_add h b b
  have hle : (l.set w b).count b ≤ (l.set w b).length := List.count_le_length
  simp only [hx, if_false, if_true, List.length_set] at hset hle
  omega

/-! ## The invariant -/

/-- What every run of a race of `W` workers keeps, while the counter cannot wrap: the counter is
the number of units taken, which are the calls started, on units `0, 1, …` in order, and the
workers that left; a worker leaves only once every unit has been called; and the active counter
counts the workers that have started. -/
structure Inv (W : Nat) (r : Race) : Prop where
  length : r.workers.length = W
  units_nonneg : 0 ≤ r.units
  fits : r.units + W < 2 ^ 31
  taken : r.taken = r.calls.length + r.workers.count .finished
  calls : r.calls.map Prod.snd = (List.range r.calls.length).map Int.ofNat
  calls_le : (r.calls.length : Int) ≤ r.units
  all_called : 0 < r.workers.count .finished → (r.calls.length : Int) = r.units
  callers : ∀ c ∈ r.calls, c.1 < W
  active : r.active + r.workers.count .starting = W

theorem inv_start {n : Int} {W : Nat} (hn : 0 ≤ n) (hfit : n + W < 2 ^ 31) :
    Inv W (start n W) where
  length := List.length_replicate
  units_nonneg := hn
  fits := hfit
  taken := by simp [start, List.count_replicate]
  calls := rfl
  calls_le := hn
  all_called := by simp [start]
  callers := by simp [start]
  active := by simp [start]

variable {W : Nat} {r : Race}

/-- While a worker is still in the race, the counter of units taken is below `n + W`, so taking
one more does not wrap. -/
theorem Inv.wrap_taken (h : Inv W r) {w : Nat} {x : Worker} (hw : r.workers[w]? = some x)
    (hx : x ≠ .finished) : wrapInt32 (r.taken + 1) = r.taken + 1 := by
  have hlt := count_lt_length hw hx
  have hlen := h.length
  have hfit := h.fits
  have hle := h.calls_le
  apply wrapInt32_of_mem <;> rw [h.taken] <;> omega

/-- While a worker has still to start, the active counter is below `W`, so it does not wrap. -/
theorem Inv.wrap_active (h : Inv W r) {w : Nat} (hw : r.workers[w]? = some .starting) :
    wrapInt32 (r.active + 1) = r.active + 1 := by
  have hpos : 0 < r.workers.count .starting := List.count_pos_iff.2 (List.mem_of_getElem? hw)
  have hS : r.workers.count .starting ≤ W := h.length ▸ List.count_le_length
  have hact := h.active
  have hfit := h.fits
  have hn := h.units_nonneg
  apply wrapInt32_of_mem <;> omega

section Actions

variable (h : Inv W r) {w : Nat}
include h

/-- A worker that starts counts itself active. -/
theorem Inv.start (hw : r.workers[w]? = some .starting) :
    Inv W { r with active := wrapInt32 (r.active + 1), workers := r.workers.set w .taking } := by
  have hsF := count_set_add hw .taking .finished
  have hsS := count_set_add hw .taking .starting
  simp only [reduceCtorEq, if_false, if_true, add_zero] at hsF hsS
  have hwrap := h.wrap_active hw
  have hact := h.active
  exact { h with
    length := by simpa using h.length
    taken := by dsimp only; rw [hsF, h.taken]
    all_called := by dsimp only; rw [hsF]; exact h.all_called
    active := by dsimp only; rw [hwrap]; omega }

/-- A worker that the counter hands a unit past the last leaves; every unit has been called. -/
theorem Inv.leave (hw : r.workers[w]? = some .taking)
    (hu : r.units ≤ wrapInt32 (r.taken + 1) - 1) :
    Inv W { r with taken := wrapInt32 (r.taken + 1), workers := r.workers.set w .finished } := by
  have hsF := count_set_add hw .finished .finished
  have hsS := count_set_add hw .finished .starting
  simp only [reduceCtorEq, if_false, if_true, add_zero] at hsF hsS
  have hwrap := h.wrap_taken hw (by simp)
  have hle := h.calls_le
  have hall := h.all_called
  rw [hwrap, add_sub_cancel_right, h.taken] at hu
  exact { h with
    length := by simpa using h.length
    taken := by dsimp only; rw [hwrap, h.taken, hsF]; push_cast; ring
    all_called := by
      -- the unit handed out is past the last, so every unit has been called
      intro _
      by_cases hF0 : 0 < r.workers.count .finished
      · exact hall hF0
      · dsimp only
        omega
    active := by dsimp only; rw [hsS]; exact h.active }

/-- A worker that the counter hands the next unit calls it: no worker has left yet, so the unit
is the number of calls started. -/
theorem Inv.call (hw : r.workers[w]? = some .taking)
    (hu : wrapInt32 (r.taken + 1) - 1 < r.units) :
    Inv W { r with taken := wrapInt32 (r.taken + 1),
                   workers := r.workers.set w (.running (wrapInt32 (r.taken + 1) - 1)),
                   calls := r.calls ++ [(w, wrapInt32 (r.taken + 1) - 1)] } := by
  have hwrap := h.wrap_taken hw (by simp)
  rw [hwrap, add_sub_cancel_right] at hu ⊢
  have hF0 : r.workers.count .finished = 0 := by
    by_contra hF0
    have := h.all_called (Nat.pos_of_ne_zero hF0)
    rw [h.taken] at hu
    omega
  have hunit : r.taken = r.calls.length := by rw [h.taken, hF0]; simp
  rw [hunit] at hu ⊢
  have hsF := count_set_add hw (.running r.calls.length) .finished
  have hsS := count_set_add hw (.running r.calls.length) .starting
  simp only [reduceCtorEq, if_false, add_zero] at hsF hsS
  have hw' : w < W := h.length ▸ (List.getElem?_eq_some_iff.1 hw).1
  exact { h with
    length := by simpa using h.length
    taken := by dsimp only; rw [hsF, hF0]; simp
    calls := by dsimp only; simp [h.calls, List.range_succ]
    calls_le := by
      dsimp only
      simp only [List.length_append, List.length_singleton]
      push_cast
      omega
    all_called := by dsimp only; rw [hsF, hF0]; exact fun h0 => absurd h0 (lt_irrefl 0)
    callers := by
      intro c hc
      rcases List.mem_append.1 hc with hc | hc
      · exact h.callers c hc
      · rw [List.mem_singleton.1 hc]
        exact hw'
    active := by dsimp only; rw [hsS]; exact h.active }

/-- A call that returns sends its worker back to the counter. -/
theorem Inv.returned {u : Int} (hw : r.workers[w]? = some (.running u)) :
    Inv W { r with workers := r.workers.set w .taking } := by
  have hsF := count_set_add hw .taking .finished
  have hsS := count_set_add hw .taking .starting
  simp only [reduceCtorEq, if_false, add_zero] at hsF hsS
  exact { h with
    length := by simpa using h.length
    taken := by dsimp only; rw [hsF, h.taken]
    all_called := by dsimp only; rw [hsF]; exact h.all_called
    active := by dsimp only; rw [hsS]; exact h.active }

end Actions

/-- One step of any worker keeps the invariant. -/
theorem Inv.step (h : Inv W r) (w : Nat) : Inv W (r.step w) := by
  rcases step_cases r w with ⟨hw, hr⟩ | ⟨hw, hu, hr⟩ | ⟨hw, hu, hr⟩ | ⟨u, hw, hr⟩ | ⟨-, hr⟩ <;>
    rw [hr]
  · exact h.start hw
  · exact h.leave hw hu
  · exact h.call hw hu
  · exact h.returned hw
  · exact h

/-- Every run keeps the invariant. -/
theorem Inv.run (h : Inv W r) (l : List Nat) : Inv W (r.run l) := by
  induction l generalizing r with
  | nil => exact h
  | cons w l ih => exact ih (h.step w)

/-! ## What a run has called -/

/-- The calls started are of workers of the race, on units of the sweep, each once. -/
theorem Inv.calls_mem (h : Inv W r) {c : Nat × Int} (hc : c ∈ r.calls) :
    c.1 < W ∧ 0 ≤ c.2 ∧ c.2 < r.units := by
  have hmem : c.2 ∈ (List.range r.calls.length).map Int.ofNat :=
    h.calls ▸ List.mem_map_of_mem hc
  obtain ⟨i, hi, hci⟩ := List.mem_map.1 hmem
  simp only [Int.ofNat_eq_natCast] at hci
  have := h.calls_le
  rw [List.mem_range] at hi
  exact ⟨h.callers c hc, by omega, by omega⟩

theorem Inv.nodup_units (h : Inv W r) : (r.calls.map Prod.snd).Nodup := by
  rw [h.calls]
  exact List.nodup_range.map fun _ _ hij => Int.ofNat_inj.1 hij

theorem done_iff : r.done = true ↔ ∀ x ∈ r.workers, x = .finished := by
  simp [done]

/-- Once every worker of a race of at least one worker has left, every unit has been called,
in order, and every worker was active. -/
theorem Inv.calls_of_done (h : Inv W r) (hW : 1 ≤ W) (hd : r.done = true) :
    r.calls.map Prod.snd = (List.range r.units.toNat).map Int.ofNat ∧ r.active = W := by
  have hall := done_iff.1 hd
  have hF : r.workers.count .finished = W :=
    h.length ▸ List.count_eq_length.2 fun x hx => (hall x hx).symm
  have hS : r.workers.count .starting = 0 :=
    List.count_eq_zero.2 fun hx => by simpa using hall _ hx
  have hC := h.all_called (by omega)
  have hlen : r.calls.length = r.units.toNat := by omega
  refine ⟨by rw [h.calls, hlen], ?_⟩
  have := h.active
  rw [hS] at this
  simpa using this

/-! ## The race ends -/

/-- What a worker still owes the race: starting, and taking a unit, cost more than running
one. -/
def weight : Worker → Nat
  | .starting => 4
  | .taking => 2
  | .running _ => 3
  | .finished => 0

/-- The load of a race: four for every unit not yet called, and the weight of every worker.
Every step of a worker still in the race lowers it. -/
def load (r : Race) : Nat := 4 * (r.units.toNat - r.calls.length) + (r.workers.map weight).sum

/-- A step of a worker still in the race lowers the load. -/
theorem Inv.load_step_lt (h : Inv W r) {w : Nat} {x : Worker} (hw : r.workers[w]? = some x)
    (hx : x ≠ .finished) : load (r.step w) < load r := by
  rcases step_cases r w with ⟨hw', hr⟩ | ⟨hw', -, hr⟩ | ⟨hw', hu, hr⟩ | ⟨u, hw', hr⟩ | ⟨hw', -⟩
  · have hs := sum_map_set_add weight hw' .taking
    simp only [weight] at hs
    simp only [load, hr]
    omega
  · have hs := sum_map_set_add weight hw' .finished
    simp only [weight] at hs
    simp only [load, hr]
    omega
  · -- the unit called is one fewer to call
    have hs := sum_map_set_add weight hw' (.running (wrapInt32 (r.taken + 1) - 1))
    simp only [weight] at hs
    have hmore : r.calls.length < r.units.toNat := by
      have hle := h.calls_le
      rw [h.wrap_taken hw' (by simp), add_sub_cancel_right, h.taken] at hu
      omega
    simp only [load, hr, List.length_append, List.length_singleton]
    omega
  · have hs := sum_map_set_add weight hw' .taking
    simp only [weight] at hs
    simp only [load, hr]
    omega
  · rcases hw' with hw' | hw' <;> rw [hw] at hw'
    · exact absurd (Option.some.inj hw') hx
    · cases hw'

theorem Inv.load_step_le (h : Inv W r) (w : Nat) : load (r.step w) ≤ load r := by
  cases hw : r.workers[w]? with
  | none => rw [step_of_finished r w (.inr hw)]
  | some x =>
    by_cases hx : x = .finished
    · rw [step_of_finished r w (.inl (hx ▸ hw))]
    · exact (h.load_step_lt hw hx).le

theorem Inv.load_run_le (h : Inv W r) (l : List Nat) : load (r.run l) ≤ load r := by
  induction l generalizing r with
  | nil => exact le_rfl
  | cons w l ih => exact (ih (h.step w)).trans (h.load_step_le w)

/-- A run in which a worker still in the race takes a step lowers the load: until its turn the
other workers leave it where it is. -/
theorem Inv.load_run_lt (h : Inv W r) {l : List Nat} {w : Nat} (hl : w ∈ l) {x : Worker}
    (hw : r.workers[w]? = some x) (hx : x ≠ .finished) : load (r.run l) < load r := by
  induction l generalizing r with
  | nil => simp at hl
  | cons v l ih =>
    rw [run_cons]
    by_cases hv : v = w
    · subst hv
      exact lt_of_le_of_lt ((h.step v).load_run_le l) (h.load_step_lt hw hx)
    · have hl' : w ∈ l := (List.mem_cons.1 hl).resolve_left (Ne.symm hv)
      have hw' : (r.step v).workers[w]? = some x := by rw [getElem?_step_of_ne r v hv, hw]
      exact lt_of_lt_of_le (ih (h.step v) hl' hw') (h.load_step_le v)

theorem run_of_done (hd : r.done = true) (l : List Nat) : r.run l = r := by
  induction l with
  | nil => rfl
  | cons w l ih =>
    have hstep : r.step w = r := by
      apply step_of_finished
      cases hw : r.workers[w]? with
      | none => exact .inr rfl
      | some x => exact .inl (by rw [done_iff.1 hd x (List.mem_of_getElem? hw)])
    rw [run_cons, hstep, ih]

/-- A round in which every worker takes a step lowers the load of a race that has not ended. -/
theorem Inv.load_round_lt (h : Inv W r) (hd : r.done = false) :
    load (r.run (List.range W)) < load r := by
  obtain ⟨x, hx, hfin⟩ : ∃ x ∈ r.workers, ¬ (x == .finished) = true := by
    simpa [done] using hd
  obtain ⟨w, hw⟩ := List.mem_iff_getElem?.1 hx
  have hwW : w < W := h.length ▸ (List.getElem?_eq_some_iff.1 hw).1
  exact h.load_run_lt (List.mem_range.2 hwW) hw (by simpa using hfin)

/-- As many rounds as the load end the race. -/
theorem Inv.done_run_rounds (h : Inv W r) {k : Nat} (hk : load r ≤ k) :
    (r.run (rounds k W)).done = true := by
  induction k generalizing r with
  | zero =>
    cases hd : r.done with
    | true => rw [run_of_done hd]; exact hd
    | false => exact absurd (h.load_round_lt hd) (by omega)
  | succ k ih =>
    cases hd : r.done with
    | true => rw [run_of_done hd]; exact hd
    | false =>
      have hround := h.load_round_lt hd
      rw [rounds, List.replicate_succ, List.flatten_cons, run_append]
      exact ih (h.run _) (by omega)

theorem load_start (n : Int) (W : Nat) : load (start n W) = 4 * n.toNat + 4 * W := by
  simp [load, start, weight, List.map_replicate, List.sum_replicate]
  ring

/-! ## Past the bound the counter wraps -/

/-- A list whose entry at `w` is `x` is unchanged by setting it to `x`. -/
theorem set_of_getElem? {l : List Worker} {w : Nat} {x : Worker} (h : l[w]? = some x) :
    l.set w x = l := by
  obtain ⟨hw, rfl⟩ := List.getElem?_eq_some_iff.1 h
  exact List.set_getElem_self hw

/-- A worker at the counter, below the last unit and the bound, takes the next unit and returns
from it in two steps: the counter moves on by one and the worker is back at the counter. -/
theorem step_step_of_taking {r : Race} {w : Nat} (hw : r.workers[w]? = some .taking)
    (h0 : 0 ≤ r.taken) (hu : r.taken < r.units) (hfit : r.taken + 1 < 2 ^ 31) :
    (r.step w).step w = { r with taken := r.taken + 1, calls := r.calls ++ [(w, r.taken)] } := by
  have hwrap : wrapInt32 (r.taken + 1) = r.taken + 1 := wrapInt32_of_mem (by omega) hfit
  have hr1 := step_of_taking_lt r w hw (by rw [hwrap]; omega)
  rw [hwrap, add_sub_cancel_right] at hr1
  have hw1 : (r.step w).workers[w]? = some (.running r.taken) := by
    rw [hr1]
    exact List.getElem?_set_self (List.getElem?_eq_some_iff.1 hw).1
  rw [step_of_running _ _ hw1, hr1]
  simp only [List.set_set, set_of_getElem? hw]

/-- A worker that starts and finds the counter past the last unit leaves in two steps, moving
the counter on by one. -/
theorem step_step_of_starting {r : Race} {v : Nat} (hs : r.workers[v]? = some .starting)
    (h0 : 0 ≤ r.taken) (hu : r.units ≤ r.taken) (hfit : r.taken + 1 < 2 ^ 31) :
    (r.step v).step v = { r with active := wrapInt32 (r.active + 1), taken := r.taken + 1,
                                 workers := r.workers.set v .finished } := by
  have hwrap : wrapInt32 (r.taken + 1) = r.taken + 1 := wrapInt32_of_mem (by omega) hfit
  rw [step_of_starting _ _ hs, step_of_taking_ge _ _ (List.getElem?_set_self
    (List.getElem?_eq_some_iff.1 hs).1) (by dsimp only; omega)]
  simp only [hwrap, List.set_set]

/-- A schedule in which worker `w` takes `j` units and returns from each. -/
def cycles (w j : Nat) : List Nat := (List.replicate j [w, w]).flatten

/-- A worker alone takes units off the counter one after another, as long as there are units
and the counter does not wrap. -/
theorem run_cycles {r : Race} {w : Nat} (hw : r.workers[w]? = some .taking) (j : Nat)
    (h0 : 0 ≤ r.taken) (hu : r.taken + j ≤ r.units) (hfit : r.taken + j < 2 ^ 31) :
    (r.run (cycles w j)).taken = r.taken + j ∧ (r.run (cycles w j)).workers = r.workers := by
  induction j generalizing r with
  | zero => simp [cycles]
  | succ j ih =>
    push_cast at hu hfit
    have hrun : r.run (cycles w (j + 1)) =
        ({ r with taken := r.taken + 1, calls := r.calls ++ [(w, r.taken)] } : Race).run (cycles w j) := by
      rw [cycles, List.replicate_succ, List.flatten_cons, run_append,
        ← step_step_of_taking hw h0 (by omega) (by omega)]
      rfl
    obtain ⟨ht, hws⟩ := ih (r := { r with taken := r.taken + 1, calls := r.calls ++ [(w, r.taken)] })
      hw (by dsimp only; omega) (by dsimp only; omega) (by dsimp only; omega)
    rw [hrun, ht, hws]
    exact ⟨by dsimp only; push_cast; ring, rfl⟩

/-- Workers that start and find the counter past the last unit leave at once: each moves the
counter on by one and calls nothing, and the other workers stay where they are. -/
theorem run_leavers {r : Race} {vs : List Nat} (hnd : vs.Nodup)
    (hstart : ∀ v ∈ vs, r.workers[v]? = some .starting) (hge : ∀ v ∈ vs, r.units ≤ r.taken)
    (h0 : 0 ≤ r.taken) (hfit : r.taken + vs.length < 2 ^ 31) :
    (r.run (vs.flatMap fun v => [v, v])).taken = r.taken + vs.length ∧
      ∀ v ∉ vs, (r.run (vs.flatMap fun v => [v, v])).workers[v]? = r.workers[v]? := by
  induction vs generalizing r with
  | nil => simp [run_nil]
  | cons v vs ih =>
    obtain ⟨hv, hnd⟩ := List.nodup_cons.1 hnd
    simp only [List.length_cons, Nat.cast_add, Nat.cast_one] at hfit
    have hrun : r.run ((v :: vs).flatMap fun v => [v, v]) =
        ({ r with active := wrapInt32 (r.active + 1), taken := r.taken + 1,
                  workers := r.workers.set v .finished } : Race).run (vs.flatMap fun v => [v, v]) := by
      rw [List.flatMap_cons, run_append, ← step_step_of_starting (hstart v List.mem_cons_self) h0
        (hge v List.mem_cons_self) (by omega)]
      rfl
    -- every other worker is where it was
    have hne : ∀ u, v ≠ u → (r.workers.set v .finished)[u]? = r.workers[u]? :=
      fun u h => List.getElem?_set_ne h
    obtain ⟨ht, hws⟩ := ih (r := { r with active := wrapInt32 (r.active + 1), taken := r.taken + 1,
                                          workers := r.workers.set v .finished }) hnd
      (fun u hu' => by
        dsimp only
        rw [hne u (fun h => hv (h ▸ hu'))]
        exact hstart u (List.mem_cons_of_mem _ hu'))
      (fun u hu' => by have := hge u (List.mem_cons_of_mem _ hu'); dsimp only; omega)
      (by dsimp only; omega) (by dsimp only; omega)
    refine ⟨by rw [hrun, ht]; simp only [List.length_cons, Nat.cast_add, Nat.cast_one]; ring,
      fun u hu' => ?_⟩
    rw [hrun, hws u (fun h => hu' (List.mem_cons_of_mem _ h))]
    exact hne u (fun h => hu' (h ▸ List.mem_cons_self))

/-- Past the bound the counter wraps: with `n + W ≥ 2^31` some interleaving calls a unit below
`0`. Worker `0` takes units until the counter stands at `min n (2^31 - 1)`; workers `1, 2, …`
then start and leave, each moving the counter on by one, until it stands at `2^31 - 1`; the
next unit worker `0` takes is `-2^31 - 1`. -/
theorem exists_run_calls_wrapped {n : Int} {W : Nat} (hn : 1 ≤ n) (hW : 1 ≤ W)
    (hbound : 2 ^ 31 ≤ n + W) :
    ∃ schedule, (0, -2 ^ 31 - 1) ∈ ((start n W).run schedule).calls := by
  let u := min n.toNat (2 ^ 31 - 1)
  let vs := List.range' 1 (2 ^ 31 - 1 - u)
  refine ⟨[0] ++ cycles 0 u ++ vs.flatMap (fun v => [v, v]) ++ [0], ?_⟩
  have hs0 : (start n W).workers[0]? = some .starting := by
    simp [start, List.getElem?_replicate]
    omega
  have hr1 := step_of_starting _ _ hs0
  have hw1 : ((start n W).step 0).workers[0]? = some .taking := by
    rw [hr1]
    exact List.getElem?_set_self (List.getElem?_eq_some_iff.1 hs0).1
  -- worker `0` alone moves the counter to `u`
  obtain ⟨ht2, hw2⟩ := run_cycles hw1 u (by rw [hr1]; rfl)
    (by rw [hr1]; simp [start, u]; omega) (by rw [hr1]; simp [start, u])
  set r2 := ((start n W).step 0).run (cycles 0 u) with hr2
  have hr2u : r2.units = n := by rw [hr2, units_run, units_step]; rfl
  have hr2t : r2.taken = u := by rw [ht2, hr1]; simp [start]
  -- then workers `1, 2, …` start and leave until it stands at `2^31 - 1`
  obtain ⟨ht3, hw3⟩ := run_leavers (r := r2) (List.nodup_range' : vs.Nodup)
    (fun v hv => by
      rw [hw2, hr1, List.mem_range'_1] at *
      dsimp only
      rw [List.getElem?_set_ne (by omega)]
      simp only [start, List.getElem?_replicate]
      split_ifs <;> first | rfl | omega)
    (fun v hv => by rw [List.mem_range'_1] at hv; rw [hr2u, hr2t]; omega)
    (by rw [hr2t]; omega) (by rw [hr2t]; simp; omega)
  set r3 := r2.run (vs.flatMap fun v => [v, v]) with hr3
  have hw3' : r3.workers[0]? = some .taking := by
    rw [hw3 0 (by simp), hw2]
    exact hw1
  have hr3t : r3.taken = 2 ^ 31 - 1 := by rw [ht3, hr2t]; simp; omega
  have hr3u : r3.units = n := by rw [hr3, units_run, hr2u]
  -- the next unit worker `0` takes wraps
  have hwrap : wrapInt32 (r3.taken + 1) = -2 ^ 31 := by rw [hr3t]; decide
  have hrun : (start n W).run ([0] ++ cycles 0 u ++ vs.flatMap (fun v => [v, v]) ++ [0]) =
      r3.step 0 := by
    simp only [run_append, run_cons, run_nil, r3, r2]
  rw [hrun, step_of_taking_lt _ _ hw3' (by rw [hwrap, hr3u]; omega), hwrap]
  simp

/-! ## Every run past the bound -/

/-- The order of a sweep whose counter wraps: the units below the last among the first
`2^31 - 1` takes, then the unit `-2^31 - 1`. -/
theorem order_of_wraps {W n : Nat} (h : 2 ^ 31 ≤ n + W) :
    (Spread.shared W n).order = (List.range (min n (2 ^ 31 - 1))).map Int.ofNat ++ [-2 ^ 31 - 1] := by
  have hw : ¬ n + W < 2147483648 := by omega
  simp [Spread.order, Spread.leading, Spread.wraps, Spread.wrappedUnit, hw]

/-- What every run of a race keeps once its units and workers reach `2^31`: until the counter
wraps, it is the number of units taken, the calls are the units `0, 1, …` below the last among
them, and the workers that left are the takes past the last unit; once it has wrapped, the
calls start with the order of the sweep. -/
structure WrapInv (W : Nat) (r : Race) : Prop where
  length : r.workers.length = W
  units_nonneg : 0 ≤ r.units
  wraps : 2 ^ 31 ≤ r.units + W
  state : (Spread.shared W r.units.toNat).order <+: r.calls.map Prod.snd ∨
    (0 ≤ r.taken ∧ r.taken < 2 ^ 31 ∧
      r.calls.map Prod.snd = (List.range (min r.taken r.units).toNat).map Int.ofNat ∧
      (r.workers.count .finished : Int) = max 0 (r.taken - r.units))

theorem wrapInv_start {n : Int} {W : Nat} (hn : 0 ≤ n) (hbound : 2 ^ 31 ≤ n + W) :
    WrapInv W (start n W) where
  length := List.length_replicate
  units_nonneg := hn
  wraps := hbound
  state := .inr ⟨le_refl 0, by simp [start], by simp [start], by
    simp [start, List.count_replicate]
    omega⟩

variable {W : Nat} {r : Race}

/-- A step that moves no worker into or out of the finished place keeps the invariant, whatever
it does to the counter of active workers or to a worker's place. -/
theorem WrapInv.of_same (h : WrapInv W r) {r' : Race} (hu : r'.units = r.units)
    (hl : r'.workers.length = r.workers.length) (ht : r'.taken = r.taken)
    (hc : r'.calls = r.calls)
    (hF : r'.workers.count .finished = r.workers.count .finished) : WrapInv W r' where
  length := hl.trans h.length
  units_nonneg := hu ▸ h.units_nonneg
  wraps := hu ▸ h.wraps
  state := by rw [hu, ht, hc, hF]; exact h.state

/-- One step of any worker keeps the invariant: the counter hands out `0, 1, …` until its
`2^31`-th take, which calls `-2^31 - 1` and completes the order. -/
theorem WrapInv.step (h : WrapInv W r) (w : Nat) : WrapInv W (r.step w) := by
  have hn := h.units_nonneg
  have hwr := h.wraps
  rcases step_cases r w with ⟨hw, hr⟩ | ⟨hw, hu, hr⟩ | ⟨hw, hu, hr⟩ | ⟨u, hw, hr⟩ | ⟨-, hr⟩ <;>
    rw [hr]
  · have hsF := count_set_add hw .taking .finished
    simp only [reduceCtorEq, if_false, add_zero] at hsF
    exact h.of_same rfl (by simp) rfl rfl hsF
  · -- a take past the last unit: the counter has not wrapped, since the unit is not below zero
    have hsF := count_set_add hw .finished .finished
    simp only [reduceCtorEq, if_false, if_true, add_zero] at hsF
    refine { length := by simpa using h.length, units_nonneg := hn, wraps := h.wraps,
             state := ?_ }
    dsimp only
    rcases h.state with hpre | ⟨h0, hlt, hcalls, hfin⟩
    · exact .inl hpre
    have hwrap : wrapInt32 (r.taken + 1) = r.taken + 1 := by
      by_contra hne
      have : r.taken = 2 ^ 31 - 1 := by
        by_contra hne'
        exact hne (wrapInt32_of_mem (by omega) (by omega))
      rw [this] at hu
      have : wrapInt32 (2 ^ 31 - 1 + 1) = -2 ^ 31 := by decide
      omega
    rw [hwrap] at hu ⊢
    refine .inr ⟨by omega, ?_, ?_, ?_⟩
    · have := wrapInt32_lt (r.taken + 1)
      rw [hwrap] at this
      omega
    · rw [hcalls, show min (r.taken + 1) r.units = min r.taken r.units by omega]
    · push_cast [hsF] at hfin ⊢
      omega
  · have hsF := count_set_add hw (.running (wrapInt32 (r.taken + 1) - 1)) .finished
    simp only [reduceCtorEq, if_false, add_zero] at hsF
    refine { length := by simpa using h.length, units_nonneg := hn, wraps := h.wraps,
             state := ?_ }
    dsimp only
    rcases h.state with hpre | ⟨h0, hlt, hcalls, hfin⟩
    · exact .inl (hpre.trans (by simp))
    by_cases htop : r.taken = 2 ^ 31 - 1
    · -- the `2^31`-th take wraps to `-2^31`, and completes the order
      have hwrap : wrapInt32 (r.taken + 1) = -2 ^ 31 := by rw [htop]; decide
      left
      rw [order_of_wraps (by omega), List.map_append, hcalls, hwrap]
      have : (min r.taken r.units).toNat = min r.units.toNat (2 ^ 31 - 1) := by omega
      rw [this]
      simp
    · have hwrap : wrapInt32 (r.taken + 1) = r.taken + 1 := wrapInt32_of_mem (by omega) (by omega)
      rw [hwrap] at hu hsF ⊢
      refine .inr ⟨by omega, by omega, ?_, by push_cast [hsF]; omega⟩
      rw [List.map_append, hcalls, add_sub_cancel_right,
        show min (r.taken + 1) r.units = r.taken + 1 by omega,
        show min r.taken r.units = r.taken by omega,
        show (r.taken + 1).toNat = r.taken.toNat + 1 by omega, List.range_succ]
      simp
      omega
  · have hsF := count_set_add hw .taking .finished
    simp only [reduceCtorEq, if_false, add_zero] at hsF
    exact h.of_same rfl (by simp) rfl rfl hsF
  · exact h

theorem WrapInv.run (h : WrapInv W r) (l : List Nat) : WrapInv W (r.run l) := by
  induction l generalizing r with
  | nil => exact h
  | cons w l ih => exact ih (h.step w)

/-- Once every worker has left, the counter has wrapped: before it wraps at most
`2^31 - 1 - n` takes come past the last unit, and the `W` workers need `W` of them. -/
theorem WrapInv.order_prefix_of_done (h : WrapInv W r) (hW : 1 ≤ W) (hd : r.done = true) :
    (Spread.shared W r.units.toNat).order <+: r.calls.map Prod.snd := by
  rcases h.state with hpre | ⟨-, hlt, -, hfin⟩
  · exact hpre
  have hF : r.workers.count .finished = W :=
    h.length ▸ List.count_eq_length.2 fun x hx => ((done_iff.1 hd) x hx).symm
  have := h.wraps
  rw [hF] at hfin
  omega

/-- With `n ≥ 2^31 - 1` units no take comes past the last unit, so no worker ever leaves. -/
theorem count_finished_step (hu : 2 ^ 31 - 1 ≤ r.units) (w : Nat) :
    (r.step w).workers.count .finished = r.workers.count .finished := by
  rcases step_cases r w with ⟨hw, hr⟩ | ⟨hw, hle, hr⟩ | ⟨hw, hlt, hr⟩ | ⟨v, hw, hr⟩ | ⟨-, hr⟩ <;>
    rw [hr]
  · have := count_set_add hw .taking .finished
    simpa using this
  · have := wrapInt32_lt (r.taken + 1)
    omega
  · have := count_set_add hw (.running (wrapInt32 (r.taken + 1) - 1)) .finished
    simpa using this
  · have := count_set_add hw .taking .finished
    simpa using this

theorem count_finished_run (hu : 2 ^ 31 - 1 ≤ r.units) (l : List Nat) :
    (r.run l).workers.count .finished = r.workers.count .finished := by
  induction l generalizing r with
  | nil => rfl
  | cons w l ih =>
    rw [run_cons, ih (by rwa [units_step]), count_finished_step hu]

/-- A sweep of `n ≥ 2^31 - 1` units by at least one worker never ends: its workers never leave. -/
theorem not_done_run {n : Int} (hn : 2 ^ 31 - 1 ≤ n) (hW : 1 ≤ W) (l : List Nat) :
    ((start n W).run l).done = false := by
  have hF := count_finished_run (r := start n W) hn l
  have h0 : (start n W).workers.count .finished = 0 := by simp [start, List.count_replicate]
  rw [h0] at hF
  by_contra hd
  have hall := done_iff.1 (by simpa using hd)
  have hlen : ((start n W).run l).workers.length = W := by simp [start]
  have hcount : ((start n W).run l).workers.count .finished = ((start n W).run l).workers.length :=
    List.count_eq_length.2 fun x hx => (hall x hx).symm
  omega

end Race

/-! ## The sweep -/

namespace Pool

variable (p : Pool)

/-- A pool that is enabled has a worker, on a machine with a core. -/
theorem one_le_workers (hcores : 1 ≤ p.cores) (he : p.isEnabled = true) : 1 ≤ p.workers := by
  simp only [isEnabled, bne_iff_ne, ne_eq] at he
  unfold workers
  split_ifs
  · exact hcores
  · omega

/-- A sweep of `n ≥ 1` units, by where it runs: inline in order on worker 0 when the pool is
disabled, has one worker or has too few units to share, otherwise shared by all its workers,
unless there are `2^31` of them or more, which `Saturate` cannot start. Once the sweep is
shared, and its units and workers fit the 32-bit counter, every interleaving of the workers'
steps calls only units of `[0, n)`, each at most once and on a worker of the pool; a race in
which every worker has left has called every unit, in order, with every worker active; and
whatever has happened, `4 (n + W)` rounds of steps end the race. Past that bound the counter
wraps: every race that ends has called the units below `n` among its first `2^31 - 1` takes and
then the unit `-2^31 - 1`, and with `n ≥ 2^31 - 1` units no race ends. This needs the machine to
have a core. -/
theorem sweep_runs_every_unit_once (n threshold : Int) (hn : 1 ≤ n) (hcores : 1 ≤ p.cores) :
    ((!p.isEnabled || n < max threshold 2 || p.workers == 1) = true →
      ∃ sp, p.sweep n threshold = .ok sp ∧ sp.workers = 1 ∧
        sp.order = (List.range n.toNat).map Int.ofNat) ∧
    ((!p.isEnabled || n < max threshold 2 || p.workers == 1) = false →
      (p.workers < 2 ^ 31 → p.sweep n threshold = .ok (.shared p.workers n.toNat)) ∧
      (2 ^ 31 ≤ p.workers → p.sweep n threshold = .error Panic.negativeWaitGroup) ∧
      (n + p.workers < 2 ^ 31 → ∀ schedule : List Nat,
        let r := (Race.start n p.workers).run schedule
        (∀ c ∈ r.calls, c.1 < p.workers ∧ 0 ≤ c.2 ∧ c.2 < n) ∧ (r.calls.map Prod.snd).Nodup ∧
        (r.done = true →
          r.calls.map Prod.snd = (List.range n.toNat).map Int.ofNat ∧ r.active = p.workers) ∧
        (r.run (Race.rounds (4 * (n.toNat + p.workers)) p.workers)).done = true) ∧
      (2 ^ 31 ≤ n + p.workers → ∀ schedule : List Nat,
        let r := (Race.start n p.workers).run schedule
        (r.done = true → (List.range (min n.toNat (2 ^ 31 - 1))).map Int.ofNat ++ [-2 ^ 31 - 1] <+:
          r.calls.map Prod.snd) ∧
        (2 ^ 31 - 1 ≤ n → r.done = false))) := by
  refine ⟨fun hin => ⟨_, p.sweep_of_inline (by omega) hin, rfl, by
    simp [Spread.order, Spread.leading, Spread.wraps]⟩, fun hsh => ?_⟩
  have he : p.isEnabled = true := by
    simpa using (Bool.or_eq_false_iff.1 (Bool.or_eq_false_iff.1 hsh).1).1
  have hl : p.limit ≠ 0 := by simpa [isEnabled] using he
  have hshared := p.sweep_of_shared (by omega) hsh
  have hW := p.one_le_workers hcores he
  have hunits (schedule : List Nat) : ((Race.start n p.workers).run schedule).units = n := by
    simp [Race.start]
  refine ⟨fun hW => ?_, fun hW => ?_, fun hfit schedule => ?_, fun hbound schedule => ?_⟩
  · rw [hshared, p.saturate_of_lt hW]
    simp [Except.map]
  · rw [hshared, p.saturate_of_le hl hW]
    rfl
  · have h := (Race.inv_start (by omega) hfit).run schedule
    refine ⟨fun c hc => ?_, h.nodup_units, fun hd => ?_, h.done_run_rounds ?_⟩
    · have := h.calls_mem hc
      rwa [hunits] at this
    · have := h.calls_of_done hW hd
      rwa [hunits] at this
    calc Race.load ((Race.start n p.workers).run schedule)
        ≤ Race.load (Race.start n p.workers) := (Race.inv_start (by omega) hfit).load_run_le _
      _ = 4 * (n.toNat + p.workers) := by rw [Race.load_start]; ring
  · -- past the bound every race that ends has wrapped, and with `n ≥ 2^31 - 1` none ends
    have h := (Race.wrapInv_start (by omega) hbound).run schedule
    refine ⟨fun hd => ?_, fun hn' => Race.not_done_run hn' hW schedule⟩
    have hpre := h.order_prefix_of_done hW hd
    rwa [hunits, Race.order_of_wraps (by omega)] at hpre

/-- Three units on two workers are shared, and every run of their race that ends has called
each unit once; a pool of `2^31` workers stops; and two workers sharing `2^31 - 1` units never
end their race. -/
theorem sweep_runs_every_unit_once_shared :
    (1 : Int) ≤ 3 ∧ 1 ≤ (⟨2, 8⟩ : Pool).cores ∧
      (⟨2, 8⟩ : Pool).sweep 3 2 = .ok (.shared (⟨2, 8⟩ : Pool).workers 3) ∧
      (((Race.start 3 2).run (Race.rounds 6 2)).done = true →
        ((Race.start 3 2).run (Race.rounds 6 2)).calls.map Prod.snd =
          (List.range 3).map Int.ofNat) ∧
      (⟨2147483648, 8⟩ : Pool).sweep 3 2 = .error Panic.negativeWaitGroup ∧
      ((Race.start 2147483647 2).run (Race.rounds 6 2)).done = false :=
  ⟨by decide, by decide,
    ((sweep_runs_every_unit_once ⟨2, 8⟩ 3 2 (by decide) (by decide)).2 (by decide)).1 (by decide),
    fun hd => ((((sweep_runs_every_unit_once ⟨2, 8⟩ 3 2 (by decide) (by decide)).2
      (by decide)).2.2.1 (by decide) (Race.rounds 6 2)).2.2.1 hd).1,
    ((sweep_runs_every_unit_once ⟨2147483648, 8⟩ 3 2 (by decide) (by decide)).2
      (by decide)).2.1 (by decide),
    ((((sweep_runs_every_unit_once ⟨2, 8⟩ 2147483647 2 (by decide) (by decide)).2
      (by decide)).2.2.2 (by decide) (Race.rounds 6 2)).2 (by decide))⟩

/-- Two workers sharing three units in turns: worker 0 calls units 0 and 2, worker 1 calls
unit 1, and both leave. -/
example : ((Race.start 3 2).run (Race.rounds 6 2)).calls = [(0, 0), (1, 1), (0, 2)] ∧
    ((Race.start 3 2).run (Race.rounds 6 2)).done = true := by
  decide

end Pool

end TensorSelect
