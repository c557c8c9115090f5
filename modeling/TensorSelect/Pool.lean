import TensorSelect.Word
import TensorSelect.Panic
/-!
# Worker pools

A pool runs tasks on workers, under a limit: `0` runs everything inline on the caller, a negative
limit allows one worker per core, and a positive limit `p` allows `p` workers.

* `Pool.sweep` hands out `n` units of work. Nothing runs for `n ≤ 0`. The units run inline on
  worker 0, in order, when the pool is disabled, when there are fewer units than the larger of
  the threshold and two, or when the pool has one worker; otherwise `Saturate` starts every
  worker, and the workers take units from a shared counter until none is left, so each unit runs
  exactly once as long as that counter does not wrap (`Race`). The counter is a signed 32-bit
  integer: once `n + W ≥ 2^31` for `W` workers, the `2^31`-th unit taken wraps to
  `-2^31 - 1` (`Spread.wraps`). `Spread.order` lists the units in the order the counter hands
  them out, up to that one.
* `Pool.saturate` runs one task per worker, with the worker's id; a disabled pool runs one task
  inline. An enabled pool first counts its workers on a wait group, whose count is a signed
  32-bit integer: `2^31` workers or more it cannot count, and the pool stops
  (`Saturation`, in `Pool.Monitor`).
* `Pool.waves` says which of `n` started tasks may run at the same time: under a positive limit
  `p` they run in waves of at most `p`; without a limit all at once; a disabled pool runs each task
  inline before starting the next.

A shared sweep is a race between its workers (`Race`): each worker counts itself active, then
takes the next unit from a 32-bit counter, runs it, and takes again, until the counter hands it
a unit past the last. The workers' steps interleave in any order (`Race.run` over a schedule).
-/

namespace TensorSelect

/-- A worker pool: its limit on parallelism, and the number of cores of the machine. -/
structure Pool where
  limit : Int
  cores : Nat
  deriving DecidableEq, Repr, Inhabited

/-- How the units of a sweep run. -/
inductive Spread
  /-- No unit runs. -/
  | idle
  /-- The units `0, …, units - 1` run inline on worker 0, in this order. -/
  | inline (units : Nat)
  /-- The units `0, …, units - 1` are handed out by a shared counter to this many workers. -/
  | shared (workers units : Nat)
  deriving DecidableEq, Repr

namespace Pool

variable (p : Pool)

/-- Whether the pool runs anything on workers of its own. -/
def isEnabled : Bool := p.limit != 0

/-- Whether the pool has no limit but the number of cores. -/
def isUnlimited : Bool := p.limit < 0

/-- The number of workers: one when disabled, one per core without a limit, the limit otherwise. -/
def workers : Nat := if p.limit = 0 then 1 else if p.limit < 0 then p.cores else p.limit.toNat

/-- The ids of the workers that one task each runs on: worker 0 inline on a disabled pool, and
otherwise every worker, once the wait group has counted them. Its count is a signed 32-bit
integer: with `2^31` workers or more it is below zero at once, or, from `2^32` workers on, once
more tasks have returned than it held; either way the pool stops. -/
def saturate : Except Panic (List Nat) :=
  if p.limit = 0 then .ok [0]
  else if p.workers < 2147483648 then .ok (List.range p.workers)
  else .error Panic.negativeWaitGroup

/-- The number of workers that `saturate` starts, or its stop, without listing them. -/
def started : Except Panic Nat :=
  if p.limit = 0 then .ok 1
  else if p.workers < 2147483648 then .ok p.workers
  else .error Panic.negativeWaitGroup

/-- How `n` units of work run, with `threshold` the fewest units worth sharing. A shared sweep
runs on the workers that `saturate` starts, and stops where it stops. -/
def sweep (n threshold : Int) : Except Panic Spread :=
  if n ≤ 0 then .ok .idle
  else if !p.isEnabled || n < max threshold 2 || p.workers == 1 then .ok (.inline n.toNat)
  else p.started.map fun w => .shared w n.toNat

/-- The tasks, of `n` started, that run at the same time, wave by wave. -/
def waves (n : Nat) : List (List Nat) :=
  if p.limit = 0 then (List.range n).map fun t => [t]
  else if p.limit < 0 then (if n = 0 then [] else [List.range n])
  else
    let w := p.limit.toNat
    (List.range ((n + w - 1) / w)).map fun b => List.range' (b * w) (min w (n - b * w))

end Pool

namespace Spread

/-- The number of workers that a sweep reports: none, one, or all that shared it. -/
def workers : Spread → Nat
  | .idle => 0
  | .inline _ => 1
  | .shared w _ => w

/-- Whether the shared counter of a sweep wraps: `W` workers take `n + W` units off it in all,
one past the last for each worker, and the `2^31`-th wraps. -/
def wraps : Spread → Bool
  | .shared w n => 2147483648 ≤ n + w
  | _ => false

/-- The unit that the counter hands out once it wraps: the `2^31`-th take reads `-2^31` and
takes the unit before it. -/
def wrappedUnit : Int := -2147483649

/-- How many units `0, 1, …` a sweep hands out in order before its counter wraps: all of them,
unless the counter wraps, and then those of the first `2^31 - 1` takes. -/
def leading : Spread → Nat
  | .idle => 0
  | .inline n => n
  | .shared w n => if n + w < 2147483648 then n else min n 2147483647

/-- The units of a sweep in the order they are handed out, up to the first unit the counter
wraps to. -/
def order (sp : Spread) : List Int :=
  (List.range sp.leading).map Int.ofNat ++ if sp.wraps then [wrappedUnit] else []

end Spread

/-- Where a worker of a shared sweep is. -/
inductive Worker
  /-- Started, not yet counted among the active workers. -/
  | starting
  /-- About to take the next unit from the counter. -/
  | taking
  /-- Running a unit. -/
  | running (unit : Int)
  /-- Gone, after the counter handed it a unit past the last. -/
  | finished
  deriving DecidableEq, Repr

/-- A shared sweep of `units` units in progress: the 32-bit counters of the units taken and of
the active workers, where each worker is, and the calls started so far as `(worker, unit)`,
oldest first. -/
structure Race where
  units : Int
  taken : Int
  active : Int
  workers : List Worker
  calls : List (Nat × Int)
  deriving DecidableEq, Repr

namespace Race

/-- A shared sweep of `n` units by `w` workers, before any of them runs. -/
def start (n : Int) (w : Nat) : Race := ⟨n, 0, 0, List.replicate w .starting, []⟩

/-- Worker `w` takes its next step. Taking a unit adds one to the counter and takes the unit
before the new count: past the last, the worker leaves; otherwise it calls the function on the
unit. A worker that has left, or that the sweep does not have, does nothing. -/
def step (r : Race) (w : Nat) : Race :=
  match r.workers[w]? with
  | some .starting => { r with active := wrapInt32 (r.active + 1), workers := r.workers.set w .taking }
  | some .taking =>
    let taken := wrapInt32 (r.taken + 1)
    if taken - 1 ≥ r.units then { r with taken, workers := r.workers.set w .finished }
    else { r with taken, workers := r.workers.set w (.running (taken - 1)),
                  calls := r.calls ++ [(w, taken - 1)] }
  | some (.running _) => { r with workers := r.workers.set w .taking }
  | some .finished | none => r

/-- The sweep after the workers of a schedule take their steps, one after another. -/
def run (r : Race) (schedule : List Nat) : Race := schedule.foldl step r

/-- Whether every worker has left. -/
def done (r : Race) : Bool := r.workers.all (· == .finished)

/-- A schedule of `k` rounds in which each of `w` workers takes one step in turn. -/
def rounds (k w : Nat) : List Nat := (List.replicate k (List.range w)).flatten

end Race

end TensorSelect
