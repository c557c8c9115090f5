import TensorSelect.Pool

/-!
# The pool's monitor

`WaitToStart` hands a task to the pool. A disabled pool runs it inline, and a pool without a
limit starts it on a goroutine of its own at once. Under a positive limit `p` the caller takes
the pool's lock and waits on its condition variable while `p` tasks are running. It then counts
the task as running and starts it. Once the task has returned, its goroutine takes the lock
again, counts the task as gone and signals.

`Saturate` hands one task per worker to `WaitToStart`, in order of worker id, and waits on a
wait group until every task has returned. A disabled pool runs the task of worker 0 inline.
The wait group's count is a signed 32-bit integer, to which `Saturate` first adds the number of
workers and from which each task takes one as its body returns. A count that wraps below zero
stops the goroutine that made it: the caller at once, or a task's goroutine, which brings the
whole program down. Nothing moves after a stop.

What one goroutine does under the lock is one step, and a run is a sequence of steps in any
order (`Monitor.run`, `Saturation.run` over a schedule). A waiting task may look again at any
time, signalled or not, and goes in whenever there is room: the model has every run that the
pool has.
-/

namespace TensorSelect

/-- Where a task handed to the pool is. -/
inductive Task
  /-- Not yet handed to the pool. -/
  | idle
  /-- Inside `WaitToStart`, waiting for a place. -/
  | waiting
  /-- Started: its body runs. -/
  | running
  /-- Its body has returned; its goroutine has still to give its place back. -/
  | returned
  /-- Gone. -/
  | finished
  deriving DecidableEq, Repr

/-- Whether a task holds one of the pool's places: it has started and not yet given it back. -/
def Task.holdsPlace : Task → Bool
  | .running | .returned => true
  | _ => false

/-- The pool's monitor: its limit, the count of running tasks that it keeps under its lock,
where each task is, and the tasks started so far, oldest first. -/
structure Monitor where
  limit : Int
  numRunning : Int
  tasks : List Task
  started : List Nat
  deriving DecidableEq, Repr

namespace Monitor

/-- A pool with limit `limit` and `n` tasks, none of them handed to it yet. -/
def start (limit : Int) (n : Nat) : Monitor := ⟨limit, 0, List.replicate n .idle, []⟩

/-- Whether every place is taken: always when the pool is disabled, never without a limit, and
under a positive limit once that many tasks are running. -/
def isFull (m : Monitor) : Bool :=
  if m.limit = 0 then true else if m.limit < 0 then false else decide (m.limit ≤ m.numRunning)

/-- Task `t` starts. -/
def launch (m : Monitor) (t : Nat) : Monitor :=
  { m with tasks := m.tasks.set t .running, started := m.started ++ [t] }

/-- Task `t` takes its next step. Handed to the pool, it starts at once when the pool has no
positive limit (inline when the pool is disabled). Under a positive limit it waits while the
pool is full, and when there is room it is counted and starts. Once its body has returned, its
goroutine gives its place back. -/
def step (m : Monitor) (t : Nat) : Monitor :=
  match m.tasks[t]? with
  | some .idle =>
    if m.limit ≤ 0 then m.launch t
    else if m.isFull then { m with tasks := m.tasks.set t .waiting }
    else { m.launch t with numRunning := m.numRunning + 1 }
  | some .waiting =>
    if m.isFull then m else { m.launch t with numRunning := m.numRunning + 1 }
  | some .running => { m with tasks := m.tasks.set t .returned }
  | some .returned =>
    if 0 < m.limit then { m with numRunning := m.numRunning - 1, tasks := m.tasks.set t .finished }
    else { m with tasks := m.tasks.set t .finished }
  | some .finished | none => m

/-- The monitor after the tasks of a schedule take their steps, one after another. -/
def run (m : Monitor) (schedule : List Nat) : Monitor := schedule.foldl step m

end Monitor

/-- Who takes a step in a run of `Saturate`: the caller, or the goroutine of a worker's task. -/
inductive Actor
  | caller
  | worker (w : Nat)
  deriving DecidableEq, Repr

/-- `Saturate` in progress: the pool's monitor, with one task per worker; the number of workers;
the next worker that the caller hands to the pool; the wait group's count, of the tasks whose
body has not returned; whether `Saturate` has returned; and whether a goroutine has stopped on
a count below zero. -/
structure Saturation where
  monitor : Monitor
  workers : Nat
  next : Nat
  pending : Int
  returned : Bool
  stopped : Bool
  deriving DecidableEq, Repr

namespace Saturation

/-- `Saturate` called on a pool, once the wait group has counted the workers: the count wraps
modulo `2^32`, and one below zero stops the caller there. A disabled pool has one worker. -/
def start (p : Pool) : Saturation :=
  let count := wrapInt32 p.workers
  ⟨Monitor.start p.limit p.workers, p.workers, 0, count, false, decide (count < 0)⟩

/-- The goroutine of worker `w`'s task takes a step: the body returns and the wait group takes
one off its count, which stops the goroutine if it wraps below zero; then the goroutine gives
its place back. -/
def advance (s : Saturation) (w : Nat) : Saturation :=
  match (s.monitor.tasks[w]? : Option Task) with
  | some .running =>
    let count := wrapInt32 (s.pending - 1)
    { s with monitor := s.monitor.step w, pending := count, stopped := decide (count < 0) }
  | some .returned => { s with monitor := s.monitor.step w }
  | _ => s

/-- One step of `Saturate`. On a disabled pool the caller runs worker 0's task itself and
returns. Otherwise the caller hands the workers' tasks to the pool in order, each time waiting
in `WaitToStart` until the task has started, and then waits until the wait group's count is
zero; each worker's goroutine runs its task. Once a goroutine has stopped, nothing moves. -/
def step (s : Saturation) (a : Actor) : Saturation :=
  if s.stopped then s
  else match a with
    | .caller =>
      if s.returned then s
      else if s.monitor.limit = 0 then
        match (s.monitor.tasks[0]? : Option Task) with
        | some .idle => { s with monitor := s.monitor.step 0 }
        | some .finished => { s with returned := true }
        | _ => s.advance 0
      else if s.next < s.workers then
        match (s.monitor.tasks[s.next]? : Option Task) with
        | some .idle | some .waiting => { s with monitor := s.monitor.step s.next }
        | _ => { s with next := s.next + 1 }
      else if s.pending = 0 then { s with returned := true } else s
    | .worker w => if s.monitor.limit = 0 then s else s.advance w

/-- `Saturate` after the actors of a schedule take their steps, one after another. -/
def run (s : Saturation) (schedule : List Actor) : Saturation := schedule.foldl step s

/-- A schedule of `k` rounds in which the caller and then each of `w` workers take one step. -/
def rounds (k w : Nat) : List Actor :=
  (List.replicate k (.caller :: (List.range w).map .worker)).flatten

end Saturation

end TensorSelect
