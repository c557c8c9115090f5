import Mathlib
import TensorSelect.Pool.Monitor
import TensorSelect.Proofs.Pool.Monitor

/-!
# `Saturate` runs each worker's task once, or stops on its wait group

`Saturate` hands the tasks to the pool one by one and waits on a wait group whose count is a
signed 32-bit integer. Every run keeps how the tasks stand (`Saturation.Handed`) and, until a
goroutine stops, the count: the bodies still to return, less what the count lost when the
workers were added to it and it wrapped (`Saturation.Inv`, kept by every step:
`Saturation.Inv.step`).

With fewer than `2^31` workers the count loses nothing and nothing stops. In every run then:

* each worker's task starts at most once, and only for a worker below `NumWorkers`;
* once `Saturate` has returned, the task of every worker has started and returned, so the tasks
  started are the pool's workers, each once (`Pool.saturate_of_lt`);
* whatever has happened, `4 W + 1` rounds in which the caller and then each of the `W` workers
  take a step in turn end `Saturate`.

With `2^31` workers or more an enabled pool stops (`Pool.saturate_of_le`): the count the caller
adds is below zero, and the caller stops at once; or, from `2^32` workers on, the count holds
fewer bodies than there are, and the goroutine of the first body that returns past it stops.
Until the stop some task has not returned, and `4 W + 1` rounds bring it. A sweep asks
`Saturate` only when it shares its units (`Pool.sweep_of_shared`), so it is there, and only
there, that a sweep stops (`Pool.sweep_eq_error`).

Both bounds come from one measure (`Saturation.load`), which every round lowers until the run
is settled: stopped, or returned with every body returned (`Saturation.Inv.settled_run_rounds`).
Since `NumWorkers` is the limit, `Saturate` never has to wait for a place
(`Saturation.Inv.tasks_step_of_handed`): before it hands the task of worker `w` to the pool, at
most `w` tasks hold one. `Pool.saturate_runs_each_task_once` gathers these facts.
-/

namespace TensorSelect

namespace Pool

variable (p : Pool)

theorem workers_of_eq_zero (h : p.limit = 0) : p.workers = 1 := by
  simp [workers, h]

theorem workers_of_pos (h : 0 < p.limit) : (p.workers : Int) = p.limit := by
  simp only [workers, if_neg (show p.limit ≠ 0 by omega), if_neg (show ¬ p.limit < 0 by omega)]
  omega

/-- A pool with fewer than `2^31` workers, a disabled pool included, runs a task on each of its
workers `0, …, W - 1`. -/
theorem saturate_of_lt (h : p.workers < 2 ^ 31) : p.saturate = .ok (List.range p.workers) := by
  unfold saturate
  split
  · rw [workers_of_eq_zero p ‹_›]; rfl
  · rw [if_pos (by omega)]

/-- An enabled pool with `2^31` workers or more stops on its wait group. -/
theorem saturate_of_le (hl : p.limit ≠ 0) (h : 2 ^ 31 ≤ p.workers) :
    p.saturate = .error Panic.negativeWaitGroup := by
  unfold saturate
  rw [if_neg hl, if_neg (by omega)]

/-- `started` counts the workers that `saturate` lists. -/
theorem saturate_map_length : p.saturate.map List.length = p.started := by
  unfold saturate started
  split
  · rfl
  · split <;> simp [Except.map]

/-- A sweep with no units runs nothing. -/
theorem sweep_of_nonpos {n : Int} (h : n ≤ 0) (threshold : Int) : p.sweep n threshold = .ok .idle := by
  simp [sweep, h]

/-- A sweep with units that the pool does not share runs them all inline. -/
theorem sweep_of_inline {n threshold : Int} (hn : 0 < n)
    (h : (!p.isEnabled || n < max threshold 2 || p.workers == 1) = true) :
    p.sweep n threshold = .ok (.inline n.toNat) := by
  simp only [sweep, if_neg (show ¬ n ≤ 0 by omega), h, if_true]

/-- A sweep with units that the pool shares runs `Saturate`, and hands the units to the workers
that it starts. -/
theorem sweep_of_shared {n threshold : Int} (hn : 0 < n)
    (h : (!p.isEnabled || n < max threshold 2 || p.workers == 1) = false) :
    p.sweep n threshold = p.saturate.map fun ids => .shared ids.length n.toNat := by
  simp only [sweep, if_neg (show ¬ n ≤ 0 by omega), h, Bool.false_eq_true, if_false,
    ← saturate_map_length]
  cases p.saturate <;> rfl

/-- A pool of fewer than `2^31` workers starts every sweep. -/
theorem sweep_ok_of_lt (h : p.workers < 2 ^ 31) (n threshold : Int) :
    ∃ sp, p.sweep n threshold = .ok sp := by
  unfold sweep
  split_ifs
  · exact ⟨_, rfl⟩
  · exact ⟨_, rfl⟩
  · rw [← saturate_map_length, p.saturate_of_lt h]
    exact ⟨_, rfl⟩

/-- A sweep stops only where `Saturate` stops: on the wait group of `2^31` workers or more. -/
theorem sweep_eq_error {n threshold : Int} {q : Panic} (h : p.sweep n threshold = .error q) :
    q = Panic.negativeWaitGroup ∧ 2 ^ 31 ≤ p.workers := by
  by_cases hW : p.workers < 2 ^ 31
  · obtain ⟨sp, hsp⟩ := p.sweep_ok_of_lt hW n threshold
    rw [hsp] at h
    cases h
  -- a disabled pool has one worker, so this one is enabled, and a shared sweep stops
  have hl : p.limit ≠ 0 := fun h0 => hW (by rw [p.workers_of_eq_zero h0]; norm_num)
  refine ⟨?_, by omega⟩
  unfold sweep at h
  split_ifs at h
  rw [← saturate_map_length, p.saturate_of_le hl (by omega)] at h
  exact (Except.error.inj h).symm

/-- What the wait group's count loses of the workers when it wraps them: a multiple of `2^32`. -/
def lost : Int := p.workers - wrapInt32 p.workers

theorem wrapInt32_workers_lt : wrapInt32 p.workers < 2 ^ 31 := by
  rw [wrapInt32_eq_bmod, Int.bmod_def]
  split <;> omega

theorem lost_nonneg : 0 ≤ p.lost := by
  unfold lost
  rw [wrapInt32_eq_bmod, Int.bmod_def]
  split <;> omega

/-- Fewer than `2^31` workers the count holds as they are. -/
theorem lost_of_lt (h : p.workers < 2 ^ 31) : p.lost = 0 := by
  unfold lost
  rw [wrapInt32_of_mem (by omega) (by omega)]
  omega

/-- From `2^31` workers on the count has lost some of them. -/
theorem lost_pos_of_le (h : 2 ^ 31 ≤ p.workers) : 0 < p.lost := by
  have := p.wrapInt32_workers_lt
  unfold lost
  omega

/-- A count below zero at once takes `2^31` workers or more. -/
theorem le_of_wrapInt32_neg (h : wrapInt32 p.workers < 0) : 2 ^ 31 ≤ p.workers := by
  by_contra hlt
  rw [wrapInt32_of_mem (by omega) (by omega)] at h
  omega

end Pool

namespace Saturation

/-! ## Steps of `Saturate` -/

section Steps

variable (s : Saturation) (w : Nat)

theorem advance_of_running (h : s.monitor.tasks[w]? = some .running) :
    s.advance w = { s with monitor := s.monitor.step w, pending := wrapInt32 (s.pending - 1),
                           stopped := decide (wrapInt32 (s.pending - 1) < 0) } := by
  simp only [advance, h]

/-- A body that returns while the count is positive, and no more than `2^31`, leaves one fewer. -/
theorem advance_of_running_of_pos (hs : s.stopped = false) (h : s.monitor.tasks[w]? = some .running)
    (hp : 0 < s.pending) (hle : s.pending ≤ 2 ^ 31) :
    s.advance w = { s with monitor := s.monitor.step w, pending := s.pending - 1 } := by
  have hc : wrapInt32 (s.pending - 1) = s.pending - 1 := wrapInt32_of_mem (by omega) (by omega)
  have hd : decide (s.pending - 1 < 0) = false := decide_eq_false (by omega)
  rw [advance_of_running s w h, hc, hd, ← hs]

/-- A body that returns while the count is zero takes it below zero, and stops. -/
theorem advance_of_running_of_zero (h : s.monitor.tasks[w]? = some .running) (hp : s.pending = 0) :
    s.advance w = { s with monitor := s.monitor.step w, pending := -1, stopped := true } := by
  rw [advance_of_running s w h, hp]
  rfl

theorem advance_of_returned (h : s.monitor.tasks[w]? = some .returned) :
    s.advance w = { s with monitor := s.monitor.step w } := by
  simp only [advance, h]

/-- A goroutine whose task holds no place has nothing to do. -/
theorem advance_of_not_holdsPlace (h : (s.monitor.tasks[w]?.any Task.holdsPlace) = false) :
    s.advance w = s := by
  unfold advance
  split <;> simp_all [Task.holdsPlace]

/-- Once a goroutine has stopped, no step moves. -/
theorem step_of_stopped (hs : s.stopped = true) (a : Actor) : s.step a = s := by
  simp only [step, hs, if_true]

section Live

variable (hs : s.stopped = false)
include hs

theorem step_caller_of_returned (hr : s.returned = true) : s.step .caller = s := by
  simp only [step, hs, hr, Bool.false_eq_true, if_false, if_true]

section Inline

variable (hr : s.returned = false) (hl : s.monitor.limit = 0)
include hr hl

theorem step_inline_of_idle (h : s.monitor.tasks[0]? = some .idle) :
    s.step .caller = { s with monitor := s.monitor.step 0 } := by
  simp only [step, hs, hr, hl, h, Bool.false_eq_true, if_false, if_true]

theorem step_inline_of_finished (h : s.monitor.tasks[0]? = some .finished) :
    s.step .caller = { s with returned := true } := by
  simp only [step, hs, hr, hl, h, Bool.false_eq_true, if_false, if_true]

theorem step_inline_of_holdsPlace (h : (s.monitor.tasks[0]?.any Task.holdsPlace) = true) :
    s.step .caller = s.advance 0 := by
  simp only [step, hs, hr, hl, Bool.false_eq_true, if_false, if_true]
  split <;> simp_all [Task.holdsPlace]

end Inline

section Hand

variable (hr : s.returned = false) (hl : s.monitor.limit ≠ 0)
include hr hl

theorem step_hand_of_idle (hn : s.next < s.workers) (h : s.monitor.tasks[s.next]? = some .idle) :
    s.step .caller = { s with monitor := s.monitor.step s.next } := by
  simp only [step, hs, hr, hl, hn, h, Bool.false_eq_true, if_false, if_true]

theorem step_hand_of_started (hn : s.next < s.workers)
    (h : (s.monitor.tasks[s.next]?.any Task.hasStarted) = true) :
    s.step .caller = { s with next := s.next + 1 } := by
  simp only [step, hs, hr, hl, hn, Bool.false_eq_true, if_false, if_true]
  split <;> simp_all [Task.hasStarted]

theorem step_wait_of_pending_eq_zero (hn : s.workers ≤ s.next) (hp : s.pending = 0) :
    s.step .caller = { s with returned := true } := by
  simp only [step, hs, hr, hl, hp, Bool.false_eq_true, if_false, if_true, if_neg (not_lt.2 hn)]

theorem step_wait (hn : s.workers ≤ s.next) (hp : s.pending ≠ 0) : s.step .caller = s := by
  simp only [step, hs, hr, hl, hp, Bool.false_eq_true, if_false, if_neg (not_lt.2 hn)]

end Hand

theorem step_worker_inline (hl : s.monitor.limit = 0) : s.step (.worker w) = s := by
  simp only [step, hs, hl, Bool.false_eq_true, if_false, if_true]

theorem step_worker (hl : s.monitor.limit ≠ 0) : s.step (.worker w) = s.advance w := by
  simp only [step, hs, hl, Bool.false_eq_true, if_false]

end Live

end Steps

theorem run_nil (s : Saturation) : s.run [] = s := rfl

theorem run_cons (s : Saturation) (a : Actor) (l : List Actor) : s.run (a :: l) = (s.step a).run l :=
  rfl

theorem run_append (s : Saturation) (l₁ l₂ : List Actor) : s.run (l₁ ++ l₂) = (s.run l₁).run l₂ :=
  List.foldl_append

/-- A stopped run stays where it is. -/
theorem run_of_stopped (s : Saturation) (hs : s.stopped = true) (l : List Actor) : s.run l = s := by
  induction l with
  | nil => rfl
  | cons a l ih => rw [run_cons, step_of_stopped s hs, ih]

/-! ## The invariant of `Saturate` -/

/-- How the tasks of a run of `Saturate` on pool `p` stand. The monitor keeps its own invariant,
with one task per worker. The workers before `next` have been handed over and their tasks have
started; those after it have not been handed over. No task ever waits for a place, and `Saturate`
returns from an enabled pool only once it has handed every task over. -/
structure Handed (p : Pool) (s : Saturation) : Prop where
  monitor : s.monitor.Inv
  limit : s.monitor.limit = p.limit
  workers : s.workers = p.workers
  length : s.monitor.tasks.length = p.workers
  next_le : s.next ≤ p.workers
  below : ∀ w < s.next, (s.monitor.tasks[w]?.any Task.hasStarted) = true
  above : ∀ w : Nat, s.next < w → w < p.workers → s.monitor.tasks[w]? = some .idle
  no_wait : ∀ w : Nat, s.monitor.tasks[w]? ≠ some Task.waiting
  handed : s.returned = true → s.monitor.limit ≠ 0 → p.workers ≤ s.next

/-- What every run of `Saturate` on pool `p` keeps: how its tasks stand and, until a goroutine
stops, the wait group's count, which is the number of bodies still to return less what the
count lost of the workers, is never below zero, and is zero once `Saturate` has returned. Only
a pool of `2^31` workers or more stops. -/
structure Inv (p : Pool) (s : Saturation) : Prop extends Handed p s where
  pending : s.stopped = false → s.pending + p.lost = s.monitor.tasks.countP Task.bodyPending
  nonneg : s.stopped = false → 0 ≤ s.pending
  done : s.returned = true → s.stopped = false → s.pending = 0
  stop : s.stopped = true → 2 ^ 31 ≤ p.workers

theorem inv_start (p : Pool) : Inv p (start p) where
  monitor := Monitor.inv_start _ _
  limit := rfl
  workers := rfl
  length := List.length_replicate
  next_le := Nat.zero_le _
  below w hw := absurd hw (Nat.not_lt_zero w)
  above w _ hw := by simp [start, Monitor.start, hw]
  no_wait w := by by_cases hw : w < p.workers <;> simp [start, Monitor.start, hw]
  handed hr := by simp [start] at hr
  pending _ := by
    simp [start, Monitor.start, List.countP_replicate, Task.bodyPending, Pool.lost]
  nonneg hs := by simpa [start] using hs
  done hr := by simp [start] at hr
  stop hs := p.le_of_wrapInt32_neg (by simpa [start] using hs)

section Count

variable {p : Pool} {s : Saturation}

/-- A live count is below `2^31`: it counts no more bodies than the wrapped number of workers. -/
theorem Inv.pending_lt (h : Inv p s) (hs : s.stopped = false) : s.pending < 2 ^ 31 := by
  have hc := h.pending hs
  have hle : s.monitor.tasks.countP Task.bodyPending ≤ p.workers :=
    h.length ▸ List.countP_le_length
  have := p.wrapInt32_workers_lt
  unfold Pool.lost at hc
  omega

/-- Below `2^31` workers nothing stops. -/
theorem Inv.live (h : Inv p s) (hW : p.workers < 2 ^ 31) : s.stopped = false := by
  cases hs : s.stopped
  · rfl
  · exact absurd (h.stop hs) (by omega)

/-- Below `2^31` workers the count is the number of bodies still to return. -/
theorem Inv.pending_of_lt (h : Inv p s) (hW : p.workers < 2 ^ 31) :
    s.pending = s.monitor.tasks.countP Task.bodyPending := by
  have hc := h.pending (h.live hW)
  rw [p.lost_of_lt hW] at hc
  omega

/-- From `2^31` workers on, until a stop some body has still to return: the count has lost
some of them and is never below zero. -/
theorem Inv.countP_pos_of_le (h : Inv p s) (hW : 2 ^ 31 ≤ p.workers) (hs : s.stopped = false) :
    0 < s.monitor.tasks.countP Task.bodyPending := by
  have hc := h.pending hs
  have hn := h.nonneg hs
  have hl := p.lost_pos_of_le hW
  omega

end Count

section Preservation

variable {p : Pool} {s : Saturation}

/-- One task moves on, from `x` to a state `y` in which it has started: how the tasks stand
holds again as long as only the task the caller hands over leaves `idle`. The count and the
stop do not enter. -/
theorem Handed.setTask (h : Handed p s) {t : Nat} {x y : Task} (hx : s.monitor.tasks[t]? = some x)
    {m : Monitor} (hm : m.Inv) (hlim : m.limit = s.monitor.limit)
    (htasks : m.tasks = s.monitor.tasks.set t y) (hy : y.hasStarted = true)
    (hidle : x = .idle → t ≤ s.next) (pending : Int) (stopped : Bool) :
    Handed p { s with monitor := m, pending := pending, stopped := stopped } := by
  have ht : t < s.monitor.tasks.length := (List.getElem?_eq_some_iff.1 hx).1
  have hget : ∀ u, m.tasks[u]? = if t = u then some y else s.monitor.tasks[u]? := by
    intro u
    rw [htasks, List.getElem?_set, if_pos ht]
  refine ⟨hm, hlim.trans h.limit, h.workers, by rw [htasks, List.length_set, h.length],
    h.next_le, ?below, ?above, ?no_wait, fun hr hl => h.handed hr (hlim ▸ hl)⟩
  case below =>
    intro u hu
    show (m.tasks[u]?.any Task.hasStarted) = true
    rw [hget u]
    split
    · exact hy
    · exact h.below u hu
  case above =>
    rintro u (hu : s.next < u) huW
    show m.tasks[u]? = some .idle
    rw [hget u]
    split
    · -- the task past `next` was idle, and only the task at `next` leaves `idle`
      rename_i htu
      subst htu
      have hxi : x = .idle := Option.some.inj (hx.symm.trans (h.above t hu huW))
      exact absurd (hidle hxi) (by omega)
    · exact h.above u hu huW
  case no_wait =>
    intro u
    show m.tasks[u]? ≠ some Task.waiting
    rw [hget u]
    split
    · intro hw
      rw [Option.some.inj hw] at hy
      cases hy
    · exact h.no_wait u

/-- A live step that moves one task on keeps the invariant, as long as the task's body does not
become pending again and the count follows the bodies that return without going below zero. -/
theorem Inv.setTask (h : Inv p s) (hs : s.stopped = false) {t : Nat} {x y : Task}
    (hx : s.monitor.tasks[t]? = some x) {m : Monitor} (hm : m.Inv)
    (hlim : m.limit = s.monitor.limit) (htasks : m.tasks = s.monitor.tasks.set t y)
    (hy : y.hasStarted = true) (hidle : x = .idle → t ≤ s.next)
    (hpend : y.bodyPending = true → x.bodyPending = true) (pending : Int)
    (hpending : pending + (if x.bodyPending then 1 else 0) =
      s.pending + (if y.bodyPending then 1 else 0)) (hnonneg : 0 ≤ pending) :
    Inv p { s with monitor := m, pending := pending } := by
  have hcount := countP_set_add hx y Task.bodyPending
  rw [← htasks] at hcount
  have hp := h.pending hs
  refine { toHanded := h.toHanded.setTask hx hm hlim htasks hy hidle pending s.stopped,
           pending := fun _ => ?_, nonneg := fun _ => hnonneg, done := fun hr _ => ?_,
           stop := fun hs' => absurd (hs'.symm.trans hs) (by simp) }
  · show pending + p.lost = (m.tasks.countP Task.bodyPending : Int)
    split_ifs at hcount hpending <;> omega
  · -- no body becomes pending again, so a count of zero stays zero
    have h0 := h.done hr hs
    show pending = 0
    cases hby : y.bodyPending
    · simp only [hby, Bool.false_eq_true, if_false, add_zero] at hpending
      split_ifs at hpending <;> omega
    · simp only [hby, hpend hby, if_true] at hpending
      omega

/-- A body that returns on a count of zero takes it below zero and stops its goroutine: only a
pool of `2^31` workers or more gets there, since below that the count is the bodies still to
return, and this one was. -/
theorem Inv.stopTask (h : Inv p s) (hs : s.stopped = false) {w : Nat}
    (hx : s.monitor.tasks[w]? = some .running) (hp : s.pending = 0) :
    Inv p { s with monitor := s.monitor.step w, pending := -1, stopped := true } := by
  have hW : 2 ^ 31 ≤ p.workers := by
    by_contra hlt
    have hc := h.pending hs
    rw [p.lost_of_lt (by omega), hp] at hc
    have : 0 < s.monitor.tasks.countP Task.bodyPending :=
      List.countP_pos_iff.2 ⟨.running, List.mem_of_getElem? hx, rfl⟩
    omega
  exact { toHanded := h.toHanded.setTask hx (h.monitor.step w) (Monitor.limit_step _ _)
            (Monitor.tasks_step_of_running _ _ hx) rfl (fun hi => by cases hi) (-1) true
          pending := fun hs' => by simp at hs'
          nonneg := fun hs' => by simp at hs'
          done := fun _ hs' => by simp at hs'
          stop := fun _ => hW }

/-- A goroutine's step keeps the invariant: a body that returns is counted done, or stops the
goroutine when the count is already zero. -/
theorem Inv.advance (h : Inv p s) (hs : s.stopped = false) (w : Nat) : Inv p (s.advance w) := by
  rcases hx : s.monitor.tasks[w]? with _ | x
  · rw [advance_of_not_holdsPlace s w (by rw [hx]; rfl)]; exact h
  cases x with
  | running =>
    by_cases hp : s.pending = 0
    · rw [advance_of_running_of_zero s w hx hp]
      exact h.stopTask hs hx hp
    · have hpos : 0 < s.pending := lt_of_le_of_ne (h.nonneg hs) (Ne.symm hp)
      rw [advance_of_running_of_pos s w hs hx hpos (h.pending_lt hs).le]
      exact h.setTask hs hx (h.monitor.step w) (Monitor.limit_step _ _)
        (Monitor.tasks_step_of_running _ _ hx) rfl (fun hi => by cases hi) (fun hb => by cases hb)
        _ (by simp [Task.bodyPending]) (by omega)
  | returned =>
    rw [advance_of_returned s w hx]
    exact h.setTask hs hx (h.monitor.step w) (Monitor.limit_step _ _)
      (Monitor.tasks_step_of_returned _ _ hx) rfl (fun hi => by cases hi) (fun hb => by cases hb)
      _ (by simp [Task.bodyPending]) (h.nonneg hs)
  | idle | waiting | finished =>
    rw [advance_of_not_holdsPlace s w (by rw [hx]; rfl)]; exact h

/-- While the task at `next` has not been handed over, fewer tasks than workers hold a place:
under a positive limit, which is the number of workers, there is room for it. -/
theorem Inv.room (h : Inv p s) (hl : 0 < p.limit) (hn : s.next < p.workers)
    (hx : s.monitor.tasks[s.next]? = some .idle) : s.monitor.isFull = false := by
  have hlim : 0 < s.monitor.limit := h.limit ▸ hl
  have hheld : s.monitor.tasks.countP Task.holdsPlace ≤ s.monitor.tasks.countP Task.hasStarted :=
    List.countP_mono_left fun x _ hx => ((Task.holdsPlace_iff x).1 hx).1
  have hstarted : s.monitor.tasks.countP Task.hasStarted ≤ s.next := by
    apply countP_le_of_getElem?_ge
    intro u hu
    rcases Nat.lt_or_ge u p.workers with huW | huW
    · rcases Nat.eq_or_lt_of_le hu with rfl | hlt
      · rw [hx]; rfl
      · rw [h.above u hlt huW]; rfl
    · rw [List.getElem?_eq_none (h.length ▸ huW)]; rfl
  have hW := p.workers_of_pos hl
  rw [Monitor.isFull_eq_false_iff _ hlim, h.monitor.count, if_pos hlim, h.limit]
  omega

/-- A task that `Saturate` hands over starts at once: it never waits for a place. -/
theorem Inv.tasks_step_of_handed (h : Inv p s) {t : Nat} (hx : s.monitor.tasks[t]? = some .idle)
    (ht : s.monitor.limit = 0 ∨ t = s.next) :
    (s.monitor.step t).tasks = s.monitor.tasks.set t .running := by
  apply Monitor.tasks_step_of_idle _ _ hx
  by_cases hpos : 0 < s.monitor.limit
  · rcases ht with hl | rfl
    · omega
    · have hnW : s.next < p.workers := h.length ▸ (List.getElem?_eq_some_iff.1 hx).1
      exact .inr (h.room (h.limit ▸ hpos) hnW hx)
  · exact .inl (by omega)

theorem Inv.exists_task (h : Inv p s) {w : Nat} (hw : w < p.workers) :
    ∃ x, s.monitor.tasks[w]? = some x :=
  ⟨_, List.getElem?_eq_getElem (h.length ▸ hw)⟩

/-- The caller's step on a disabled pool: it runs worker 0's task itself, and returns once
the task is gone. -/
theorem Inv.stepInline (h : Inv p s) (hs : s.stopped = false) (hr : s.returned = false)
    (hl : s.monitor.limit = 0) : Inv p (s.step .caller) := by
  have hW : p.workers = 1 := p.workers_of_eq_zero (h.limit ▸ hl)
  obtain ⟨x, hx⟩ := h.exists_task (show 0 < p.workers by omega)
  cases x with
  | idle =>
    rw [step_inline_of_idle s hs hr hl hx]
    exact h.setTask hs hx (h.monitor.step 0) (Monitor.limit_step _ _)
      (h.tasks_step_of_handed hx (.inl hl)) rfl (fun _ => Nat.zero_le _) (fun _ => rfl) _
      (by simp [Task.bodyPending]) (h.nonneg hs)
  | waiting => exact absurd hx (h.no_wait 0)
  | running | returned =>
    rw [step_inline_of_holdsPlace s hs hr hl (by rw [hx]; rfl)]
    exact h.advance hs 0
  | finished =>
    rw [step_inline_of_finished s hs hr hl hx]
    -- the pool has one task, and it is gone: no body is pending, and the count is zero
    have h0 : s.monitor.tasks.countP Task.bodyPending = 0 := by
      refine List.countP_eq_zero.2 fun y hy => ?_
      obtain ⟨u, hu⟩ := List.mem_iff_getElem?.1 hy
      have hu0 : u = 0 := by
        have := (List.getElem?_eq_some_iff.1 hu).1
        rw [h.length, hW] at this
        omega
      subst hu0
      rw [hx] at hu
      cases hu
      simp [Task.bodyPending]
    have hc := h.pending hs
    rw [p.lost_of_lt (by omega)] at hc
    exact { h with handed := fun _ hl' => absurd hl hl', done := fun _ _ => show s.pending = 0 by omega }

/-- The caller's step while it hands tasks over: the task at `next` starts at once, and once it
has started the caller moves on to the next worker. -/
theorem Inv.stepHand (h : Inv p s) (hs : s.stopped = false) (hr : s.returned = false)
    (hl : s.monitor.limit ≠ 0) (hn : s.next < s.workers) : Inv p (s.step .caller) := by
  have hnW : s.next < p.workers := h.workers ▸ hn
  obtain ⟨x, hx⟩ := h.exists_task hnW
  cases x with
  | idle =>
    rw [step_hand_of_idle s hs hr hl hn hx]
    exact h.setTask hs hx (h.monitor.step _) (Monitor.limit_step _ _)
      (h.tasks_step_of_handed hx (.inr rfl)) rfl (fun _ => le_rfl) (fun _ => rfl) _
      (by simp [Task.bodyPending]) (h.nonneg hs)
  | waiting => exact absurd hx (h.no_wait _)
  | running | returned | finished =>
    rw [step_hand_of_started s hs hr hl hn (by rw [hx]; rfl)]
    refine { h with next_le := hnW, below := fun u hu => ?_,
                    above := fun u (hu : s.next + 1 < u) huW => h.above u (by omega) huW,
                    handed := fun hr' => absurd (hr'.symm.trans hr) (by simp) }
    rcases Nat.lt_succ_iff_lt_or_eq.1 hu with hu | rfl
    · exact h.below u hu
    · rw [hx]; rfl

/-- Every step of `Saturate` keeps the invariant. -/
theorem Inv.step (h : Inv p s) (a : Actor) : Inv p (s.step a) := by
  cases hs : s.stopped
  · cases a with
    | caller =>
      cases hr : s.returned
      · by_cases hl : s.monitor.limit = 0
        · exact h.stepInline hs hr hl
        by_cases hn : s.next < s.workers
        · exact h.stepHand hs hr hl hn
        by_cases hp : s.pending = 0
        · rw [step_wait_of_pending_eq_zero s hs hr hl (by omega) hp]
          -- the caller returns once every task has been handed over and the count is zero
          have hnW : p.workers ≤ s.next := by rw [← h.workers]; omega
          exact { h with handed := fun _ _ => hnW, done := fun _ _ => hp }
        · rw [step_wait s hs hr hl (by omega) hp]; exact h
      · rw [step_caller_of_returned s hs hr]; exact h
    | worker w =>
      by_cases hl : s.monitor.limit = 0
      · rw [step_worker_inline s w hs hl]; exact h
      · rw [step_worker s w hs hl]; exact h.advance hs w
  · rw [step_of_stopped s hs]; exact h

/-- Every run of `Saturate` keeps the invariant. -/
theorem Inv.run (h : Inv p s) (l : List Actor) : Inv p (s.run l) := by
  induction l generalizing s with
  | nil => exact h
  | cons a l ih => exact ih (h.step a)

end Preservation

/-! ## What `Saturate` has done -/

section Outcome

variable {p : Pool} {s : Saturation}

theorem inv_run_start (p : Pool) (l : List Actor) : Inv p ((start p).run l) :=
  (inv_start p).run l

/-- Only the tasks of the pool's workers start. -/
theorem Inv.lt_of_mem_started (h : Inv p s) {w : Nat} (hw : w ∈ s.monitor.started) :
    w < p.workers := by
  rw [h.monitor.mem_started w] at hw
  by_contra hlt
  rw [List.getElem?_eq_none (by rw [h.length]; omega)] at hw
  cases hw

/-- Once `Saturate` has returned from a pool of fewer than `2^31` workers, the body of every
worker's task has returned. -/
theorem Inv.body_returned (h : Inv p s) (hW : p.workers < 2 ^ 31) (hr : s.returned = true)
    {w : Nat} (hw : w < p.workers) :
    s.monitor.tasks[w]? = some .returned ∨ s.monitor.tasks[w]? = some .finished := by
  obtain ⟨x, hx⟩ := h.exists_task hw
  have h0 : s.monitor.tasks.countP Task.bodyPending = 0 := by
    have hc := h.pending_of_lt hW
    have hd := h.done hr (h.live hW)
    omega
  have hx' : ¬ x.bodyPending = true := List.countP_eq_zero.1 h0 x (List.mem_of_getElem? hx)
  rw [hx]
  cases x <;> simp_all [Task.bodyPending]

/-- Once `Saturate` has returned from a pool of fewer than `2^31` workers, the tasks started are
the pool's workers, each once. -/
theorem Inv.started_perm (h : Inv p s) (hW : p.workers < 2 ^ 31) (hr : s.returned = true) :
    s.monitor.started.Perm (List.range p.workers) := by
  rw [List.perm_ext_iff_of_nodup h.monitor.nodup List.nodup_range]
  intro w
  rw [List.mem_range]
  refine ⟨h.lt_of_mem_started, fun hw => ?_⟩
  rw [h.monitor.mem_started w]
  rcases h.body_returned hW hr hw with hx | hx <;> rw [hx] <;> rfl

/-- From `2^31` workers on, until a stop some worker's task has not returned. -/
theorem Inv.exists_unreturned (h : Inv p s) (hW : 2 ^ 31 ≤ p.workers) (hs : s.stopped = false) :
    ∃ w < p.workers,
      s.monitor.tasks[w]? ≠ some .returned ∧ s.monitor.tasks[w]? ≠ some .finished := by
  obtain ⟨x, hx, hbx⟩ := List.countP_pos_iff.1 (h.countP_pos_of_le hW hs)
  obtain ⟨w, hw⟩ := List.mem_iff_getElem?.1 hx
  refine ⟨w, h.length ▸ (List.getElem?_eq_some_iff.1 hw).1, ?_, ?_⟩ <;>
    · rw [hw]
      cases x <;> simp_all [Task.bodyPending]

end Outcome

/-! ## `Saturate` settles -/

/-- What `Saturate` still has to do: the weight of every task, the workers not yet handed
over, and returning. Every step that does something lowers it. -/
def load (s : Saturation) : Nat :=
  (s.monitor.tasks.map Task.weight).sum + (s.workers - s.next) + (if s.returned then 0 else 1)

/-- `Saturate` has nothing left to do: a goroutine has stopped, or it has returned and the body
of every task has returned. -/
def Settled (s : Saturation) : Prop :=
  s.stopped = true ∨ (s.returned = true ∧ s.monitor.tasks.countP Task.bodyPending = 0)

/-- A body still to return still weighs on the load. -/
theorem countP_bodyPending_le (l : List Task) :
    l.countP Task.bodyPending ≤ (l.map Task.weight).sum := by
  induction l with
  | nil => simp
  | cons x l ih => cases x <;> simp [List.countP_cons, Task.bodyPending, Task.weight] <;> omega

section Load

variable {p : Pool} {s : Saturation}

/-- One task moving from `x` to `y` changes the load by the difference of their weights. -/
theorem load_setTask {t : Nat} {x y : Task} (hx : s.monitor.tasks[t]? = some x) {m : Monitor}
    (htasks : m.tasks = s.monitor.tasks.set t y) (pending : Int) (stopped : Bool) :
    load { s with monitor := m, pending := pending, stopped := stopped } + x.weight =
      load s + y.weight := by
  have hsum := sum_map_set_add Task.weight hx y
  simp only [load, htasks]
  omega

/-- The step of a goroutine whose task holds a place lowers the load, whether it stops or not. -/
theorem load_advance_lt {w : Nat} (hx : (s.monitor.tasks[w]?.any Task.holdsPlace) = true) :
    load (s.advance w) < load s := by
  rcases hw : s.monitor.tasks[w]? with _ | x
  · rw [hw] at hx; cases hx
  cases x with
  | running =>
    have hload := load_setTask hw (Monitor.tasks_step_of_running _ _ hw)
      (wrapInt32 (s.pending - 1)) (decide (wrapInt32 (s.pending - 1) < 0))
    rw [advance_of_running s w hw]
    simp only [Task.weight] at hload
    omega
  | returned =>
    have hload := load_setTask hw (Monitor.tasks_step_of_returned _ _ hw) s.pending s.stopped
    rw [advance_of_returned s w hw]
    simp only [Task.weight] at hload
    omega
  | idle | waiting | finished => rw [hw] at hx; cases hx

theorem load_advance_le (w : Nat) : load (s.advance w) ≤ load s := by
  cases hx : s.monitor.tasks[w]?.any Task.holdsPlace
  · rw [advance_of_not_holdsPlace s w hx]
  · exact (load_advance_lt hx).le

/-- A goroutine's step that stops it was the return of a body, which lowered the load. -/
theorem load_advance_lt_of_stopped (hs : s.stopped = false) {w : Nat}
    (hst : (s.advance w).stopped = true) : load (s.advance w) < load s := by
  cases hx : s.monitor.tasks[w]?.any Task.holdsPlace
  · rw [advance_of_not_holdsPlace s w hx, hs] at hst
    cases hst
  · exact load_advance_lt hx

/-- The caller's step lowers the load, unless it waits on the wait group. -/
theorem Inv.load_caller_lt (h : Inv p s) (hs : s.stopped = false) (hr : s.returned = false)
    (hwait : ¬ (s.monitor.limit ≠ 0 ∧ s.workers ≤ s.next ∧ s.pending ≠ 0)) :
    load (s.step .caller) < load s := by
  by_cases hl : s.monitor.limit = 0
  · have hW : p.workers = 1 := p.workers_of_eq_zero (h.limit ▸ hl)
    obtain ⟨x, hx⟩ := h.exists_task (show 0 < p.workers by omega)
    cases x with
    | idle =>
      have hload := load_setTask hx (h.tasks_step_of_handed hx (.inl hl)) s.pending s.stopped
      rw [step_inline_of_idle s hs hr hl hx]
      simp only [Task.weight] at hload
      omega
    | waiting => exact absurd hx (h.no_wait 0)
    | running | returned =>
      rw [step_inline_of_holdsPlace s hs hr hl (by rw [hx]; rfl)]
      exact load_advance_lt (by rw [hx]; rfl)
    | finished =>
      rw [step_inline_of_finished s hs hr hl hx]
      simp [load, hr]
  by_cases hn : s.next < s.workers
  · obtain ⟨x, hx⟩ := h.exists_task (h.workers ▸ hn)
    cases x with
    | idle =>
      have hload := load_setTask hx (h.tasks_step_of_handed hx (.inr rfl)) s.pending s.stopped
      rw [step_hand_of_idle s hs hr hl hn hx]
      simp only [Task.weight] at hload
      omega
    | waiting => exact absurd hx (h.no_wait _)
    | running | returned | finished =>
      rw [step_hand_of_started s hs hr hl hn (by rw [hx]; rfl)]
      simp only [load]
      omega
  · have hp : s.pending = 0 := by omega
    rw [step_wait_of_pending_eq_zero s hs hr hl (by omega) hp]
    simp [load, hr]

theorem Inv.load_step_le (h : Inv p s) (a : Actor) : load (s.step a) ≤ load s := by
  cases hs : s.stopped
  · cases a with
    | caller =>
      cases hr : s.returned
      · by_cases hwait : s.monitor.limit ≠ 0 ∧ s.workers ≤ s.next ∧ s.pending ≠ 0
        · rw [step_wait s hs hr hwait.1 hwait.2.1 hwait.2.2]
        · exact (h.load_caller_lt hs hr hwait).le
      · rw [step_caller_of_returned s hs hr]
    | worker w =>
      by_cases hl : s.monitor.limit = 0
      · rw [step_worker_inline s w hs hl]
      · rw [step_worker s w hs hl]
        exact load_advance_le w
  · rw [step_of_stopped s hs]

theorem Inv.load_run_le (h : Inv p s) (l : List Actor) : load (s.run l) ≤ load s := by
  induction l generalizing s with
  | nil => exact le_rfl
  | cons a l ih => exact (ih (h.step a)).trans (h.load_step_le a)

/-- A goroutine's step leaves the other tasks where they are. -/
theorem getElem?_advance_of_ne {v w : Nat} (hne : v ≠ w) :
    (s.advance v).monitor.tasks[w]? = s.monitor.tasks[w]? := by
  unfold advance
  split
  · exact Monitor.getElem?_step_of_ne _ _ hne
  · exact Monitor.getElem?_step_of_ne _ _ hne
  · rfl

/-- Steps of goroutines, among them that of a running task, lower the load of a live
`Saturate`: until its turn the others leave that task running, or stop, which lowers the load
by itself. -/
theorem Inv.load_workers_lt (h : Inv p s) (hs : s.stopped = false) (hl : s.monitor.limit ≠ 0)
    {l : List Nat} {w : Nat} (hw : w ∈ l) (hx : s.monitor.tasks[w]? = some .running) :
    load (s.run (l.map .worker)) < load s := by
  induction l generalizing s with
  | nil => cases hw
  | cons v l ih =>
    rw [List.map_cons, run_cons, step_worker s v hs hl]
    by_cases hv : v = w
    · subst hv
      exact lt_of_le_of_lt ((h.advance hs v).load_run_le _) (load_advance_lt (by rw [hx]; rfl))
    cases hst : (s.advance v).stopped
    · -- still live, with `w` still running
      have hw' : w ∈ l := (List.mem_cons.1 hw).resolve_left (Ne.symm hv)
      have hx' : (s.advance v).monitor.tasks[w]? = some .running := by
        rw [getElem?_advance_of_ne hv]
        exact hx
      have hl' : (s.advance v).monitor.limit ≠ 0 := by
        rw [(h.advance hs v).limit, ← h.limit]
        exact hl
      exact lt_of_lt_of_le (ih (h.advance hs v) hst hl' hw' hx') (load_advance_le v)
    · rw [run_of_stopped _ hst]
      exact load_advance_lt_of_stopped hs hst

/-- While the caller waits, or has returned, with a body still to return, that task runs: every
task has been handed over and has started. -/
theorem Inv.exists_running (h : Inv p s) (hn : p.workers ≤ s.next)
    (hpos : 0 < s.monitor.tasks.countP Task.bodyPending) :
    ∃ w < p.workers, s.monitor.tasks[w]? = some .running := by
  obtain ⟨x, hx, hbx⟩ := List.countP_pos_iff.1 hpos
  obtain ⟨w, hw⟩ := List.mem_iff_getElem?.1 hx
  have hwW : w < p.workers := h.length ▸ (List.getElem?_eq_some_iff.1 hw).1
  have hs := h.below w (by omega)
  rw [hw] at hs
  refine ⟨w, hwW, ?_⟩
  rw [hw]
  cases x <;> simp_all [Task.bodyPending, Task.hasStarted]

/-- A round in which the caller and then every worker take a step lowers the load of a live
`Saturate` that has not returned, or that has a body still to return. -/
theorem Inv.load_round_lt (h : Inv p s) (hs : s.stopped = false)
    (hopen : s.returned = false ∨ 0 < s.monitor.tasks.countP Task.bodyPending) :
    load (s.run (.caller :: (List.range p.workers).map .worker)) < load s := by
  rw [run_cons]
  cases hr : s.returned
  · by_cases hwait : s.monitor.limit ≠ 0 ∧ s.workers ≤ s.next ∧ s.pending ≠ 0
    · -- the caller waits on the wait group: a task runs, and its goroutine's step lowers the load
      obtain ⟨hl, hn, hp⟩ := hwait
      rw [step_wait s hs hr hl hn hp]
      have hpos : 0 < s.monitor.tasks.countP Task.bodyPending := by
        have hc := h.pending hs
        have hn0 := h.nonneg hs
        have hl0 := p.lost_nonneg
        omega
      obtain ⟨w, hw, hx⟩ := h.exists_running (h.workers ▸ hn) hpos
      exact h.load_workers_lt hs hl (List.mem_range.2 hw) hx
    · exact lt_of_le_of_lt ((h.step _).load_run_le _) (h.load_caller_lt hs hr hwait)
  · -- `Saturate` has returned with a body still to return: the pool is enabled, since a
    -- disabled one has one worker and a count that lost none, and that task runs
    have hpos : 0 < s.monitor.tasks.countP Task.bodyPending :=
      hopen.resolve_left (by rw [hr]; decide)
    have hl : s.monitor.limit ≠ 0 := by
      intro hl
      have hW : p.workers = 1 := p.workers_of_eq_zero (h.limit ▸ hl)
      have hc := h.pending hs
      have h0 := h.done hr hs
      rw [p.lost_of_lt (by omega)] at hc
      omega
    rw [step_caller_of_returned s hs hr]
    obtain ⟨w, hw, hx⟩ := h.exists_running (h.handed hr hl) hpos
    exact h.load_workers_lt hs hl (List.mem_range.2 hw) hx

/-- Nothing undoes a settled `Saturate`: no body is left to return, so no goroutine can stop. -/
theorem Settled.step (hd : Settled s) (a : Actor) : Settled (s.step a) := by
  cases hs : s.stopped
  · obtain ⟨hr, h0⟩ := hd.resolve_left (by rw [hs]; decide)
    cases a with
    | caller => rw [step_caller_of_returned s hs hr]; exact .inr ⟨hr, h0⟩
    | worker w =>
      by_cases hl : s.monitor.limit = 0
      · rw [step_worker_inline s w hs hl]; exact .inr ⟨hr, h0⟩
      rw [step_worker s w hs hl]
      rcases hx : s.monitor.tasks[w]? with _ | x
      · rw [advance_of_not_holdsPlace s w (by rw [hx]; rfl)]; exact .inr ⟨hr, h0⟩
      cases x with
      | running =>
        exact absurd (List.countP_eq_zero.1 h0 .running (List.mem_of_getElem? hx)) (by decide)
      | returned =>
        -- the goroutine gives its place back; the body had already returned
        rw [advance_of_returned s w hx]
        have hcount := countP_set_add hx .finished Task.bodyPending
        rw [← Monitor.tasks_step_of_returned _ _ hx] at hcount
        simp only [Task.bodyPending, Bool.false_eq_true, if_false, add_zero] at hcount
        exact .inr ⟨hr, hcount.trans h0⟩
      | idle | waiting | finished =>
        rw [advance_of_not_holdsPlace s w (by rw [hx]; rfl)]; exact .inr ⟨hr, h0⟩
  · rw [step_of_stopped s hs]; exact .inl hs

theorem Settled.run (hd : Settled s) (l : List Actor) : Settled (s.run l) := by
  induction l generalizing s with
  | nil => exact hd
  | cons a l ih => exact ih (hd.step a)

/-- As many rounds as the load settle `Saturate`. -/
theorem Inv.settled_run_rounds (h : Inv p s) {k : Nat} (hk : load s ≤ k) :
    Settled (s.run (rounds k p.workers)) := by
  induction k generalizing s with
  | zero =>
    rw [rounds, List.replicate_zero, List.flatten_nil, run_nil]
    cases hs : s.stopped
    · -- a load of zero: `Saturate` has returned and every task is gone
      have hr : s.returned = true := by
        cases hr : s.returned
        · simp only [load, hr, Bool.false_eq_true, if_false] at hk
          omega
        · rfl
      have hle := countP_bodyPending_le s.monitor.tasks
      simp only [load, hr, if_true] at hk
      exact .inr ⟨hr, by omega⟩
    · exact .inl hs
  | succ k ih =>
    by_cases hd : Settled s
    · exact hd.run _
    have hs : s.stopped = false := by
      cases hs : s.stopped
      · rfl
      · exact absurd (.inl hs) hd
    have hopen : s.returned = false ∨ 0 < s.monitor.tasks.countP Task.bodyPending := by
      cases hr : s.returned
      · exact .inl rfl
      · exact .inr (Nat.pos_of_ne_zero fun h0 => hd (.inr ⟨hr, h0⟩))
    have hround := h.load_round_lt hs hopen
    rw [rounds, List.replicate_succ, List.flatten_cons, run_append]
    exact ih (h.run _) (by omega)

theorem load_start (p : Pool) : load (start p) = 4 * p.workers + 1 := by
  simp [load, start, Monitor.start, Task.weight, List.map_replicate, List.sum_replicate]
  omega

/-- Whatever has happened, `4 W + 1` rounds settle `Saturate`. -/
theorem settled_run_start (p : Pool) (l : List Actor) :
    Settled (((start p).run l).run (rounds (4 * p.workers + 1) p.workers)) :=
  (inv_run_start p l).settled_run_rounds ((inv_start p).load_run_le l |>.trans (load_start p).le)

/-- Below `2^31` workers a settled `Saturate` has returned. -/
theorem Inv.returned_of_settled (h : Inv p s) (hW : p.workers < 2 ^ 31) (hd : Settled s) :
    s.returned = true :=
  (hd.resolve_left (by rw [h.live hW]; decide)).1

/-- From `2^31` workers on a settled `Saturate` has stopped. -/
theorem Inv.stopped_of_settled (h : Inv p s) (hW : 2 ^ 31 ≤ p.workers) (hd : Settled s) :
    s.stopped = true := by
  cases hs : s.stopped
  · obtain ⟨_, h0⟩ := hd.resolve_left (by rw [hs]; decide)
    exact absurd h0 (Nat.pos_iff_ne_zero.1 (h.countP_pos_of_le hW hs))
  · rfl

end Load

end Saturation

namespace Pool

/-- Under a positive limit, whatever the order in which tasks ask for a place, return and give
their place back, the pool's count of running tasks stays between `0` and the limit and is the
number of tasks started and not yet gone.

With fewer than `2^31` workers, whatever the order of the steps of `Saturate` and of its tasks,
no goroutine stops; each worker's task starts at most once and only for a worker of the pool;
once `Saturate` has returned the tasks started are the pool's workers, each once, and the body
of every one of them has returned; and `4 W + 1` further rounds end `Saturate`.

With `2^31` workers or more an enabled pool stops: until it does, some worker's task has not
returned, and `4 W + 1` further rounds bring the stop. -/
theorem saturate_runs_each_task_once (p : Pool) :
    (0 < p.limit → ∀ (n : Nat) (sched : List Nat) (m : Monitor),
      (Monitor.start p.limit n).run sched = m →
        0 ≤ m.numRunning ∧ m.numRunning ≤ p.limit ∧
          m.numRunning = (m.started.countP fun t => m.tasks[t]? != some .finished : Nat)) ∧
    (p.workers < 2 ^ 31 →
      p.saturate = .ok (List.range p.workers) ∧
      ∀ (sched : List Actor) (s : Saturation), (Saturation.start p).run sched = s →
        s.stopped = false ∧ s.monitor.started.Nodup ∧ (∀ w ∈ s.monitor.started, w < p.workers) ∧
        (s.returned = true → s.monitor.started.Perm (List.range p.workers) ∧
          ∀ w < p.workers,
            s.monitor.tasks[w]? = some .returned ∨ s.monitor.tasks[w]? = some .finished) ∧
        (s.run (Saturation.rounds (4 * p.workers + 1) p.workers)).returned = true) ∧
    (p.limit ≠ 0 → 2 ^ 31 ≤ p.workers →
      p.saturate = .error Panic.negativeWaitGroup ∧
      ∀ (sched : List Actor) (s : Saturation), (Saturation.start p).run sched = s →
        (s.stopped = false → ∃ w < p.workers,
          s.monitor.tasks[w]? ≠ some .returned ∧ s.monitor.tasks[w]? ≠ some .finished) ∧
        (s.run (Saturation.rounds (4 * p.workers + 1) p.workers)).stopped = true) := by
  refine ⟨fun hl n sched m hm => ?_, fun hW => ⟨p.saturate_of_lt hW, fun sched s hs => ?_⟩,
    fun hl hW => ⟨p.saturate_of_le hl hW, fun sched s hs => ?_⟩⟩
  · have h := (Monitor.inv_start p.limit n).run sched
    have hlim : ((Monitor.start p.limit n).run sched).limit = p.limit := Monitor.limit_run _
    rw [hm] at h hlim
    have hl' : 0 < m.limit := by rw [hlim]; exact hl
    refine ⟨h.numRunning_nonneg, ?_, h.numRunning_eq_started hl'⟩
    rw [← hlim]
    exact h.le_limit hl'
  · subst hs
    have h := Saturation.inv_run_start p sched
    exact ⟨h.live hW, h.monitor.nodup, fun w hw => h.lt_of_mem_started hw,
      fun hr => ⟨h.started_perm hW hr, fun w hw => h.body_returned hW hr hw⟩,
      (h.run _).returned_of_settled hW (Saturation.settled_run_start p sched)⟩
  · subst hs
    have h := Saturation.inv_run_start p sched
    exact ⟨h.exists_unreturned hW,
      (h.run _).stopped_of_settled hW (Saturation.settled_run_start p sched)⟩

theorem saturate_on_two_workers :
    (0 < (⟨2, 8⟩ : Pool).limit ∧
      0 ≤ ((Monitor.start 2 3).run [0, 1, 2]).numRunning ∧
      ((Monitor.start 2 3).run [0, 1, 2]).numRunning ≤ 2) ∧
    ((⟨2, 8⟩ : Pool).workers < 2 ^ 31 ∧
      ((Saturation.start ⟨2, 8⟩).run [.caller, .worker 0]).monitor.started.Nodup) ∧
    ((⟨2147483648, 8⟩ : Pool).limit ≠ 0 ∧ 2 ^ 31 ≤ (⟨2147483648, 8⟩ : Pool).workers ∧
      (⟨2147483648, 8⟩ : Pool).saturate = .error Panic.negativeWaitGroup) :=
  ⟨⟨by decide, ((saturate_runs_each_task_once ⟨2, 8⟩).1 (by decide) 3 [0, 1, 2] _ rfl).1,
      ((saturate_runs_each_task_once ⟨2, 8⟩).1 (by decide) 3 [0, 1, 2] _ rfl).2.1⟩,
    ⟨by decide, (((saturate_runs_each_task_once ⟨2, 8⟩).2.1 (by decide)).2 _ _ rfl).2.1⟩,
    ⟨by decide, by decide,
      ((saturate_runs_each_task_once ⟨2147483648, 8⟩).2.2 (by decide) (by decide)).1⟩⟩

-- two workers under a limit of two: each task takes the caller a round to hand over and one to
-- move past, and a fifth round finds both bodies returned
example : ((Saturation.start ⟨2, 8⟩).run (Saturation.rounds 5 2)).returned = true := by decide

end Pool

end TensorSelect
