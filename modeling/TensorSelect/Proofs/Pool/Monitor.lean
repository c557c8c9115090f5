import Mathlib
import TensorSelect.Pool.Monitor

/-!
# The pool's monitor keeps count

Under a positive limit `p`, every run of the pool's monitor keeps its count of running tasks
between `0` and `p`, equal to the number of tasks that have started and not yet given their
place back (`Monitor.Inv`, kept by every step: `Monitor.Inv.step`; the count read off the log of
started tasks: `Monitor.Inv.numRunning_eq_started`). The list lemmas at the start count the
entries of a list of tasks as one of them moves on; the runs of `Saturate` (`Proofs.Pool.Saturate`)
and of a shared sweep (`Proofs.Pool.Race`) use them too.
-/

namespace TensorSelect

/-- Whether a task has started: it runs, has returned, or is gone. -/
def Task.hasStarted : Task → Bool
  | .running | .returned | .finished => true
  | _ => false

/-- Whether the body of a task has still to return: the wait group still counts it. -/
def Task.bodyPending : Task → Bool
  | .idle | .waiting | .running => true
  | _ => false

/-- What a task still owes `Saturate`: being handed over, its body, and giving its place back. -/
def Task.weight : Task → Nat
  | .idle | .waiting => 3
  | .running => 2
  | .returned => 1
  | .finished => 0

/-- A task holds a place exactly when it has started and is not gone. -/
theorem Task.holdsPlace_iff (x : Task) :
    x.holdsPlace = true ↔ x.hasStarted = true ∧ x ≠ .finished := by
  cases x <;> simp [holdsPlace, hasStarted]

/-- Putting `a` in place of `x` in a list changes the sum of `f` over it by the difference. -/
theorem sum_map_set_add {α : Type} (f : α → Nat) {l : List α} {t : Nat} {x : α}
    (h : l[t]? = some x) (a : α) : ((l.set t a).map f).sum + f x = (l.map f).sum + f a := by
  induction l generalizing t with
  | nil => simp at h
  | cons y l ih =>
    cases t with
    | zero =>
      simp only [List.getElem?_cons_zero, Option.some.injEq] at h
      subst h
      simp only [List.set_cons_zero, List.map_cons, List.sum_cons]
      omega
    | succ t =>
      simp only [List.getElem?_cons_succ] at h
      have := ih h
      simp only [List.set_cons_succ, List.map_cons, List.sum_cons]
      omega

/-- Putting `a` in place of `x` in a list moves one entry from `x`'s count to `a`'s. -/
theorem countP_set_add {α : Type} {l : List α} {t : Nat} {x : α} (h : l[t]? = some x)
    (a : α) (p : α → Bool) :
    (l.set t a).countP p + (if p x then 1 else 0) = l.countP p + (if p a then 1 else 0) := by
  obtain ⟨ht, rfl⟩ := List.getElem?_eq_some_iff.1 h
  rw [List.countP_set ht]
  have hle : (if p l[t] = true then 1 else 0) ≤ l.countP p := List.boole_getElem_le_countP ht
  omega

/-- A list none of whose entries from index `k` on satisfy `p` has at most `k` entries that
do. -/
theorem countP_le_of_getElem?_ge {α : Type} {l : List α} {p : α → Bool} {k : Nat}
    (h : ∀ i, k ≤ i → (l[i]?.any p) = false) : l.countP p ≤ k := by
  induction l generalizing k with
  | nil => simp
  | cons a l ih =>
    rw [List.countP_cons]
    cases k with
    | zero =>
      have hl := @ih 0 (fun i _ => by simpa using h (i + 1) (Nat.zero_le _))
      have ha : p a = false := by simpa using h 0 le_rfl
      simp only [ha, Bool.false_eq_true, if_false]
      omega
    | succ k =>
      have hl := @ih k (fun i hi => by simpa using h (i + 1) (by omega))
      split <;> omega

/-- The indices of a list whose entries satisfy `p` are as many as those entries. -/
theorem length_filter_range_getElem? {α : Type} (l : List α) (p : α → Bool) :
    ((List.range l.length).filter fun t => l[t]?.any p).length = l.countP p := by
  induction l with
  | nil => rfl
  | cons a l ih =>
    rw [List.length_cons, List.range_succ_eq_map, List.filter_cons, List.filter_map,
      List.countP_cons, ← ih]
    have hshift : ((fun t => (a :: l)[t]?.any p) ∘ Nat.succ) = fun t => l[t]?.any p := rfl
    rw [hshift]
    split <;> simp_all

/-- A list of distinct indices that holds exactly the indices of the entries satisfying `p` is
as long as their count. -/
theorem length_eq_countP_of_mem_iff {α : Type} {l : List α} {p : α → Bool} {S : List Nat}
    (hS : S.Nodup) (hmem : ∀ t, t ∈ S ↔ (l[t]?.any p) = true) : S.length = l.countP p := by
  rw [← length_filter_range_getElem? l p]
  apply List.Perm.length_eq
  rw [List.perm_ext_iff_of_nodup hS (List.nodup_range.filter _)]
  intro t
  rw [hmem t, List.mem_filter, List.mem_range]
  refine ⟨fun ht => ⟨?_, ht⟩, fun ht => ht.2⟩
  by_contra hlt
  rw [List.getElem?_eq_none (not_lt.1 hlt)] at ht
  cases ht

namespace Monitor

/-! ## Steps -/

section Steps

variable (m : Monitor) (t : Nat)

@[simp] theorem limit_launch : (m.launch t).limit = m.limit := rfl
@[simp] theorem numRunning_launch : (m.launch t).numRunning = m.numRunning := rfl
@[simp] theorem tasks_launch : (m.launch t).tasks = m.tasks.set t .running := rfl
@[simp] theorem started_launch : (m.launch t).started = m.started ++ [t] := rfl

/-- The limit of the pool does not change. -/
@[simp]
theorem limit_step : (m.step t).limit = m.limit := by
  unfold step
  split
  · split
    · rfl
    · split <;> rfl
  · split <;> rfl
  · rfl
  · split <;> rfl
  · rfl
  · rfl

@[simp]
theorem length_step : (m.step t).tasks.length = m.tasks.length := by
  unfold step
  split
  · split
    · simp
    · split <;> simp
  · split <;> simp
  · simp
  · split <;> simp
  · rfl
  · rfl

theorem step_of_idle_of_nonpos (h : m.tasks[t]? = some .idle) (hl : m.limit ≤ 0) :
    m.step t = m.launch t := by
  simp only [step, h, if_pos hl]

theorem step_of_idle_of_full (h : m.tasks[t]? = some .idle) (hl : 0 < m.limit)
    (hf : m.isFull = true) : m.step t = { m with tasks := m.tasks.set t .waiting } := by
  simp only [step, h, if_neg (not_le.2 hl), hf, if_true]

theorem step_of_idle_of_room (h : m.tasks[t]? = some .idle) (hl : 0 < m.limit)
    (hf : m.isFull = false) : m.step t = { m.launch t with numRunning := m.numRunning + 1 } := by
  simp only [step, h, if_neg (not_le.2 hl), hf, Bool.false_eq_true, if_false]

theorem step_of_waiting_of_full (h : m.tasks[t]? = some .waiting) (hf : m.isFull = true) :
    m.step t = m := by
  simp only [step, h, hf, if_true]

theorem step_of_waiting_of_room (h : m.tasks[t]? = some .waiting) (hf : m.isFull = false) :
    m.step t = { m.launch t with numRunning := m.numRunning + 1 } := by
  simp only [step, h, hf, Bool.false_eq_true, if_false]

theorem step_of_running (h : m.tasks[t]? = some .running) :
    m.step t = { m with tasks := m.tasks.set t .returned } := by
  simp only [step, h]

theorem step_of_returned_of_pos (h : m.tasks[t]? = some .returned) (hl : 0 < m.limit) :
    m.step t = { m with numRunning := m.numRunning - 1, tasks := m.tasks.set t .finished } := by
  simp only [step, h, if_pos hl]

theorem step_of_returned_of_nonpos (h : m.tasks[t]? = some .returned) (hl : m.limit ≤ 0) :
    m.step t = { m with tasks := m.tasks.set t .finished } := by
  simp only [step, h, if_neg (not_lt.2 hl)]

/-- A task that is gone, or that the pool does not have, takes no step. -/
theorem step_of_finished (h : m.tasks[t]? = some .finished ∨ m.tasks[t]? = none) :
    m.step t = m := by
  rcases h with h | h <;> simp only [step, h]

theorem tasks_step_of_idle (h : m.tasks[t]? = some .idle)
    (hroom : m.limit ≤ 0 ∨ m.isFull = false) : (m.step t).tasks = m.tasks.set t .running := by
  rcases hroom with hl | hf
  · rw [step_of_idle_of_nonpos m t h hl]; rfl
  · by_cases hl : 0 < m.limit
    · rw [step_of_idle_of_room m t h hl hf]; rfl
    · rw [step_of_idle_of_nonpos m t h (by omega)]; rfl

theorem tasks_step_of_running (h : m.tasks[t]? = some .running) :
    (m.step t).tasks = m.tasks.set t .returned := by
  rw [step_of_running m t h]

theorem tasks_step_of_returned (h : m.tasks[t]? = some .returned) :
    (m.step t).tasks = m.tasks.set t .finished := by
  by_cases hl : 0 < m.limit
  · rw [step_of_returned_of_pos m t h hl]
  · rw [step_of_returned_of_nonpos m t h (by omega)]

/-- A step of task `t` leaves every other task where it is. -/
theorem getElem?_step_of_ne {u : Nat} (hne : t ≠ u) : (m.step t).tasks[u]? = m.tasks[u]? := by
  unfold step
  split
  · split
    · exact List.getElem?_set_ne hne
    · split
      · exact List.getElem?_set_ne hne
      · exact List.getElem?_set_ne hne
  · split
    · rfl
    · exact List.getElem?_set_ne hne
  · exact List.getElem?_set_ne hne
  · split <;> exact List.getElem?_set_ne hne
  · rfl
  · rfl

/-- Under a positive limit there is room exactly while fewer tasks than the limit run. -/
theorem isFull_eq_false_iff (hl : 0 < m.limit) : m.isFull = false ↔ m.numRunning < m.limit := by
  simp [isFull, show m.limit ≠ 0 by omega, show ¬ m.limit < 0 by omega]

end Steps

theorem run_nil (m : Monitor) : m.run [] = m := rfl

theorem run_cons (m : Monitor) (t : Nat) (l : List Nat) : m.run (t :: l) = (m.step t).run l :=
  rfl

/-! ## The invariant -/

/-- What every run of the monitor keeps. The tasks started are listed once each, and they are
exactly the tasks that run, have returned or are gone. Under a positive limit the count is
the number of tasks that hold a place, and never more than the limit; otherwise nothing is
counted, and no task waits. -/
structure Inv (m : Monitor) : Prop where
  nodup : m.started.Nodup
  mem_started : ∀ t, t ∈ m.started ↔ (m.tasks[t]?.any Task.hasStarted) = true
  count : m.numRunning = if 0 < m.limit then (m.tasks.countP Task.holdsPlace : Int) else 0
  le_limit : 0 < m.limit → m.numRunning ≤ m.limit
  wait_pos : ∀ t : Nat, m.tasks[t]? = some .waiting → 0 < m.limit

theorem inv_start (limit : Int) (n : Nat) : Inv (start limit n) where
  nodup := List.nodup_nil
  mem_started t := by
    by_cases ht : t < n <;> simp [start, ht, Task.hasStarted]
  count := by
    simp only [start, List.countP_replicate]
    split <;> simp [Task.holdsPlace]
  le_limit hl := by simp only [start] at hl ⊢; omega
  wait_pos t ht := by
    by_cases htn : t < n <;> simp [start, htn] at ht

section Preservation

variable {m : Monitor} {t : Nat}

/-- Setting task `t` from one state to another that has started alike keeps the tasks
started. -/
theorem mem_started_set (h : m.Inv) {x y : Task} (hx : m.tasks[t]? = some x)
    (hxy : x.hasStarted = y.hasStarted) (u : Nat) :
    u ∈ m.started ↔ ((m.tasks.set t y)[u]?.any Task.hasStarted) = true := by
  rw [h.mem_started u, List.getElem?_set]
  by_cases hu : t = u
  · subst hu
    obtain ⟨ht, hxt⟩ := List.getElem?_eq_some_iff.1 hx
    simp [ht, hxt, hxy]
  · simp [hu]

/-- Setting a task to a state other than waiting, or to waiting under a positive limit, keeps
waiting to positive limits. -/
theorem wait_pos_set (h : m.Inv) {y : Task} (hy : y = .waiting → 0 < m.limit) (u : Nat)
    (hu : (m.tasks.set t y)[u]? = some .waiting) : 0 < m.limit := by
  rw [List.getElem?_set] at hu
  split at hu
  · split at hu
    · exact hy (Option.some.inj hu)
    · cases hu
  · exact h.wait_pos u hu

/-- A task that has not started starts: it is listed last, and counted under a positive
limit. -/
theorem Inv.launch (h : m.Inv) {x : Task} (hx : m.tasks[t]? = some x)
    (hs : x.hasStarted = false) (hroom : 0 < m.limit → m.numRunning < m.limit) :
    Inv { m.launch t with numRunning := m.numRunning + if 0 < m.limit then 1 else 0 } := by
  have ht : t < m.tasks.length := (List.getElem?_eq_some_iff.1 hx).1
  have hnot : t ∉ m.started := by rw [h.mem_started t, hx]; simp [hs]
  have hcount := countP_set_add hx .running Task.holdsPlace
  have hhold : x.holdsPlace = false := by cases x <;> simp_all [Task.hasStarted, Task.holdsPlace]
  simp only [hhold, show Task.running.holdsPlace = true from rfl, Bool.false_eq_true, if_false,
    if_true, Nat.add_zero] at hcount
  refine ⟨?_, ?_, ?_, ?_, wait_pos_set h (fun hw => by cases hw)⟩
  · refine List.nodup_append.2 ⟨h.nodup, List.nodup_singleton t, ?_⟩
    intro a ha b hb hab
    rw [List.mem_singleton] at hb
    exact hnot (hb ▸ hab ▸ ha)
  · intro u
    simp only [started_launch, tasks_launch, List.mem_append, List.mem_singleton]
    rw [List.getElem?_set]
    by_cases hu : t = u
    · subst hu; simp [ht, Task.hasStarted]
    · rw [h.mem_started u]; simp [hu, Ne.symm hu]
  · show m.numRunning + (if 0 < m.limit then 1 else 0) =
      if 0 < m.limit then ((m.tasks.set t .running).countP Task.holdsPlace : Int) else 0
    rw [h.count]
    split <;> omega
  · intro hl
    have hl : 0 < m.limit := hl
    have := hroom hl
    show m.numRunning + (if 0 < m.limit then 1 else 0) ≤ m.limit
    rw [if_pos hl]
    omega

/-- A task handed to a full pool waits. -/
theorem Inv.wait (h : m.Inv) (hx : m.tasks[t]? = some .idle) (hl : 0 < m.limit) :
    Inv { m with tasks := m.tasks.set t .waiting } := by
  have hcount := countP_set_add hx .waiting Task.holdsPlace
  simp only [Task.holdsPlace, Bool.false_eq_true, if_false, Nat.add_zero] at hcount
  refine ⟨h.nodup, mem_started_set h hx rfl, ?_, h.le_limit, wait_pos_set h (fun _ => hl)⟩
  show m.numRunning = if 0 < m.limit then ((m.tasks.set t .waiting).countP Task.holdsPlace : Int)
    else 0
  rw [h.count, hcount]

/-- A task whose body returns keeps its place until its goroutine gives it back. -/
theorem Inv.bodyReturns (h : m.Inv) (hx : m.tasks[t]? = some .running) :
    Inv { m with tasks := m.tasks.set t .returned } := by
  have hcount := countP_set_add hx .returned Task.holdsPlace
  simp only [Task.holdsPlace, if_true] at hcount
  refine ⟨h.nodup, mem_started_set h hx rfl, ?_, h.le_limit,
    wait_pos_set h (fun hw => by cases hw)⟩
  show m.numRunning = if 0 < m.limit then ((m.tasks.set t .returned).countP Task.holdsPlace : Int)
    else 0
  rw [h.count, show (m.tasks.set t .returned).countP Task.holdsPlace =
    m.tasks.countP Task.holdsPlace by omega]

/-- A goroutine gives its place back: under a positive limit the count goes down by one. -/
theorem Inv.giveBack (h : m.Inv) (hx : m.tasks[t]? = some .returned) :
    Inv { m with numRunning := m.numRunning - (if 0 < m.limit then 1 else 0),
                 tasks := m.tasks.set t .finished } := by
  have hcount := countP_set_add hx .finished Task.holdsPlace
  simp only [Task.holdsPlace, if_true, Bool.false_eq_true, if_false, Nat.add_zero] at hcount
  refine ⟨h.nodup, mem_started_set h hx rfl, ?_, ?_, wait_pos_set h (fun hw => by cases hw)⟩
  · show m.numRunning - (if 0 < m.limit then 1 else 0) =
      if 0 < m.limit then ((m.tasks.set t .finished).countP Task.holdsPlace : Int) else 0
    rw [h.count]
    split <;> omega
  · intro hl
    have hl : 0 < m.limit := hl
    have := h.le_limit hl
    show m.numRunning - (if 0 < m.limit then 1 else 0) ≤ m.limit
    rw [if_pos hl]
    omega

/-- Every step keeps the invariant. -/
theorem Inv.step (h : m.Inv) (t : Nat) : (m.step t).Inv := by
  rcases hx : m.tasks[t]? with _ | x
  · rw [step_of_finished m t (.inr hx)]; exact h
  cases x with
  | idle =>
    by_cases hl : 0 < m.limit
    · cases hf : m.isFull
      · -- there is room: the task is counted and starts
        have key := h.launch hx rfl (fun _ => (isFull_eq_false_iff m hl).1 hf)
        rw [if_pos hl] at key
        rw [step_of_idle_of_room m t hx hl hf]; exact key
      · rw [step_of_idle_of_full m t hx hl hf]
        exact h.wait hx hl
    · -- no positive limit: the task starts at once, uncounted
      have key := h.launch hx rfl (fun h' => absurd h' hl)
      rw [if_neg hl, Int.add_zero] at key
      rw [step_of_idle_of_nonpos m t hx (by omega)]; exact key
  | waiting =>
    have hl := h.wait_pos t hx
    cases hf : m.isFull
    · have key := h.launch hx rfl (fun _ => (isFull_eq_false_iff m hl).1 hf)
      rw [if_pos hl] at key
      rw [step_of_waiting_of_room m t hx hf]; exact key
    · rw [step_of_waiting_of_full m t hx hf]; exact h
  | running => rw [step_of_running m t hx]; exact h.bodyReturns hx
  | returned =>
    have key := h.giveBack hx
    by_cases hl : 0 < m.limit
    · rw [if_pos hl] at key
      rw [step_of_returned_of_pos m t hx hl]; exact key
    · rw [if_neg hl, Int.sub_zero] at key
      rw [step_of_returned_of_nonpos m t hx (by omega)]; exact key
  | finished => rw [step_of_finished m t (.inl hx)]; exact h

/-- Every run keeps the invariant. -/
theorem Inv.run (h : m.Inv) (l : List Nat) : (m.run l).Inv := by
  induction l generalizing m with
  | nil => exact h
  | cons t l ih => exact ih (h.step t)

end Preservation

/-! ## What the count is -/

section Count

variable {m : Monitor}

theorem limit_run (l : List Nat) : (m.run l).limit = m.limit := by
  induction l generalizing m with
  | nil => rfl
  | cons t l ih => rw [run_cons, ih, limit_step]

theorem Inv.numRunning_nonneg (h : m.Inv) : 0 ≤ m.numRunning := by
  rw [h.count]
  split <;> omega

/-- The tasks started so far are as many as the tasks that have started. -/
theorem Inv.length_started (h : m.Inv) : m.started.length = m.tasks.countP Task.hasStarted :=
  length_eq_countP_of_mem_iff h.nodup h.mem_started

/-- Under a positive limit the count is the number of tasks started that are not yet gone. -/
theorem Inv.numRunning_eq_started (h : m.Inv) (hl : 0 < m.limit) :
    m.numRunning = (m.started.countP fun t => m.tasks[t]? != some .finished : Nat) := by
  have hlen : (m.started.filter fun t => m.tasks[t]? != some .finished).length =
      m.tasks.countP Task.holdsPlace := by
    apply length_eq_countP_of_mem_iff (h.nodup.filter _)
    intro t
    rw [List.mem_filter, h.mem_started t]
    cases m.tasks[t]? with
    | none => simp
    | some x => cases x <;> simp [Task.hasStarted, Task.holdsPlace]
  rw [h.count, if_pos hl, ← hlen, ← List.countP_eq_length_filter]

end Count

end Monitor

end TensorSelect
