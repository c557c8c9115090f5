/-!
# Bubble selection

Two ways to keep the `k` best entries of a work item, best first, for a strict order `lt`
("comes before"):

* `bubblePasses`: `k` passes of adjacent compare-exchange, each from the last position down to the
  first position not yet settled; pass `p` carries the best of positions `p, p+1, …` to position
  `p`.
* `bubbleInsert`: one pass over the input that keeps the best entries seen so far sorted in `k`
  slots: each entry is inserted at its place among them, shifting the worse ones back, and once
  the slots are full an entry that does not beat the last one is dropped.

Both give the first `k` entries of the input sorted by `lt`.
-/

namespace TensorSelect

namespace Select

variable {β : Type} [Inhabited β] (lt : β → β → Bool)

/-- Compare-exchange of positions `j - 1` and `j`: the entry that comes first moves to `j - 1`. -/
def exchangeDown (v : Array β) (j : Nat) : Array β :=
  if lt (v.getD j default) (v.getD (j - 1) default) then v.swapIfInBounds (j - 1) j else v

/-- The pass that settles position `p`: compare-exchange at `j` for `j` from the last position
down to `p + 1`. -/
def bubblePass (v : Array β) (p : Nat) : Array β :=
  let n := v.size - 1 - p
  ((List.range n).map fun t => v.size - 1 - t).foldl (exchangeDown lt) v

/-- `k` passes: the first `k` positions hold the best `k` entries, best first. -/
def bubblePasses (k : Nat) (v : Array β) : Array β :=
  (List.range k).foldl (bubblePass lt) v

/-- Places `x` at slot `pos` or before it, among sorted slots: while `x` comes before the entry in
the slot in front, that entry moves back one slot. The entry in slot `pos` is overwritten. -/
def insertAt (x : β) : Array β → Nat → Array β
  | v, 0 => v.setIfInBounds 0 x
  | v, pos + 1 =>
    let prev := v.getD pos default
    if lt x prev then insertAt x (v.setIfInBounds (pos + 1) prev) pos
    else v.setIfInBounds (pos + 1) x

/-- Streams entry `x`, the `j`-th of the input, into `k` sorted slots. -/
def insertStep (k : Nat) (v : Array β) (x : β) (j : Nat) : Array β :=
  if j < k then insertAt lt x v j
  else if lt x (v.getD (k - 1) default) then insertAt lt x v (k - 1)
  else v

/-- The best `k` entries of the input, best first, by streaming insertion into `k` slots. -/
def bubbleInsert (k : Nat) (xs : Array β) : Array β :=
  xs.zipIdx.foldl (fun v (x, j) => insertStep lt k v x j) (Array.replicate k default)

@[simp]
theorem size_exchangeDown (v : Array β) (j : Nat) : (exchangeDown lt v j).size = v.size := by
  unfold exchangeDown; split <;> simp

@[simp]
theorem size_insertAt (x : β) (v : Array β) (pos : Nat) : (insertAt lt x v pos).size = v.size := by
  induction pos generalizing v with
  | zero => simp [insertAt]
  | succ pos ih => simp only [insertAt]; split <;> simp [ih]

end Select

end TensorSelect
