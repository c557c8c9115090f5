/-!
# Heap selection

`heapSelect` keeps the `k` best entries seen so far in a binary heap of `k` slots whose root is
the *worst* of them: no parent comes before its children (for the strict order `lt`, "comes
before"). The first `k` entries are sifted up as they arrive; each later entry that comes before
the root replaces it and is sifted down. At the end the heap is emptied from the back: the root,
the worst of what is left, goes to the last free slot, so the slots end best first.

Both sifts move a *hole*: entries move into the hole one level at a time, and the new entry is
written once, where the hole stops.
-/

namespace TensorSelect

namespace Select

variable {β : Type} [Inhabited β] (lt : β → β → Bool)

/-- Sifts `x` up from the hole at `pos`: while the parent comes before `x`, the parent moves down
into the hole. -/
def siftUp (x : β) (v : Array β) (pos : Nat) : Array β :=
  if h : pos = 0 then v.setIfInBounds 0 x
  else
    let parent := (pos - 1) / 2
    let p := v.getD parent default
    if lt p x then siftUp x (v.setIfInBounds pos p) parent
    else v.setIfInBounds pos x
termination_by pos
decreasing_by omega

/-- Sifts `x` down from the hole at `pos` in a heap of `n` slots: while `x` comes before the
worse of the hole's children, that child moves up into the hole. -/
def siftDown (x : β) (n : Nat) (v : Array β) (pos : Nat) : Array β :=
  if h : 2 * pos + 1 < n then
    let left := 2 * pos + 1
    let child := if left + 1 < n && lt (v.getD left default) (v.getD (left + 1) default)
      then left + 1 else left
    let c := v.getD child default
    if lt x c then siftDown x n (v.setIfInBounds pos c) child
    else v.setIfInBounds pos x
  else v.setIfInBounds pos x
termination_by n - pos
decreasing_by all_goals (split <;> omega)

/-- Streams entry `x`, the `j`-th of the input, into a heap of `k` slots. -/
def heapStep (k : Nat) (v : Array β) (x : β) (j : Nat) : Array β :=
  if j < k then siftUp lt x v j
  else if lt x (v.getD 0 default) then siftDown lt x k v 0
  else v

/-- Empties a heap of `k` slots from the back: for each `last` from `k - 1` down to `1`, the root
goes to slot `last`, and the entry that stood there is sifted down into the heap of `last`
slots. -/
def drainHeap (k : Nat) (v : Array β) : Array β :=
  ((List.range (k - 1)).map fun t => k - 1 - t).foldl
    (fun v last =>
      siftDown lt (v.getD last default) last (v.setIfInBounds last (v.getD 0 default)) 0)
    v

/-- The best `k` entries of the input, best first, through a heap whose root is the worst. -/
def heapSelect (k : Nat) (xs : Array β) : Array β :=
  drainHeap lt k (xs.zipIdx.foldl (fun v (x, j) => heapStep lt k v x j) (Array.replicate k default))

end Select

end TensorSelect
