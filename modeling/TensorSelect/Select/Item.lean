import TensorSelect.Select.Order
import TensorSelect.Select.Network
import TensorSelect.Select.Bubble
import TensorSelect.Select.Heap

/-!
# Selecting within one work item

A `Method` says how the `k` best entries of one work item are found: the algorithm, whether the
bubble runs in place, which implementation runs it, the mode, the order of the output and the
networks.

* `bubble`: the specialised kernel streams the input through `k` sorted slots when the bubble runs
  in place, and otherwise, like the reference, makes `k` passes.
* `bitonic`: the axis is padded up to the size of the network with the mode's sentinel, at indices
  past the axis, so that padding loses every tie; the network sorts it.
* `heap`: a heap of `k` slots whose root is the worst.

When the output lists the kept entries by their place along the axis, the `k` kept entries are
padded with `indexPadding` (the greatest 32-bit integer) up to the index network's size, and
that network sorts them by index.

A method selects from the entries of a work item, each value labelled with a 32-bit index; the
reference labels the value at place `j` with `j` as a 32-bit integer (`Method.entries`), and so
does the padding. The specialised kernel reads the positions of a network's pairs as they are
stored, as 32-bit integers; the reference makes them anew.
-/

namespace TensorSelect

namespace Select

/-- Which code runs a selection: the kernel specialised for the element type, or the reference. -/
inductive Implementation
  | kernel
  | reference
  deriving DecidableEq, Repr, Inhabited

/-- The index that pads the kept entries for the index network: the greatest 32-bit integer. -/
def indexPadding : Int := 2147483647

/-- Whether entry `x` has a smaller index than entry `y`. -/
def Entry.byIndex {α : Type} (x y : Entry α) : Bool := x.index < y.index

/-- How the `k` best entries of a work item are found. -/
structure Method where
  algorithm : Algorithm
  inPlace : Bool
  implementation : Implementation
  mode : Mode
  sortBy : SortBy
  k : Nat
  network : Network
  deriving Repr, Inhabited

namespace Method

variable {α : Type} [Ranked α] [Inhabited α]

/-- The entries of a work item as the reference labels them: each value with its place along
the axis, as a 32-bit integer. -/
def entries (xs : Array α) : Array (Entry α) := xs.zipIdx.map fun (x, j) => Entry.of x (wrapInt32 j)

/-- The pairs of a network as a method reads them: the specialised kernel reads the positions
as stored, the reference makes them anew. -/
def pairs (m : Method) (ps : List (Nat × Nat)) : List (Nat × Nat) :=
  match m.implementation with
  | .kernel => ps.map fun p => ((storedPair p).1.toNat, (storedPair p).2.toNat)
  | .reference => ps

/-- The entries of a work item ranked by the method's algorithm: the first `k` are the best `k`,
best first. -/
def rank (m : Method) (es : Array (Entry α)) : Array (Entry α) :=
  let lt := Entry.before m.mode
  match m.algorithm with
  | .bubble =>
    if m.implementation == .kernel && m.inPlace then bubbleInsert lt m.k es
    else bubblePasses lt m.k es
  | .bitonic =>
    let padding := (List.range (m.network.size.toNat - es.size)).map fun (t : Nat) =>
      Entry.of m.mode.sentinel (wrapInt32 (es.size + t : Nat))
    runPairs lt (m.pairs m.network.valuePairs) (es ++ padding.toArray)
  | _ => heapSelect lt m.k es

/-- The `k` kept entries of a work item, in the order of the output. -/
def select (m : Method) (es : Array (Entry α)) : Array (Entry α) :=
  let kept := (m.rank es).extract 0 m.k
  match m.sortBy with
  | .index =>
    let padding := Array.replicate (m.network.indexSize.toNat - m.k)
      ({ value := default, key := 0, index := indexPadding } : Entry α)
    (runPairs Entry.byIndex (m.pairs m.network.indexPairs) (kept ++ padding)).extract 0 m.k
  | _ => kept

end Method

end Select

end TensorSelect
