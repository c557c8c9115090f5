import TensorSelect.Panic
import TensorSelect.Word

/-!
# Comparator networks and index labels

A bitonic sorting network on `n = 2^m` positions is a fixed list of compare-exchange pairs
`(first, second)`: after each pair, the better of the two elements sits at `first`. It runs in
stages: for each block size `size = 2, 4, …, n` and each stride `size/2, …, 2, 1`, every position
`i` is paired with `j = i xor stride` (once, for `i < j`), in ascending order where `i` lies in an
even block of `size` and in descending order otherwise.

A `Network` holds the pairs that sort the axis, padded up to a power of two, by value, and, when
the kept elements are listed by their place along the axis, the pairs that sort the `k` kept
elements, padded likewise, by index. Its sizes are machine integers: the power of two above
`2^62` is `-2^63`, and a network of no positive size has no pairs. Building a network first
reserves room for its pairs, `n · log₂ n · (log₂ n + 1) / 2` positions, itself a machine integer,
and stops when that room cannot be made (`Network.reserve`). The pairs are stored as 32-bit
integers (`storedPair`): a position of `2^31` or more is stored wrapped.

`Labels` are the indices that travel with the elements, each a 32-bit integer: `0, …, A-1` for
one work item, and for a block of `b` work items side by side each index written `b` times, so
that every lane carries its own copy. Making them stops like making any data; and when `A · b`
wraps to a length below it, filling the block stops at the first position past that length.
-/

namespace TensorSelect

namespace Select

/-- The least power of two at or above `n`; one for `n ≤ 1`. -/
def nextPow2 (n : Nat) : Nat := if n ≤ 1 then 1 else Nat.pow 2 (Nat.log2 (n - 1) + 1)

/-- The least power of two at or above `n`, as a machine integer: one for `n ≤ 1`, and `-2^63`
above `2^62`. -/
def nextPow2Word (n : Int) : Int := wrapWord (nextPow2 n.toNat)

/-- The stages of the bitonic network on `n` positions: the pairs `(size, stride)` in the order
they run. -/
def bitonicStages (n : Nat) : List (Nat × Nat) :=
  (List.range (Nat.log2 n)).flatMap fun s =>
    (List.range (s + 1)).reverse.map fun t => (Nat.pow 2 (s + 1), Nat.pow 2 t)

/-- The compare-exchange pairs of one stage. -/
def stagePairs (n size stride : Nat) : List (Nat × Nat) :=
  (List.range n).filterMap fun i =>
    let j := i ^^^ stride
    if j ≤ i then none
    else if i &&& size = 0 then some (i, j)
    else some (j, i)

/-- The compare-exchange pairs of the bitonic network on `n` positions, in the order they run. -/
def bitonicPairs (n : Nat) : List (Nat × Nat) :=
  (bitonicStages n).flatMap fun (size, stride) => stagePairs n size stride

section Run

variable {β : Type} [Inhabited β] (lt : β → β → Bool)

/-- Compare-exchange of a pair of positions: if the entry at `second` comes before the entry at
`first`, the two swap. -/
def exchange (v : Array β) (p : Nat × Nat) : Array β :=
  if lt (v.getD p.2 default) (v.getD p.1 default) then v.swapIfInBounds p.1 p.2 else v

/-- Runs compare-exchange pairs in order. -/
def runPairs (pairs : List (Nat × Nat)) (v : Array β) : Array β :=
  pairs.foldl (exchange lt) v

@[simp]
theorem size_exchange (v : Array β) (p : Nat × Nat) : (exchange lt v p).size = v.size := by
  unfold exchange; split <;> simp

@[simp]
theorem size_runPairs (pairs : List (Nat × Nat)) (v : Array β) :
    (runPairs lt pairs v).size = v.size := by
  induction pairs generalizing v with
  | nil => rfl
  | cons p ps ih => simp [runPairs, List.foldl_cons] at ih ⊢; rw [ih]; simp

end Run

/-- A pair of positions as stored: each a 32-bit integer. -/
def storedPair (p : Nat × Nat) : Int × Int := (wrapInt32 p.1, wrapInt32 p.2)

/-- The networks of one selection. -/
structure Network where
  /-- The positions sorted by value: the axis rounded up to a power of two. -/
  size : Int
  /-- The pairs that sort `size` positions by value. -/
  valuePairs : List (Nat × Nat)
  /-- The positions sorted by index: `k` rounded up to a power of two, zero without index pass. -/
  indexSize : Int
  /-- The pairs that sort `indexSize` positions by index. -/
  indexPairs : List (Nat × Nat)
  deriving DecidableEq, Repr, Inhabited

/-- The networks for an axis of `axisLen` elements and `k` kept ones. -/
def Network.build (axisLen k : Int) (indexPass : Bool) : Network :=
  let size := nextPow2Word axisLen
  let indexSize := if indexPass then nextPow2Word k else 0
  { size, valuePairs := bitonicPairs size.toNat, indexSize,
    indexPairs := if indexPass then bitonicPairs indexSize.toNat else [] }

/-- The networks a prepared selection keeps: the value network only for a bitonic selection
(otherwise `size` is the axis itself), and the index network only when the output is listed by
index. -/
def Network.forPasses (axisLen k : Int) (valuePass indexPass : Bool) : Network :=
  if valuePass then build axisLen k indexPass
  else
    let indexSize := if indexPass then nextPow2Word k else 0
    { size := axisLen, valuePairs := [], indexSize,
      indexPairs := if indexPass then bitonicPairs indexSize.toNat else [] }

/-- The room, in stored positions, that the pairs of the bitonic network on `n` positions take:
`n · log₂ n · (log₂ n + 1) / 2`, a machine integer; none is reserved for `n ≤ 1`. -/
def pairRoom (n : Int) : Int :=
  (wrapWord (n * Nat.log2 n.toNat * (Nat.log2 n.toNat + 1))).tdiv 2

/-- Reserving the room for the pairs of the networks before building them: the value network's,
then the index network's. -/
def Network.reserve (axisLen k : Int) (valuePass indexPass : Bool) : Except Panic Unit := do
  let size := nextPow2Word axisLen
  if valuePass && decide (1 < size) then Panic.checkReserve (pairRoom size) 4
  let indexSize := nextPow2Word k
  if indexPass && decide (1 < indexSize) then Panic.checkReserve (pairRoom indexSize) 4

/-- The indices that travel with the elements of one work item, and of a block of work items. -/
structure Labels where
  /-- `0, …, A-1`, as 32-bit integers. -/
  seq : Array Int
  /-- Each index written `blockSize` times, present only for blocks of more than one lane. -/
  block : Option (Array Int)
  /-- The number of lanes of a block, at least one. -/
  blockSize : Nat
  deriving DecidableEq, Repr, Inhabited

/-- The labels of an axis of `axisLen` elements, for blocks of `blockSize` lanes. -/
def Labels.build (axisLen blockSize : Int) : Except Panic Labels := do
  Panic.checkMake axisLen 4
  let seq := (List.range axisLen.toNat).map fun (j : Nat) => wrapInt32 j
  let block ← if blockSize > 1 then do
      let n := wrapWord (axisLen * blockSize)
      Panic.checkMake n 4
      -- the block is filled position after position, and a length that wrapped stops it
      if n < axisLen * blockSize then throw (Panic.indexOutOfRange n n.toNat)
      pure (some ((List.range axisLen.toNat).flatMap fun (j : Nat) =>
        List.replicate blockSize.toNat (wrapInt32 j)).toArray)
    else pure none
  return { seq := seq.toArray, block, blockSize := (max blockSize 1).toNat }

/-- The labels that a call over `lanes` work items reads: none when the block is missing. -/
def Labels.lane (l : Labels) (lanes : Int) : Array Int :=
  if lanes > 1 then l.block.getD #[] else l.seq

end Select

end TensorSelect
