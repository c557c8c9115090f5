import TensorSelect.Select.Item
import TensorSelect.Layout.Dims
import TensorSelect.Pool

/-!
# Running a selection over a tensor

A run visits every work item `(o, i)` of the input addressing (`Dims`): it reads the `A` elements
of the item, selects with a `Method`, and writes the `k` kept values and their indices at the
output addressing (the same with `k` along the axis). Positions of the output that no work item
writes keep what they held.

Work items come in *units* of `lanes` adjacent items: the specialised kernel takes all the lanes
of a block in one call, the reference one item at a time. There are `outer · (inner / lanes)`
units, a machine integer, and none runs when that is not positive. Unit `u` is the items
`(u / per, (u mod per) · lanes + lane)` for `lane < lanes`, with `per = inner / lanes`, division
truncating. The pool hands the units out in the order `Spread.order`: `0, 1, …`, and, when its
shared counter wraps, then the unit `-2^31 - 1`, whose items lie below zero (`runSpread`).

A call first reads the elements along the axis, each position for every lane, and then writes
the kept ones, each rank for every lane, a value and then its index. Every read and write is
checked against its buffer: the first offset outside it stops the run, and the writes made
before it stay. The specialised kernel also reads the label of each element from the tables,
at position `j · lanes + lane`, and the positions of its networks' pairs as stored: a position
stored below zero puts its scratch index below zero, which stops the call before it writes
(`pairReads`). The reference labels element `j` with `j` as a 32-bit integer.
-/

namespace TensorSelect

namespace Select

/-- A selection ready to run: the input and output addressing, the method, the number of
lanes per unit, and the labels that the specialised kernel reads. -/
structure Sweep where
  dims : Dims
  outDims : Dims
  method : Method
  lanes : Nat
  labels : Array Int
  deriving Repr, Inhabited

namespace Sweep

variable (s : Sweep)

/-- The number of units, as a machine integer; none run when it is not positive. -/
def unitCount : Nat := (wrapWord (s.dims.outer * s.dims.inner.tdiv s.lanes)).toNat

/-- The work item of the first lane of unit `u`. -/
def unitStart (u : Int) : Int × Int :=
  let per := s.dims.inner.tdiv s.lanes
  (u.tdiv per, wrapWord (u.tmod per * s.lanes))

/-- The offset of element `j` of lane `lane` of the call at `(o, i)` under an addressing: the
kernel steps from the call's first element by the axis stride (or asks the addressing when the
axis itself is blocked), the reference asks the addressing for every element. -/
def address (d : Dims) (o i j lane : Int) : Int :=
  match s.method.implementation with
  | .kernel =>
    if d.axisBlocked then d.offset o (i + lane) j
    else wrapWord (d.offset o i 0 + j * d.axisStride + lane)
  | .reference => d.offset o i j

/-- What the call at `(o, i)` reads before it writes, in order, each offset with the length of
the buffer it reads: each element of the input, followed, for the specialised kernel, by its
label. -/
def checks (n : Nat) (o i : Int) : List (Int × Nat) :=
  (List.range s.dims.axis.toNat).flatMap fun (j : Nat) =>
    (List.range s.lanes).flatMap fun (lane : Nat) =>
      (s.address s.dims o i j lane, n) ::
        match s.method.implementation with
        | .kernel => [((j * s.lanes + lane : Nat), s.labels.size)]
        | .reference => []

/-- The scratch indices that the specialised kernel reads from the stored pairs of its networks,
in order: for each pair and lane, the second position and then the first, each times the lanes,
plus the lane; the value network for a bitonic selection, then the index network when the
output is listed by index. -/
def pairReads : List Int :=
  match s.method.implementation with
  | .kernel =>
    let net := s.method.network
    ((if s.method.algorithm == .bitonic then net.valuePairs else []) ++
      (if s.method.sortBy == .index then net.indexPairs else [])).flatMap fun p =>
        (List.range s.lanes).flatMap fun (lane : Nat) =>
          [(storedPair p).2 * s.lanes + lane, (storedPair p).1 * s.lanes + lane]
  | .reference => []

/-- Whether an offset lies outside a buffer of `length` elements. -/
def outside (length : Nat) (off : Int) : Bool := off < 0 || length ≤ off

/-- The label of element `j` of lane `lane`: read from the tables by the specialised kernel,
made from the place along the axis by the reference. -/
def label (j lane : Nat) : Int :=
  match s.method.implementation with
  | .kernel => s.labels.getD (j * s.lanes + lane) 0
  | .reference => wrapInt32 j

variable {α : Type} [Ranked α] [Inhabited α]

/-- The entries of lane `lane` of the call at `(o, i)`: each element with its label. -/
def gather (input : Array α) (o i : Int) (lane : Nat) : Array (Entry α) :=
  (Array.range s.dims.axis.toNat).map fun (j : Nat) =>
    Entry.of (input.getD (s.address s.dims o i j lane).toNat default) (s.label j lane)

/-- The writes of the call at `(o, i)`, in the order it makes them: for each rank and lane, the
output offset and the kept entry. -/
def writes (input : Array α) (o i : Int) : List (Int × Entry α) :=
  let kept := (List.range s.lanes).map fun lane => s.method.select (s.gather input o i lane)
  (List.range s.method.k).flatMap fun (r : Nat) =>
    (List.range s.lanes).map fun (lane : Nat) =>
      (s.address s.outDims o i r lane, (kept.getD lane #[]).getD r default)

/-- Writes an entry at an offset of the output buffers, the value and then the index; an offset
outside a buffer stops. -/
def write (off : Int) (e : Entry α) : EStateM Panic (Array α × Array Int) Unit := fun (vs, is) =>
  if outside vs.size off then .error (Panic.indexOutOfRange off vs.size) (vs, is)
  else
    let vs := vs.set! off.toNat e.value
    if outside is.size off then .error (Panic.indexOutOfRange off is.size) (vs, is)
    else .ok () (vs, is.set! off.toNat e.index)

/-- Runs the call of unit `u`: checks its reads, then the scratch indices of its stored pairs,
then makes its writes. -/
def unit (input : Array α) (u : Int) : EStateM Panic (Array α × Array Int) Unit :=
  let (o, i) := s.unitStart u
  match (s.checks input.size o i).find? (fun c => outside c.2 c.1) with
  | some (off, length) => throw (Panic.indexOutOfRange off length)
  | none =>
    match s.pairReads.find? (· < 0) with
    | some p => throw (Panic.indexOutOfRange p 0)
    | none => (s.writes input o i).forM fun (off, e) => write off e

/-- Runs `n` units in order, from unit `u` on. -/
def units (input : Array α) : Nat → Nat → EStateM Panic (Array α × Array Int) Unit
  | 0, _ => pure ()
  | n + 1, u => do s.unit input u; units input n (u + 1)

/-- Runs every unit, writing into the output values and indices. -/
def run (input : Array α) : EStateM Panic (Array α × Array Int) Unit :=
  s.units input s.unitCount 0

/-- Runs the units in the order a pool hands them out: the leading units `0, 1, …`, and then
the unit its counter wraps to, if it wraps. -/
def runSpread (input : Array α) (sp : Spread) : EStateM Panic (Array α × Array Int) Unit := do
  s.units input sp.leading 0
  if sp.wraps then s.unit input Spread.wrappedUnit

end Sweep

end Select

end TensorSelect
