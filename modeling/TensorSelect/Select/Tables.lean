import TensorSelect.Select.Network
import TensorSelect.Element.Type

/-!
# Tables and working storage of a prepared engine

The *tables* are the read-only data that every work unit of one axis length shares: the
networks (`Network.forPasses`) and the labels that travel with the elements (`Labels.build`).
They are keyed by the axis length, `k`, whether a value network and an index network are needed,
and the number of lanes of a call (`TablesKey`). An engine keeps the tables of its prepared
shape, and a cache of every table it has built since it was last configured. Building tables
stops where reserving the networks' pairs or making the labels stops.

Every worker has a *scratch* buffer of its own, with room for the values and indices of the unit
it runs, one position per lane. Only the element type and the size of a buffer matter: every unit
writes a position before it reads it. A buffer is replaced when it is too small or holds another
element type, and is never shrunk. Making the buffers stops like making any data: first the
slots for the missing buffers, then, when some buffer must be replaced, its values (through
their element type) and its indices.
-/

namespace TensorSelect

namespace Select

/-- What the tables of a prepared shape depend on. -/
structure TablesKey where
  axisLen : Int
  k : Int
  valuePass : Bool
  indexPass : Bool
  lanes : Int
  deriving DecidableEq, Repr, Inhabited

/-- The read-only data of the work units of one key. -/
structure Tables where
  key : TablesKey
  network : Network
  indices : Labels
  deriving DecidableEq, Repr, Inhabited

namespace Tables

/-- The tables of a key: the networks, once their pairs have room, and then the labels. -/
def build (key : TablesKey) : Except Panic Tables := do
  Network.reserve key.axisLen key.k key.valuePass key.indexPass
  let network := Network.forPasses key.axisLen key.k key.valuePass key.indexPass
  let indices ← Labels.build key.axisLen key.lanes
  return { key, network, indices }

/-- The positions, per lane, that a unit uses in its scratch buffer: the value network, the index
network and the `k` kept elements must all fit. -/
def scratchPositions (t : Tables) : Int :=
  max (max t.network.size t.network.indexSize) t.key.k

/-- The tables of a key, and the cache after finding them: the current tables if they have the
key, else the cached ones of the key, else new ones, which join the cache. -/
def find (current : Option Tables) (cache : List Tables) (key : TablesKey) :
    Except Panic (Tables × List Tables) :=
  match current with
  | some t => if t.key = key then .ok (t, cache) else lookup
  | none => lookup
where
  lookup : Except Panic (Tables × List Tables) :=
    match cache.find? (·.key == key) with
    | some t => .ok (t, cache)
    | none => (build key).map fun t => (t, t :: cache)

end Tables

/-- The scratch buffer of a worker: the element type of its values and its number of positions. -/
structure Scratch where
  dtype : DType
  size : Nat
  deriving DecidableEq, Repr, Inhabited

/-- Whether a buffer serves units of `n` positions of an element type. -/
def Scratch.serves (b : Scratch) (d : DType) (n : Int) : Bool := b.dtype == d && decide (n ≤ b.size)

/-- Making a scratch buffer of `n` positions of type `d`: its values through their element
type, then its 32-bit indices. -/
def checkScratch (d : DType) (n : Int) : Except Panic Unit := do
  Panic.checkMakeOf n ((d.elemType?.map ElemType.byteSize).getD 0)
  Panic.checkMake n 4

/-- The buffers after making sure that each of the first `workers` serves units of `n` positions
of type `d`: a missing buffer, or one that does not serve, is replaced by a new one of exactly
that size; the others stay as they are. The slots of the missing buffers are made first, eight
bytes each, and a new buffer only when one is needed. -/
def ensureScratch (pool : List Scratch) (workers : Nat) (d : DType) (n : Int) :
    Except Panic (List Scratch) := do
  if pool.length < workers then Panic.checkMake (workers - pool.length : Nat) 8
  if (List.range workers).any fun w => !(pool[w]?.any (·.serves d n)) then checkScratch d n
  return (List.range (max workers pool.length)).map fun w =>
    match pool[w]? with
    | some b => if w < workers && !b.serves d n then ⟨d, n.toNat⟩ else b
    | none => ⟨d, n.toNat⟩

end Select

end TensorSelect
