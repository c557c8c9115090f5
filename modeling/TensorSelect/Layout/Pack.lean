import TensorSelect.Layout.Physical

/-!
# Packing and unpacking

`Layout.pack` stores logical row-major data of a static shape in a layout; `Layout.unpack` reads
it back. Each logical position goes to the offset that `Layout.Addressing.offset` gives it in
the physical row-major order:

* planar: the row-major offset;
* channel-last: the channel index is weighted by the stride of the last physical axis, and each
  later axis by the stride of the physical axis before it;
* blocked(b): the channel index `c` goes to block `c / b` and lane `c mod b`, the last axis.

The padding lanes of the last block hold zeros (each element type's default value).
-/

namespace TensorSelect

namespace Layout

/-- Where the logical positions of a shape are stored in a layout. -/
structure Addressing where
  tag : Tag
  physical : List Int
  strides : List Int
  deriving Repr

namespace Addressing

/-- The number of stored elements. -/
def size (m : Addressing) : Int := product m.physical

/-- The offset of a logical position, a machine integer. -/
def offset (m : Addressing) (idx : List Int) : Int :=
  let stride (a : Nat) : Int := m.strides.getD a 0
  let rank := idx.length
  wrapWord <| match m.tag.kind with
  | .channelLast =>
    (idx.zipIdx.map fun (x, a) =>
      x * (if a = 0 then stride 0 else if a = channelAxis then stride (rank - 1)
        else stride (a - 1))).foldl (· + ·) 0
  | .blocked =>
    let b := m.tag.blockSize
    (idx.zipIdx.map fun (x, a) =>
      if a = channelAxis then x.tdiv b * stride a + x.tmod b * stride rank
      else x * stride a).foldl (· + ·) 0
  | _ => (idx.zipIdx.map fun (x, a) => x * stride a).foldl (· + ·) 0

end Addressing

/-- The addressing of a static shape in a layout. -/
def addressing (s : Shape) (t : Tag) : Except Error Addressing := do
  if !s.isStatic then throw (.addressingDynamic s)
  let (physical, _) ← physicalDims s.dims t
  pure ⟨t, physical, Shape.stridesOf physical⟩

/-- Why packing or unpacking gives no data: a check of the arguments fails, or the indexing
stops. -/
inductive PackError
  | check (e : Error)
  | stop (p : Panic)
  deriving Repr, Inhabited

/-- The index of an offset into data of `length` elements, or the stop of one outside it. -/
def slot (off : Int) (length : Nat) : Except PackError Nat :=
  if 0 ≤ off ∧ off < length then .ok off.toNat else .error (.stop (Panic.indexOutOfRange off length))

/-- Data of `n` default elements, or the stop of a negative `n`. -/
def blank (α : Type) [Inhabited α] (n : Int) : Except PackError (Array α) :=
  if n < 0 then .error (.stop Panic.badLength) else .ok (Array.replicate n.toNat default)

/-- Stores logical row-major data of a static shape in a layout. The positions are visited in
row-major order and each is written at its offset, so the first offset outside the stored data
stops (which only dimensions below zero can cause). -/
def pack {α : Type} [Inhabited α] (s : Shape) (t : Tag) (planar : Array α) :
    Except PackError (Array α) := do
  let m ← (addressing s t).mapError .check
  if (planar.size : Int) ≠ s.size then throw (.check (.packLength s s.size planar.size))
  let positions := (s.positions planar.size).toOption.getD []
  let zeros ← blank α m.size
  positions.zipIdx.foldlM (fun out (idx, f) => do
    let i ← slot (m.offset idx) out.size
    pure (out.setIfInBounds i (planar.getD f default))) zeros

/-- Reads the logical row-major data of a static shape back from its layout, visiting the
positions as `pack` does. -/
def unpack {α : Type} [Inhabited α] (s : Shape) (t : Tag) (physical : Array α) :
    Except PackError (Array α) := do
  let m ← (addressing s t).mapError .check
  if (physical.size : Int) ≠ m.size then throw (.check (.unpackLength s t m.size physical.size))
  let zeros ← blank α s.size
  let positions := (s.positions zeros.size).toOption.getD []
  positions.zipIdx.foldlM (fun out (idx, f) => do
    let i ← slot (m.offset idx) physical.size
    pure (out.setIfInBounds f (physical.getD i default))) zeros

end Layout

end TensorSelect
