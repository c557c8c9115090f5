import TensorSelect.Layout.Physical

/-!
# Addressing along one axis

Selecting along one axis of a stored tensor needs, for every *work item* (every place on the other
axes), the offsets of the elements along the axis. `Layout.resolve` reduces a static shape, an
axis and a layout to `Dims`:

* `outer` work items before the axis, `inner` work items after it, and `axis` elements along it;
* in the general case the elements of work item `(o, i)` sit at `(o · axis + j) · inner + i`,
  `axisStride = inner` apart;
* when the axis is the blocked channel axis itself (`axisBlocked`), element `j` sits in block
  `j / b` at lane `j mod b`, and blocks of one work item are `inner · b` apart.

On a blocked layout with another axis the lanes of a block are work items of their own
(`inner` counts them, padding lanes included), and `lanes` says how many sit side by side.
-/

namespace TensorSelect

/-- The addressing of the elements along one axis of a stored tensor. -/
structure Dims where
  outer : Int
  axis : Int
  inner : Int
  axisStride : Int
  blockSize : Int := 0
  axisBlocked : Bool := false
  deriving DecidableEq, Repr, Inhabited

namespace Dims

variable (d : Dims)

/-- The offset of element `j` of work item `(o, i)`, as a machine integer. -/
def offset (o i j : Int) : Int :=
  if d.axisBlocked then
    let b := d.blockSize
    let blockStride := d.inner * b
    wrapWord (o * ceilDiv d.axis b * blockStride + j.tdiv b * blockStride + i * b + j.tmod b)
  else wrapWord ((o * d.axis + j) * d.inner + i)

/-- The same addressing with `k` elements along the axis: the addressing of the output. -/
def withAxis (k : Int) : Dims := { d with axis := k }

section WithAxis

variable (k : Int)

@[simp]
theorem axis_withAxis : (d.withAxis k).axis = k := rfl

@[simp]
theorem outer_withAxis : (d.withAxis k).outer = d.outer := rfl

@[simp]
theorem inner_withAxis : (d.withAxis k).inner = d.inner := rfl

@[simp]
theorem axisStride_withAxis : (d.withAxis k).axisStride = d.axisStride := rfl

@[simp]
theorem blockSize_withAxis : (d.withAxis k).blockSize = d.blockSize := rfl

@[simp]
theorem axisBlocked_withAxis : (d.withAxis k).axisBlocked = d.axisBlocked := rfl

@[simp]
theorem withAxis_axis : d.withAxis d.axis = d := rfl

end WithAxis

/-- The number of work items. -/
def numWorkItems : Int := wrapWord (d.outer * d.inner)

/-- How many work items sit side by side in one block: the block size on a blocked layout with
another axis than the channels, one otherwise. -/
def lanes : Int := if d.blockSize > 0 && !d.axisBlocked then d.blockSize else 1

@[simp]
theorem lanes_withAxis (k : Int) : (d.withAxis k).lanes = d.lanes := rfl

/-- Whether the elements along the axis are adjacent. -/
def innermost : Bool := d.inner == 1

/-- The number of stored elements, padding included. -/
def physicalSize : Int :=
  if d.axisBlocked then wrapWord (d.outer * ceilDiv d.axis d.blockSize * d.blockSize * d.inner)
  else wrapWord (d.outer * d.axis * d.inner)

/-- The text of the addressing: `O=…, A=…, I=…, stride=…`, then the block size if any, and
whether the axis itself is blocked. -/
def text : String :=
  let base := "O=" ++ toString d.outer ++ ", A=" ++ toString d.axis ++ ", I=" ++
    toString d.inner ++ ", stride=" ++ toString d.axisStride
  if d.blockSize > 0 then
    base ++ ", block=" ++ toString d.blockSize ++ (if d.axisBlocked then " (axis blocked)" else "")
  else base

end Dims

namespace Layout

/-- The addressing along an axis (negative numbers count from the end) of a static shape in a
layout. -/
def resolve (s : Shape) (axis : Int) (t : Tag) : Except Error Dims := do
  let a := s.normalizeAxis axis
  if s.rank = 0 || a < 0 || a ≥ s.rank then throw (.axisOutOfRange a s)
  if !s.isStatic then throw (.dynamicShape s)
  let (physical, axisMap) ← (physicalDims s.dims t).mapError (.resolving a s)
  if t.isBlocked && a = channelAxis then
    return { outer := s.dims.getD 0 0, axis := s.dims.getD channelAxis 0,
             inner := product (s.dims.drop (channelAxis + 1)), axisStride := 1,
             blockSize := t.blockSize, axisBlocked := true }
  let p := axisMap.getD a.toNat 0
  let inner := product (physical.drop (p + 1))
  return { outer := product (physical.take p), axis := physical.getD p 0, inner := inner,
           axisStride := inner, blockSize := if t.isBlocked then t.blockSize else 0 }

end Layout

end TensorSelect
