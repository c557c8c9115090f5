import TensorSelect.Layout.Tag

/-!
# Physical dimensions

The dimensions of a tensor as its layout stores them, and for each logical axis the physical axis
that holds it:

* planar: the logical dimensions, each axis in its place;
* channel-last: the batch axis, then the axes after the channels, then the channels;
* blocked(b): the logical dimensions with the channel axis counting blocks (`⌈C / b⌉`), and one
  more axis of `b` lanes at the end; each logical axis keeps its place.

The physical size counts every stored element, the padding lanes of the last block included.
-/

namespace TensorSelect

/-- `⌈a / b⌉` for a positive `b`, as machine integers compute it: `a + b - 1` wraps, and the
quotient is rounded toward zero. -/
def ceilDiv (a b : Int) : Int := (wrapWord (a + b - 1)).tdiv b

/-- The product of a list of dimensions, as a machine integer. -/
def product (ds : List Int) : Int := wrapWord (ds.foldl (· * ·) 1)

namespace Layout

/-- The physical dimensions of logical dimensions in a layout, and the physical axis of each
logical axis. -/
def physicalDims (dims : List Int) (t : Tag) : Except Error (List Int × List Nat) := do
  t.validateRank dims.length
  let rank := dims.length
  match t.kind with
  | .channelLast =>
    pure (dims.take 1 ++ dims.drop 2 ++ (dims.drop 1).take 1,
      (List.range rank).map fun a => if a = 0 then 0 else if a = 1 then rank - 1 else a - 1)
  | .blocked =>
    let channels := ceilDiv (dims.getD channelAxis 0) t.blockSize
    pure (dims.set channelAxis channels ++ [t.blockSize], List.range rank)
  | _ => pure (dims, List.range rank)

/-- The number of stored elements of a static shape in a layout, padding included. -/
def physicalSize (s : Shape) (t : Tag) : Except Error Int := do
  if !s.isStatic then throw (.sizeOfDynamic s)
  let (physical, _) ← physicalDims s.dims t
  pure (product physical)

end Layout

end TensorSelect
