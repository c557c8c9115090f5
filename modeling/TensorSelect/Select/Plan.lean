import TensorSelect.Select.Options
import TensorSelect.Layout.Dims

/-!
# Checking a selection and choosing its algorithm

Before a selection runs, its settings and its shape are checked, in this order, and the first
failure is the answer:

1. the settings on their own (`Config.validate`): `k` at least one, a mode, an order and an
   algorithm that name one, and a valid layout;
2. the shape (`checkShape`): an element type that can be ranked, at least one axis, every
   dimension positive or dynamic, an axis number that names an axis, a layout usable at that
   rank, and for a static shape a layout that can address the axis.

`supports` tells whether the second check passes.

`choose` picks the algorithm: a forced one is kept; an axis of unknown length gets `heap`, the
only one that needs no length in advance; a short axis or a small `k` gets `bubble`, and the rest
`bitonic`. Bubble runs in place (one insertion pass into a buffer of `k`) exactly when `k` is
small enough.
-/

namespace TensorSelect

open Select

namespace Algorithm

/-- Reads the name of an algorithm, ignoring case and surrounding blanks. -/
def parse (name : String) : Except Error Algorithm :=
  let n := Text.toLower (Text.trimBlanks name)
  match names.idxOf? n with
  | some i => .ok (ofCode i)
  | none => .error (.unknownAlgorithm n)

end Algorithm

/-- Checks the settings that do not depend on the shape. -/
def Config.validate (c : Config) : Except Error Unit := do
  if c.k < 1 then throw (.kTooSmall c.k)
  if let .unnamed _ := c.mode then throw (.invalidMode c.mode)
  if let .unnamed _ := c.sortBy then throw (.invalidSortBy c.sortBy)
  if let .unnamed _ := c.algorithm then throw (.invalidAlgorithm c.algorithm)
  c.layout.validate.mapError .layout

namespace Select

/-- Checks that a selection along an axis of a shape, stored in a layout, can run, and gives the
axis counted from the front. -/
def checkShape (s : Shape) (axis : Int) (t : Tag) : Except Error Nat := do
  if !s.dtype.isOrdered then throw (.unorderedType s.dtype)
  if s.rank < 1 then throw (.noAxes s)
  if let some d := s.dims.find? (fun d => d < 1 && d != dynamicDim) then
    throw (.invalidDimension d s)
  let a := s.normalizeAxis axis
  if a < 0 || a ≥ s.rank then throw (.axisOutOfRange a s)
  (t.validateRank s.rank).mapError .layout
  if s.isStatic then
    discard <| (Layout.resolve s a t).mapError .layout
  return a.toNat

/-- Whether a selection along an axis of a shape, stored in a layout, can run. -/
def supports (s : Shape) (axis : Int) (t : Tag) : Bool :=
  match checkShape s axis t with
  | .ok _ => true
  | .error _ => false

/-- The algorithm for a selection with an axis of a length (if known), and whether bubble runs in
place. -/
def choose (c : Config) (axisLen : Int) (axisKnown : Bool) (o : Options) : Algorithm × Bool :=
  let a : Algorithm :=
    if c.algorithm != .auto then c.algorithm
    else if !axisKnown then .heap
    else if axisLen ≤ o.bubbleMaxAxis || c.k ≤ o.bubbleMaxK then .bubble
    else .bitonic
  (a, a == .bubble && c.k ≤ o.bubbleMaxK)

end Select

end TensorSelect
