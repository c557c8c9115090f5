import TensorSelect.Element.Type
import TensorSelect.Word

/-!
# Shapes

A shape is an element type and a list of dimensions. A dimension of `-1` is *dynamic*: its extent
is not known yet. A shape with no dynamic dimension is *static*. The library does not insist that
every other dimension be positive (`Shape.make` does): sizes and strides are then computed from
the dimensions as they stand.

The positions of a static shape are enumerated in row-major order by an odometer
(`Shape.positions`): the last index counts up, and an index that reaches its dimension wraps to
zero and carries into the index before it. `positions_length` says how many positions there are.
-/

namespace TensorSelect

/-- The dimension that marks an extent not known yet. -/
def dynamicDim : Int := -1

/-- An element type and dimensions. -/
structure Shape where
  dtype : DType
  dims : List Int
  deriving DecidableEq, Repr, Inhabited

namespace Shape

variable (s : Shape)

/-- The number of axes. -/
def rank : Nat := s.dims.length

/-- Whether the shape has an element type: its code is not the invalid one. -/
def ok : Bool := s.dtype != DType.invalid

/-- Whether the shape is a valid scalar: an element type and no axes. -/
def isScalar : Bool := s.ok && s.rank == 0

/-- Whether no dimension is dynamic. -/
def isStatic : Bool := !s.dims.contains dynamicDim

/-- The text of a shape: `(Type)[d0 d1 …]` with `?` for a dynamic dimension, `(Type)` without
axes. -/
def text : String :=
  if s.dims.isEmpty then "(" ++ s.dtype.name ++ ")"
  else
    let parts := s.dims.map fun d => if d = dynamicDim then "?" else toString d
    "(" ++ s.dtype.name ++ ")[" ++ " ".intercalate parts ++ "]"

/-- A shape of the given dimensions, each positive or dynamic; any other dimension stops. -/
def make (dtype : DType) (dims : List Int) : Except Panic Shape :=
  let s : Shape := ⟨dtype, dims⟩
  if dims.all (fun d => d > 0 || d = dynamicDim) then .ok s
  else .error { message := ("shapes.Make(" ++ s.text ++
    "): cannot create a shape with an axis with dimension <= 0") }

/-- The number of elements: the product of the dimensions as a machine integer, or `-1` if one
is dynamic. -/
def size : Int := if s.isStatic then wrapWord (s.dims.foldl (· * ·) 1) else dynamicDim

/-- The axis that an axis number names: a negative number counts from the last axis. -/
def normalizeAxis (axis : Int) : Int := if axis < 0 then axis + s.rank else axis

/-- Whether an axis number names an axis of the shape. -/
def hasAxis (axis : Int) : Bool :=
  let a := s.normalizeAxis axis
  0 ≤ a && a < s.rank

/-- The dimension of an axis (negative numbers count from the end); a number naming no axis
stops. -/
def dim (axis : Int) : Except Panic Int :=
  if s.hasAxis axis then .ok (s.dims.getD (s.normalizeAxis axis).toNat 0)
  else .error { message := ("Shape.Dim(" ++ toString axis ++ ") out-of-bounds for rank " ++
    toString s.rank ++ " (shape=" ++ s.text ++ ")") }

/-- The shape with one axis's dimension replaced; a number naming no axis stops, and the
message shows it counted from the front. -/
def withDim (axis dim : Int) : Except Panic Shape :=
  let a := s.normalizeAxis axis
  if s.hasAxis axis then .ok { s with dims := s.dims.set a.toNat dim }
  else .error { message := ("Shape.WithDim(" ++ toString a ++ ") out-of-bounds for rank " ++
    toString s.rank ++ " (shape=" ++ s.text ++ ")") }

/-- The bytes of the elements: zero for a negative size, the element width times the size as an
unsigned word otherwise (which needs a valid element type). -/
def memory : Except Panic Nat :=
  if s.size < 0 then .ok 0 else s.dtype.byteSize.map fun b => wrapUnsigned (b * s.size)

/-- Whether `other` fits this shape: the same element type and rank, and the same dimension on
every axis where this shape's dimension is not dynamic. -/
def fits (other : Shape) : Bool :=
  s.dtype == other.dtype && s.rank == other.rank &&
    (s.dims.zip other.dims).all fun (d, e) => d = dynamicDim || d = e

/-- The row-major strides of the dimensions: each the product of the dimensions after it, as a
machine integer. -/
def stridesOf : List Int → List Int
  | [] => []
  | _ :: ds => wrapWord (ds.foldl (· * ·) 1) :: stridesOf ds

/-- The row-major strides of a static shape; a shape with a dynamic dimension stops. -/
def strides : Except Panic (List Int) :=
  if s.dims.isEmpty then .ok []
  else if s.isStatic then .ok (stridesOf s.dims)
  else .error { message := "Shape.Strides() requires a static shape, got " ++ s.text }

/-! ## Row-major positions -/

/-- One step of the odometer over `dims`: the last index counts up, an index that reaches its
dimension wraps to zero and carries into the one before. The flag says whether the first index
carried out too. -/
def advance : List Int → List Int → List Int × Bool
  | [], _ => ([], true)
  | _ :: _, [] => ([], true)
  | d :: ds, i :: is =>
    let (rest, carry) := advance ds is
    if carry then
      if i + 1 < d then ((i + 1) :: rest, false) else (0 :: rest, true)
    else (i :: rest, false)

/-- The first `n` steps of the odometer from `idx`. -/
def steps (dims : List Int) : Nat → List Int → List (List Int)
  | 0, _ => []
  | n + 1, idx => idx :: steps dims n (advance dims idx).1

/-- The first `limit` positions of a static shape in row-major order; a shape with a dynamic
dimension stops, and a shape without an element type has none. -/
def positions (limit : Nat) : Except Panic (List (List Int)) :=
  if !s.isStatic then
    .error { message := "Shape.Iter() requires a static shape, got " ++ s.text }
  else if !s.ok then .ok []
  else .ok (steps s.dims (min limit s.size.toNat) (s.dims.map fun _ => 0))

theorem length_steps (dims : List Int) (n : Nat) (idx : List Int) :
    (steps dims n idx).length = n := by
  induction n generalizing idx with
  | zero => rfl
  | succ n ih => simp [steps, ih]

/-- A static shape with an element type has `size` positions, or `limit` if fewer. -/
theorem positions_length (limit : Nat) (hs : s.isStatic = true) (hok : s.ok = true) :
    (s.positions limit).map List.length = .ok (min limit s.size.toNat) := by
  simp [positions, hs, hok, length_steps, Except.map]

end Shape

end TensorSelect
