import TensorSelect.Element.Scalar

/-!
# Storage

The flat buffer of a tensor: an array of elements of one type. `Storage` has one case per element
type, so a buffer can never mix types. Operations that work the same for every type take a
function over any element type and apply it to the array inside (`Storage.map`, and
`Storage.zipRanked` for two buffers of one ordered type).

Every element type's default value is its zero, which is what fresh buffers and padding hold.
-/

namespace TensorSelect

/-- A flat buffer of elements of one type. -/
inductive Storage
  | bool (xs : Array Bool)
  | int8 (xs : Array Int8) | int16 (xs : Array Int16)
  | int32 (xs : Array Int32) | int64 (xs : Array Int64)
  | uint8 (xs : Array UInt8) | uint16 (xs : Array UInt16)
  | uint32 (xs : Array UInt32) | uint64 (xs : Array UInt64)
  | float16 (xs : Array Binary16) | float32 (xs : Array Binary32)
  | float64 (xs : Array Binary64) | bfloat16 (xs : Array BFloat16)
  deriving Repr, Inhabited

namespace Storage

/-- The element type of a buffer. -/
def elemType : Storage → ElemType
  | bool _ => .bool
  | int8 _ => .int8 | int16 _ => .int16 | int32 _ => .int32 | int64 _ => .int64
  | uint8 _ => .uint8 | uint16 _ => .uint16 | uint32 _ => .uint32 | uint64 _ => .uint64
  | float16 _ => .float16 | float32 _ => .float32 | float64 _ => .float64
  | bfloat16 _ => .bfloat16

/-- The number of elements of a buffer. -/
def size : Storage → Nat
  | bool xs => xs.size
  | int8 xs => xs.size | int16 xs => xs.size | int32 xs => xs.size | int64 xs => xs.size
  | uint8 xs => xs.size | uint16 xs => xs.size | uint32 xs => xs.size | uint64 xs => xs.size
  | float16 xs => xs.size | float32 xs => xs.size | float64 xs => xs.size
  | bfloat16 xs => xs.size

/-- The elements of a buffer, each tagged with its type. -/
def toScalars : Storage → Array Scalar
  | bool xs => xs.map .bool
  | int8 xs => xs.map .int8 | int16 xs => xs.map .int16
  | int32 xs => xs.map .int32 | int64 xs => xs.map .int64
  | uint8 xs => xs.map .uint8 | uint16 xs => xs.map .uint16
  | uint32 xs => xs.map .uint32 | uint64 xs => xs.map .uint64
  | float16 xs => xs.map .float16 | float32 xs => xs.map .float32
  | float64 xs => xs.map .float64 | bfloat16 xs => xs.map .bfloat16

/-- The empty buffer of a type. -/
def empty : ElemType → Storage
  | .bool => bool #[]
  | .int8 => int8 #[] | .int16 => int16 #[] | .int32 => int32 #[] | .int64 => int64 #[]
  | .uint8 => uint8 #[] | .uint16 => uint16 #[] | .uint32 => uint32 #[] | .uint64 => uint64 #[]
  | .float16 => float16 #[] | .float32 => float32 #[] | .float64 => float64 #[]
  | .bfloat16 => bfloat16 #[]

/-- Applies an operation that works for every element type to the array of a buffer. -/
def map (op : {α : Type} → [Inhabited α] → Array α → Array α) : Storage → Storage
  | bool xs => bool (op xs)
  | int8 xs => int8 (op xs) | int16 xs => int16 (op xs)
  | int32 xs => int32 (op xs) | int64 xs => int64 (op xs)
  | uint8 xs => uint8 (op xs) | uint16 xs => uint16 (op xs)
  | uint32 xs => uint32 (op xs) | uint64 xs => uint64 (op xs)
  | float16 xs => float16 (op xs) | float32 xs => float32 (op xs)
  | float64 xs => float64 (op xs) | bfloat16 xs => bfloat16 (op xs)

/-- Applies an operation that works for every element type, and may fail, to the array of a
buffer. -/
def mapExcept {ε : Type} (op : {α : Type} → [Inhabited α] → Array α → Except ε (Array α)) :
    Storage → Except ε Storage
  | bool xs => bool <$> op xs
  | int8 xs => int8 <$> op xs | int16 xs => int16 <$> op xs
  | int32 xs => int32 <$> op xs | int64 xs => int64 <$> op xs
  | uint8 xs => uint8 <$> op xs | uint16 xs => uint16 <$> op xs
  | uint32 xs => uint32 <$> op xs | uint64 xs => uint64 <$> op xs
  | float16 xs => float16 <$> op xs | float32 xs => float32 <$> op xs
  | float64 xs => float64 <$> op xs | bfloat16 xs => bfloat16 <$> op xs

/-- A buffer of `n` zeros of a type. -/
def zeros (t : ElemType) (n : Nat) : Storage :=
  (empty t).map fun {_} _ _ => Array.replicate n default

/-- Appends a scalar of the buffer's type; a scalar of another type appends the zero. -/
def push : Storage → Scalar → Storage
  | bool xs, .bool x => bool (xs.push x)
  | int8 xs, .int8 x => int8 (xs.push x) | int16 xs, .int16 x => int16 (xs.push x)
  | int32 xs, .int32 x => int32 (xs.push x) | int64 xs, .int64 x => int64 (xs.push x)
  | uint8 xs, .uint8 x => uint8 (xs.push x) | uint16 xs, .uint16 x => uint16 (xs.push x)
  | uint32 xs, .uint32 x => uint32 (xs.push x) | uint64 xs, .uint64 x => uint64 (xs.push x)
  | float16 xs, .float16 x => float16 (xs.push x)
  | float32 xs, .float32 x => float32 (xs.push x)
  | float64 xs, .float64 x => float64 (xs.push x)
  | bfloat16 xs, .bfloat16 x => bfloat16 (xs.push x)
  | s, _ => s.map fun {_} _ xs => xs.push default

/-- The buffer of a type holding the given scalars. -/
def ofScalars (t : ElemType) (xs : Array Scalar) : Storage :=
  xs.foldl push (empty t)

/-- Combines two buffers of one ordered type with an operation that works for every ordered
type, giving a buffer of that type and a result of the operation; `none` for two buffers of
different or unordered types. -/
def zipRanked {γ : Type}
    (op : {α : Type} → [Ranked α] → [Inhabited α] → Array α → Array α → Array α × γ) :
    Storage → Storage → Option (Storage × γ)
  | int8 xs, int8 ys => let (r, g) := op xs ys; some (int8 r, g)
  | int16 xs, int16 ys => let (r, g) := op xs ys; some (int16 r, g)
  | int32 xs, int32 ys => let (r, g) := op xs ys; some (int32 r, g)
  | int64 xs, int64 ys => let (r, g) := op xs ys; some (int64 r, g)
  | uint8 xs, uint8 ys => let (r, g) := op xs ys; some (uint8 r, g)
  | uint16 xs, uint16 ys => let (r, g) := op xs ys; some (uint16 r, g)
  | uint32 xs, uint32 ys => let (r, g) := op xs ys; some (uint32 r, g)
  | uint64 xs, uint64 ys => let (r, g) := op xs ys; some (uint64 r, g)
  | float16 xs, float16 ys => let (r, g) := op xs ys; some (float16 r, g)
  | float32 xs, float32 ys => let (r, g) := op xs ys; some (float32 r, g)
  | float64 xs, float64 ys => let (r, g) := op xs ys; some (float64 r, g)
  | bfloat16 xs, bfloat16 ys => let (r, g) := op xs ys; some (bfloat16 r, g)
  | _, _ => none

@[simp]
theorem size_zeros (t : ElemType) (n : Nat) : (zeros t n).size = n := by
  cases t <;> simp [zeros, empty, map, size]

@[simp]
theorem elemType_zeros (t : ElemType) (n : Nat) : (zeros t n).elemType = t := by
  cases t <;> rfl

end Storage

end TensorSelect
