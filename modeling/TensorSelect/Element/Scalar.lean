import TensorSelect.Element.Type
import TensorSelect.Element.Float

/-!
# Scalars

A `Scalar` is one element of any element type, tagged with its type. The element types'
extreme values (`ElemType.lowest`, `ElemType.highest`) and their NaN (`ElemType.nan?`) are
scalars, and so are the elements that callers read and write one at a time.

The class `Ranked` gives the order in which elements compete in a selection: `rank` maps each
value to an integer, so that `a` is smaller than `b` exactly when `rank a < rank b`. For integers
the rank is the value; for floats it is `Format.rank`, which puts both zeros on one place and every
NaN on one place above all numbers.
-/

open TensorSelect.Float

namespace TensorSelect

/-- One element, tagged with its type. -/
inductive Scalar
  | bool (b : Bool)
  | int8 (x : Int8) | int16 (x : Int16) | int32 (x : Int32) | int64 (x : Int64)
  | uint8 (x : UInt8) | uint16 (x : UInt16) | uint32 (x : UInt32) | uint64 (x : UInt64)
  | float16 (x : Binary16) | float32 (x : Binary32) | float64 (x : Binary64)
  | bfloat16 (x : BFloat16)
  deriving DecidableEq, Repr, Inhabited

namespace Scalar

/-- The type of a scalar. -/
def elemType : Scalar → ElemType
  | bool _ => .bool
  | int8 _ => .int8 | int16 _ => .int16 | int32 _ => .int32 | int64 _ => .int64
  | uint8 _ => .uint8 | uint16 _ => .uint16 | uint32 _ => .uint32 | uint64 _ => .uint64
  | float16 _ => .float16 | float32 _ => .float32 | float64 _ => .float64
  | bfloat16 _ => .bfloat16

/-- The text of a scalar: `true` or `false`, an integer in decimal, or a float's shortest text. -/
def text : Scalar → String
  | bool b => if b then "true" else "false"
  | int8 x => toString x.toInt | int16 x => toString x.toInt
  | int32 x => toString x.toInt | int64 x => toString x.toInt
  | uint8 x => toString x.toNat | uint16 x => toString x.toNat
  | uint32 x => toString x.toNat | uint64 x => toString x.toNat
  | float16 x => x.text | float32 x => x.text | float64 x => x.text | bfloat16 x => x.text

/-- The value of a scalar of an integer type. -/
def integer? : Scalar → Option Int
  | int8 x => some x.toInt | int16 x => some x.toInt
  | int32 x => some x.toInt | int64 x => some x.toInt
  | uint8 x => some x.toNat | uint16 x => some x.toNat
  | uint32 x => some x.toNat | uint64 x => some x.toNat
  | _ => none

/-- The scalar of an integer type holding `n`, truncated to the type's width as two's complement;
for the truth type, whether `n` is nonzero. Float types have none. -/
def ofInt (t : ElemType) (n : Int) : Option Scalar :=
  match t with
  | .bool => some (bool (n != 0))
  | .int8 => some (int8 (Int8.ofInt n)) | .int16 => some (int16 (Int16.ofInt n))
  | .int32 => some (int32 (Int32.ofInt n)) | .int64 => some (int64 (Int64.ofInt n))
  | .uint8 => some (uint8 (UInt8.ofInt n)) | .uint16 => some (uint16 (UInt16.ofInt n))
  | .uint32 => some (uint32 (UInt32.ofInt n)) | .uint64 => some (uint64 (UInt64.ofInt n))
  | _ => none

/-- Whether two scalars hold equal values: of one type, and for floats neither NaN with equal
ranks, so that `+0` equals `-0` and NaN equals nothing. -/
def sameValue : Scalar → Scalar → Bool
  | bool a, bool b => a == b
  | float16 a, float16 b => !Format.binary16.isNaN a.word && a.rank == b.rank
  | float32 a, float32 b => !Format.binary32.isNaN a.word && a.rank == b.rank
  | float64 a, float64 b => !Format.binary64.isNaN a.word && a.rank == b.rank
  | bfloat16 a, bfloat16 b => !Format.bfloat16.isNaN a.word && a.rank == b.rank
  | a, b => a.elemType == b.elemType && a.integer?.isSome && a.integer? == b.integer?

/-- The float of a type nearest to a reading: binary32 first for the 16-bit types. -/
def ofReading (t : ElemType) (r : Reading) : Option Scalar :=
  match t with
  | .float16 => some (float16 (Binary16.ofBinary32 (Binary32.ofReading r)))
  | .float32 => some (float32 (Binary32.ofReading r))
  | .float64 => some (float64 (Binary64.ofReading r))
  | .bfloat16 => some (bfloat16 (BFloat16.ofBinary32 (Binary32.ofReading r)))
  | _ => none

/-- The float of a type with the given word. -/
def ofWord (t : ElemType) (w : Nat) : Option Scalar :=
  match t with
  | .float16 => some (float16 (Binary16.ofWord w))
  | .float32 => some (float32 (Binary32.ofWord w))
  | .float64 => some (float64 (Binary64.ofWord w))
  | .bfloat16 => some (bfloat16 (BFloat16.ofWord w))
  | _ => none

end Scalar

namespace ElemType

/-- The least value of a type: the least integer, `false`, or negative infinity. -/
def lowest : ElemType → Scalar
  | bool => .bool false
  | int8 => .int8 (Int8.ofInt (-128)) | int16 => .int16 (Int16.ofInt (-32768))
  | int32 => .int32 (Int32.ofInt (-2147483648))
  | int64 => .int64 (Int64.ofInt (-9223372036854775808))
  | uint8 => .uint8 0 | uint16 => .uint16 0 | uint32 => .uint32 0 | uint64 => .uint64 0
  | float16 => .float16 (Binary16.inf true) | float32 => .float32 (Binary32.inf true)
  | float64 => .float64 (Binary64.inf true) | bfloat16 => .bfloat16 (BFloat16.inf true)

/-- The greatest value of a type: the greatest integer, `true`, or positive infinity. -/
def highest : ElemType → Scalar
  | bool => .bool true
  | int8 => .int8 (Int8.ofInt 127) | int16 => .int16 (Int16.ofInt 32767)
  | int32 => .int32 (Int32.ofInt 2147483647)
  | int64 => .int64 (Int64.ofInt 9223372036854775807)
  | uint8 => .uint8 255 | uint16 => .uint16 65535 | uint32 => .uint32 4294967295
  | uint64 => .uint64 18446744073709551615
  | float16 => .float16 (Binary16.inf false) | float32 => .float32 (Binary32.inf false)
  | float64 => .float64 (Binary64.inf false) | bfloat16 => .bfloat16 (BFloat16.inf false)

/-- The NaN of a float type; other types have none. -/
def nan? : ElemType → Option Scalar
  | float16 => some (.float16 Binary16.nan)
  | float32 => some (.float32 Binary32.nan)
  | float64 => some (.float64 Binary64.nan)
  | bfloat16 => some (.bfloat16 BFloat16.nan)
  | _ => none

end ElemType

namespace DType

/-- The least value of the type a code names. -/
def lowest (d : DType) : Except Panic Scalar := (d.entry "LowestValue").map ElemType.lowest

/-- The greatest value of the type a code names. -/
def highest (d : DType) : Except Panic Scalar := (d.entry "HighestValue").map ElemType.highest

/-- The NaN of the type a code names; a type without NaN stops. -/
def nanValue (d : DType) : Except Panic Scalar := do
  let t ← d.entry "NaNValue"
  match t.nan? with
  | some x => pure x
  | none => throw { message := "dtype " ++ d.name ++ " has no NaN value" }

end DType

/-! ## Ranks -/

/-- Element types whose values compete in a selection, through an integer rank, with a value of
least rank (`bottom`) and one of greatest rank (`top`). -/
class Ranked (α : Type) where
  /-- The place of a value in the order of values. -/
  rank : α → Int
  /-- A value of least rank: the least integer, or negative infinity. -/
  bottom : α
  /-- A value of greatest rank: the greatest integer, or NaN. -/
  top : α

instance : Ranked Int8 := ⟨Int8.toInt, Int8.ofInt (-128), Int8.ofInt 127⟩
instance : Ranked Int16 := ⟨Int16.toInt, Int16.ofInt (-32768), Int16.ofInt 32767⟩
instance : Ranked Int32 := ⟨Int32.toInt, Int32.ofInt (-2147483648), Int32.ofInt 2147483647⟩
instance : Ranked Int64 :=
  ⟨Int64.toInt, Int64.ofInt (-9223372036854775808), Int64.ofInt 9223372036854775807⟩
instance : Ranked UInt8 := ⟨fun x => x.toNat, 0, 255⟩
instance : Ranked UInt16 := ⟨fun x => x.toNat, 0, 65535⟩
instance : Ranked UInt32 := ⟨fun x => x.toNat, 0, 4294967295⟩
instance : Ranked UInt64 := ⟨fun x => x.toNat, 0, 18446744073709551615⟩
instance : Ranked Binary16 := ⟨Binary16.rank, Binary16.inf true, Binary16.nan⟩
instance : Ranked Binary32 := ⟨Binary32.rank, Binary32.inf true, Binary32.nan⟩
instance : Ranked Binary64 := ⟨Binary64.rank, Binary64.inf true, Binary64.nan⟩
instance : Ranked BFloat16 := ⟨BFloat16.rank, BFloat16.inf true, BFloat16.nan⟩

end TensorSelect
