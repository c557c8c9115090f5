import TensorSelect.Panic

/-!
# Element types

A tensor holds elements of one type. `ElemType` lists the thirteen types the library knows: a
truth value, four signed and four unsigned integer widths, and four floating-point formats.
Callers name a type by an integer code, a `DType`. Codes 1 to 13 name an `ElemType`, code 0 is
the invalid type, and every other code is kept as given, so that messages can show it.

Main facts: `ElemType.ofCode?` inverts `ElemType.code` (`ofCode?_code`), and the name table finds
every type under its own name and under that name in lower case (`ofName?_name`).
-/

namespace TensorSelect

/-- The element types of a tensor. -/
inductive ElemType
  | bool
  | int8 | int16 | int32 | int64
  | uint8 | uint16 | uint32 | uint64
  | float16 | float32 | float64 | bfloat16
  deriving DecidableEq, Repr, Inhabited

/-- The families of element types: what the bits of an element stand for. -/
inductive Family
  | truth | signed | unsigned | float
  deriving DecidableEq, Repr

namespace ElemType

/-- All element types, in the order of their codes. -/
def all : List ElemType :=
  [bool, int8, int16, int32, int64, uint8, uint16, uint32, uint64,
    float16, float32, float64, bfloat16]

/-- The code of a type: 1 for `bool`, then the signed, unsigned and float types in order. -/
def code : ElemType → Int
  | bool => 1 | int8 => 2 | int16 => 3 | int32 => 4 | int64 => 5
  | uint8 => 6 | uint16 => 7 | uint32 => 8 | uint64 => 9
  | float16 => 10 | float32 => 11 | float64 => 12 | bfloat16 => 13

/-- The type of a code, if the code names one. -/
def ofCode? : Int → Option ElemType
  | 1 => some bool | 2 => some int8 | 3 => some int16 | 4 => some int32 | 5 => some int64
  | 6 => some uint8 | 7 => some uint16 | 8 => some uint32 | 9 => some uint64
  | 10 => some float16 | 11 => some float32 | 12 => some float64 | 13 => some bfloat16
  | _ => none

@[simp]
theorem ofCode?_code (t : ElemType) : ofCode? t.code = some t := by
  cases t <;> rfl

/-- A code names a type exactly when it lies in `1 … 13`. -/
theorem ofCode?_isSome_iff (n : Int) : (ofCode? n).isSome ↔ 1 ≤ n ∧ n ≤ 13 := by
  unfold ofCode?
  split <;> (simp_all; try omega)

/-- The name of a type, as texts and messages show it. -/
def name : ElemType → String
  | bool => "Bool" | int8 => "Int8" | int16 => "Int16" | int32 => "Int32" | int64 => "Int64"
  | uint8 => "Uint8" | uint16 => "Uint16" | uint32 => "Uint32" | uint64 => "Uint64"
  | float16 => "Float16" | float32 => "Float32" | float64 => "Float64" | bfloat16 => "BFloat16"

/-- The family of a type. -/
def family : ElemType → Family
  | bool => .truth
  | int8 | int16 | int32 | int64 => .signed
  | uint8 | uint16 | uint32 | uint64 => .unsigned
  | float16 | float32 | float64 | bfloat16 => .float

/-- The width of one element in bytes. -/
def byteSize : ElemType → Nat
  | bool | int8 | uint8 => 1
  | int16 | uint16 | float16 | bfloat16 => 2
  | int32 | uint32 | float32 => 4
  | int64 | uint64 | float64 => 8

/-- The name of the host type that holds one element, as type descriptions in messages show it. -/
def hostName : ElemType → String
  | bool => "bool" | int8 => "int8" | int16 => "int16" | int32 => "int32" | int64 => "int64"
  | uint8 => "uint8" | uint16 => "uint16" | uint32 => "uint32" | uint64 => "uint64"
  | float16 => "float16.Float16" | float32 => "float32" | float64 => "float64"
  | bfloat16 => "bfloat16.BFloat16"

/-- Every type's code is positive. -/
theorem one_le_code (t : ElemType) : 1 ≤ t.code := by
  cases t <;> decide

end ElemType

/-- A type code, as callers give it. It need not name a type. -/
structure DType where
  code : Int
  deriving DecidableEq, Repr, Inhabited

namespace DType

/-- The invalid type, code 0: what a lookup gives for something that has no element type. -/
def invalid : DType := ⟨0⟩

/-- The type that a code names. -/
def elemType? (d : DType) : Option ElemType := ElemType.ofCode? d.code

end DType

/-- The code of a type. -/
def ElemType.toDType (t : ElemType) : DType := ⟨t.code⟩

@[simp]
theorem ElemType.elemType?_toDType (t : ElemType) : t.toDType.elemType? = some t :=
  ElemType.ofCode?_code t

namespace DType

/-- The name of a code: the name of its type, `InvalidDType` for 0, and `DType(n)` for the rest. -/
def name (d : DType) : String :=
  match d.elemType? with
  | some t => t.name
  | none => if d.code = 0 then "InvalidDType" else "DType(" ++ toString d.code ++ ")"

/-- The family of a code; codes that name no type have none. -/
def family? (d : DType) : Option Family := d.elemType?.map ElemType.family

/-- Whether the code names a floating-point type. -/
def isFloat (d : DType) : Bool := d.family? == some .float

/-- Whether the code names one of the two 16-bit floating-point types. -/
def isFloat16 (d : DType) : Bool := d.code == 10 || d.code == 13

/-- Whether the code names a signed or unsigned integer type. -/
def isInt (d : DType) : Bool := d.family? == some .signed || d.family? == some .unsigned

/-- Whether the code names an unsigned integer type. -/
def isUnsigned (d : DType) : Bool := d.family? == some .unsigned

/-- Whether the elements of the type can be ranked: integers and floats, not truth values. -/
def isOrdered (d : DType) : Bool := d.isInt || d.isFloat

/-- The type that a code names, for an operation `method` that needs one; any other code stops. -/
def entry (d : DType) (method : String) : Except Panic ElemType :=
  match d.elemType? with
  | some t => .ok t
  | none => .error { message := "invalid dtype " ++ d.name ++ " in DType." ++ method }

/-- The width of one element in bytes. -/
def byteSize (d : DType) : Except Panic Nat := (d.entry "GoType").map ElemType.byteSize

/-- The width of one element in bits. -/
def bitSize (d : DType) : Except Panic Nat := d.byteSize.map (· * 8)

/-- The host type name of the type's elements. -/
def hostName (d : DType) : Except Panic String := (d.entry "GoType").map ElemType.hostName

/-- The names under which callers may give a type, besides each name in lower case. -/
def names : List (String × ElemType) :=
  [("Bool", .bool), ("PRED", .bool),
    ("Int8", .int8), ("S8", .int8), ("Int16", .int16), ("S16", .int16),
    ("Int32", .int32), ("S32", .int32), ("Int64", .int64), ("S64", .int64),
    ("Uint8", .uint8), ("U8", .uint8), ("Uint16", .uint16), ("U16", .uint16),
    ("Uint32", .uint32), ("U32", .uint32), ("Uint64", .uint64), ("U64", .uint64),
    ("Float16", .float16), ("F16", .float16), ("Float32", .float32), ("F32", .float32),
    ("Float64", .float64), ("F64", .float64), ("BFloat16", .bfloat16), ("BF16", .bfloat16)]

/-- Whether `s` is the key `key` or the key in lower case. -/
def nameMatches (s key : String) : Bool := s == key || s == key.toLower

/-- The code a name stands for: a name of the table, a name in lower case, or the invalid
type's own name. -/
def ofName? (s : String) : Option DType :=
  if nameMatches s "InvalidDType" then some invalid
  else (names.find? (fun e => nameMatches s e.1)).map (fun e => e.2.toDType)

end DType

/-- Every type is found under its own name. -/
theorem ElemType.ofName?_name (t : ElemType) : DType.ofName? t.name = some t.toDType := by
  cases t <;> decide +kernel

end TensorSelect
