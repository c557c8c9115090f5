/-!
# Stops

Some operations of the library have no error to return for an argument they do not accept
(an element type code that names no type, an axis outside a shape): they stop with a message
instead. A `Panic` is that stop, as a value, so that callers can report it and proofs can see it.

Making data stops too, when its length is below zero or its bytes exceed what one allocation
may take on a 64-bit host, `2^48` (`Panic.checkMake`). Running out of memory below that bound
is not a stop of the library and is not modelled.
-/

namespace TensorSelect

/-- A stop with a message. `fault` marks a stop of the arithmetic itself (a division by zero, an
index below zero) rather than one that an explicit check raises. -/
structure Panic where
  message : String
  fault : Bool := false
  deriving DecidableEq, Repr, Inhabited

namespace Panic

/-- The stop of an index outside data of `length` elements: a negative index is shown alone, one
past the end together with the length. -/
def indexOutOfRange (i : Int) (length : Nat) : Panic :=
  { message := "runtime error: index out of range [" ++ toString i ++ "]" ++
      (if i < 0 then "" else " with length " ++ toString length), fault := true }

/-- The stop of a value of one type taken as another: `found` is the type of the value, `wanted`
the type it was taken as. -/
def conversion (found wanted : String) : Panic :=
  { message := "interface conversion: interface \x7b\x7d is " ++ found ++ ", not " ++ wanted,
    fault := true }

/-- The stop of making data of a negative length, or of more bytes than one allocation may
take. -/
def badLength : Panic := { message := "runtime error: makeslice: len out of range", fault := true }

/-- The stop of reserving room for a negative number of elements, or for more bytes than one
allocation may take. -/
def badCapacity : Panic := { message := "runtime error: makeslice: cap out of range", fault := true }

/-- The stop of making data of a negative length through the type of its elements. -/
def negativeLength : Panic := { message := "reflect.MakeSlice: negative len" }

/-- The stop of making data through the type of its elements, of more bytes than one allocation
may take. -/
def allocationSize : Panic := { message := "runtime: allocation size out of range", fault := true }

/-- The most bytes one allocation may take on a 64-bit host: `2^48`. -/
def maxAlloc : Nat := 281474976710656

/-- Making data of `n` elements of `size` bytes each: a negative length, or more bytes than one
allocation may take, stops. -/
def checkMake (n : Int) (size : Nat) : Except Panic Unit :=
  if n < 0 ∨ maxAlloc < n.toNat * size then .error badLength else .ok ()

/-- Reserving room for `n` elements of `size` bytes each, before any is stored. -/
def checkReserve (n : Int) (size : Nat) : Except Panic Unit :=
  if n < 0 ∨ maxAlloc < n.toNat * size then .error badCapacity else .ok ()

/-- Making data of `n` elements of `size` bytes each through the type of its elements. -/
def checkMakeOf (n : Int) (size : Nat) : Except Panic Unit :=
  if n < 0 then .error negativeLength
  else if maxAlloc < n.toNat * size then .error allocationSize else .ok ()

/-- The stop of a wait group whose count is taken below zero. -/
def negativeWaitGroup : Panic := { message := "sync: negative WaitGroup counter" }

end Panic

end TensorSelect
