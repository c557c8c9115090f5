import TensorSelect.Element.Type

/-!
# Registries keyed by element type

A `Registry` holds at most one value for each of the first `capacity` type codes, under a name
that its messages show. Registering a code at or past the capacity stops with a message naming
the type and the registry; a negative code stops as an index out of range. Looking a code up
never stops: a code outside the slots, or one never registered, is simply absent.
-/

namespace TensorSelect

/-- A value for each of the first `Registry.capacity` type codes, under a name. -/
structure Registry (α : Type) where
  name : String
  slots : Array (Option α)
  deriving Repr, Inhabited

namespace Registry

variable {α : Type}

/-- The number of type codes a registry has slots for. -/
def capacity : Nat := 32

/-- The empty registry of a name. -/
def empty (name : String) : Registry α := ⟨name, Array.replicate capacity none⟩

/-- The message of a code a registry has no slot or no value for. -/
def unsupported (r : Registry α) (d : DType) : Panic :=
  { message := "dtype " ++ d.name ++ " not supported by " ++ r.name }

/-- Registers a value for a type code. -/
def register (r : Registry α) (d : DType) (v : α) : Except Panic (Registry α) :=
  if d.code ≥ capacity then .error (r.unsupported d)
  else if d.code < 0 then .error (Panic.indexOutOfRange d.code capacity)
  else .ok { r with slots := r.slots.setIfInBounds d.code.toNat (some v) }

/-- The value registered for a type code, if any. -/
def get? (r : Registry α) (d : DType) : Option α :=
  if d.code < 0 then none else (r.slots.getD d.code.toNat none)

/-- The value registered for a type code; an absent one stops. -/
def must (r : Registry α) (d : DType) : Except Panic α :=
  match r.get? d with
  | some v => .ok v
  | none => .error (r.unsupported d)

end Registry

end TensorSelect
