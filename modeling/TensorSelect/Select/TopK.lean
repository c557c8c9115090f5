import TensorSelect.Select.Engine

/-!
# Selection in one call

`topK` selects the `k` best elements along an axis of planar data with the given dimensions, best
first and ties to the smaller index, using an engine with the host's default options. It checks
that every dimension is positive and that the data has one element per position before it makes
the engine.
-/

namespace TensorSelect

namespace Select

/-- The `k` best values along an axis of planar data, and their indices along the axis. -/
def topK (h : Host) (data : Storage) (dims : List Int) (axis k : Int) (mode : Mode) :
    Except RunError (Storage × Array Int) := do
  if dims.any (· < 1) then throw (.check (.invalidDimensions dims))
  let s : Shape := ⟨data.elemType.toDType, dims⟩
  if (data.size : Int) != s.size then throw (.check (.dataLength data.size s s.size))
  let e ← (Engine.ofHost h).mapError .check
  let e ← match (Engine.configure { axis, k, mode, stable := true, layout := Tag.planar } s).run e with
    | .ok () e => pure e
    | .error err _ => throw err
  let n := e.outputShape.size
  if let .error p := Panic.checkMake n data.elemType.byteSize then throw (.stop p)
  if let .error p := Panic.checkMake n 4 then throw (.stop p)
  let out := (Operand.buffer (Storage.zeros data.elemType n.toNat), Array.replicate n.toNat 0)
  match (e.execute (.buffer data)).run out with
  | .ok () (.buffer v, is) => return (v, is)
  | .ok () (_, is) => return (Storage.zeros data.elemType n.toNat, is)
  | .error err _ => throw err

end Select

end TensorSelect
