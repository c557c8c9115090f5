import TensorSelect.Shape
import TensorSelect.Failure
import TensorSelect.Text.Letters
import TensorSelect.Text.Quoted
import TensorSelect.Text.Integer

/-!
# Layout tags

A tensor with a channel axis (axis 1) can be stored in three layouts:

* *planar*: row-major in the logical order of the axes;
* *channel-last*: row-major with the channel axis moved to the end;
* *blocked(b)*: the channels split into blocks of `b` (a power of two), each block stored as the
  last physical axis, so that `b` channels sit side by side; the last block is padded.

A `Tag` names a layout. A tag's kind may be a code that names no layout, and a blocked tag's
block size may be any integer: `Tag.validate` tells whether the tag is usable, and
`Tag.validateRank` whether it is usable for tensors of a rank (a layout other than planar needs a
channel axis).

`Tag.parse` reads the text of a tag, ignoring case and surrounding blanks, with the aliases `nchw`
and `ncsp` for planar, `channel_last`, `nhwc` and `nspc` for channel-last, and the spellings
`blocked16`, `blocked:16` and `blocked(16)` (any run of `(`, `)` and `:` around the size).
-/

namespace TensorSelect

/-- The axis of the channels, for the layouts that treat it specially. -/
def channelAxis : Nat := 1

/-- The kinds of layout, and a code that names none. -/
inductive LayoutKind
  | planar
  | channelLast
  | blocked
  | unnamed (code : Nat)
  deriving DecidableEq, Repr, Inhabited

/-- The kind a code names: 0, 1 and 2 name the three layouts. -/
def LayoutKind.ofCode : Nat → LayoutKind
  | 0 => .planar
  | 1 => .channelLast
  | 2 => .blocked
  | n => .unnamed n

/-- The code of a kind. -/
def LayoutKind.code : LayoutKind → Nat
  | .planar => 0
  | .channelLast => 1
  | .blocked => 2
  | .unnamed n => n

/-- A layout: its kind, and for the blocked layout the block size. -/
structure Tag where
  kind : LayoutKind
  blockSize : Int := 0
  deriving DecidableEq, Repr, Inhabited

namespace Tag

/-- The planar layout. -/
def planar : Tag := ⟨.planar, 0⟩
/-- The channel-last layout. -/
def channelLast : Tag := ⟨.channelLast, 0⟩
/-- The blocked layout with blocks of `b` channels. -/
def blockedBy (b : Int) : Tag := ⟨.blocked, b⟩

/-- The text of a tag: `planar`, `channel-last`, `blocked(b)`, or `Kind(n)` for a code. -/
def text (t : Tag) : String :=
  match t.kind with
  | .planar => "planar"
  | .channelLast => "channel-last"
  | .blocked => "blocked(" ++ toString t.blockSize ++ ")"
  | .unnamed n => "Kind(" ++ toString n ++ ")"

/-- Whether the tag is blocked. -/
def isBlocked (t : Tag) : Bool := t.kind == .blocked

end Tag

namespace Layout

/-- Why a layout operation fails. -/
inductive Error
  /-- A text that names no layout. -/
  | unknownText (text : String)
  /-- A blocked layout text whose block size is no integer. -/
  | blockSizeText (text : String)
  /-- A block size that is not a positive power of two. -/
  | blockSize (size : Int)
  /-- A kind code that names no layout. -/
  | unknownKind (code : Nat)
  /-- A layout other than planar for a tensor without a channel axis. -/
  | needsChannelAxis (tag : Tag) (rank : Nat)
  /-- An axis number that names no axis of the shape. -/
  | axisOutOfRange (axis : Int) (shape : Shape)
  /-- A shape with a dynamic dimension, where concrete dimensions are needed. -/
  | dynamicShape (shape : Shape)
  /-- A failure while resolving an axis of a shape. -/
  | resolving (axis : Int) (shape : Shape) (cause : Error)
  /-- A dynamic shape given to the physical size. -/
  | sizeOfDynamic (shape : Shape)
  /-- A dynamic shape given to the element addressing. -/
  | addressingDynamic (shape : Shape)
  /-- Logical data of the wrong length for packing. -/
  | packLength (shape : Shape) (want : Int) (got : Nat)
  /-- Physical data of the wrong length for unpacking. -/
  | unpackLength (shape : Shape) (tag : Tag) (want : Int) (got : Nat)
  deriving Repr, Inhabited

namespace Error

/-- The kind of a failure: all but the length and dynamic-shape checks of the physical size and
of packing are unsupported layouts. -/
def kind : Error → FailureKind
  | resolving _ _ e => e.kind
  | sizeOfDynamic _ | addressingDynamic _ | packLength .. | unpackLength .. => .plain
  | _ => .unsupportedLayout

/-- The text of a failure, before the sentence of its kind. -/
def text : Error → String
  | unknownText s => "unknown layout " ++ Text.quote s
  | blockSizeText s => "invalid block size in layout " ++ Text.quote s
  | blockSize b => "block size must be a positive power of 2, got " ++ toString b
  | unknownKind n => "unknown layout kind " ++ toString n
  | needsChannelAxis t r =>
    "layout " ++ t.text ++ " requires a channel axis, got rank " ++ toString r
  | axisOutOfRange a s => "axis " ++ toString a ++ " out of range for shape " ++ s.text
  | dynamicShape s => "cannot resolve dynamic shape " ++ s.text ++ ", concrete dimensions required"
  | resolving a s _ => "resolving axis " ++ toString a ++ " of shape " ++ s.text
  | sizeOfDynamic s => "PhysicalSize requires a static shape, got " ++ s.text
  | addressingDynamic s => "layout.NewMapper requires a static shape, got " ++ s.text
  | packLength s want got =>
    "layout.Pack: shape " ++ s.text ++ " requires " ++ toString want ++ " elements, got " ++
      toString got
  | unpackLength s t want got =>
    "layout.Unpack: shape " ++ s.text ++ " in layout " ++ t.text ++ " requires " ++
      toString want ++ " elements, got " ++ toString got

/-- The message of a failure: its text and the sentence of its kind, with the task of a
wrapping failure in front. -/
def message : Error → String
  | resolving a s e => inContext (resolving a s e).text e.message
  | e => e.kind.close e.text

end Error

end Layout

namespace Tag

/-- Whether a positive integer is a power of two. -/
def isPowerOfTwo (n : Int) : Bool := 0 < n && n.toNat &&& (n.toNat - 1) == 0

/-- Checks a tag on its own: planar and channel-last always pass, a blocked tag needs a block
size that is a positive power of two, and a code that names no layout fails. -/
def validate (t : Tag) : Except Layout.Error Unit :=
  match t.kind with
  | .planar | .channelLast => .ok ()
  | .blocked => if isPowerOfTwo t.blockSize then .ok () else .error (.blockSize t.blockSize)
  | .unnamed n => .error (.unknownKind n)

/-- Checks a tag for tensors of a rank: the tag must be valid, and a layout other than planar
needs a channel axis. -/
def validateRank (t : Tag) (rank : Nat) : Except Layout.Error Unit := do
  t.validate
  if t.kind != .planar && rank ≤ channelAxis then throw (.needsChannelAxis t rank)

/-- Reads the text of a tag. -/
def parse (s : String) : Except Layout.Error Tag :=
  let s := Text.toLower (Text.trimBlanks s)
  if s ∈ ["planar", "nchw", "ncsp"] then .ok planar
  else if s ∈ ["channel-last", "channel_last", "nhwc", "nspc"] then .ok channelLast
  else
    let cs := s.toList
    if cs.take 7 == "blocked".toList then
      let strip := fun (c : Char) => c == '(' || c == ')' || c == ':'
      let rest := ((cs.drop 7).dropWhile strip).reverse.dropWhile strip |>.reverse
      match Text.readDecimal? (String.ofList rest) with
      | none => .error (.blockSizeText s)
      | some b => (blockedBy b).validate.map fun _ => blockedBy b
    else .error (.unknownText s)

end Tag

end TensorSelect
