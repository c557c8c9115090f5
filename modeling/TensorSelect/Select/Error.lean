import TensorSelect.Select.Config

/-!
# Why a selection fails

`Select.Error` lists every cause of failure of the selection engine and its options, with the
data its message needs. Layout failures are carried inside (`Error.layout`), and a failure met
while configuring, preparing or reading the options from the environment carries that task's
words in front of its own message (`configuring`, `preparing`, `readingEnv`).

The kind of each failure (`Error.kind`) is what callers can tell apart: invalid settings are
configuration failures, shapes and buffers that do not fit are shape mismatches, and a wrapped
failure keeps the kind of its cause.
-/

namespace TensorSelect

namespace Select

/-- Why a selection, or the reading of its options, fails. -/
inductive Error
  /-- A layout failure. -/
  | layout (e : Layout.Error)
  /-- An algorithm name that names none. -/
  | unknownAlgorithm (name : String)
  /-- `k` below one. -/
  | kTooSmall (k : Int)
  /-- A mode code that names no mode. -/
  | invalidMode (m : Mode)
  /-- An order code that names no order. -/
  | invalidSortBy (s : SortBy)
  /-- An algorithm code that names no algorithm. -/
  | invalidAlgorithm (a : Algorithm)
  /-- An option value that is no integer. -/
  | optionNotInteger (key value : String)
  /-- An option value below the option's least value. -/
  | optionTooSmall (key : String) (least value : Int)
  /-- An option value that is no truth value. -/
  | optionNotBool (key value : String)
  /-- An option name that names none, in the text of all options. -/
  | unknownOption (key text : String)
  /-- An element type whose values cannot be ranked. -/
  | unorderedType (d : DType)
  /-- A shape without axes. -/
  | noAxes (s : Shape)
  /-- A dimension that is neither positive nor dynamic. -/
  | invalidDimension (d : Int) (s : Shape)
  /-- An axis number that names no axis. -/
  | axisOutOfRange (axis : Int) (s : Shape)
  /-- `k` above the dimension of the axis, found when configuring. -/
  | kTooLarge (k : Int) (axis : Nat) (dim : Int) (s : Shape)
  /-- A shape prepared for before any successful configuration. -/
  | notConfigured
  /-- A run before the engine was configured and prepared. -/
  | notPrepared
  /-- Dimensions with one below one, given to the one-call selection. -/
  | invalidDimensions (dims : List Int)
  /-- A shape with a dynamic dimension given to prepare for. -/
  | notConcrete (s : Shape)
  /-- A shape that does not fit the configured one. -/
  | shapeDiffers (s configured : Shape)
  /-- A prepared shape with an axis below one. -/
  | emptyAxis (s : Shape) (axis : Nat)
  /-- `k` above the dimension of the axis, found when preparing. -/
  | kExceedsAxis (k : Int) (axis : Nat) (dim : Int) (s : Shape)
  /-- An input of another element type than the configured one. -/
  | inputType (description : String) (found configured : DType)
  /-- An output buffer of another element type than the configured one. -/
  | valuesType (description : String) (found configured : DType)
  /-- An input of the wrong length (`-1` for something that is no buffer). -/
  | inputLength (got : Int) (s : Shape) (t : Tag) (want : Int)
  /-- An output buffer of the wrong length. -/
  | valuesLength (got : Int) (s : Shape) (t : Tag) (want : Int)
  /-- An index buffer of the wrong length. -/
  | indicesLength (got : Int) (s : Shape) (t : Tag) (want : Int)
  /-- Data of the wrong length for the one-call selection. -/
  | dataLength (got : Nat) (s : Shape) (want : Int)
  /-- A failure while configuring. -/
  | configuring (c : Config) (cause : Error)
  /-- A failure while preparing for a shape. -/
  | preparing (s : Shape) (cause : Error)
  /-- A failure while reading the options from the environment. -/
  | readingEnv (text : String) (cause : Error)
  deriving Repr, Inhabited

namespace Error

/-- The kind of a failure. -/
def kind : Error → FailureKind
  | layout e => e.kind
  | configuring _ e | preparing _ e | readingEnv _ e => e.kind
  | notConcrete _ | shapeDiffers .. | emptyAxis .. | kExceedsAxis .. | inputType ..
  | valuesType .. | inputLength .. | valuesLength .. | indicesLength .. | dataLength .. =>
    .shapeMismatch
  | _ => .configuration

/-- The words in front of a wrapped failure, or the text of a cause. -/
def text : Error → String
  | layout e => e.text
  | unknownAlgorithm n =>
    "unknown top-k algorithm " ++ Text.quote n ++ ", valid values are " ++
      Text.quoteList Algorithm.names
  | kTooSmall k => "k must be >= 1, got " ++ toString k
  | invalidMode m => "invalid mode " ++ m.text
  | invalidSortBy s => "invalid sort order " ++ s.text
  | invalidAlgorithm a => "invalid algorithm " ++ a.text
  | optionNotInteger key v =>
    "invalid integer value " ++ Text.quote v ++ " for engine option " ++ Text.quote key
  | optionTooSmall key least v =>
    "engine option " ++ Text.quote key ++ " must be >= " ++ toString least ++ ", got " ++
      toString v
  | optionNotBool key v =>
    "invalid value " ++ Text.quote v ++ " for engine option " ++ Text.quote key
  | unknownOption key t => "unknown engine option " ++ Text.quote key ++ " in " ++ Text.quote t
  | unorderedType d => "dtype " ++ d.name ++ " is not supported for top-k selection"
  | noAxes s => "top-k requires a tensor of rank >= 1, got shape " ++ s.text
  | invalidDimension d s => "invalid dimension " ++ toString d ++ " in shape " ++ s.text
  | axisOutOfRange a s => "axis " ++ toString a ++ " out of range for shape " ++ s.text
  | kTooLarge k a d s | kExceedsAxis k a d s =>
    "k=" ++ toString k ++ " is larger than the axis " ++ toString a ++ " dimension " ++
      toString d ++ " of shape " ++ s.text
  | notConfigured => "PrepareForShape called before a successful Configure"
  | notPrepared => "Execute called before the engine was configured and prepared for a shape"
  | invalidDimensions ds => "invalid dimensions [" ++ " ".intercalate (ds.map toString) ++ "]"
  | notConcrete s => "PrepareForShape requires a concrete shape, got " ++ s.text
  | shapeDiffers s c => "shape " ++ s.text ++ " doesn't match the configured shape " ++ c.text
  | emptyAxis s a => "shape " ++ s.text ++ " has an empty axis " ++ toString a
  | inputType d f c =>
    "input of type " ++ d ++ " (dtype " ++ f.name ++ ") doesn't match the configured dtype " ++
      c.name
  | valuesType d f c =>
    "values of type " ++ d ++ " (dtype " ++ f.name ++ ") doesn't match the configured dtype " ++
      c.name
  | inputLength g s t w =>
    "input has " ++ toString g ++ " elements, shape " ++ s.text ++ " in layout " ++ t.text ++
      " requires " ++ toString w
  | valuesLength g s t w =>
    "values has " ++ toString g ++ " elements, output shape " ++ s.text ++ " in layout " ++
      t.text ++ " requires " ++ toString w
  | indicesLength g s t w =>
    "indices has " ++ toString g ++ " elements, output shape " ++ s.text ++ " in layout " ++
      t.text ++ " requires " ++ toString w
  | dataLength g s w =>
    "data has " ++ toString g ++ " elements, shape " ++ s.text ++ " requires " ++ toString w
  | configuring c _ => "configuring " ++ c.text
  | preparing s _ => "preparing top-k for shape " ++ s.text
  | readingEnv t _ => "parsing $TOPK_CONFIG=" ++ Text.quote t

/-- The message of a failure. -/
def message : Error → String
  | layout e => e.message
  | configuring c e => inContext (configuring c e).text e.message
  | preparing s e => inContext (preparing s e).text e.message
  | readingEnv t e => inContext (readingEnv t e).text e.message
  | e => e.kind.close e.text

end Error

end Select

end TensorSelect
