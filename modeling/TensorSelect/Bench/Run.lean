import TensorSelect.Bench.Flags
import TensorSelect.Bench.Random
import TensorSelect.Bench.Report
import TensorSelect.Select.Engine
import TensorSelect.Layout.Pack

/-!
# The benchmark

The benchmark command selects along an axis of a random tensor with each of a list of
algorithms, and tells for each whether its outputs equal those of the reference implementation.

Its flags (`benchFlags`) give the shape (comma-separated dimensions, blanks ignored), the element
type (by name), the axis, `k`, the mode (`max` or `min`, any case), whether the selection is
stable, whether the output is listed by index, the layout, the algorithms (comma-separated
names), the number of runs, the engine options (the host's default option text when empty), the
number of distinct values (uniform values in `[0, 100)` when not positive) and the seed.

The checks run in that order, and then the selection must be supported for the shape, axis and
layout. The input is packed into the layout. The reference runs once with the options followed by
`reference` and the `heap` algorithm; then each algorithm runs with the options, commas at either
end removed. A run is deterministic and writes the same positions each time, so the outputs of
one run or many are the same; with fewer than one run the outputs stay zero. With zero runs the
time per run is a division by zero, which stops the benchmark after the first algorithm is set up.
-/

namespace TensorSelect

namespace Bench

open Select

/-- The flags of the benchmark command. -/
def benchFlags : List FlagSpec :=
  [⟨"shape", .text, "Comma-separated dimensions of the input tensor.", "8,4096"⟩,
   ⟨"dtype", .text, "Precision of the input tensor, e.g. float32, int32, float16.", "float32"⟩,
   ⟨"axis", .integer, "Axis of the selection, negative values count from the end.", "-1"⟩,
   ⟨"k", .integer, "Number of elements to select.", "8"⟩,
   ⟨"mode", .text, "Selection mode: \"max\" or \"min\".", "max"⟩,
   ⟨"stable", .switch,
    "Stable selection: among equal values the smaller index is selected first.", "true"⟩,
   ⟨"sort_by_index", .switch,
    "Output the selected elements in order of their original index.", "false"⟩,
   ⟨"layout", .text, "Layout of the input: planar, channel-last or blocked(<size>).", "planar"⟩,
   ⟨"algorithms", .text, "Comma-separated list of algorithms to benchmark.",
    "auto,bubble,bitonic,heap"⟩,
   ⟨"runs", .integer, "Number of executions per algorithm.", "20"⟩,
   ⟨"config", .text, "Engine configuration, e.g. \"parallelism=4,bubble_max_axis=64\". " ++
    "If empty, $TOPK_CONFIG is used.", ""⟩,
   ⟨"distinct", .integer,
    "If > 0, the number of distinct values in the input, to benchmark ties.", "0"⟩,
   ⟨"seed", .unsigned, "Random seed for the input values.", "42"⟩]

/-- The settings the flags give, with their defaults. -/
structure Settings where
  shape : String := "8,4096"
  dtype : String := "float32"
  axis : Int := -1
  k : Int := 8
  mode : String := "max"
  stable : Bool := true
  sortByIndex : Bool := false
  layout : String := "planar"
  algorithms : String := "auto,bubble,bitonic,heap"
  runs : Int := 20
  config : String := ""
  distinct : Int := 0
  seed : Nat := 42
  deriving Repr, Inhabited

/-- The settings after one flag. -/
def Settings.set (s : Settings) : String × FlagValue → Settings
  | ("shape", .text v) => { s with shape := v }
  | ("dtype", .text v) => { s with dtype := v }
  | ("axis", .integer v) => { s with axis := v }
  | ("k", .integer v) => { s with k := v }
  | ("mode", .text v) => { s with mode := v }
  | ("stable", .switch v) => { s with stable := v }
  | ("sort_by_index", .switch v) => { s with sortByIndex := v }
  | ("layout", .text v) => { s with layout := v }
  | ("algorithms", .text v) => { s with algorithms := v }
  | ("runs", .integer v) => { s with runs := v }
  | ("config", .text v) => { s with config := v }
  | ("distinct", .integer v) => { s with distinct := v }
  | ("seed", .integer v) => { s with seed := v.toNat }
  | _ => s

/-- Why the benchmark fails. -/
inductive Failure
  | flags (e : FlagError)
  | badDimension (part text : String)
  | unknownType (name : String)
  | badMode (mode : String)
  | unsupported (axis : Int) (s : Shape) (t : Tag)
  | layout (e : Layout.Error)
  | select (e : Select.Error)
  | stop (p : Panic)
  /-- A run whose pool's shared counter wrapped (`Select.RunError.wrapped`). -/
  | wrapped
  deriving Repr, Inhabited

/-- The kind of a failure. -/
def Failure.kind : Failure → FailureKind
  | .layout e => e.kind
  | .select e => e.kind
  | _ => .plain

/-- The message of a failure. -/
def Failure.message : Failure → String
  | .flags e => e.message
  | .badDimension p t => "invalid dimension " ++ Text.quote p ++ " in -shape=" ++ Text.quote t
  | .unknownType n => "unknown dtype " ++ Text.quote n
  | .badMode m => "invalid -mode=" ++ Text.quote m ++ ", valid values are \"max\" and \"min\""
  | .unsupported a s t =>
    "top-k on axis " ++ toString a ++ " of " ++ s.text ++ " with layout " ++ t.text ++
      " is not supported"
  | .layout e => e.message
  | .select e => e.message
  | .stop p => p.message
  | .wrapped => "the shared unit counter of a sweep wrapped"

/-- The failure of an engine request. -/
def Failure.ofRun : RunError → Failure
  | .check e => .select e
  | .stop p => .stop p
  | .wrapped => .wrapped

/-- What the checks of the settings give: the shape, its element type, the selection, the
algorithms and the engine options. -/
structure Plan where
  shape : Shape
  elemType : ElemType
  config : Config
  algorithms : List Algorithm
  options : String
  runs : Int
  distinct : Int
  seed : Nat
  deriving Repr, Inhabited

/-- Reads the dimensions of the shape flag. -/
def readDims (text : String) : Except Failure (List Int) :=
  (text.splitOn ",").mapM fun part =>
    match Text.readDecimal? (Text.trimBlanks part) with
    | some d => if d < 1 then .error (.badDimension part text) else .ok d
    | none => .error (.badDimension part text)

/-- Checks the settings, in the command's order. -/
def Settings.plan (h : Host) (s : Settings) : Except Failure Plan := do
  let dims ← readDims s.shape
  let some d := DType.ofName? s.dtype | throw (.unknownType s.dtype)
  let shape : Shape := ⟨d, dims⟩
  let mode ← match Text.toLower s.mode with
    | "max" => pure Mode.max
    | "min" => pure Mode.min
    | _ => throw (.badMode s.mode)
  let layout ← (Tag.parse s.layout).mapError .layout
  let algorithms ← (s.algorithms.splitOn ",").mapM fun n => (Algorithm.parse n).mapError .select
  let options := if s.config.isEmpty then h.optionText else s.config
  if !supports shape s.axis layout then throw (.unsupported s.axis shape layout)
  let some t := d.elemType? | throw (.unsupported s.axis shape layout)
  return { shape, elemType := t, algorithms, options, runs := s.runs, distinct := s.distinct,
           seed := s.seed,
           config := { axis := s.axis, k := s.k, mode, stable := s.stable, layout,
                       sortBy := if s.sortByIndex then .index else .value } }

/-- The element of a type that a random binary64 word becomes: the nearest float, or the integer
part wrapped to the type's width. -/
def elementOf (t : ElemType) (w : Nat) : Scalar :=
  let x := Binary64.ofWord w
  match t with
  | .float64 => .float64 x
  | .float32 => .float32 x.toBinary32
  | .float16 => .float16 (Binary16.ofBinary32 x.toBinary32)
  | .bfloat16 => .bfloat16 (BFloat16.ofBinary64 x)
  | _ => (Scalar.ofInt t (Float.Format.binary64.truncate w)).getD (.bool false)

/-- The input of the benchmark, packed into the layout. -/
def Plan.input (p : Plan) : Except Failure Storage :=
  let planar := Storage.ofScalars p.elemType
    ((randomValues p.shape.size.toNat p.distinct p.seed).map (elementOf p.elemType))
  (planar.mapExcept (Layout.pack p.shape p.config.layout)).mapError fun
    | .check e => .layout e
    | .stop s => .stop s

/-- The text of engine options without commas at either end. -/
def trimCommas (s : String) : String :=
  String.ofList (((s.toList.dropWhile (· == ',')).reverse.dropWhile (· == ',')).reverse)

/-- An engine set up with the options and the selection, and zero output buffers of its output
size. -/
def Plan.engine (h : Host) (p : Plan) (options : String) (c : Config) :
    Except Failure (Engine × Storage × Array Int) := do
  let e ← (Engine.create h (trimCommas options)).mapError .select
  let e ← match (Engine.configure c p.shape).run e with
    | .ok () e => pure e
    | .error err _ => throw (.ofRun err)
  let n := ((Layout.physicalSize e.outputShape c.layout).toOption.getD 0).toNat
  return (e, Storage.zeros p.elemType n, Array.replicate n 0)

/-- One run of a set-up engine over the input, writing into the output buffers. -/
def runOnce (e : Engine) (input : Storage) (out : Storage × Array Int) :
    Except Failure (Storage × Array Int) :=
  match (e.execute (.buffer input)).run (.buffer out.1, out.2) with
  | .ok () (.buffer v, is) => .ok (v, is)
  | .ok () (_, is) => .ok (out.1, is)
  | .error err _ => .error (.ofRun err)

/-- Sets up an engine with the options and the selection, and runs it `runs` times: the engine
and its outputs. Every run writes the same outputs, so one run stands for all of them. -/
def Plan.execute (h : Host) (p : Plan) (options : String) (c : Config) (input : Storage)
    (runs : Int) : Except Failure (Engine × Storage × Array Int) := do
  let (e, zeros) ← p.engine h options c
  if runs < 1 then return (e, zeros)
  return (e, ← runOnce e input zeros)

/-- Whether two outputs are equal, value by value and index by index. -/
def sameOutputs (a b : Storage × Array Int) : Bool :=
  let xs := a.1.toScalars
  let ys := b.1.toScalars
  xs.size == ys.size && (xs.zip ys).all (fun (x, y) => x.sameValue y) && a.2 == b.2

/-- The title line of the benchmark. -/
def Plan.title (p : Plan) : String := "Top-k of " ++ p.shape.text ++ ": " ++ p.config.text

/-- The row of an algorithm from its engine and outputs. -/
def rowOf (e : Engine) (out reference : Storage × Array Int) : Row :=
  { algorithm := e.algorithm.text, kernel := e.usesKernel, dims := e.dims,
    agrees := sameOutputs out reference }

/-- The stop of a benchmark that times zero runs: the time per run divides by zero. -/
def zeroRuns : Failure :=
  .stop { message := "runtime error: integer divide by zero", fault := true }

/-- Runs one algorithm: its row. -/
def Plan.row (h : Host) (p : Plan) (input : Storage) (reference : Storage × Array Int)
    (a : Algorithm) : Except Failure Row := do
  let (e, out) ← p.execute h p.options { p.config with algorithm := a } input p.runs
  if p.runs = 0 then throw zeroRuns
  return rowOf e out reference

/-- The outputs of the reference run: the `heap` algorithm with the reference implementation. -/
def Plan.reference (h : Host) (p : Plan) (input : Storage) :
    Except Failure (Storage × Array Int) := do
  let (_, out) ← p.execute h (p.options ++ ",reference") { p.config with algorithm := .heap }
    input 1
  return out

/-- The plan of the arguments: the flags read and checked. -/
def setup (h : Host) (args : List String) : Except Failure Plan := do
  let flags ← (readFlags benchFlags args []).mapError .flags
  (flags.foldl Settings.set {}).plan h

/-- The benchmark of the arguments: its title and one row per algorithm. -/
def run (h : Host) (args : List String) : Except Failure (String × List Row) := do
  let p ← setup h args
  let input ← p.input
  let reference ← p.reference h input
  let rows ← p.algorithms.mapM (p.row h input reference)
  return (p.title, rows)

end Bench

end TensorSelect
