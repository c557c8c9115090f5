import TensorSelect.Select.Error

/-!
# Engine options and the host

The engine's options do not depend on one selection: the thresholds that choose an algorithm,
how many workers share a run, and whether the reference implementation is forced.

Their defaults come from the `Host`: the vector unit of its `Platform` bounds the `k` for which
the in-place bubble keeps its buffer in registers (`Platform.defaultBubbleMaxK`, half of the
registers less two, at least one), and the number of cores gives the default parallelism. The host
also carries the two settings read from its environment: the default option text, and a switch
that turns the specialised kernels off.

`Options.parse` reads a comma-separated list of `key=value` items (blank items are skipped, and
blanks around keys and values ignored), starting from the defaults; the last item of a key wins.
`Options.text` writes the options back in that format.
-/

namespace TensorSelect

namespace Select

/-- The vector unit of a processor, as far as the kernels are concerned. -/
structure Platform where
  name : String
  /-- The width of the widest vector register. -/
  vectorBytes : Int
  /-- The number of vector registers available to a kernel. -/
  registers : Int
  deriving DecidableEq, Repr, Inhabited

namespace Platform

/-- The largest block, in bytes, that a kernel handles on a blocked layout: four registers, as a
machine integer. -/
def blockBudget (p : Platform) : Int := wrapWord (4 * p.vectorBytes)

/-- The largest `k` for which the in-place bubble keeps its buffer in registers: half the
registers hold values and the other half indices, less two for the element being inserted. -/
def defaultBubbleMaxK (p : Platform) : Int := max (p.registers.tdiv 2 - 2) 1

end Platform

/-- The machine the engine runs on, and the settings read from its environment. -/
structure Host where
  platform : Platform
  /-- The number of processor cores. -/
  cores : Nat
  /-- The default option text. -/
  optionText : String := ""
  /-- The switch that turns the kernels off: any text but empty or `0` does. -/
  kernelSwitch : String := ""
  deriving DecidableEq, Repr, Inhabited

/-- Whether the host's switch turns the kernels off. -/
def Host.kernelsOff (h : Host) : Bool := h.kernelSwitch != "" && h.kernelSwitch != "0"

/-- The options of an engine. -/
structure Options where
  /-- The longest axis for which bubble is chosen over bitonic. -/
  bubbleMaxAxis : Int
  /-- The largest `k` for which bubble is chosen whatever the axis, and the in-place bubble used. -/
  bubbleMaxK : Int
  /-- The number of workers of a run: 0 runs inline, -1 means one per core. -/
  parallelism : Int
  /-- The fewest work units for which a run is shared among workers. -/
  minParallelUnits : Int
  /-- Whether the reference implementation is forced. -/
  reference : Bool := false
  deriving DecidableEq, Repr, Inhabited

namespace Options

/-- The default options of a host. -/
def default (h : Host) : Options :=
  { bubbleMaxAxis := 32, bubbleMaxK := h.platform.defaultBubbleMaxK,
    parallelism := h.cores, minParallelUnits := 16 }

/-- Reads the integer value of an option that has a least value. -/
def readCount (key value : String) (least : Int) : Except Error Int :=
  match Text.readDecimal? value with
  | none => .error (.optionNotInteger key value)
  | some v => if v < least then .error (.optionTooSmall key least v) else .ok v

/-- A key and, after the first `=`, its value, both without surrounding blanks. -/
def splitItem (item : String) : String × Option String :=
  let cs := item.toList
  let key := Text.trimBlanks (String.ofList (cs.takeWhile (· != '=')))
  match cs.dropWhile (· != '=') with
  | [] => (key, none)
  | _ :: value => (key, some (Text.trimBlanks (String.ofList value)))

/-- Sets the option `key` to `value?`, which is `none` for an item without `=`; `config` is the
whole option text, which the failure of an unknown key shows. -/
def assign (config : String) (o : Options) (key : String) (value? : Option String) :
    Except Error Options :=
  let value := value?.getD ""
  match key with
  | "bubble_max_axis" => (readCount key value 1).map fun v => { o with bubbleMaxAxis := v }
  | "bubble_max_k" => (readCount key value 0).map fun v => { o with bubbleMaxK := v }
  | "parallelism" => (readCount key value (-1)).map fun v => { o with parallelism := v }
  | "min_parallel_units" =>
    (readCount key value 0).map fun v => { o with minParallelUnits := v }
  | "reference" =>
    match value? with
    | none => .ok { o with reference := true }
    | some v =>
      match Text.readBool? v with
      | some b => .ok { o with reference := b }
      | none => .error (.optionNotBool key v)
  | _ => .error (.unknownOption key config)

/-- Applies one item of the option text `config` to the options. -/
def setItem (config : String) (o : Options) (item : String) : Except Error Options :=
  let item := Text.trimBlanks item
  if item.isEmpty then .ok o
  else
    let (key, value?) := splitItem item
    assign config o key value?

/-- The items of an option text: the pieces between its commas. -/
def items (config : String) : List String := (config.toList.splitOn ',').map String.ofList

/-- Reads an option text, starting from the host's defaults. -/
def parse (h : Host) (config : String) : Except Error Options :=
  (items config).foldlM (setItem config) (default h)

/-- The options in the format that `parse` reads. -/
def text (o : Options) : String :=
  "bubble_max_axis=" ++ toString o.bubbleMaxAxis ++ ",bubble_max_k=" ++ toString o.bubbleMaxK ++
    ",parallelism=" ++ toString o.parallelism ++ ",min_parallel_units=" ++
    toString o.minParallelUnits ++ (if o.reference then ",reference" else "")

/-- The options of the host's default option text; a failure names that text. -/
def ofHost (h : Host) : Except Error Options :=
  (parse h h.optionText).mapError (.readingEnv h.optionText)

end Options

end Select

end TensorSelect
