import TensorSelect.Select.Plan
import TensorSelect.Select.Sweep
import TensorSelect.Select.Tables
import TensorSelect.Element.Storage
import TensorSelect.Pool

/-!
# The selection engine

An `Engine` runs one selection at a time. Its requests change its state in place, as `EStateM`
actions: what a request changes before it fails stays changed. A request fails in two ways
(`RunError`): a check fails, and the request returns its error; or an operation stops, such as
making data larger than one allocation may take.

1. `configure` takes the settings and a shape that may have dynamic dimensions. It clears the
   engine first (unconfigured, unprepared, no tables), so a failed configuration leaves it
   unconfigured; it then checks settings and shape (`checkSetup`) and that `k` fits a static
   axis, chooses the algorithm (`choose`), and whether the kernel specialised for the element type
   can run it. A static shape is prepared at once.
2. `prepare` fixes the concrete shape of the next runs: it must be static, fit the configured
   shape, have no empty axis and an axis of at least `k`. It derives the addressing of input and
   output, finds the tables of the shape (the current ones, cached ones, or new ones, which join
   the cache), and makes sure that the scratch buffer of every worker serves the shape. All its
   checks come before its first change. Building the tables may stop, before any change; making
   the scratch buffers may stop too, once the tables found are the engine's.
3. `execute` reads the engine and changes the output buffers: it checks the element types and
   lengths of its arguments before it writes anything, and then runs the selection over every
   work item on the engine's pool (`Pool.sweep`). It first makes the call arguments of every
   worker, 184 bytes each, which stops for too many workers; the pool stops before the first unit
   when it cannot start its workers, and otherwise hands the units out in the order `Spread.order`
   (`Sweep.runSpread`). Every call takes the input and the values as slices of the element
   type: an argument that passed the checks without being one (a `[]int`, a slice of a named
   type, a single element) stops the first call. When the pool's shared counter wraps, the run
   ends with the unit it wraps to (`RunError.wrapped`).

Fields that a failed `configure` does not reach keep their values: the engine still reports the
algorithm and implementation chosen last.
-/

namespace TensorSelect

namespace Select

/-- An argument given to a run: a buffer, a single element, a slice of the host's integers
(`[]int`), a slice of a named type over the slices of an element type (such as
`type S []float32`), nothing, or a buffer of texts. Only the length of the last three matters. -/
inductive Operand
  | buffer (s : Storage)
  | element (x : Scalar)
  | ints (n : Nat)
  | named (name : String) (t : ElemType) (n : Nat)
  | nothing
  | texts (n : Nat)
  deriving Repr, Inhabited

namespace Operand

/-- The element type of an argument, read off its type: that of its elements for a slice (the
host's integers are 64-bit, and a named slice type has the type of its elements), that of a
single element, and invalid for nothing or texts. -/
def dtype : Operand → DType
  | buffer s => s.elemType.toDType
  | element x => x.elemType.toDType
  | ints _ => ElemType.int64.toDType
  | named _ t _ => t.toDType
  | nothing | texts _ => DType.invalid

/-- The name of an argument's type, as messages show it. -/
def description : Operand → String
  | buffer s => "[]" ++ s.elemType.hostName
  | element x => x.elemType.hostName
  | ints _ => "[]int"
  | named name _ _ => name
  | nothing => "<nil>"
  | texts _ => "[]string"

/-- The length of an argument, `-1` for one that is no slice. -/
def length : Operand → Int
  | buffer s => s.size
  | ints n | named _ _ n | texts n => n
  | element _ | nothing => -1

end Operand

/-- Whether a specialised kernel runs a selection of an element type in a layout: kernels must
not be switched off by the options or the host, the type must have one (every integer type and
the 32- and 64-bit floats), and a block of a blocked layout must fit the platform's budget. The
bytes of a block are a machine integer: a block size of `2^61` lanes of four bytes wraps to
`-2^63` bytes, which fits. -/
def kernelRuns (h : Host) (o : Options) (d : DType) (t : Tag) : Bool :=
  match d.elemType? with
  | none => false
  | some ty =>
    !o.reference && !h.kernelsOff && ty != .bool && ty != .float16 && ty != .bfloat16 &&
      (!t.isBlocked || wrapWord (t.blockSize * ty.byteSize) ≤ h.platform.blockBudget)

/-- Why a request ends early: a check fails, or an operation stops, or, in a run, the pool's
shared counter wraps and hands a worker the unit `-2^31 - 1`, which the run has then made and
past which it is not followed. -/
inductive RunError
  | check (e : Error)
  | stop (p : Panic)
  | wrapped
  deriving Repr, Inhabited

/-- The state of a selection engine. -/
structure Engine where
  host : Host
  options : Options
  configured : Bool := false
  config : Config := { k := 0, stable := false }
  /-- The configured shape, possibly with dynamic dimensions. -/
  shape : Shape := ⟨DType.invalid, []⟩
  /-- The axis of the selection, counted from the front. -/
  axis : Nat := 0
  algorithm : Algorithm := .auto
  inPlace : Bool := false
  usesKernel : Bool := false
  prepared : Bool := false
  /-- The concrete shape of the next runs. -/
  current : Shape := ⟨DType.invalid, []⟩
  dims : Dims := default
  outDims : Dims := default
  /-- The tables of the prepared shape. -/
  tables : Option Tables := none
  /-- Every table built since the engine was last configured. -/
  tablesCache : List Tables := []
  /-- The scratch buffer of each worker. -/
  scratch : List Scratch := []
  deriving Repr, Inhabited

namespace Engine

/-- An engine with the options of an option text. -/
def create (h : Host) (config : String) : Except Error Engine :=
  (Options.parse h config).map fun o => { host := h, options := o }

/-- An engine with the options of the host's default option text. -/
def ofHost (h : Host) : Except Error Engine :=
  (Options.ofHost h).map fun o => { host := h, options := o }

/-- The worker pool of an engine, limited by the parallelism of its options. -/
def pool (e : Engine) : Pool := ⟨e.options.parallelism, e.host.cores⟩

/-- The number of work items of one call under an addressing: the lanes of a block for the
kernel, one for the reference. -/
def workAmount (e : Engine) (d : Dims) : Int := if e.usesKernel then d.lanes else 1

/-- The checks of `prepare` for a shape other than the prepared one, in order, and the addressing
of the shape when they all pass. -/
def checkPrepare (e : Engine) (s : Shape) : Except Error Dims := do
  if !s.isStatic then throw (.notConcrete s)
  if !e.shape.fits s then throw (.shapeDiffers s e.shape)
  if let some a := s.dims.findIdx? (· < 1) then throw (.emptyAxis s a)
  let axisLen := s.dims.getD e.axis 0
  if e.config.k > axisLen then throw (.kExceedsAxis e.config.k e.axis axisLen s)
  (Layout.resolve s e.axis e.config.layout).mapError fun err => .preparing s (.layout err)

/-- The key of the tables of a shape, under its addressing. -/
def tablesKey (e : Engine) (s : Shape) (dims : Dims) : TablesKey :=
  ⟨s.dims.getD e.axis 0, e.config.k, e.algorithm == .bitonic, e.config.sortBy == .index,
    e.workAmount dims⟩

/-- The positions of a worker's scratch buffer for tables under an addressing: the positions of
a unit times its lanes, a machine integer. -/
def scratchSize (e : Engine) (t : Tables) (dims : Dims) : Int :=
  wrapWord (t.scratchPositions * e.workAmount dims)

/-- The engine holding the tables found for a shape, with the cache after finding them. -/
def withTables (e : Engine) (found : Tables × List Tables) : Engine :=
  { e with tables := some found.1, tablesCache := found.2 }

/-- The engine prepared for a shape and its addressing, with its workers' scratch buffers. -/
def settle (e : Engine) (s : Shape) (dims : Dims) (scratch : List Scratch) : Engine :=
  { e with scratch, current := s, dims, outDims := dims.withAxis e.config.k, prepared := true }

/-- Prepares the engine for a checked shape and its addressing: the tables of the shape found or
built, which the engine then holds, the scratch buffer of every worker made to serve them, and
the shape and the addressing of input and output recorded. Building the tables stops before any
change, making the buffers once the engine holds the tables. -/
def commit (s : Shape) (dims : Dims) : EStateM RunError Engine Unit := do
  let e ← get
  match Tables.find e.tables e.tablesCache (e.tablesKey s dims) with
  | .error p => throw (.stop p)
  | .ok found =>
    let e := e.withTables found
    set e
    match ensureScratch e.scratch e.pool.workers s.dtype (e.scratchSize found.1 dims) with
    | .error p => throw (.stop p)
    | .ok scratch => set (e.settle s dims scratch)

/-- Fixes the concrete shape of the next runs. Every check comes before the first change. -/
def prepare (s : Shape) : EStateM RunError Engine Unit := do
  let e ← get
  if !e.configured then throw (.check .notConfigured)
  if e.prepared && s == e.current then return
  match e.checkPrepare s with
  | .ok dims => commit s dims
  | .error err => throw (.check err)

/-- The settings and the shape checked, and `k` against the axis when its dimension is known;
the axis counted from the front. -/
def checkSetup (c : Config) (s : Shape) : Except Error Nat := do
  c.validate.mapError (.configuring c)
  let a ← (checkShape s c.axis c.layout).mapError (.configuring c)
  let axisLen := s.dims.getD a 0
  if axisLen != dynamicDim && c.k > axisLen then throw (.kTooLarge c.k a axisLen s)
  return a

/-- The engine cleared of its configuration: unconfigured, unprepared, without tables. -/
def reset (e : Engine) : Engine :=
  { e with configured := false, prepared := false, tables := none, tablesCache := [] }

/-- The engine configured for checked settings and shape, along axis `a`: the algorithm chosen
for the axis, and whether the kernel of the element type runs it. -/
def install (e : Engine) (c : Config) (s : Shape) (a : Nat) : Engine :=
  let axisLen := s.dims.getD a 0
  let chosen := choose c axisLen (axisLen != dynamicDim) e.options
  { e with config := c, shape := s, axis := a, algorithm := chosen.1, inPlace := chosen.2,
           usesKernel := kernelRuns e.host e.options s.dtype c.layout, configured := true }

/-- Configures the engine for a selection over tensors of a shape. -/
def configure (c : Config) (s : Shape) : EStateM RunError Engine Unit := do
  modify reset
  match checkSetup c s with
  | .error err => throw (.check err)
  | .ok a =>
    modify fun e => e.install c s a
    if s.isStatic then prepare s

section Steps

variable (e : Engine) (c : Config) (s : Shape) (a : Nat) (d : Dims) (found : Tables × List Tables)
  (scratch : List Scratch)

@[simp]
theorem configured_reset : e.reset.configured = false := rfl

@[simp]
theorem prepared_reset : e.reset.prepared = false := rfl

@[simp]
theorem configured_install : (e.install c s a).configured = true := rfl

@[simp]
theorem prepared_install : (e.install c s a).prepared = e.prepared := rfl

@[simp]
theorem config_install : (e.install c s a).config = c := rfl

@[simp]
theorem shape_install : (e.install c s a).shape = s := rfl

@[simp]
theorem axis_install : (e.install c s a).axis = a := rfl

@[simp]
theorem configured_withTables : (e.withTables found).configured = e.configured := rfl

@[simp]
theorem prepared_withTables : (e.withTables found).prepared = e.prepared := rfl

@[simp]
theorem scratch_withTables : (e.withTables found).scratch = e.scratch := rfl

@[simp]
theorem pool_withTables : (e.withTables found).pool = e.pool := rfl

@[simp]
theorem scratchSize_withTables : (e.withTables found).scratchSize = e.scratchSize := rfl

@[simp]
theorem configured_settle : (e.settle s d scratch).configured = e.configured := rfl

@[simp]
theorem prepared_settle : (e.settle s d scratch).prepared = true := rfl

@[simp]
theorem current_settle : (e.settle s d scratch).current = s := rfl

end Steps

/-- The shape of the outputs: the prepared shape, or else the configured one, with `k` along the
axis; the invalid shape when the engine is not configured. -/
def outputShape (e : Engine) : Shape :=
  if !e.configured then ⟨DType.invalid, []⟩
  else
    let s := if e.prepared then e.current else e.shape
    { s with dims := s.dims.set e.axis e.config.k }

/-- The text of the engine: its settings, shape, algorithm and implementation, and once prepared
the addressing of the input. -/
def text (e : Engine) : String :=
  if !e.configured then "topk.Engine(not configured)"
  else
    "topk.Engine(" ++ e.config.text ++ ", shape=" ++ e.shape.text ++ ", " ++ e.algorithm.text ++
      (if e.inPlace then "(in-place)" else "") ++ ", " ++
      (if e.usesKernel then "kernel" else "reference") ++
      (if e.prepared then ", " ++ e.dims.text else "") ++ ")"

/-- The run that the engine's state describes. -/
def sweep (e : Engine) : Sweep :=
  { dims := e.dims, outDims := e.outDims,
    method := { algorithm := e.algorithm, inPlace := e.inPlace,
                implementation := if e.usesKernel then .kernel else .reference,
                mode := e.config.mode, sortBy := e.config.sortBy, k := e.config.k.toNat,
                network := (e.tables.map (·.network)).getD default },
    lanes := (e.workAmount e.dims).toNat,
    labels := (e.tables.map fun t => t.indices.lane (e.workAmount e.dims)).getD #[] }

/-- Checks the arguments of a run: the engine prepared, then the element types, then the
lengths of input, values and indices. -/
def checkRun (e : Engine) (input values : Operand) (indices : Array Int) : Except Error Unit := do
  if !e.configured || !e.prepared then throw .notPrepared
  let d := e.current.dtype
  if input.dtype != d then throw (.inputType input.description input.dtype d)
  if values.dtype != d then throw (.valuesType values.description values.dtype d)
  let want := e.dims.physicalSize
  if input.length != want then
    throw (.inputLength input.length e.current e.config.layout want)
  let outSize := e.outDims.physicalSize
  if values.length != outSize then
    throw (.valuesLength values.length e.outputShape e.config.layout outSize)
  if (indices.size : Int) != outSize then
    throw (.indicesLength indices.size e.outputShape e.config.layout outSize)

/-- Runs a sweep over the arrays of an input and of the output values, from the given indices,
in the order a pool hands out its units: the outputs as the sweep leaves them, and its stop if it
stops. -/
def runArrays {α : Type} [Ranked α] [Inhabited α] (s : Sweep) (sp : Spread) (input values : Array α)
    (indices : Array Int) : Array α × Array Int × Option Panic :=
  match (s.runSpread input sp).run (values, indices) with
  | .ok () (vs, is) => (vs, is, none)
  | .error p (vs, is) => (vs, is, some p)

/-- The stop of a call that takes an argument as a slice of the engine's element type when it
is none. -/
def conversionStop (e : Engine) (arg : Operand) : Panic :=
  Panic.conversion arg.description
    ("[]" ++ (e.current.dtype.elemType?.map ElemType.hostName).getD "")

/-- Runs the selection over an input, changing the output values and indices: the arguments are
checked first, and nothing is written when a check fails. The call arguments of the workers,
`184` bytes each, are made next. The units then go to the engine's pool, which stops before any
of them runs when it cannot start its workers, and otherwise hands them out in order. Every call
takes the input and then the values as slices of the element type, so an argument that passed
the checks without being one stops the first call. -/
def execute (e : Engine) (input : Operand) : EStateM RunError (Operand × Array Int) Unit := do
  let (values, indices) ← get
  if let .error err := e.checkRun input values indices then throw (.check err)
  if let .error p := Panic.checkMake e.pool.workers 184 then throw (.stop p)
  match e.pool.sweep e.sweep.unitCount e.options.minParallelUnits with
  | .error p => throw (.stop p)
  | .ok .idle => pure ()
  | .ok sp =>
    match input, values with
    | .buffer i, .buffer v =>
      match Storage.zipRanked (fun is vs => runArrays e.sweep sp is vs indices) i v with
      | some (v', is', stop) =>
        set (Operand.buffer v', is')
        if let some p := stop then throw (.stop p)
        if sp.wraps then throw .wrapped
      | none => pure ()
    | .buffer _, _ => throw (.stop (e.conversionStop values))
    | _, _ => throw (.stop (e.conversionStop input))

end Engine

end Select

end TensorSelect
