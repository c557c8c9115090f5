import TensorSelect.Layout.Dims
import TensorSelect.Text.Table
import TensorSelect.Text.Duration
import TensorSelect.Text.Metric

/-!
# Benchmark reports

A benchmark runs the engine once per algorithm and compares each output with that of the
reference implementation. Each algorithm gives a `Row`: the algorithm the engine ran, whether a
specialised kernel ran it, the addressing of the input, and whether the outputs equal the
reference. A timed row (`Timed`) adds the time per run and the elements per second.

`Timed.report` draws the rows as a boxed table; `fastestMatch` picks the fastest row whose
outputs equal the reference (the first of equal ones), or `-1` when none does.
-/

namespace TensorSelect

namespace Bench

open Text

/-- The outcome of one benchmarked algorithm. -/
structure Row where
  algorithm : String
  kernel : Bool
  dims : Dims
  agrees : Bool
  deriving Repr, Inhabited

/-- A row with its timing: nanoseconds per run, and elements per second as a binary64 word. -/
structure Timed where
  row : Row
  perRun : Int
  rate : Nat
  deriving Repr, Inhabited

/-- Elements per second as a binary64 word, for `size` elements in `perRun` nanoseconds, as the
host's floating-point arithmetic gives it: the seconds are the whole seconds plus the fraction
(`perRun mod 10⁹` over `10⁹`, rounded), rounded, and the rate is `size` over the seconds,
rounded; no time at all gives infinity. -/
def ratePerSecond (size perRun : Nat) : Nat :=
  let f := Float.Format.binary64
  let (_, m, q) := f.decode (f.round false (perRun % 1000000000) 1000000000)
  let (a, b) := Float.Format.powTwo q
  let (_, m, q) := f.decode (f.round false (perRun / 1000000000 * b + m * a) b)
  if m = 0 then f.inf false
  else
    let (a, b) := Float.Format.powTwo q
    f.round false (size * b) (m * a)

/-- The headers of the cells of a row. -/
def rowHeaders : List String :=
  ["algorithm", "implementation", "dims", "innermost", "matches reference"]

/-- The cells of a row, in the order of `rowHeaders`. -/
def Row.cells (r : Row) : List String :=
  [r.algorithm, if r.kernel then "kernel" else "reference", r.dims.text, toString r.dims.innermost,
   if r.agrees then "yes" else "NO"]

/-- The columns of the report. -/
def columns : List Column :=
  [⟨"algorithm", .left⟩, ⟨"implementation", .left⟩, ⟨"dims", .left⟩, ⟨"innermost", .center⟩,
   ⟨"time/run", .right⟩, ⟨"elements/s", .right⟩, ⟨"matches reference", .center⟩]

/-- The cells of a timed row, in the order of `columns`. -/
def Timed.cells (t : Timed) : List String :=
  let c := t.row.cells
  c.take 4 ++ [durationText t.perRun, metricText 2 t.rate] ++ c.drop 4

/-- The index of the fastest row that matches the reference, the first of equally fast ones; `-1`
when no row matches. -/
def fastestMatch (ts : List Timed) : Int :=
  (ts.zipIdx.foldl (fun (best : Option (Nat × Int)) (t, i) =>
    if !t.row.agrees then best
    else match best with
      | some (_, time) => if t.perRun < time then some (i, t.perRun) else best
      | none => some (i, t.perRun)) none).elim (-1) fun (i, _) => (i : Int)

/-- The title of a report, padded by a blank line above and below and four blanks on either
side. -/
def titleBlock (title : String) : String :=
  let blank := String.ofList (List.replicate (displayWidth title + 8) ' ')
  blank ++ "\n    " ++ title ++ "    \n" ++ blank

/-- The table of the timed rows. -/
def report (ts : List Timed) : String := renderTable columns (ts.map Timed.cells)

end Bench

end TensorSelect
