import TensorSelect.Bench.Run

/-!
# The benchmark command

`topk_bench` reads its flags, selects along an axis of a random tensor with each algorithm it
is given, and prints a title and a table: per algorithm the implementation, the addressing of the
input, the time per run, the elements per second, and whether the outputs equal the reference.

Everything it decides is `Bench.setup`, `Bench.Plan.engine` and `Bench.runOnce`; this module only
reads the environment, keeps the time of each run and prints. The engine options default to
`$TOPK_CONFIG`, and `$TOPK_NO_KERNELS` switches the specialised kernels off. The platform is taken
to have 32-byte vectors and 16 vector registers, and the runs follow one another on one core.

A failure prints `topk_bench failed: ` and its message on the error stream and exits with 1; a flag
that cannot be read prints its message and the usage listing and exits with 2 (`-help` prints the
listing and exits with 0).
-/

namespace TensorSelect

namespace Bench

open Select

/-- The host the command runs on: the options and the kernel switch come from the environment. -/
def commandHost : IO Host := do
  let optionText := (← IO.getEnv "TOPK_CONFIG").getD ""
  let kernelSwitch := (← IO.getEnv "TOPK_NO_KERNELS").getD ""
  return { platform := { name := "avx2", vectorBytes := 32, registers := 16 }, cores := 1,
           optionText, kernelSwitch }

/-- Prints a failure and gives the exit status 1. -/
def failWith (f : Failure) : IO UInt32 := do
  IO.eprintln ("topk_bench failed: " ++ f.message)
  return 1

/-- Runs a set-up engine `runs` times over the input, each run writing into the outputs of the
one before: the last outputs and the nanoseconds all runs took. -/
def timeRuns (e : Engine) (input : Storage) (zeros : Storage × Array Int) (runs : Nat) :
    IO (Except Failure (Storage × Array Int) × Nat) := do
  let mut out := zeros
  let mut elapsed := 0
  for _ in [0:runs] do
    let start ← IO.monoNanosNow
    let r ← IO.lazyPure fun _ => runOnce e input out
    let stop ← IO.monoNanosNow
    match r with
    | .error f => return (.error f, elapsed)
    | .ok o =>
      out := o
      elapsed := elapsed + (stop - start)
  return (.ok out, elapsed)

/-- Times every algorithm of a plan after the reference run, and prints the report. -/
def benchmark (h : Host) (p : Plan) (input : Storage) (reference : Storage × Array Int) :
    IO UInt32 := do
  IO.println (titleBlock p.title)
  let mut rows : Array Timed := #[]
  for a in p.algorithms do
    match p.engine h p.options { p.config with algorithm := a } with
    | .error f => return ← failWith f
    | .ok (e, zeros) =>
      let (r, elapsed) ← timeRuns e input zeros p.runs.toNat
      match r with
      | .error f => return ← failWith f
      | .ok out =>
        if p.runs = 0 then
          IO.eprintln ("panic: " ++ zeroRuns.message)
          return 2
        let perRun := (elapsed : Int).tdiv p.runs
        rows := rows.push { row := rowOf e out reference, perRun,
                            rate := ratePerSecond p.shape.size.toNat perRun.toNat }
  IO.println (report rows.toList)
  return 0

end Bench

end TensorSelect

open TensorSelect Bench Select in
/-- Runs the benchmark command on its arguments. -/
def main (args : List String) : IO UInt32 := do
  let h ← commandHost
  match setup h args with
  | .error (.flags .help) =>
    IO.eprint (usageText "topk_bench" benchFlags)
    return 0
  | .error (.flags e) =>
    IO.eprintln e.message
    IO.eprint (usageText "topk_bench" benchFlags)
    return 2
  | .error f => failWith f
  | .ok p =>
    match p.input.bind fun input => (p.reference h input).map fun r => (input, r) with
    | .error f => failWith f
    | .ok (input, reference) => benchmark h p input reference
