/-!
# Kinds of failure

Operations that can fail return an error value of their own domain (`Layout.Error`,
`Select.Error`, …). Callers tell failures apart only by their kind: a layout the operation cannot
handle, buffers or shapes that do not fit, a failed specialisation, or an invalid configuration.
A failure of one of these four kinds closes its message with the kind's sentence; any other
failure is plain, and its message is its text alone. A failure met while doing a larger task is
reported with that task's words in front, and keeps its kind.
-/

namespace TensorSelect

/-- The kinds of failure that callers can tell apart. -/
inductive FailureKind
  | unsupportedLayout
  | shapeMismatch
  | kernelCompilation
  | configuration
  | plain
  deriving DecidableEq, Repr

namespace FailureKind

/-- The sentence that closes the message of a failure of each kind; plain failures have none. -/
def sentence? : FailureKind → Option String
  | unsupportedLayout => some "unsupported layout"
  | shapeMismatch => some "shape mismatch"
  | kernelCompilation => some "kernel compilation failed"
  | configuration => some "invalid top-k configuration"
  | plain => none

/-- A message closed by the sentence of its kind. -/
def close (k : FailureKind) (text : String) : String :=
  match k.sentence? with
  | some s => text ++ ": " ++ s
  | none => text

end FailureKind

/-- The message of a failure met while doing a task, with the task's words in front. -/
def inContext (task message : String) : String := task ++ ": " ++ message

end TensorSelect
