import TensorSelect.Text.Integer
import TensorSelect.Text.Quoted

/-!
# Command-line flags

The arguments of a command are read in order as flags: `-name=value` or `--name=value`, or
`-name value` for a flag that takes a value, or `-name` alone for a switch (a switch takes a value
only after `=`). Reading stops, without error, at the first argument that is no flag (one that
does not start with `-`, or `-` alone), and after `--`. A later flag of the same name wins.

A name that starts with `-` or `=` is bad syntax; an unknown name fails, except that `help` and
`h` ask for help. Integer values are literals with an optional sign (none for unsigned flags), a
base prefix `0x`, `0o`, `0b` or `0`, and single underscores between digits; a value outside the
flag's range fails differently from one that is no integer. Switch values are truth values.
-/

namespace TensorSelect

namespace Bench

/-- The kinds of value a flag takes. -/
inductive FlagKind
  | text
  | integer
  | unsigned
  | switch
  deriving DecidableEq, Repr, Inhabited

/-- A flag a command knows: its name and kind, and for the usage listing what it does and the
text of its default value. -/
structure FlagSpec where
  name : String
  kind : FlagKind
  usage : String := ""
  defaultText : String := ""
  deriving DecidableEq, Repr, Inhabited

/-- The value given to a flag. -/
inductive FlagValue
  | text (s : String)
  | integer (n : Int)
  | switch (b : Bool)
  deriving DecidableEq, Repr, Inhabited

/-- Why reading the flags fails. -/
inductive FlagError
  /-- A name the command does not know. -/
  | undefined (name : String)
  /-- A request for help. -/
  | help
  /-- An argument that starts like a flag but is none. -/
  | badSyntax (arg : String)
  /-- A flag that takes a value, last among the arguments. -/
  | missingValue (name : String)
  /-- A value that is no integer, or (`outOfRange`) one outside the flag's range. -/
  | badValue (value name : String) (outOfRange : Bool)
  /-- A switch value that is no truth value. -/
  | badSwitch (value name : String)
  deriving DecidableEq, Repr, Inhabited

/-- The message of a failure to read the flags. -/
def FlagError.message : FlagError → String
  | .undefined n => "flag provided but not defined: -" ++ n
  | .help => "flag: help requested"
  | .badSyntax a => "bad flag syntax: " ++ a
  | .missingValue n => "flag needs an argument: -" ++ n
  | .badValue v n r =>
    "invalid value " ++ Text.quote v ++ " for flag -" ++ n ++ ": " ++
      (if r then "value out of range" else "parse error")
  | .badSwitch v n => "invalid boolean value " ++ Text.quote v ++ " for -" ++ n ++ ": parse error"

/-- The word that names the value of a flag kind in the usage listing; a switch has none. -/
def FlagKind.word : FlagKind → String
  | .text => "string"
  | .integer => "int"
  | .unsigned => "uint"
  | .switch => ""

/-- The text of the zero value of a flag kind: a default of that text goes unmentioned. -/
def FlagKind.zeroText : FlagKind → String
  | .text => ""
  | .integer | .unsigned => "0"
  | .switch => "false"

/-- The entry of a flag in the usage listing: the flag and its value word, then on a line of its
own (on the same line for a one-letter switch) what it does and any default that is not zero. -/
def FlagSpec.usageEntry (f : FlagSpec) : String :=
  let head := "  -" ++ f.name ++ (if f.kind.word.isEmpty then "" else " " ++ f.kind.word)
  let default :=
    if f.defaultText == f.kind.zeroText then ""
    else if f.kind == .text then " (default " ++ Text.quote f.defaultText ++ ")"
    else " (default " ++ f.defaultText ++ ")"
  head ++ (if head.length ≤ 4 then "\t" else "\n    \t") ++
    "\n    \t".intercalate (f.usage.splitOn "\n") ++ default ++ "\n"

/-- The usage listing of a command: its name, then every flag in the order of names. -/
def usageText (command : String) (specs : List FlagSpec) : String :=
  "Usage of " ++ command ++ ":\n" ++
    String.join ((specs.mergeSort fun a b => decide (a.name ≤ b.name)).map FlagSpec.usageEntry)

/-- Reads the value of a flag of a kind. -/
def readValue (name : String) (kind : FlagKind) (v : String) : Except FlagError FlagValue :=
  match kind with
  | .text => .ok (.text v)
  | .switch =>
    match Text.readBool? v with
    | some b => .ok (.switch b)
    | none => .error (.badSwitch v name)
  | .integer | .unsigned =>
    match Text.readLiteral (kind == .integer) v with
    | .ok x => .ok (.integer x)
    | .error e => .error (.badValue v name (e == .outOfRange))

/-- The name of a flag argument and the value after its first `=`, if any. -/
def splitFlag (body : List Char) : String × Option String :=
  match body.dropWhile (· != '=') with
  | [] => (String.ofList body, none)
  | _ :: v => (String.ofList (body.takeWhile (· != '=')), some (String.ofList v))

/-- Reads the flags at the front of the arguments, appending each flag read to `acc`. -/
def readFlags (specs : List FlagSpec) (args : List String) (acc : List (String × FlagValue)) :
    Except FlagError (List (String × FlagValue)) :=
  match args with
  | [] => .ok acc
  | a :: rest =>
    match a.toList with
    | '-' :: c :: more =>
      let body := if c == '-' then more else c :: more
      if c == '-' && more.isEmpty then .ok acc
      else if body.head? == some '-' || body.head? == some '=' || body.isEmpty then
        .error (.badSyntax a)
      else
        let (name, value?) := splitFlag body
        match specs.find? (·.name == name) with
        | none => .error (if name == "help" || name == "h" then .help else .undefined name)
        | some spec =>
          match spec.kind, value? with
          | .switch, none => readFlags specs rest (acc ++ [(name, .switch true)])
          | _, some v => do
            let x ← readValue name spec.kind v
            readFlags specs rest (acc ++ [(name, x)])
          | _, none =>
            match rest with
            | v :: rest' => do
              let x ← readValue name spec.kind v
              readFlags specs rest' (acc ++ [(name, x)])
            | [] => .error (.missingValue name)
    | _ => .ok acc
termination_by args.length

end Bench

end TensorSelect
