import TensorSelect.Text.Grapheme

/-!
# Cells of a terminal line

How many cells of a terminal a text takes (`displayWidth`). A terminal reads the text's UTF-8
octets through a parser of control sequences (ECMA-48, as DEC terminals run it): printable ASCII
takes one cell each, and the C0 and C1 controls, the escape sequences, the control sequences
(`CSI`), the device control strings (`DCS`) and the operating-system commands (`OSC`, such as
hyperlinks) take none. A character of several octets met outside a control string starts a
grapheme cluster, whose cells `firstCluster` gives; the parser is back in its ground state after
it. The text read so is a list of `Piece`s, and its width the sum of theirs.

Octets are natural numbers. The parser's states are `Parse`; `Parse.step` gives what one octet
does. Each state has its own octets, and the octets below apply in every state that does not
claim them:

* `CAN` and `SUB` (`0x18`, `0x1A`) cancel a sequence, `ESC` (`0x1B`) starts one;
* the C1 controls `0x80`–`0x9F` are controls, and those that introduce a sequence start it
  (`DCS 0x90`, `SOS 0x98`, `CSI 0x9B`, `OSC 0x9D`, `PM 0x9E`, `APC 0x9F`);
* the first octet of a character of two to four octets (`0xC2`–`0xF4`) starts a character.

An operating-system command and a device control string take every octet up to their end,
those of longer characters included, so a character there takes no cell; a `0x9C` octet (the
string terminator) inside such a character ends the string.
-/

namespace TensorSelect.Text

/-- Where the parser of control sequences stands. -/
inductive Parse
  /-- Between sequences: printable octets show. -/
  | ground
  /-- After `ESC`. -/
  | escape
  /-- After `ESC` and intermediate octets. -/
  | escapeIntermediate
  /-- After `CSI`. -/
  | csiEntry
  /-- In the parameters of a control sequence. -/
  | csiParam
  /-- In the intermediate octets of a control sequence. -/
  | csiIntermediate
  /-- After `DCS`. -/
  | dcsEntry
  /-- In the parameters of a device control string. -/
  | dcsParam
  /-- In the intermediate octets of a device control string. -/
  | dcsIntermediate
  /-- In the data of a device control string. -/
  | dcsString
  /-- In an operating-system command. -/
  | oscString
  /-- In a start-of-string string. -/
  | sosString
  /-- In a privacy message. -/
  | pmString
  /-- In an application program command. -/
  | apcString
  deriving DecidableEq, Repr, Inhabited

/-- What an octet is to a reader of the text. -/
inductive Act
  /-- It shows in one cell. -/
  | shows
  /-- A control that acts at once and takes no cell. -/
  | control
  /-- Part of a sequence, or ignored; it takes no cell. -/
  | quiet
  deriving DecidableEq, Repr, Inhabited

/-- What an octet does. -/
inductive Step
  /-- The parser moves to a state. -/
  | move (s : Parse) (act : Act)
  /-- The octet starts a character of several octets, to be read as a grapheme cluster. -/
  | character
  deriving DecidableEq, Repr, Inhabited

namespace Parse

/-- The C0 controls a sequence keeps going through: all below `0x20` but `CAN`, `SUB` and
`ESC`. -/
def isKeptControl (b : Nat) : Bool := b ≤ 0x17 || b == 0x19 || (0x1C ≤ b && b ≤ 0x1F)

/-- Whether `lo ≤ b ≤ hi`. -/
def within (lo hi b : Nat) : Bool := lo ≤ b && b ≤ hi

/-- What an octet does in every state that does not claim it, if anything: `CAN`, `SUB` and the
plain C1 controls act and return to the ground state. -/
def anywhere (b : Nat) : Option Step :=
  if b == 0x18 || b == 0x1A then some (.move .ground .control)
  else if b == 0x1B then some (.move .escape .quiet)
  else if b == 0x90 then some (.move .dcsEntry .quiet)
  else if b == 0x98 then some (.move .sosString .quiet)
  else if b == 0x9B then some (.move .csiEntry .quiet)
  else if b == 0x9D then some (.move .oscString .quiet)
  else if b == 0x9E then some (.move .pmString .quiet)
  else if b == 0x9F then some (.move .apcString .quiet)
  else if within 0x80 0x9F b then some (.move .ground .control)
  else if within 0xC2 0xF4 b then some .character
  else none

/-- A move that reads a C0 control as acting at once. -/
def acting (s : Parse) : Parse × Act := (s, .control)

/-- A move that reads its octet as part of a sequence. -/
def quietly (s : Parse) : Parse × Act := (s, .quiet)

/-- What an octet does in a state that claims it, if the state does. -/
def claimed (s : Parse) (b : Nat) : Option (Parse × Act) :=
  match s with
  | ground =>
    if isKeptControl b || b == 0x7F then some (acting ground)
    else if within 0x20 0x7E b then some (ground, .shows)
    else none
  | escape =>
    if isKeptControl b then some (acting escape)
    else if b == 0x7F then some (quietly escape)
    else if within 0x20 0x2F b then some (quietly escapeIntermediate)
    else if b == 0x50 then some (quietly dcsEntry)
    else if b == 0x58 then some (quietly sosString)
    else if b == 0x5B then some (quietly csiEntry)
    else if b == 0x5D then some (quietly oscString)
    else if b == 0x5E then some (quietly pmString)
    else if b == 0x5F then some (quietly apcString)
    else if within 0x30 0x7E b then some (quietly ground)
    else none
  | escapeIntermediate =>
    if isKeptControl b then some (acting escapeIntermediate)
    else if within 0x20 0x2F b || b == 0x7F then some (quietly escapeIntermediate)
    else if within 0x30 0x7E b then some (quietly ground)
    else none
  | csiEntry =>
    if isKeptControl b then some (acting csiEntry)
    else if b == 0x7F then some (quietly csiEntry)
    else if within 0x20 0x2F b then some (quietly csiIntermediate)
    else if within 0x30 0x3F b then some (quietly csiParam)
    else if within 0x40 0x7E b then some (quietly ground)
    else none
  | csiParam =>
    if isKeptControl b then some (acting csiParam)
    else if within 0x30 0x3F b || b == 0x7F then some (quietly csiParam)
    else if within 0x20 0x2F b then some (quietly csiIntermediate)
    else if within 0x40 0x7E b then some (quietly ground)
    else none
  | csiIntermediate =>
    if isKeptControl b then some (acting csiIntermediate)
    else if within 0x20 0x2F b || b == 0x7F then some (quietly csiIntermediate)
    else if within 0x30 0x7E b then some (quietly ground)
    else none
  | dcsEntry =>
    if within 0x08 0x0D b || b == 0x1B || within 0x40 0x7E b then some (quietly dcsString)
    else if isKeptControl b || b == 0x7F then some (quietly dcsEntry)
    else if within 0x20 0x2F b then some (quietly dcsIntermediate)
    else if within 0x30 0x3F b then some (quietly dcsParam)
    else none
  | dcsParam =>
    if isKeptControl b || within 0x30 0x3F b || b == 0x7F then some (quietly dcsParam)
    else if within 0x20 0x2F b then some (quietly dcsIntermediate)
    else if within 0x40 0x7E b then some (quietly dcsString)
    else none
  | dcsIntermediate =>
    if isKeptControl b || within 0x20 0x2F b || b == 0x7F then some (quietly dcsIntermediate)
    else if within 0x30 0x7E b then some (quietly dcsString)
    else none
  | dcsString =>
    if b == 0x1B then some (quietly escape)
    else if b == 0x9C || b == 0x18 || b == 0x1A then some (quietly ground)
    else some (quietly dcsString)
  | oscString =>
    if b == 0x1B then some (quietly escape)
    else if b == 0x07 || b == 0x9C || b == 0x18 || b == 0x1A then some (quietly ground)
    else some (quietly oscString)
  | sosString | pmString | apcString =>
    if b == 0x1B then some (quietly escape)
    else if b == 0x9C || b == 0x18 || b == 0x1A then some (quietly ground)
    else if isKeptControl b || within 0x20 0x7F b then some (quietly s)
    else none

/-- What an octet does in a state: the state's own rule, else the rule of every state, else a
return to the ground state. -/
def step (s : Parse) (b : Nat) : Step :=
  match claimed s b with
  | some (s', a) => .move s' a
  | none => (anywhere b).getD (.move ground .quiet)

/-- The state after the octets of a character that did not start a cluster. -/
def skipOctets (s : Parse) : List Nat → Parse
  | [] => s
  | b :: bs =>
    match step s b with
    | .move s' _ => skipOctets s' bs
    | .character => skipOctets ground bs

end Parse

/-- The UTF-8 octets of a character. -/
def octets (c : Char) : List Nat := (String.singleton c).toUTF8.toList.map UInt8.toNat

/-- A piece of a text as a terminal reads it. -/
inductive Piece
  /-- A printable ASCII character, in one cell. -/
  | ascii (c : Char)
  /-- A control character that acts at once, in no cell. -/
  | control (c : Char)
  /-- A character of a control sequence, in no cell. -/
  | quiet (c : Char)
  /-- A grapheme cluster and its cells. -/
  | cluster (cs : List Char) (cells : Nat)
  deriving DecidableEq, Repr, Inhabited

namespace Piece

/-- The cells a piece takes. -/
def cells : Piece → Nat
  | ascii _ => 1
  | cluster _ n => n
  | _ => 0

/-- The characters of a piece. -/
def chars : Piece → List Char
  | ascii c | control c | quiet c => [c]
  | cluster cs _ => cs

end Piece

/-- The pieces of the characters `cs` from parser state `s`. Each round takes at least one
character, so `fuel` at least the number of characters is enough. -/
def piecesFrom (fuel : Nat) (s : Parse) (cs : List Char) : List Piece :=
  match fuel, cs with
  | 0, _ => []
  | _, [] => []
  | fuel + 1, c :: rest =>
    match octets c with
    | [] => piecesFrom fuel s rest
    | b :: bs =>
      match s.step b with
      | .character =>
        let (cells, after) := firstCluster c rest
        .cluster ((c :: rest).take (rest.length + 1 - after.length)) cells ::
          piecesFrom fuel .ground after
      | .move s' a =>
        let p := match a with
          | .shows => Piece.ascii c
          | .control => .control c
          | .quiet => .quiet c
        p :: piecesFrom fuel (s'.skipOctets bs) rest

/-- The pieces of a text, read from the ground state. -/
def pieces (s : String) : List Piece := piecesFrom s.length .ground s.toList

/-- The cells of a terminal line that a text takes. -/
def displayWidth (s : String) : Nat := (pieces s).foldr (fun p n => p.cells + n) 0

/-- The text of pieces. -/
def textOf (ps : List Piece) : String := String.ofList (ps.flatMap Piece.chars)

end TensorSelect.Text
