import TensorSelect.Text.Cells
import TensorSelect.Text.Letters

/-!
# Word wrapping

A text too wide for its space is broken into lines of at most `limit` cells, between words where
it can. The text is read as terminal pieces (`pieces`), and a `Wrapping` keeps the lines written so
far, the word being read, the blanks read before it, and the cells of the current line:

* a blank ends the word: the word is written after the blanks before it, and the blank waits;
* a character of a word joins it. A word that would pass the limit on its own is written first,
  so that it breaks there; then, if the line with its blanks and the word passes the limit, the
  line breaks before the word and the blanks are dropped;
* a hyphen is written at once after the word when it fits the line, else it joins the word;
* a line break writes the waiting blanks when no word is being read and they fit (otherwise they
  are dropped), writes the word and breaks the line; the end of the text does the same without
  the break;
* controls and the characters of control sequences join the word and take no cell.

Blanks are counted by their octets. Two readings differ in what a blank is:

* `wrapText` (for drawing) takes only the ASCII space as a blank, and gives a cluster its cells;
* `wrapLineCount` (for measuring) takes every Unicode white-space character as a blank but the
  no-break space, and counts each ASCII control as one cell of a word.

`truncateTo` cuts a text to a number of cells, keeping its controls and control sequences.
-/

namespace TensorSelect.Text

/-- The state of word wrapping. -/
structure Wrapping where
  /-- The lines written so far. -/
  out : String := ""
  /-- The word being read. -/
  word : String := ""
  /-- The cells of the word being read. -/
  wordCells : Nat := 0
  /-- The blanks read before the word. -/
  blanks : String := ""
  /-- The cells of the current line. -/
  lineCells : Nat := 0
  deriving Repr, Inhabited

namespace Wrapping

/-- Writes the waiting blanks. -/
def addBlanks (w : Wrapping) : Wrapping :=
  { w with out := w.out ++ w.blanks, lineCells := w.lineCells + w.blanks.utf8ByteSize, blanks := "" }

/-- Writes the word after the waiting blanks, if a word is being read. -/
def addWord (w : Wrapping) : Wrapping :=
  if w.word.isEmpty then w
  else
    let w := w.addBlanks
    { w with out := w.out ++ w.word, lineCells := w.lineCells + w.wordCells, word := "",
             wordCells := 0 }

/-- Breaks the line; waiting blanks are dropped. -/
def newline (w : Wrapping) : Wrapping := { w with out := w.out ++ "\n", lineCells := 0, blanks := "" }

/-- A blank: the word is written and the blank waits. -/
def blank (c : Char) (w : Wrapping) : Wrapping :=
  let w := w.addWord
  { w with blanks := w.blanks.push c }

/-- A text that joins the word without taking a cell. -/
def silent (t : String) (w : Wrapping) : Wrapping := { w with word := w.word ++ t }

/-- A text of `cells` cells that joins the word. -/
def wordPart (limit : Nat) (t : String) (cells : Nat) (w : Wrapping) : Wrapping :=
  let w := if w.wordCells + cells > limit then w.addWord else w
  let w := { w with word := w.word ++ t, wordCells := w.wordCells + cells }
  if w.lineCells + w.wordCells + w.blanks.utf8ByteSize > limit then w.newline else w

/-- A hyphen: written after the word when it fits the line, else part of the word. -/
def hyphen (limit : Nat) (w : Wrapping) : Wrapping :=
  let w := w.addBlanks
  if w.lineCells + w.wordCells + 1 > limit then
    { w with word := w.word.push '-', wordCells := w.wordCells + 1 }
  else
    let w := w.addWord
    { w with out := w.out.push '-', lineCells := w.lineCells + 1 }

/-- The end of a line: waiting blanks, with no word being read, are written if they fit and
dropped otherwise; then the word is written. -/
def endLine (limit : Nat) (w : Wrapping) : Wrapping :=
  let w :=
    if w.wordCells = 0 then
      if w.lineCells + w.blanks.utf8ByteSize > limit then { w with lineCells := 0, blanks := "" }
      else w.addBlanks
    else w
  w.addWord

end Wrapping

/-- One piece read by the drawing wrap. -/
def wrapStep (limit : Nat) (w : Wrapping) : Piece → Wrapping
  | .ascii c =>
    if c = ' ' then w.blank c
    else if c = '-' then w.hyphen limit
    else w.wordPart limit (String.singleton c) 1
  | .control c =>
    if c = '\n' then (w.endLine limit).newline
    else if c = '\t' then w.blank c
    else w.silent (String.singleton c)
  | .quiet c => w.silent (String.singleton c)
  | .cluster cs n => if n = 0 then w.silent (String.ofList cs) else w.wordPart limit (String.ofList cs) n

/-- A text wrapped to lines of at most `limit` cells, for drawing. -/
def wrapText (limit : Nat) (s : String) : String :=
  if s.isEmpty || limit = 0 then s
  else ((pieces s).foldl (wrapStep limit) {} |>.endLine limit).out

/-- Whether a character is a blank to the measuring wrap: white space, but not the no-break
space. -/
def isBreakingBlank (c : Char) : Bool := isBlank c && c.toNat != 0xA0

/-- One piece read by the measuring wrap. -/
def measureStep (limit : Nat) (w : Wrapping) : Piece → Wrapping
  | .ascii c | .control c =>
    if c = '\n' then (w.endLine limit).newline
    else if isBlank c then w.blank c
    else if c = '-' then w.hyphen limit
    else w.wordPart limit (String.singleton c) 1
  | .quiet c => w.silent (String.singleton c)
  | .cluster cs n =>
    match cs with
    | c :: _ => if isBreakingBlank c then w.blank c else w.wordPart limit (String.ofList cs) n
    | [] => w

/-- The number of lines a line of text wraps to at `limit` cells, when measured. -/
def wrapLineCount (limit : Nat) (s : String) : Nat :=
  if limit = 0 then 1
  else (linesOf ((pieces s).foldl (measureStep limit) {} |>.endLine limit).out).length

/-- A text cut to at most `length` cells: the pieces that fit, then its controls and control
sequences only. -/
def truncateTo (length : Nat) (s : String) : String :=
  if displayWidth s ≤ length then s
  else
    let step := fun (acc : String × Nat × Bool) (p : Piece) =>
      let (out, cells, cut) := acc
      match p with
      | .cluster cs n =>
        if cut || cells + n > length then (out, cells, true) else (out ++ String.ofList cs, cells + n, false)
      | .ascii c =>
        if cut || cells ≥ length then (out, cells, true) else (out.push c, cells + 1, false)
      | .control c | .quiet c => (out.push c, cells, cut)
    ((pieces s).foldl step ("", 0, false)).1

end TensorSelect.Text
