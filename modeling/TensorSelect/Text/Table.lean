import TensorSelect.Text.Wrap

/-!
# Boxed tables

A table of text cells drawn with box-drawing lines. Header cells are centred with two spaces on
each side, body cells placed as their column says with one space on each side.

* A column is as wide as its widest cell, header included, measured as the text is given (a tab
  takes no cell there), plus four: the larger of the two paddings, on both sides.
* A row is as high as its cell of the most lines, counting a carriage return and line feed as one
  line break, and each line as the lines it wraps to at the width of the column's widest cell
  (`wrapLineCount`).
* A cell is drawn with each tab as four spaces, wrapped to the column's width less its padding
  (`wrapText`): each of its lines padded, then empty lines to the row's height, every line filled
  with spaces to the column's width (to its widest line if that is wider) as the column places it
  and cut to the column's width, the lines past the row's height dropped.

The header is underlined, and the body rows follow without lines between them. The drawing ends
without a line break.
-/

namespace TensorSelect.Text

/-- A column of a table: its header and where its body cells sit. -/
structure Column where
  header : String
  placement : Placement
  deriving Repr, Inhabited

/-- The line of a table's border: the left corner, the joint between columns, the right corner. -/
def borderLine (widths : List Nat) (left mid right : String) : String :=
  left ++ mid.intercalate (widths.map fun w => String.ofList (List.replicate w '─')) ++ right

/-- A cell's text with each carriage return and line feed made a line feed. -/
def unifyBreaks (s : String) : String := s.replace "\r\n" "\n"

/-- The number of lines a cell takes in a column whose widest cell has `width` cells: each of its
lines as the measuring wrap breaks it. -/
def cellHeight (width : Nat) (s : String) : Nat :=
  if width = 0 then 1
  else ((linesOf (unifyBreaks s)).map (wrapLineCount width)).foldl (· + ·) 0

/-- A cell drawn as `height` lines of `width` cells: its text with tabs as four spaces, wrapped to
the width less the padding; each line with `pad` spaces on each side, then empty lines, each
filled to the width (or to the widest line) as placed, cut to the width, and all filled to the
widest of them. -/
def drawCell (p : Placement) (pad width height : Nat) (s : String) : List String :=
  let text := wrapText (width - 2 * pad) (unifyBreaks (s.replace "\t" "    "))
  let ls := (linesOf text).map fun l => spaces pad ++ l ++ spaces pad
  let ls := ls ++ List.replicate (height - ls.length) ""
  let widest := (ls.map displayWidth).foldl max 0
  let ls := ((ls.map (padTo p (max widest width))).map (truncateTo width)).take height
  let block := (ls.map displayWidth).foldl max 0
  ls.map (padTo .left block)

/-- The lines of a row of drawn cells, between vertical lines. -/
def rowLines (height : Nat) (cells : List (List String)) : List String :=
  (List.range height).map fun i => "│" ++ "│".intercalate (cells.map fun c => c.getD i "") ++ "│"

/-- The drawing of a table with the given columns and body rows. -/
def renderTable (cols : List Column) (rows : List (List String)) : String :=
  let widths := cols.zipIdx.map fun (c, i) =>
    (rows.map fun r => blockWidth (r.getD i "")).foldl max (blockWidth c.header) + 4
  let heightOf (cells : List String) :=
    ((cells.zip widths).map fun (c, w) => cellHeight (w - 4) c).foldl max 1
  let headerHeight := heightOf (cols.map Column.header)
  let header := rowLines headerHeight ((cols.zip widths).map fun (c, w) =>
    drawCell .center 2 w headerHeight c.header)
  let body := rows.flatMap fun r =>
    let h := heightOf (cols.zipIdx.map fun (_, i) => r.getD i "")
    rowLines h ((cols.zip widths).zipIdx.map fun ((c, w), i) =>
      drawCell c.placement 1 w h (r.getD i ""))
  "\n".intercalate ([borderLine widths "┌" "┬" "┐"] ++ header ++ [borderLine widths "├" "┼" "┤"] ++
    body ++ [borderLine widths "└" "┴" "┘"])

end TensorSelect.Text
