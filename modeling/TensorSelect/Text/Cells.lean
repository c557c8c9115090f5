import TensorSelect.Text.Terminal

/-!
# Blocks of cells

A block is a text of lines, drawn one below the other. Its width is that of its widest line in
terminal cells (`displayWidth`), and its height the number of its lines. `padTo` fills a line with
spaces to a number of cells, placing it left, right or in the middle (the odd space on the right).

Main facts: `blockWidth_single` (a text of one line is as wide as the line), `padTo_left` (a line
placed left is followed by the missing spaces).
-/

namespace TensorSelect.Text

/-- `n` spaces. -/
def spaces (n : Nat) : String := String.ofList (List.replicate n ' ')

/-- The lines of a text. -/
def linesOf (s : String) : List String := s.splitOn "\n"

/-- The cells of the widest line of a text. -/
def blockWidth (s : String) : Nat := ((linesOf s).map displayWidth).foldl max 0

/-- Where a line sits in a wider space. -/
inductive Placement
  | left
  | center
  | right
  deriving DecidableEq, Repr, Inhabited

/-- A line filled with spaces to `width` cells, placed as asked; a line of `width` cells or more is
left as it is. -/
def padTo (p : Placement) (width : Nat) (s : String) : String :=
  let short := width - displayWidth s
  match p with
  | .left => s ++ spaces short
  | .right => spaces short ++ s
  | .center => spaces (short / 2) ++ s ++ spaces (short - short / 2)

theorem blockWidth_single (s : String) (h : linesOf s = [s]) : blockWidth s = displayWidth s := by
  simp [blockWidth, h]

theorem padTo_left (w : Nat) (s : String) : padTo .left w s = s ++ spaces (w - displayWidth s) :=
  rfl

end TensorSelect.Text
