/-!
# Code-point tables

A character property that holds for few characters is kept as a table of code-point ranges,
sorted and pairwise disjoint, each row carrying the property's value on its range. `Table.find`
looks a code point up by halving the table, so a lookup reads a number of rows logarithmic in its
size; a code point outside every row has the property's default value.

Main facts: `find_empty` (an empty table holds nothing).
-/

namespace TensorSelect.Unicode

/-- A row of a table: the code points from `lo` to `hi`, both included, and their value. -/
structure Row (α : Type) where
  lo : Nat
  hi : Nat
  value : α
  deriving Repr, Inhabited

/-- A table of rows, sorted by code point and pairwise disjoint. -/
abbrev Table (α : Type) := Array (Row α)

namespace Table

/-- The row of `rows[lo:hi]` that holds `n`, found by halving; the rows must be sorted and
disjoint. Each round narrows the range by at least one row, so `fuel` of the table's size is
enough. -/
def findBetween {α : Type} (rows : Table α) (n : Nat) : (fuel lo hi : Nat) → Option (Row α)
  | 0, _, _ => none
  | fuel + 1, lo, hi =>
    if lo < hi then
      let mid := (lo + hi) / 2
      match rows[mid]? with
      | none => none
      | some r =>
        if n < r.lo then findBetween rows n fuel lo mid
        else if r.hi < n then findBetween rows n fuel (mid + 1) hi
        else some r
    else none

/-- The row that holds a code point, if one does. -/
def row? {α : Type} (rows : Table α) (n : Nat) : Option (Row α) :=
  findBetween rows n rows.size 0 rows.size

/-- The value of the row that holds a code point, if one does. -/
def find {α : Type} (rows : Table α) (n : Nat) : Option α := (row? rows n).map Row.value

/-- Whether some row holds a code point. -/
def holds {α : Type} (rows : Table α) (n : Nat) : Bool := (find rows n).isSome

/-- A table of plain ranges, each row with the value `()`. -/
def ofRanges (rs : List (Nat × Nat)) : Table Unit := (rs.map fun (lo, hi) => ⟨lo, hi, ()⟩).toArray

/-- An empty table holds nothing. -/
theorem find_empty {α : Type} (n : Nat) : find (#[] : Table α) n = none := by
  simp [find, row?, findBetween]

end Table

end TensorSelect.Unicode
