import TensorSelect.Select.Config
import TensorSelect.Element.Scalar

/-!
# The order of a selection

Every element along the axis travels with its index and rank, as an `Entry`. The index is the
32-bit integer the element is labelled with: its place along the axis while that is below
`2^31`, and wrapped past it. Entries compete by the rank of their values (`Ranked.rank`): in
mode `max` a greater rank is better, in any other mode a smaller one. Two values of one rank
(such as `+0` and `-0`, or two NaNs) tie, and a tie goes to the smaller index.

So `Entry.before m x y` holds when `x` comes strictly before `y`: it is the lexicographic order
on the pair (rank, read in the mode's direction; index). On entries with distinct indices it is a
strict total order, so every algorithm that sorts by it, or keeps the best `k` by it, gives the
same answer.
-/

namespace TensorSelect

/-- Whether rank `a` is strictly better than rank `b` in a mode: greater for `max`, smaller
otherwise. -/
def Mode.prefers : Mode → Int → Int → Bool
  | .max, a, b => b < a
  | _, a, b => a < b

/-- The value that pads a work item up to the size of a network: every element matches or beats
it, so it has the least rank for `max` and the greatest otherwise. -/
def Mode.sentinel {α : Type} [Ranked α] : Mode → α
  | .max => Ranked.bottom
  | _ => Ranked.top

/-- The padding value of a type code in a mode, as a scalar: the least value for `max`, and
otherwise NaN for a float type and the greatest value for any other. A code that names no type
stops. -/
def DType.sentinel (d : DType) : Mode → Except Panic Scalar
  | .max => d.lowest
  | _ => if d.isFloat then d.nanValue else d.highest

namespace Select

/-- An element along the axis, the rank of its value and its index. An algorithm compares its
entries many times (a network compares each about `log² n` times), so the rank is computed once,
when the entry is made (`Entry.of`), and kept. -/
structure Entry (α : Type) where
  value : α
  key : Int
  index : Int
  deriving Repr, Inhabited

/-- The entry of a value at an index, keyed by the value's rank. -/
def Entry.of {α : Type} [Ranked α] (x : α) (j : Int) : Entry α := ⟨x, Ranked.rank x, j⟩

section Of

variable {α : Type} [Ranked α] (x : α) (j : Int)

-- The label of an entry is often a wrapped place, whose unfolding with a place that is not a
-- numeral runs a subtraction down from `2^31`; these lemmas read an entry without unfolding it.
@[simp]
theorem Entry.value_of : (Entry.of x j).value = x := rfl

@[simp]
theorem Entry.key_of : (Entry.of x j).key = Ranked.rank x := rfl

@[simp]
theorem Entry.index_of : (Entry.of x j).index = j := rfl

end Of

/-- Whether entry `x` comes strictly before entry `y` in mode `m`: a better rank, or an equal
rank and a smaller index. -/
def Entry.before {α : Type} (m : Mode) (x y : Entry α) : Bool :=
  m.prefers x.key y.key || (x.key == y.key && x.index < y.index)

/-- For entries made by `Entry.of`, the order is the one of the values' ranks. -/
theorem Entry.before_of {α : Type} [Ranked α] (m : Mode) (x y : α) (i j : Int) :
    Entry.before m (Entry.of x i) (Entry.of y j) =
      (m.prefers (Ranked.rank x) (Ranked.rank y) || (Ranked.rank x == Ranked.rank y && i < j)) :=
  rfl

end Select

end TensorSelect
