import TensorSelect.Layout.Tag

/-!
# Selection settings

A selection keeps the `k` best elements along one axis of a tensor.

* `Mode`: whether the best are the largest (`max`) or the smallest (`min`) values.
* `SortBy`: whether the kept elements are listed best first (`value`) or in their order along the
  axis (`index`).
* `Algorithm`: how the elements are ranked: `bubble`, `bitonic`, `heap`, or `auto` to let the
  engine choose. Every algorithm gives the same answer.

Each setting may also hold a code that names none of its values, so that validation can report
it. `Config` gathers the settings with the axis, `k`, the layout and whether ties keep their order
(`stable`, which the answer never depends on: ties always keep their order).
-/

namespace TensorSelect

/-- Which values are the best: the largest or the smallest. -/
inductive Mode
  | max
  | min
  | unnamed (code : Nat)
  deriving DecidableEq, Repr, Inhabited

/-- How the kept elements are listed: best first, or in their order along the axis. -/
inductive SortBy
  | value
  | index
  | unnamed (code : Nat)
  deriving DecidableEq, Repr, Inhabited

/-- How the elements are ranked. -/
inductive Algorithm
  | auto
  | bubble
  | bitonic
  | heap
  | unnamed (code : Nat)
  deriving DecidableEq, Repr, Inhabited

namespace Mode

/-- The mode a code names: 0 is `max`, 1 is `min`. -/
def ofCode : Nat → Mode
  | 0 => max | 1 => min | n => unnamed n

/-- The text of a mode. -/
def text : Mode → String
  | max => "max" | min => "min" | unnamed n => "Mode(" ++ toString n ++ ")"

end Mode

namespace SortBy

/-- The order a code names: 0 is by value, 1 by index. -/
def ofCode : Nat → SortBy
  | 0 => value | 1 => index | n => unnamed n

/-- The text of an order. -/
def text : SortBy → String
  | value => "by-value" | index => "by-index" | unnamed n => "SortBy(" ++ toString n ++ ")"

end SortBy

namespace Algorithm

/-- The algorithm a code names: 0 to 3 are `auto`, `bubble`, `bitonic` and `heap`. -/
def ofCode : Nat → Algorithm
  | 0 => auto | 1 => bubble | 2 => bitonic | 3 => heap | n => unnamed n

/-- The code of an algorithm. -/
def code : Algorithm → Nat
  | auto => 0 | bubble => 1 | bitonic => 2 | heap => 3 | unnamed n => n

/-- The names of the algorithms, in the order of their codes. -/
def names : List String := ["auto", "bubble", "bitonic", "heap"]

/-- The text of an algorithm: its name, or `Algorithm(n)` for a code. -/
def text : Algorithm → String
  | unnamed n => "Algorithm(" ++ toString n ++ ")"
  | a => names.getD a.code ""

end Algorithm

/-- The settings of a selection. -/
structure Config where
  axis : Int := 0
  k : Int := 1
  mode : Mode := .max
  sortBy : SortBy := .value
  stable : Bool := true
  layout : Tag := Tag.planar
  algorithm : Algorithm := .auto
  deriving DecidableEq, Repr, Inhabited

/-- The text of the settings: `top-k(axis=…, k=…, mode, order[, stable], layout=…,
algorithm=…)`. -/
def Config.text (c : Config) : String :=
  "top-k(axis=" ++ toString c.axis ++ ", k=" ++ toString c.k ++ ", " ++ c.mode.text ++ ", " ++
    c.sortBy.text ++ (if c.stable then ", stable" else "") ++ ", layout=" ++ c.layout.text ++
    ", algorithm=" ++ c.algorithm.text ++ ")"

end TensorSelect
