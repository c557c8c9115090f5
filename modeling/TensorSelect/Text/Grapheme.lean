import TensorSelect.Unicode.Grapheme
import TensorSelect.Unicode.Width

/-!
# Grapheme clusters and their cells

A terminal shows a text as a row of user-perceived characters, the grapheme clusters of UAX #29
(Unicode 15.0): a base and its marks, a Hangul syllable spelled in jamo, a flag of two regional
indicators, an emoji sequence joined by zero-width joiners. `firstCluster` finds where the first
cluster of a text ends, by a machine that reads one code point at a time and remembers only what
the rules look back at (`Segment`):

* no break inside `CR LF`, and a break after and before every other control;
* no break inside Hangul syllable sequences (`L` before `L V LV LVT`, `LV V` before `V T`,
  `LVT T` before `T`);
* no break before extending marks, the zero-width joiner and spacing marks, nor after prepended
  marks;
* no break inside `pictograph extend* ZWJ pictograph`;
* regional indicators pair up;
* a break everywhere else.

A rule is looked up for the pair of the state and the class; failing that the rule for the state
and any class and the rule for any state and the class both apply, and the one of the lower rule
number decides whether there is a break (`Segment.next`).

The cells of a cluster are those of its first code point (`codeCells`): none for controls,
extending marks and joiners, two for wide characters, regional indicators and emoji, one
otherwise (three and four for the two- and three-em dashes). The later code points add their
cells, except after a pictograph, where a text-style variation selector makes the cluster one cell
and an emoji-style one two, and after a regional indicator or a leading Hangul consonant.
-/

namespace TensorSelect.Text

open Unicode

/-- What the segmenting machine remembers of the code points since the last break. -/
inductive Segment
  /-- Nothing the rules look back at. -/
  | any
  /-- A carriage return. -/
  | cr
  /-- A control or a line feed. -/
  | control
  /-- A leading Hangul consonant. -/
  | hangulL
  /-- A Hangul syllable or vowel that a vowel or trailing consonant may follow. -/
  | hangulLV
  /-- A Hangul syllable or trailing consonant that a trailing consonant may follow. -/
  | hangulLVT
  /-- A prepended mark. -/
  | prepend
  /-- A pictograph and its extending marks. -/
  | pictograph
  /-- A pictograph, its extending marks and a zero-width joiner. -/
  | pictographJoined
  /-- An odd number of regional indicators. -/
  | oddIndicators
  /-- An even number of regional indicators. -/
  | evenIndicators
  deriving DecidableEq, Repr, Inhabited

namespace Segment

/-- A rule: the next state, whether there is a break before the code point, and the rule's
number, which orders rules that both apply. -/
structure Rule where
  next : Segment
  breaks : Bool
  number : Nat
  deriving Repr, Inhabited

/-- The rule for a state and a class, where one is written for the pair; `other` stands for any
class. -/
def rule : Segment → BreakClass → Option Rule
  | .any, .cr => some ⟨.cr, true, 50⟩
  | .any, .lf => some ⟨.control, true, 50⟩
  | .any, .control => some ⟨.control, true, 50⟩
  | .cr, .lf => some ⟨.control, false, 30⟩
  | .cr, .other => some ⟨.any, true, 40⟩
  | .control, .other => some ⟨.any, true, 40⟩
  | .any, .hangulL => some ⟨.hangulL, true, 9990⟩
  | .hangulL, .hangulL => some ⟨.hangulL, false, 60⟩
  | .hangulL, .hangulV => some ⟨.hangulLV, false, 60⟩
  | .hangulL, .hangulLV => some ⟨.hangulLV, false, 60⟩
  | .hangulL, .hangulLVT => some ⟨.hangulLVT, false, 60⟩
  | .any, .hangulLV => some ⟨.hangulLV, true, 9990⟩
  | .any, .hangulV => some ⟨.hangulLV, true, 9990⟩
  | .hangulLV, .hangulV => some ⟨.hangulLV, false, 70⟩
  | .hangulLV, .hangulT => some ⟨.hangulLVT, false, 70⟩
  | .any, .hangulLVT => some ⟨.hangulLVT, true, 9990⟩
  | .any, .hangulT => some ⟨.hangulLVT, true, 9990⟩
  | .hangulLVT, .hangulT => some ⟨.hangulLVT, false, 80⟩
  | .any, .extend => some ⟨.any, false, 90⟩
  | .any, .zwj => some ⟨.any, false, 90⟩
  | .any, .spacingMark => some ⟨.any, false, 91⟩
  | .any, .prepend => some ⟨.prepend, true, 9990⟩
  | .prepend, .other => some ⟨.any, false, 92⟩
  | .any, .pictographic => some ⟨.pictograph, true, 9990⟩
  | .pictograph, .extend => some ⟨.pictograph, false, 110⟩
  | .pictograph, .zwj => some ⟨.pictographJoined, false, 110⟩
  | .pictographJoined, .pictographic => some ⟨.pictograph, false, 110⟩
  | .any, .regionalIndicator => some ⟨.oddIndicators, true, 9990⟩
  | .oddIndicators, .regionalIndicator => some ⟨.evenIndicators, false, 120⟩
  | .evenIndicators, .regionalIndicator => some ⟨.oddIndicators, true, 120⟩
  | _, _ => none

/-- The state after a code point of class `c`, and whether there is a break before it. -/
def next (s : Segment) (c : BreakClass) : Segment × Bool :=
  match rule s c with
  | some r => (r.next, r.breaks)
  | none =>
    match rule s .other, rule .any c with
    | some r, some q => (q.next, if r.number < q.number then r.breaks else q.breaks)
    | some r, none => (r.next, r.breaks)
    | none, some q => (q.next, q.breaks)
    | none, none => (.any, true)

end Segment

/-- The cells a code point of a class takes on its own. -/
def codeCells (n : Nat) : BreakClass → Nat
  | .control | .cr | .lf | .extend | .zwj => 0
  | .regionalIndicator => 2
  | .pictographic => if isEmoji n then 2 else 1
  | _ => if n = 0x2E3A then 3 else if n = 0x2E3B then 4 else if isWide n then 2 else 1

/-- The text-style variation selector. -/
def textStyle : Nat := 0xFE0E

/-- The emoji-style variation selector. -/
def emojiStyle : Nat := 0xFE0F

/-- The rest of a cluster whose first code point has class `first`: the machine in state `s`
reads `cs` up to the next break, adding to `cells`. The cells of the cluster and the code points
after it. -/
def clusterRest (first : BreakClass) (s : Segment) (cells : Nat) : List Char → Nat × List Char
  | [] => (cells, [])
  | c :: cs =>
    let k := breakClass c.toNat
    let (s', breaks) := s.next k
    if breaks then (cells, c :: cs)
    else
      let cells := match first with
        | .pictographic =>
          if c.toNat = textStyle then 1 else if c.toNat = emojiStyle then 2 else cells
        | .regionalIndicator | .hangulL => cells
        | _ => cells + codeCells c.toNat k
      clusterRest first s' cells cs

/-- The cells of the first cluster of `c :: cs`, and the code points after it. -/
def firstCluster (c : Char) (cs : List Char) : Nat × List Char :=
  let k := breakClass c.toNat
  clusterRest k (Segment.any.next k).1 (codeCells c.toNat k) cs

/-- The code points after a cluster are a suffix of those after its first. -/
theorem length_clusterRest (first : BreakClass) (s : Segment) (cells : Nat) (cs : List Char) :
    (clusterRest first s cells cs).2.length ≤ cs.length := by
  induction cs generalizing s cells with
  | nil => simp [clusterRest]
  | cons c cs ih =>
    simp only [clusterRest]
    split
    · simp
    · exact Nat.le_succ_of_le (ih _ _)

/-- A cluster takes at least its first code point. -/
theorem length_firstCluster (c : Char) (cs : List Char) :
    (firstCluster c cs).2.length < (c :: cs).length :=
  Nat.lt_succ_of_le (length_clusterRest _ _ _ cs)

end TensorSelect.Text
