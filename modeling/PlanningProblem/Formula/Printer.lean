import PlanningProblem.Formula.Layout

/-!
# The printer

The printer descends into a formula with a depth that it keeps in a machine
word.  One level below the largest word there is no next depth: a build that
checks its arithmetic stops there, and one that does not goes on at depth 0.
As long as every depth fits in a word, both print the text that `render` gives
for depths without a bound.
-/

namespace PlanningProblem

namespace Formula

/-- What becomes of a depth that does not fit in a word. -/
inductive Overflow where
  | stops
  | wraps

/-- The depth one level further down. -/
def Overflow.deeper? : Overflow → (depth : UInt64) → Option UInt64
  | .stops, depth => if depth.toNat + 1 < UInt64.size then some (depth + 1) else none
  | .wraps, depth => some (depth + 1)

mutual

/-- What is printed for a formula that lies in `depth` groups, unless an overflow stops it. -/
def print (overflow : Overflow) : Formula → (depth : UInt64) → Option String
  | .atom token, depth => some (line depth.toNat token)
  | .group parts, depth => printAll overflow parts depth

/-- The parts of a group, whose own depth is given; the depth of each part is counted anew. -/
def printAll (overflow : Overflow) : List Formula → (outer : UInt64) → Option String
  | [], _ => some ""
  | formula :: rest, outer => do
      let depth ← overflow.deeper? outer
      let first ← formula.print overflow depth
      let others ← printAll overflow rest outer
      return first ++ others

end

mutual

/-- The number of groups around the part of the formula that lies deepest in it. -/
def reach : Formula → Nat
  | .atom _ => 0
  | .group parts => reachAll parts

def reachAll : List Formula → Nat
  | [] => 0
  | formula :: rest => max (formula.reach + 1) (reachAll rest)

end

/-- Every depth in the formula fits in a word if the formula itself lies in `depth` groups. -/
def FitsAt (formula : Formula) (depth : Nat) : Prop :=
  depth + formula.reach < UInt64.size

instance (formula : Formula) (depth : Nat) : Decidable (formula.FitsAt depth) :=
  inferInstanceAs (Decidable (depth + formula.reach < UInt64.size))

end Formula

end PlanningProblem
