import PlanningProblem.Formula.Combinators
import PlanningProblem.SortedSet.Basic

/-!
# The listing of objects

The objects of a problem are listed in ascending order, one to a line.
-/

namespace PlanningProblem

namespace Object

/-- The `:objects` block, with the text of each object as one token. -/
def listing (objects : SortedSet Object) : Formula :=
  .block ":objects" (objects.toList.map fun object => .atom object.text)

end Object

end PlanningProblem
