import PlanningProblem.SortedSet.Basic

/-!
# Histories of a set

A call on a set adds a member or asks for one.  Applying it gives the answer of
the call and the next set; a history applies calls one after another.
-/

namespace PlanningProblem

namespace SortedSet

/-- A call on a set, held as data. -/
inductive Call (α : Type) where
  | add (member : α)
  | contains (member : α)
deriving DecidableEq

variable {α : Type} [Ord α] [Std.TransOrd α] [Std.LawfulEqOrd α] [DecidableEq α]

/-- The answer of a call, and the set after it; asking changes nothing. -/
def apply (set : SortedSet α) : Call α → Bool × SortedSet α
  | .add member => set.add member
  | .contains member => (set.contains member, set)

/-- The set after a history of calls. -/
def after (set : SortedSet α) (history : List (Call α)) : SortedSet α :=
  history.foldl (fun current call => (current.apply call).2) set

end SortedSet

end PlanningProblem
