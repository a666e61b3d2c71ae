import PlanningProblem.Problem.Basic

/-!
# Problem descriptions

A description lists what a problem is made of: objects and propositions in the
order in which they were written, possibly repeated, and perhaps a goal.  It
can be turned into a problem unless one of its propositions is malformed, and
every problem has a description.
-/

namespace PlanningProblem

/-- A problem as it is written down. -/
structure Description where
  name : String
  domain : String := ""
  objects : List Object := []
  init : List String := []
  goal : Option Formula := none
deriving DecidableEq, Inhabited

namespace Description

/-- Build the described problem: first the objects, then the propositions, then the goal. -/
def toProblem (description : Description) : Except MalformedProposition Problem :=
  let populated :=
    description.objects.foldl Problem.withObject
      (.empty description.name description.domain)
  match populated.addPropositions description.init with
  | (_, some error) => .error error
  | (problem, none) =>
      match description.goal with
      | none => .ok problem
      | some goal => .ok (problem.setGoal goal)

end Description

/-- The description that lists what the problem is made of, in ascending order. -/
def Problem.describe (problem : Problem) : Description where
  name := problem.name
  domain := problem.domain
  objects := problem.objects.toList
  init := problem.initialState.toList
  goal := some problem.goal

end PlanningProblem
