import PlanningProblem.Formula.Layout
import PlanningProblem.Object.Listing
import PlanningProblem.Problem.Basic

/-!
# The definition of a problem

A problem is written as one `define` block with its domain, its objects, its
initial state and its goal, in this order.
-/

namespace PlanningProblem

namespace Problem

def header (problem : Problem) : String :=
  Formula.inlineBlock "problem" problem.name

def domainHeader (problem : Problem) : String :=
  Formula.inlineBlock ":domain" problem.domain

def objectsBlock (problem : Problem) : Formula :=
  Object.listing problem.objects

def initialBlock (problem : Problem) : Formula :=
  .block ":init" (problem.initialState.toList.map .atom)

/-- The goal: a single token stays on the line of its parentheses, a compound goal is a block. -/
def goalBlock (problem : Problem) : Formula :=
  match problem.goal with
  | .atom token => .group [.atom (Formula.inlineBlock ":goal" token)]
  | .group parts => .block ":goal" [.group parts]

def definition (problem : Problem) : Formula :=
  .block ("define " ++ problem.header)
    [.atom problem.domainHeader, problem.objectsBlock, problem.initialBlock, problem.goalBlock]

def text (problem : Problem) : String :=
  problem.definition.text

instance : ToString Problem := ⟨text⟩

end Problem

end PlanningProblem
