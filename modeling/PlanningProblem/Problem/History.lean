import PlanningProblem.Problem.Basic

/-!
# Histories of a problem

An edit is one call that builds a problem, held as data.  Applying it gives the
next problem and the answer of the call; a history applies edits one after
another, and goes on after an edit that is refused.
-/

namespace PlanningProblem

namespace Problem

/-- A call that builds a problem. -/
inductive Edit where
  | addObject (object : Object)
  | addProposition (text : String)
  | addPropositions (texts : List String)
  | setGoal (goal : Formula)
  | withDomain (domain : String)
  | withObject (object : Object)
  | withProposition (text : String)
  | withGoal (goal : Formula)
deriving DecidableEq

inductive Answer where
  | added (isNew : Bool)
  | done
  | refused (error : MalformedProposition)
deriving DecidableEq

/-- The answer of an edit, and the problem after it; a refused proposition leaves no trace. -/
def apply (problem : Problem) : Edit → Answer × Problem
  | .addObject object =>
      let (isNew, extended) := problem.addObject object
      (.added isNew, extended)
  | .addProposition text =>
      match problem.addProposition text with
      | .ok (isNew, extended) => (.added isNew, extended)
      | .error error => (.refused error, problem)
  | .addPropositions texts =>
      match problem.addPropositions texts with
      | (extended, none) => (.done, extended)
      | (extended, some error) => (.refused error, extended)
  | .setGoal goal => (.done, problem.setGoal goal)
  | .withDomain domain => (.done, problem.withDomain domain)
  | .withObject object => (.done, problem.withObject object)
  | .withProposition text =>
      match problem.withProposition text with
      | .ok extended => (.done, extended)
      | .error error => (.refused error, problem)
  | .withGoal goal => (.done, problem.withGoal goal)

/-- The problem after a history of edits. -/
def after (problem : Problem) (history : List Edit) : Problem :=
  history.foldl (fun current edit => (current.apply edit).2) problem

end Problem

end PlanningProblem
