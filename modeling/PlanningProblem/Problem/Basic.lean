import PlanningProblem.Object.Basic
import PlanningProblem.Proposition.Notation
import PlanningProblem.SortedSet.Basic

/-!
# Problems under construction

A problem has a name, the name of its domain, a set of objects, a set of
propositions that hold initially, and a goal.  Objects and propositions only
accumulate; the domain and the goal are replaced.  Propositions are kept in the
one spelling that `Proposition.storedToken` gives, so the two spellings of a
proposition are one member of the set.
-/

namespace PlanningProblem

structure Problem where
  name : String
  domain : String
  objects : SortedSet Object := .empty
  initialState : SortedSet String := .empty
  goal : Formula := .trivial
deriving DecidableEq, Inhabited

namespace Problem

/-- A problem without objects and initial propositions, whose goal holds everywhere. -/
def empty (name domain : String) : Problem where
  name
  domain

/-- Add an object; the answer begins with whether it is new. -/
def addObject (problem : Problem) (object : Object) : Bool × Problem :=
  let (isNew, objects) := problem.objects.add object
  (isNew, { problem with objects })

/-- Add a proposition in either spelling; the answer begins with whether it is new. -/
def addProposition (problem : Problem) (text : String) :
    Except MalformedProposition (Bool × Problem) := do
  let token ← Proposition.storedToken text
  let (isNew, initialState) := problem.initialState.add token
  return (isNew, { problem with initialState })

/-- Add propositions up to the first malformed one, which is reported beside the problem. -/
def addPropositions (problem : Problem) : List String → Problem × Option MalformedProposition
  | [] => (problem, none)
  | text :: rest =>
      match problem.addProposition text with
      | .error error => (problem, some error)
      | .ok (_, extended) => extended.addPropositions rest

def setGoal (problem : Problem) (goal : Formula) : Problem :=
  { problem with goal }

def withDomain (problem : Problem) (domain : String) : Problem :=
  { problem with domain }

def withObject (problem : Problem) (object : Object) : Problem :=
  (problem.addObject object).2

def withProposition (problem : Problem) (text : String) : Except MalformedProposition Problem :=
  (problem.addProposition text).map Prod.snd

def withGoal (problem : Problem) (goal : Formula) : Problem :=
  problem.setGoal goal

end Problem

end PlanningProblem
