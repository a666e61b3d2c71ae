import PlanningProblem.Problem.Definition
import PlanningProblem.Problem.History
import PlanningProblem.Proofs.Problem.CanonicalForm

/-!
# The final state of a history

Whatever the order of the calls that build a problem, the result only depends
on which objects and which canonical forms occurred in them, on the last
domain and on the last goal.  One lemma says what a single edit can change;
the invariant that relates a problem to the history so far follows from it, and
sets with the same members are equal.
-/

namespace PlanningProblem

namespace Problem

open Proposition

namespace Edit

def object? : Edit → Option Object
  | .addObject object | .withObject object => some object
  | _ => none

def domain? : Edit → Option String
  | .withDomain domain => some domain
  | _ => none

def goal? : Edit → Option Formula
  | .setGoal goal | .withGoal goal => some goal
  | _ => none

/-- The texts of propositions that the edit adds, in order. -/
def texts : Edit → List String
  | .addProposition text | .withProposition text => [text]
  | .addPropositions texts => texts
  | _ => []

end Edit

def passedObjects (history : List Edit) : List Object :=
  history.filterMap Edit.object?

/-- The last domain that a history sets, or else the given one. -/
def lastDomain (domain : String) (history : List Edit) : String :=
  (history.filterMap Edit.domain?).getLast?.getD domain

/-- The last goal that a history sets, or else the one that always holds. -/
def lastGoal (history : List Edit) : Formula :=
  (history.filterMap Edit.goal?).getLast?.getD .trivial

/-- The token is the canonical form of a text that some edit of the history got accepted. -/
def Recorded (history : List Edit) (token : String) : Prop :=
  ∃ edit ∈ history, Accepted edit.texts token

theorem recorded_iff {history : List Edit} {token : String} :
    Recorded history token ↔ token ∈ history.flatMap fun edit => acceptedTokens edit.texts := by
  simp [Recorded, mem_acceptedTokens]

theorem apply_addProposition_snd (problem : Problem) (text : String) :
    (problem.apply (.addProposition text)).2 = (problem.addPropositions [text]).1 := by
  rw [apply, addPropositions]
  cases problem.addProposition text <;> rfl

theorem apply_addPropositions_snd (problem : Problem) (texts : List String) :
    (problem.apply (.addPropositions texts)).2 = (problem.addPropositions texts).1 := by
  rw [apply]
  obtain ⟨extended, _ | error⟩ := problem.addPropositions texts <;> rfl

theorem apply_withProposition_snd (problem : Problem) (text : String) :
    (problem.apply (.withProposition text)).2 = (problem.addPropositions [text]).1 := by
  rw [apply, withProposition, addPropositions]
  cases problem.addProposition text <;> rfl

/-- What an edit changes: the object, the accepted propositions, the domain and the goal that it
names, and nothing else. -/
theorem apply_snd (problem : Problem) (edit : Edit) :
    (problem.apply edit).2 =
      { name := problem.name
        domain := edit.domain?.getD problem.domain
        objects := edit.object?.toList.foldl SortedSet.insert problem.objects
        initialState := (acceptedTokens edit.texts).foldl SortedSet.insert problem.initialState
        goal := edit.goal?.getD problem.goal } := by
  cases edit with
  | addObject object => rfl
  | addProposition text =>
      rw [apply_addProposition_snd, addPropositions_fst]
      rfl
  | addPropositions texts =>
      rw [apply_addPropositions_snd, addPropositions_fst]
      rfl
  | setGoal goal => rfl
  | withDomain domain => rfl
  | withObject object => rfl
  | withProposition text =>
      rw [apply_withProposition_snd, addPropositions_fst]
      rfl
  | withGoal goal => rfl

/-- The problem holds what the history says, and nothing else. -/
structure Reflects (problem : Problem) (name domain : String) (history : List Edit) : Prop where
  name_eq : problem.name = name
  domain_eq : problem.domain = lastDomain domain history
  mem_objects : ∀ object, object ∈ problem.objects ↔ object ∈ passedObjects history
  mem_initialState : ∀ token, token ∈ problem.initialState ↔ Recorded history token
  goal_eq : problem.goal = lastGoal history

theorem reflects_empty (name domain : String) : (empty name domain).Reflects name domain [] where
  name_eq := rfl
  domain_eq := rfl
  mem_objects object := by simp [empty, passedObjects]
  mem_initialState token := by simp [empty, Recorded]
  goal_eq := rfl

theorem getLast?_filterMap_concat {α : Type} (read : Edit → Option α) (history : List Edit)
    (edit : Edit) (initial : α) :
    ((history ++ [edit]).filterMap read).getLast?.getD initial =
      (read edit).getD ((history.filterMap read).getLast?.getD initial) := by
  cases readEq : read edit with
  | none => simp [readEq]
  | some value => simp [readEq]

theorem Reflects.apply {problem : Problem} {name domain : String} {history : List Edit}
    (reflects : problem.Reflects name domain history) (edit : Edit) :
    (problem.apply edit).2.Reflects name domain (history ++ [edit]) where
  name_eq := by
    rw [apply_snd]
    exact reflects.name_eq
  domain_eq := by
    rw [apply_snd, lastDomain, getLast?_filterMap_concat, reflects.domain_eq, lastDomain]
  mem_objects object := by
    rw [apply_snd, SortedSet.mem_foldl_insert, reflects.mem_objects, passedObjects, passedObjects,
      List.filterMap_append, List.mem_append, or_comm]
    simp [List.mem_filterMap]
  mem_initialState token := by
    rw [apply_snd, SortedSet.mem_foldl_insert, reflects.mem_initialState, mem_acceptedTokens,
      or_comm]
    simp [Recorded, or_and_right, exists_or]
  goal_eq := by
    rw [apply_snd, lastGoal, getLast?_filterMap_concat, reflects.goal_eq, lastGoal]

/-- The invariant holds along every run, by induction on the edits that remain. -/
theorem Reflects.after {problem : Problem} {name domain : String} {history : List Edit}
    (reflects : problem.Reflects name domain history) (later : List Edit) :
    (problem.after later).Reflects name domain (history ++ later) := by
  induction later generalizing problem history with
  | nil => simpa [Problem.after] using reflects
  | cons edit rest ih => simpa [Problem.after] using ih (reflects.apply edit)

theorem reflects_after_empty (name domain : String) (history : List Edit) :
    ((empty name domain).after history).Reflects name domain history :=
  (reflects_empty name domain).after history

/-- The problem is built from an empty one by some history. -/
def Reachable (problem : Problem) : Prop :=
  ∃ name domain history, problem = (empty name domain).after history

/-- Every stored proposition starts with a parenthesis, in whichever spelling it was added. -/
theorem Reachable.head?_of_mem_initialState {problem : Problem} (reachable : problem.Reachable)
    {token : String} (member : token ∈ problem.initialState) : token.toList.head? = some '(' := by
  obtain ⟨name, domain, history, rfl⟩ := reachable
  rw [(reflects_after_empty name domain history).mem_initialState] at member
  obtain ⟨edit, -, before, text, later, -, -, canonical⟩ := member
  exact canonical.head?

/-- Two histories agree in what a problem keeps of them. -/
structure Agree (domain otherDomain : String) (history other : List Edit) : Prop where
  domain_eq : lastDomain domain history = lastDomain otherDomain other
  objects_iff : ∀ object, object ∈ passedObjects history ↔ object ∈ passedObjects other
  propositions_iff : ∀ token, Recorded history token ↔ Recorded other token
  goal_eq : lastGoal history = lastGoal other

theorem eq_of_fields_eq {first second : Problem} (nameEq : first.name = second.name)
    (domainEq : first.domain = second.domain) (objectsEq : first.objects = second.objects)
    (initialEq : first.initialState = second.initialState) (goalEq : first.goal = second.goal) :
    first = second := by
  cases first
  cases second
  cases nameEq
  cases domainEq
  cases objectsEq
  cases initialEq
  cases goalEq
  rfl

theorem Reflects.unique {first second : Problem} {name domain otherDomain : String}
    {history other : List Edit} (firstReflects : first.Reflects name domain history)
    (secondReflects : second.Reflects name otherDomain other)
    (agree : Agree domain otherDomain history other) : first = second := by
  apply eq_of_fields_eq
  · exact firstReflects.name_eq.trans secondReflects.name_eq.symm
  · rw [firstReflects.domain_eq, agree.domain_eq, secondReflects.domain_eq]
  · apply SortedSet.ext_mem
    intro object
    rw [firstReflects.mem_objects, agree.objects_iff, secondReflects.mem_objects]
  · apply SortedSet.ext_mem
    intro token
    rw [firstReflects.mem_initialState, agree.propositions_iff, secondReflects.mem_initialState]
  · rw [firstReflects.goal_eq, agree.goal_eq, secondReflects.goal_eq]

end Problem

end PlanningProblem
