import PlanningProblem.Formula.Combinators

/-!
# Ground propositions

A proposition applies a predicate to objects.  It has two spellings: the
conventional one, `on(box, table)`, and the one with the predicate inside the
parentheses, `(on box table)`.
-/

namespace PlanningProblem

/-- A predicate name applied to object names. -/
structure Proposition where
  name : String
  arguments : List String
deriving DecidableEq, Inhabited

namespace Proposition

/-- The conventional spelling, with a comma and a space between the arguments. -/
def text (proposition : Proposition) : String :=
  proposition.name ++ "(" ++ ", ".intercalate proposition.arguments ++ ")"

instance : ToString Proposition := ⟨text⟩

/-- The spelling with the predicate inside the parentheses. -/
def token (proposition : Proposition) : String :=
  Formula.predicate proposition.name proposition.arguments

/-- The name counts as the first of the words that a token joins by single spaces. -/
theorem token_eq_intercalate (proposition : Proposition) :
    proposition.token =
      "(" ++ " ".intercalate (proposition.name :: proposition.arguments) ++ ")" := by
  obtain ⟨name, arguments⟩ := proposition
  cases arguments with
  | nil => simp [token, Formula.predicate]
  | cons argument rest =>
      simp [token, Formula.predicate, Formula.inlineBlock, String.append_assoc]

theorem head?_token (proposition : Proposition) : proposition.token.toList.head? = some '(' := by
  rw [token_eq_intercalate]
  simp

instance : Ord Proposition where
  compare := compareLex (compareOn name) (compareOn arguments)

instance : Std.TransOrd Proposition :=
  inferInstanceAs (Std.TransCmp (compareLex (compareOn name) (compareOn arguments)))

instance : Std.LawfulEqOrd Proposition where
  eq_of_compare {first second} same := by
    have both :
        (compare first.name second.name).then (compare first.arguments second.arguments) = .eq :=
      same
    rw [Ordering.then_eq_eq] at both
    cases first
    cases second
    rw [mk.injEq]
    exact ⟨Std.LawfulEqOrd.eq_of_compare both.1, Std.LawfulEqOrd.eq_of_compare both.2⟩

end Proposition

end PlanningProblem
