import PlanningProblem.Formula.Combinators
import PlanningProblem.Formula.Layout

/-!
# Logical terms

A term keeps the logical structure that a formula only spells out: which
operator is applied to which operands.  `toFormula` builds the formula of a
term, and `layout` writes the text of a term directly, block by block, with an
explicit indentation.  It spells out every character itself and shares nothing
with the printer or with the operators on formulas.
-/

namespace PlanningProblem

namespace Formula

/-- A literal, or a logical operator applied to terms. -/
inductive Term where
  | literal (token : String)
  | conjunction (operands : List Term)
  | disjunction (operands : List Term)
  | negation (operand : Term)
  | universal (variableName type : String) (body : Term)
  | existential (variableName type : String) (body : Term)
  | conditional (condition consequence : Term)

namespace Term

mutual

/-- The formula that the operators of the term build. -/
def toFormula : Term → Formula
  | .literal token => .atom token
  | .conjunction operands => Formula.conjunction (toFormulas operands)
  | .disjunction operands => Formula.disjunction (toFormulas operands)
  | .negation operand => Formula.negation operand.toFormula
  | .universal variableName type body => Formula.universal variableName type body.toFormula
  | .existential variableName type body => Formula.existential variableName type body.toFormula
  | .conditional condition consequence =>
      Formula.conditional condition.toFormula consequence.toFormula

def toFormulas : List Term → List Formula
  | [] => []
  | term :: rest => term.toFormula :: toFormulas rest

end

/-- The text of a literal under any number of negations, which fits on one line. -/
def oneLine? : Term → Option String
  | .literal token => some token
  | .negation operand => operand.oneLine?.map fun content => "(not " ++ content ++ ")"
  | _ => none

/-- A quantifier and the variable that it binds, with its type unless that is empty. -/
def binding (quantifier variableName type : String) : String :=
  quantifier ++ " ?" ++ variableName ++ if type = "" then "" else " - " ++ type

def indented (indentation : Nat) (content : String) : String :=
  String.ofList (List.replicate indentation '\t') ++ content ++ "\n"

/-- A head line, a body, and the closing line. -/
def enclosed (indentation : Nat) (head body : String) : String :=
  indented indentation ("(" ++ head) ++ body ++ indented indentation ")"

mutual

/-- The text of a term whose first line is indented as given. -/
def layout : Term → (indentation : Nat) → String
  | .literal token, indentation => indented indentation token
  | .conjunction operands, indentation =>
      enclosed indentation "and" (layoutAll operands (indentation + 1))
  | .disjunction operands, indentation =>
      enclosed indentation "or" (layoutAll operands (indentation + 1))
  | .negation operand, indentation =>
      match operand.oneLine? with
      | some content => indented indentation ("(not " ++ content ++ ")")
      | none => enclosed indentation "not" (operand.layout (indentation + 1))
  | .universal variableName type body, indentation =>
      enclosed indentation (binding "forall" variableName type) (body.layout (indentation + 1))
  | .existential variableName type body, indentation =>
      enclosed indentation (binding "exists" variableName type) (body.layout (indentation + 1))
  | .conditional condition consequence, indentation =>
      enclosed indentation "when"
        (condition.layout (indentation + 1) ++ consequence.layout (indentation + 1))

def layoutAll : List Term → (indentation : Nat) → String
  | [], _ => ""
  | term :: rest, indentation => term.layout indentation ++ layoutAll rest indentation

end

end Term

end Formula

end PlanningProblem
