import PlanningProblem.Formula.Basic
import PlanningProblem.Object.Basic

/-!
# Building formulas

A block has an opening token, a body and a closing `)`.  The three are separate
members of one group, the body being a group of its own, so the body lies one
level deeper than its delimiters.  A compound operand is spliced into the body
of the block: its own delimiters then start at the depth of its siblings.
-/

namespace PlanningProblem

namespace Formula

/-- A name and one token in parentheses, on a single line. -/
def inlineBlock (name token : String) : String :=
  "(" ++ name ++ " " ++ token ++ ")"

/-- A predicate name and its arguments in parentheses, separated by single spaces. -/
def predicate (name : String) : List String → String
  | [] => "(" ++ name ++ ")"
  | arguments => inlineBlock name (" ".intercalate arguments)

/-- The opening token with the given name, the parts of all operands, and the closing token. -/
def block (name : String) (operands : List Formula) : Formula :=
  .group [.atom ("(" ++ name), .group (operands.flatMap parts), .atom ")"]

def conjunction (operands : List Formula) : Formula :=
  block "and" operands

def disjunction (operands : List Formula) : Formula :=
  block "or" operands

/-- The operand does not hold; a negated token stays on its line. -/
def negation : Formula → Formula
  | .atom token => .atom (inlineBlock "not" token)
  | .group parts => block "not" [.group parts]

/-- A block whose name is a quantifier followed by the variable that it binds. -/
def quantified (quantifier variableName type : String) (body : Formula) : Formula :=
  block (quantifier ++ " " ++ (Object.mk ("?" ++ variableName) type).text) [body]

def universal (variableName type : String) (body : Formula) : Formula :=
  quantified "forall" variableName type body

def existential (variableName type : String) (body : Formula) : Formula :=
  quantified "exists" variableName type body

def conditional (condition consequence : Formula) : Formula :=
  block "when" [condition, consequence]

end Formula

end PlanningProblem
