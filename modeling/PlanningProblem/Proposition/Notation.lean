import PlanningProblem.Proposition.Basic
import PlanningProblem.Text.WhiteSpace

/-!
# Reading propositions

In conventional notation the name of the predicate stands before the first
`(`, and its arguments stand between that and the next `)`.  Blanks around the
name and all blanks among the arguments are dropped, commas separate the
arguments, and whatever follows the `)` is ignored.
-/

namespace PlanningProblem

/-- A text that is not a proposition in conventional notation. -/
structure MalformedProposition where
  text : String
deriving DecidableEq, Inhabited

/-- The wording of the error, which quotes the whole text. -/
def MalformedProposition.message (error : MalformedProposition) : String :=
  "Unable to parse proposition from '" ++ error.text ++ "'"

namespace Proposition

/-- The characters before the first `(`, and those between it and the next `)`. -/
def cut? (chars : List Char) : Option (List Char × List Char) :=
  match chars.dropWhile (· != '(') with
  | [] => none
  | _ :: inside =>
      if ')' ∈ inside then
        some (chars.takeWhile (· != '('), inside.takeWhile (· != ')'))
      else
        none

/-- The arguments in a text between parentheses; a blank text has none. -/
def splitArguments (inside : List Char) : List String :=
  match Text.dropBlanks inside with
  | [] => []
  | visible => (visible.splitOn ',').map String.ofList

/-- The proposition that a text spells in conventional notation. -/
def ofText? (text : String) : Option Proposition :=
  match cut? text.toList with
  | none => none
  | some (head, inside) =>
      match Text.trim head with
      | [] => none
      | name => some ⟨String.ofList name, splitArguments inside⟩

def ofText (text : String) : Except MalformedProposition Proposition :=
  match ofText? text with
  | some proposition => .ok proposition
  | none => .error ⟨text⟩

/-- The token stored for a text: the text itself if it starts with `(`, else the
proposition that it spells. -/
def storedToken (text : String) : Except MalformedProposition String :=
  if text.toList.head? = some '(' then
    .ok text
  else
    (ofText text).map token

end Proposition

end PlanningProblem
