import PlanningProblem.Toml.Text

/-!
# Keys

A key names an entry by the path of tables that leads to it.  Its parts are bare
words or quoted texts, with dots between them.
-/

namespace PlanningProblem

namespace Toml

/-- The names of the tables that lead to an entry, and the name of the entry. -/
structure Key where
  path : List String
  name : String
deriving DecidableEq, Inhabited

def Key.ofParts (first : String) : List String → Key
  | [] => ⟨[], first⟩
  | second :: rest =>
      let key := ofParts second rest
      ⟨first :: key.path, key.name⟩

def Key.parts (key : Key) : List String :=
  key.path ++ [key.name]

/-- A key has fewer parts than this. -/
def partBound : Nat :=
  80

/-- Letters, digits, the dash and the underscore of ASCII. -/
def isBare (char : Char) : Bool :=
  char.isAlphanum || char == '-' || char == '_'

/-- One part of a key, with spaces around it. -/
def keyPart : Reader String := do
  spaces
  let part ← basicText <|> literalText <|> (String.ofList <$> takeWhile1 isBare)
  spaces
  return part

def key : Reader Key := do
  let first ← keyPart
  let rest ← many (char '.' *> keyPart)
  if rest.length + 1 < partBound then return Key.ofParts first rest else failure

end Toml

end PlanningProblem
