import PlanningProblem.Toml.Moment
import PlanningProblem.Toml.Numeral
import PlanningProblem.Toml.Table

/-!
# Values

A value is a text, a truth value, a number, a date or time, an array, or a table
in braces.  Arrays and tables in braces can be nested to a limit.
-/

namespace PlanningProblem

namespace Toml

def boolean : Reader Datum :=
  (chars ['t', 'r', 'u', 'e'] *> pure (.boolean true)) <|>
    (chars ['f', 'a', 'l', 's', 'e'] *> pure (.boolean false))

def scalar : Reader Datum :=
  (.text <$> text) <|> moment <|> float <|> integer <|> boolean

/-- The values between brackets; line ends and comments may stand among them, and a comma may
follow the last one. -/
def array (value : Reader Datum) : Reader Datum := do
  char '['
  gap
  let elements ← sepBy (gap *> value <* gap) (char ',')
  unless elements.isEmpty do
    discard (optional (char ','))
  gap
  char ']'
  return .sequence elements

/-- The entries between braces, all on one line. -/
def inlineTable (value : Reader Datum) : Reader Datum := do
  char '\x7b'
  let pairs ← sepBy (do
    let key ← key
    char '='
    spaces
    let datum ← value
    spaces
    return (key, datum)) (char ',')
  spaces
  char '\x7d'
  let entries ← pairs.foldlM (fun (entries : Entries) (key, datum) => entries.assign key datum) []
  return .mapping (entriesToData entries)

/-- A value in which arrays and tables in braces are nested at most so deep. -/
def value : (room : Nat) → Reader Datum
  | 0 => scalar
  | room + 1 => scalar <|> array (value room) <|> inlineTable (value room)

/-- How deep arrays and tables in braces can be nested. -/
def nestingLimit : Nat :=
  79

end Toml

end PlanningProblem
