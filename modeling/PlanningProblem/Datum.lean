import PlanningProblem.Numeric.Shortest
import PlanningProblem.Text.Quoted

/-!
# Data

A datum is a value of a data format: what a reader of such a format finds, before
anything is known about its meaning.  A mapping keeps its entries in the order
in which they were written.
-/

namespace PlanningProblem

/-- A value of a data format; the parts of a date or time are of no use here and not kept. -/
inductive Datum where
  | null
  | boolean (value : Bool)
  | integer (value : Int)
  | float (value : Binary64)
  | text (value : String)
  | moment
  | sequence (elements : List Datum)
  | mapping (entries : List (String × Datum))

namespace Datum

instance : Inhabited Datum := ⟨null⟩

/-- What messages call the datum: its kind, and its value if it is a single one. -/
def label (style : Binary64.Style) : Datum → String
  | .null => "null"
  | .boolean value => "boolean `" ++ (if value then "true" else "false") ++ "`"
  | .integer value => "integer `" ++ toString value ++ "`"
  | .float value => "floating point `" ++ value.text style ++ "`"
  | .text value => "string " ++ Text.quoted value
  | .moment => "map"
  | .sequence _ => "sequence"
  | .mapping _ => "map"

end Datum

end PlanningProblem
