import PlanningProblem.Datum
import PlanningProblem.Numeric.Scaled

/-!
# Numbers in JSON

A numeral without a fraction and an exponent is an integer if it fits into 64
bits, with a sign if it is negative; minus zero and everything else is a
double-precision number.
-/

namespace PlanningProblem

namespace Json

def natural (digits : List Nat) : Nat :=
  digits.foldl (fun before digit => before * 10 + digit) 0

/-- The datum of a numeral: its sign, its digits before and after the point, and its exponent. -/
def number (negative : Bool) (whole : List Nat) (places : Option (List Nat))
    (power : Option Int) : Datum :=
  let float := Datum.float (Binary64.ofNumeral negative whole (places.getD []) (power.getD 0))
  let value := natural whole
  match places, power with
  | none, none =>
      if negative then
        if 0 < value ∧ value ≤ 0x8000000000000000 then .integer (-value) else float
      else if value < 0x10000000000000000 then .integer value
      else float
  | _, _ => float

end Json

end PlanningProblem
