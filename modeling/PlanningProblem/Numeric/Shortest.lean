import PlanningProblem.Numeric.Binary64

/-!
# The shortest decimal text of a number

A number is written with the fewest decimal digits that read back as the same
number.  The candidates on a decimal grid are the two grid points next to the
number; the coarsest grid with a candidate among the reals that round to the
number decides, and of two candidates the nearer one.  If both are equally
near, a rule for ties decides.  A style says which rule that is, and which numbers
are written with an exponent.
-/

namespace PlanningProblem

namespace Binary64

/-- Which of two equally near multiples of a unit stands for a number. -/
inductive Tie where
  | upper
  | even
deriving DecidableEq, Inhabited

/-- The nearer of a count, which lies below the number, and the next one; `rest` is the distance
to the former and `unit` the distance between the two. -/
def Tie.nearest (tie : Tie) (below rest unit : Nat) : Nat :=
  if 2 * rest < unit then below
  else if 2 * rest = unit ∧ tie = .even ∧ below % 2 = 0 then below
  else below + 1

/-- A positive finite number and the reals that round to it, in quarters of its last bit. -/
structure Neighbourhood where
  low : Nat
  value : Nat
  high : Nat
  closed : Bool
  /-- The exponent of a quarter of the last bit. -/
  exponent : Int

/-- The reals that round to `significand * 2 ^ exponent`; the gap below a power of two is half
as wide, and the ends belong to an even significand. -/
def neighbourhood (significand : Nat) (exponent : Int) : Neighbourhood where
  low :=
    if 2 * significand = significandBound ∧ exponent ≠ leastExponent then 4 * significand - 1
    else 4 * significand - 2
  value := 4 * significand
  high := 4 * significand + 2
  closed := significand % 2 = 0
  exponent := exponent - 2

/-- Whether a multiple of the unit lies in the interval from `low` to `high`. -/
def inside (closed : Bool) (low high point : Nat) : Bool :=
  if closed then low ≤ point && point ≤ high else low < point && point < high

/-- The multiple of `10 ^ grid` in the neighbourhood that is nearest to its value. -/
def Neighbourhood.multiple? (tie : Tie) (near : Neighbourhood) (grid : Int) : Option Nat :=
  let (twoUp, twoDown) := power 2 near.exponent
  let (tenUp, tenDown) := power 10 grid
  let scale := twoUp * tenDown
  let unit := twoDown * tenUp
  let value := near.value * scale
  let below := value / unit
  let fits (count : Nat) := inside near.closed (near.low * scale) (near.high * scale) (count * unit)
  match fits below, fits (below + 1) with
  | true, true => some (tie.nearest below (value - below * unit) unit)
  | true, false => some below
  | false, true => some (below + 1)
  | false, false => none

/-- The decimal grids, from the coarsest that a number can need to the finest. -/
def grids : List Int :=
  (List.range 660).map fun (step : Nat) => 309 - Int.ofNat step

/-- The shortest decimal number in the neighbourhood: a count and its power of ten. -/
def Neighbourhood.shortest (tie : Tie) (near : Neighbourhood) : Nat × Int :=
  (grids.findSome? fun grid => (near.multiple? tie grid).map (·, grid)).getD (0, 0)

/-- The digits of `count * 10 ^ grid` around a decimal point, with at least one on either side. -/
def positional (count : Nat) (grid : Int) : String :=
  let places := (-grid).toNat
  if places = 0 then
    toString (count * (power 10 grid).1) ++ ".0"
  else
    let digits := Nat.toDigits 10 count
    let padded := List.replicate (places + 1 - digits.length) '0' ++ digits
    let split := padded.length - places
    String.ofList (padded.take split ++ '.' :: padded.drop split)

/-- The digits of `count * 10 ^ grid` with a point after the first, and the power of ten of that
digit, always with a sign. -/
def scientific (count : Nat) (grid : Int) : String :=
  let digits := Nat.toDigits 10 count
  let power := grid + (digits.length - 1 : Nat)
  let mantissa :=
    match digits with
    | first :: rest@(_ :: _) => first :: '.' :: rest
    | _ => digits
  String.ofList mantissa ++ (if power < 0 then "e-" else "e+") ++ toString power.natAbs

structure Style where
  tie : Tie
  /-- The least and the greatest power of ten of the first digit for which no exponent is written;
  without them, none is ever written. -/
  positionalRange : Option (Int × Int)
deriving DecidableEq, Inhabited

def Style.isPositional (style : Style) (power : Int) : Bool :=
  match style.positionalRange with
  | none => true
  | some (least, greatest) => least ≤ power && power ≤ greatest

def Style.write (style : Style) (count : Nat) (grid : Int) : String :=
  if style.isPositional (grid + ((Nat.toDigits 10 count).length - 1 : Nat)) then
    positional count grid
  else
    scientific count grid

/-- The shortest text that reads back as the number, in the given style. -/
def text (style : Style) : Binary64 → String
  | .finite negative significand exponent =>
      let digits :=
        if significand = 0 then "0.0"
        else
          let (count, grid) := (neighbourhood significand exponent).shortest style.tie
          style.write count grid
      if negative then "-" ++ digits else digits
  | .infinite negative => if negative then "-inf" else "inf"
  | .notANumber => "NaN"

end Binary64

end PlanningProblem
