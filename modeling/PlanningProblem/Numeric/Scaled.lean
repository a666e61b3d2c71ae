import PlanningProblem.Numeric.Binary64

/-!
# Reading decimals in two steps

A decimal numeral can be read in two cheap steps: the digits that fit into 64
bits are rounded to a number, and this is multiplied or divided by a power of
ten, which rounds once more.  With few digits the result is the nearest number;
otherwise its last bit can differ from that.
-/

namespace PlanningProblem

namespace Binary64

/-- The numerator and the denominator of a finite number without its sign, unless it is zero. -/
def fraction? : Binary64 → Option (Nat × Nat)
  | .finite _ significand exponent =>
      if significand = 0 then none
      else
        let (up, down) := power 2 exponent
        some (significand * up, down)
  | _ => none

/-- The greatest exponent of a power of ten that is a finite number. -/
def greatestTen : Nat :=
  308

/-- The number nearest to the product with a power of ten, which is itself rounded first. -/
def scale (negative : Bool) (value : Binary64) (tens : Int) : Binary64 :=
  match value.fraction?, (ofDecimal false 1 tens.natAbs).fraction? with
  | some (numerator, denominator), some (up, down) =>
      if 0 ≤ tens then ofFraction negative (numerator * up) (denominator * down)
      else ofFraction negative (numerator * down) (denominator * up)
  | _, _ => value

/-- The number that digits spell after those with the given value, as far as 64 bits hold it, and
how many digits are left out. -/
def leadingDigits : (digits : List Nat) → (before : Nat) → Nat × Nat
  | [], before => (before, 0)
  | digit :: rest, before =>
      let value := before * 10 + digit
      if value < 0x10000000000000000 then leadingDigits rest value
      else (before, rest.length + 1)

/-- Read digits before and after a decimal point, and a power of ten.  Digits that are left out
count as zeros before the point, and not at all after it. -/
def ofNumeral (negative : Bool) (whole places : List Nat) (power : Int) : Binary64 :=
  let (integral, zeros) := leadingDigits whole 0
  let (digits, unread) := leadingDigits places integral
  let tens := power + zeros - (places.length - unread : Nat)
  if digits = 0 then
    zero negative
  else
    let value := ofFraction negative digits 1
    if greatestTen < tens then .infinite negative
    else if -greatestTen ≤ tens then scale negative value tens
    else if -(2 * greatestTen) ≤ tens then
      scale negative (scale negative value (-greatestTen)) (tens + greatestTen)
    else zero negative

end Binary64

end PlanningProblem
