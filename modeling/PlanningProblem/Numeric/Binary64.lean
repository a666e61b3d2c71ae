/-!
# Double-precision numbers

A finite number is a significand below `2 ^ 53` times a power of two not below
`2 ^ (-1074)`.  `ofDecimal` rounds a decimal number to the nearest of them, a
tie to the even significand, and everything too large to infinity, in exact
integer arithmetic.
-/

namespace PlanningProblem

/-- A double-precision number; a finite one is `significand * 2 ^ exponent` with a sign. -/
inductive Binary64 where
  | finite (negative : Bool) (significand : Nat) (exponent : Int)
  | infinite (negative : Bool)
  | notANumber
deriving DecidableEq, Inhabited

namespace Binary64

/-- Every significand is below the fifty-third power of two. -/
def significandBound : Nat :=
  0x20000000000000

/-- The exponent of the smallest positive number. -/
def leastExponent : Int :=
  -1074

def greatestExponent : Int :=
  971

def zero (negative : Bool) : Binary64 :=
  .finite negative 0 leastExponent

/-- A power of the base as a fraction: one of its two parts is one. -/
def power (base : Nat) (exponent : Int) : Nat × Nat :=
  (base.pow exponent.toNat, base.pow (-exponent).toNat)

/-- The integer nearest to a fraction, the even one if two are equally near. -/
def nearestInteger (numerator denominator : Nat) : Nat :=
  let quotient := numerator / denominator
  let twice := 2 * (numerator % denominator)
  if twice < denominator ∨ twice = denominator ∧ quotient % 2 = 0 then
    quotient
  else
    quotient + 1

/-- The exponent with which the positive fraction has 53 significant bits, or the least one. -/
def exponentOf (numerator denominator : Nat) : Int :=
  let low : Int := (numerator.log2 : Int) - (denominator.log2 : Int) - 53
  let (up, down) := power 2 low
  let fitting := if numerator * down / (denominator * up) < significandBound then low else low + 1
  max leastExponent fitting

/-- The number nearest to a positive fraction. -/
def ofFraction (negative : Bool) (numerator denominator : Nat) : Binary64 :=
  let exponent := exponentOf numerator denominator
  let (up, down) := power 2 exponent
  let significand := nearestInteger (numerator * down) (denominator * up)
  let (significand, exponent) :=
    if significand = significandBound then (significand / 2, exponent + 1)
    else (significand, exponent)
  if exponent ≤ greatestExponent then .finite negative significand exponent
  else .infinite negative

/-- The number nearest to `digits * 10 ^ exponent`.  Numbers from `10 ^ 309` on are infinite
and those below `10 ^ (-324)` are zero, whatever their digits. -/
def ofDecimal (negative : Bool) (digits : Nat) (exponent : Int) : Binary64 :=
  let magnitude := exponent + (Nat.toDigits 10 digits).length
  if digits = 0 ∨ magnitude ≤ -324 then
    zero negative
  else if magnitude ≥ 310 then
    .infinite negative
  else
    let (up, down) := power 10 exponent
    ofFraction negative (digits * up) down

end Binary64

end PlanningProblem
