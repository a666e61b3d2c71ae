import PlanningProblem.Datum
import PlanningProblem.Toml.Text

/-!
# Numerals

Integers are decimal, or hexadecimal, octal or binary after `0x`, `0o` or `0b`,
and have 64 bits with a sign.  Numbers with a fraction or an exponent are
double-precision.  Single underscores may separate digits, and a decimal
numeral has no leading zero.
-/

namespace PlanningProblem

namespace Toml

/-- An optional sign; whether it is a minus. -/
def sign : Reader Bool :=
  (char '-' *> pure true) <|> (char '+' *> pure false) <|> pure false

def moreDigits (isDigit : Char → Bool) : Reader (List Char) :=
  many (optional (char '_') *> satisfy isDigit)

/-- At least one digit, with optional underscores between them. -/
def digits (isDigit : Char → Bool) : Reader (List Char) := do
  let first ← satisfy isDigit
  let rest ← moreDigits isDigit
  return first :: rest

/-- The digits of a decimal integer: a zero, or digits of which the first is not zero. -/
def decimalDigits : Reader (List Char) :=
  (do
    let first ← satisfy fun char => char.isDigit && char != '0'
    let rest ← moreDigits Char.isDigit
    return first :: rest) <|> (char '0' *> pure ['0'])

def valueOf (base : Nat) (digits : List Char) : Nat :=
  digits.foldl (fun before digit => before * base + hexValue digit) 0

/-- An integer in the given base after a zero and its letter. -/
def basedInteger (letter : Char) (base : Nat) (isDigit : Char → Bool) : Reader Int := do
  chars ['0', letter]
  let digits ← digits isDigit
  return valueOf base digits

def decimalInteger : Reader Int := do
  let negative ← sign
  let digits ← decimalDigits
  let value : Int := valueOf 10 digits
  return if negative then -value else value

/-- Integers are not below the negative of this bound, and below the bound itself. -/
def integerBound : Int :=
  0x8000000000000000

def integer : Reader Datum := do
  let value ←
    basedInteger 'x' 16 isHexDigit <|>
      basedInteger 'o' 8 (fun char => '0' ≤ char && char ≤ '7') <|>
      basedInteger 'b' 2 (fun char => char == '0' || char == '1') <|> decimalInteger
  if -integerBound ≤ value ∧ value < integerBound then return .integer value else failure

def fraction : Reader (List Char) :=
  char '.' *> digits Char.isDigit

def exponent : Reader Int := do
  discard (satisfy fun char => char == 'e' || char == 'E')
  let negative ← sign
  let digits ← digits Char.isDigit
  let value : Int := valueOf 10 digits
  return if negative then -value else value

/-- A number with a fraction, an exponent, or both; one that exceeds all finite numbers is
refused. -/
def decimalFloat : Reader Datum := do
  let negative ← sign
  let whole ← decimalDigits
  let (places, power) ←
    (do return ([], ← exponent)) <|> (do
      let places ← fraction
      let power ← optional exponent
      return (places, power.getD 0))
  let value := Binary64.ofDecimal negative (valueOf 10 (whole ++ places)) (power - places.length)
  if value = .infinite false then failure else return .float value

/-- Infinity or the value that is not a number, with an optional sign. -/
def specialFloat : Reader Datum := do
  let negative ← sign
  (chars ['i', 'n', 'f'] *> pure (.float (.infinite negative))) <|>
    (chars ['n', 'a', 'n'] *> pure (.float .notANumber))

def float : Reader Datum :=
  decimalFloat <|> specialFloat

end Toml

end PlanningProblem
