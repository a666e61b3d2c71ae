import PlanningProblem.Datum
import PlanningProblem.Toml.Reader.Basic

/-!
# Dates and times

A date, a time, or a date and a time with an optional offset.  Dates follow the
calendar, and a minute may have a sixty-first second.
-/

namespace PlanningProblem

namespace Toml

/-- A number of exactly so many decimal digits, after digits with the given value. -/
def decimalNumber : (count : Nat) → (before : Nat) → Reader Nat
  | 0, before => pure before
  | count + 1, before => do
      let digit ← satisfy Char.isDigit
      decimalNumber count (before * 10 + (digit.toNat - '0'.toNat))

def twoDigits (least greatest : Nat) : Reader Nat := do
  let number ← decimalNumber 2 0
  if least ≤ number ∧ number ≤ greatest then return number else failure

def isLeapYear (year : Nat) : Bool :=
  year % 4 == 0 && (year % 100 != 0 || year % 400 == 0)

def daysIn (year month : Nat) : Nat :=
  if month = 2 then (if isLeapYear year then 29 else 28)
  else if month ∈ [4, 6, 9, 11] then 30
  else 31

def date : Reader Unit := do
  let year ← decimalNumber 4 0
  char '-'
  let month ← twoDigits 1 12
  char '-'
  discard (twoDigits 1 (daysIn year month))

/-- An hour, a minute and a second, with an optional fraction of a second. -/
def time : Reader Unit := do
  discard (twoDigits 0 23)
  char ':'
  discard (twoDigits 0 59)
  char ':'
  discard (twoDigits 0 60)
  discard (optional (char '.' *> takeWhile1 Char.isDigit))

/-- The difference from universal time, or the letter for none. -/
def offset : Reader Unit :=
  discard (satisfy fun char => char == 'Z' || char == 'z') <|> do
    discard (satisfy fun char => char == '+' || char == '-')
    discard (twoDigits 0 23)
    char ':'
    discard (twoDigits 0 59)

/-- A date and a time; a space or a letter separates them. -/
def dateAndTime : Reader Unit := do
  date
  discard (optional (do
    discard (satisfy fun char => char == 'T' || char == 't' || char == ' ')
    time
    discard (optional offset)))

def moment : Reader Datum :=
  (dateAndTime <|> time) *> pure .moment

end Toml

end PlanningProblem
