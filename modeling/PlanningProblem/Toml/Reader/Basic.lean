/-!
# Readers

A reader takes what it accepts from the start of a list of characters, and
gives a value and the characters left.  Where one reader fails, another can
start over from the same place.  Repetition takes at least one character a
round, so the length of the input bounds the number of rounds.
-/

namespace PlanningProblem

namespace Toml

/-- Takes characters from the start of a list to read a value, or fails. -/
abbrev Reader (α : Type) : Type :=
  StateT (List Char) Option α

/-- Take the next character if the condition holds of it. -/
def satisfy (accepts : Char → Bool) : Reader Char
  | char :: rest => if accepts char then some (char, rest) else none
  | [] => none

def char (expected : Char) : Reader Unit :=
  discard (satisfy (· == expected))

def chars (expected : List Char) : Reader Unit :=
  expected.forM char

def takeWhile (accepts : Char → Bool) : Reader (List Char) := fun input =>
  some (input.takeWhile accepts, input.dropWhile accepts)

def takeWhile1 (accepts : Char → Bool) : Reader (List Char) := do
  let first ← satisfy accepts
  let rest ← takeWhile accepts
  return first :: rest

def atEnd : Reader Unit
  | [] => some ((), [])
  | _ :: _ => none

/-- Repeat a reader until it fails, but not more often than given. -/
def repeatAtMost {α : Type} (reader : Reader α) :
    (rounds : Nat) → (input : List Char) → List α × List Char
  | 0, input => ([], input)
  | rounds + 1, input =>
      match reader input with
      | none => ([], input)
      | some (value, rest) =>
          let (values, left) := repeatAtMost reader rounds rest
          (value :: values, left)

/-- Repeat a reader until it fails; every round has to take a character. -/
def many {α : Type} (reader : Reader α) : Reader (List α) := fun input =>
  some (repeatAtMost reader input.length input)

/-- Repeat a reader at least once, with a separator before every further round. -/
def sepBy1 {α : Type} (reader : Reader α) (separator : Reader Unit) : Reader (List α) := do
  let first ← reader
  let rest ← many (separator *> reader)
  return first :: rest

def sepBy {α : Type} (reader : Reader α) (separator : Reader Unit) : Reader (List α) :=
  sepBy1 reader separator <|> pure []

end Toml

end PlanningProblem
