import PlanningProblem.Toml.Trivia

/-!
# Texts

A text stands between double quotes, with escape sequences, or between single
quotes, as it is.  Three quotes instead of one allow line ends: the first may
follow the opening quotes and does not count, each other one is a line feed of
the text, and a backslash at the end of a line removes all blanks up to the
next visible character.
-/

namespace PlanningProblem

namespace Toml

def hexValue (digit : Char) : Nat :=
  if digit.isDigit then digit.toNat - '0'.toNat
  else if 'a' ≤ digit then digit.toNat - 'a'.toNat + 10
  else digit.toNat - 'A'.toNat + 10

def isHexDigit (char : Char) : Bool :=
  char.isDigit || ('a' ≤ char && char ≤ 'f') || ('A' ≤ char && char ≤ 'F')

/-- A number of exactly so many hexadecimal digits, after digits with the given value. -/
def hexNumber : (count : Nat) → (before : Nat) → Reader Nat
  | 0, before => pure before
  | count + 1, before => do
      let digit ← satisfy isHexDigit
      hexNumber count (before * 16 + hexValue digit)

/-- The character with a code point of so many hexadecimal digits. -/
def codePoint (count : Nat) : Reader Char := do
  let code ← hexNumber count 0
  if code.isValidChar then return Char.ofNat code else failure

/-- The character for which a letter stands after a backslash. -/
def escaped? : Char → Option Char
  | 'b' => some '\x08'
  | 't' => some '\t'
  | 'n' => some '\n'
  | 'f' => some '\x0c'
  | 'r' => some '\r'
  | '"' => some '"'
  | '\\' => some '\\'
  | _ => none

def escape : Reader Char := do
  char '\\'
  let letter ← satisfy fun _ => true
  match letter with
  | 'u' => codePoint 4
  | 'U' => codePoint 8
  | _ =>
      match escaped? letter with
      | some char => return char
      | none => failure

def isBasicPlain (char : Char) : Bool :=
  isPlain char && char != '"' && char != '\\'

def isLiteralPlain (char : Char) : Bool :=
  isPlain char && char != '\''

def basicText : Reader String := do
  char '"'
  let content ← many (satisfy isBasicPlain <|> escape)
  char '"'
  return String.ofList content

def literalText : Reader String := do
  char '\''
  let content ← takeWhile isLiteralPlain
  char '\''
  return String.ofList content

/-- One or two quotes inside a text that three quotes end. -/
def loneQuote (quote : Char) : Reader Char := fun input =>
  if (input.takeWhile (· == quote)).length < 3 then satisfy (· == quote) input else none

/-- The three quotes that end a text, after at most two that still belong to it. -/
def closingQuotes (quote : Char) : Reader (List Char) := fun input =>
  let run := (input.takeWhile (· == quote)).length
  if run < 3 then
    none
  else
    let own := min (run - 3) 2
    some (List.replicate own quote, input.drop (own + 3))

/-- A text between three quotes, made of the given pieces, of line ends and of single quotes. -/
def multiLine (quote : Char) (piece : Reader (List Char)) : Reader String := do
  chars [quote, quote, quote]
  discard (optional lineEnd)
  let pieces ← many (piece <|> (lineEnd *> pure ['\n']) <|> (List.singleton <$> loneQuote quote))
  let own ← closingQuotes quote
  return String.ofList (pieces.flatten ++ own)

/-- A backslash at the end of a line, and the blanks that it removes. -/
def continuation : Reader (List Char) := do
  char '\\'
  spaces
  lineEnd
  blankLines
  return []

def multiLineBasicText : Reader String :=
  multiLine '"'
    ((List.singleton <$> satisfy isBasicPlain) <|> continuation <|> (List.singleton <$> escape))

def multiLineLiteralText : Reader String :=
  multiLine '\'' (List.singleton <$> satisfy isLiteralPlain)

/-- A text in any of its four forms. -/
def text : Reader String :=
  multiLineBasicText <|> basicText <|> multiLineLiteralText <|> literalText

end Toml

end PlanningProblem
