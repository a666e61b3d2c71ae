import PlanningProblem.Toml.Reader.Basic

/-!
# Spaces, line ends and comments

What stands between the meaningful parts of a document.  A line ends with a line
feed, which a carriage return may precede, and a comment reaches to the end of
its line.
-/

namespace PlanningProblem

namespace Toml

def isSpace (char : Char) : Bool :=
  char == ' ' || char == '\t'

/-- Tabs, and every character that is not an ASCII control character. -/
def isPlain (char : Char) : Bool :=
  char == '\t' || (0x20 ≤ char.toNat && char.toNat != 0x7F)

def spaces : Reader Unit :=
  discard (takeWhile isSpace)

def lineEnd : Reader Unit :=
  char '\n' <|> chars ['\r', '\n']

def comment : Reader Unit := do
  char '#'
  discard (takeWhile isPlain)

def blankLines : Reader Unit :=
  discard (many (discard (takeWhile1 isSpace) <|> lineEnd))

def gap : Reader Unit :=
  discard (many (discard (takeWhile1 isSpace) <|> lineEnd <|> comment))

end Toml

end PlanningProblem
