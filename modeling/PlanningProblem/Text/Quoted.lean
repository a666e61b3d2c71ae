import PlanningProblem.Text.Printable

/-!
# Quoted text

Messages quote a text between double quotes.  A quote and a backslash get a
backslash before them, the common control characters their letter, and every
other character that is not printable its code point in hexadecimal.
-/

namespace PlanningProblem

namespace Text

/-- A character as it stands in a quotation. -/
def quoteChar (char : Char) : List Char :=
  match char with
  | '"' => ['\\', '"']
  | '\\' => ['\\', '\\']
  | '\n' => ['\\', 'n']
  | '\r' => ['\\', 'r']
  | '\t' => ['\\', 't']
  | '\x00' => ['\\', '0']
  | _ =>
      if isPrintable char then [char]
      else "\\u\x7b".toList ++ Nat.toDigits 16 char.toNat ++ "\x7d".toList

def quoted (text : String) : String :=
  "\"" ++ String.ofList (text.toList.flatMap quoteChar) ++ "\""

end Text

end PlanningProblem
