import PlanningProblem.Toml.Value

/-!
# Documents

A document is a list of lines, each with at most one statement: an entry, a
header of a table, or a header of the next of several tables.  Entries belong to
the table of the last header before them.
-/

namespace PlanningProblem

namespace Toml

inductive Statement where
  | entry (key : Key) (datum : Datum)
  | table (key : Key)
  | element (key : Key)

def entry : Reader Statement := do
  let key ← key
  char '='
  spaces
  let datum ← value nestingLimit
  return .entry key datum

/-- A key between double brackets. -/
def elementHeader : Reader Statement := do
  chars ['[', '[']
  let key ← key
  chars [']', ']']
  return .element key

/-- A key between brackets. -/
def tableHeader : Reader Statement := do
  char '['
  let key ← key
  char ']'
  return .table key

def statement : Reader Statement :=
  elementHeader <|> tableHeader <|> entry

/-- A line without its end: perhaps a statement, and perhaps a comment. -/
def line : Reader (Option Statement) := do
  spaces
  let content ← optional statement
  spaces
  discard (optional comment)
  return content

/-- All statements of a document, which may begin with a byte order mark. -/
def statements : Reader (List Statement) := do
  discard (optional (char '\uFEFF'))
  let lines ← sepBy1 line lineEnd
  atEnd
  return lines.filterMap id

/-- The entries of the whole document so far, and the path to the table of the last header. -/
structure Progress where
  entries : Entries := []
  focus : List String := []

def Progress.take (progress : Progress) : Statement → Option Progress
  | .entry key datum => do
      let entries ← progress.entries.alter (Entries.assign key datum) progress.focus
      return { progress with entries }
  | .table key => do
      let entries ← progress.entries.alter (Entries.openTable key.name) key.path
      return { entries, focus := key.parts }
  | .element key => do
      let entries ← progress.entries.alter (Entries.openElement key.name) key.path
      return { entries, focus := key.parts }

/-- The mapping that statements make up, unless one of them contradicts those before it. -/
def assemble (statements : List Statement) : Option Datum := do
  let progress ← statements.foldlM Progress.take {}
  return .mapping (entriesToData progress.entries)

def read? (document : String) : Option Datum := do
  let (statements, _) ← statements document.toList
  assemble statements

end Toml

end PlanningProblem
