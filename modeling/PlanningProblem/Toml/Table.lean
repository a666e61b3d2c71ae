import PlanningProblem.Datum
import PlanningProblem.Toml.Key

/-!
# Tables under construction

The entries of a table come from many places of a document.  A table remembers
how it came about, because that decides what may still be added to it: a table
under its own header takes no dotted keys from elsewhere, one that a header only
passed through can still get a header, and one that dotted keys made takes more
dotted keys.  Values, tables in braces among them, take nothing.
-/

namespace PlanningProblem

namespace Toml

/-- How a table came about. -/
inductive Origin where
  | header
  /-- By a header of a table inside it. -/
  | passage
  | dotted
deriving DecidableEq, Inhabited

/-- What a name stands for in a table: a value, a table, or several tables of which only the last
can still grow. -/
inductive Node where
  | value (datum : Datum)
  | table (origin : Origin) (entries : List (String × Node))
  | tables (earlier : List Datum) (last : List (String × Node))

/-- The entries of a table, in the order in which they were first named. -/
abbrev Entries : Type :=
  List (String × Node)

mutual

/-- The datum for which a finished node stands. -/
def Node.toDatum : Node → Datum
  | .value datum => datum
  | .table _ entries => .mapping (entriesToData entries)
  | .tables earlier last => .sequence (earlier ++ [.mapping (entriesToData last)])

def entriesToData : List (String × Node) → List (String × Datum)
  | [] => []
  | (name, node) :: rest => (name, node.toDatum) :: entriesToData rest

end

namespace Entries

def replace (entries : Entries) (name : String) (node : Node) : Entries :=
  entries.map fun entry => if entry.1 = name then (name, node) else entry

def append (entries : Entries) (name : String) (node : Node) : Entries :=
  entries ++ [(name, node)]

def erase (entries : Entries) (name : String) : Entries :=
  entries.filter fun entry => entry.1 ≠ name

def define (name : String) (datum : Datum) (entries : Entries) : Option Entries :=
  match entries.lookup name with
  | none => some (entries.append name (.value datum))
  | some _ => none

/-- Follow a dotted key through tables that no header has, making those that are missing.  The
table that receives the value has to come from dotted keys alone. -/
def defineInside (origin : Origin) (name : String) (datum : Datum) :
    (path : List String) → Entries → Option Entries
  | [], entries => if origin = .dotted then entries.define name datum else none
  | part :: path, entries =>
      match entries.lookup part with
      | none => do
          return entries.append part (.table .dotted (← defineInside .dotted name datum path []))
      | some (.table .header _) => none
      | some (.table origin inner) => do
          return entries.replace part (.table origin (← defineInside origin name datum path inner))
      | some (.tables earlier last) => do
          return entries.replace part
            (.tables earlier (← defineInside .header name datum path last))
      | some (.value _) => none

def assign (key : Key) (datum : Datum) (entries : Entries) : Option Entries :=
  match key.path with
  | [] => entries.define key.name datum
  | path => defineInside .header key.name datum path entries

/-- Change the table to which a path of headers leads, making the tables that are missing. -/
def alter (change : Entries → Option Entries) : (path : List String) → Entries → Option Entries
  | [], entries => change entries
  | part :: path, entries =>
      match entries.lookup part with
      | none => do return entries.append part (.table .passage (← alter change path []))
      | some (.table origin inner) => do
          return entries.replace part (.table origin (← alter change path inner))
      | some (.tables earlier last) => do
          return entries.replace part (.tables earlier (← alter change path last))
      | some (.value _) => none

/-- Give a table its header.  A table that headers only passed through keeps its entries, but its
place is that of the header. -/
def openTable (name : String) (entries : Entries) : Option Entries :=
  match entries.lookup name with
  | none => some (entries.append name (.table .header []))
  | some (.table .passage inner) => some ((entries.erase name).append name (.table .header inner))
  | some _ => none

/-- Begin the next of several tables with the same header. -/
def openElement (name : String) (entries : Entries) : Option Entries :=
  match entries.lookup name with
  | none => some (entries.append name (.tables [] []))
  | some (.tables earlier last) =>
      some (entries.replace name (.tables (earlier ++ [.mapping (entriesToData last)]) []))
  | some _ => none

end Entries

end Toml

end PlanningProblem
