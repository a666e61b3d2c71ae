import PlanningProblem.Description.Basic
import PlanningProblem.Description.Mismatch
import PlanningProblem.Formula.Tree

/-!
# Reading descriptions

A record is read from a mapping, entry by entry in the order of the mapping, or
from a sequence, which gives the fields by position.  Unknown entries are
ignored, fields that are absent have defaults except for the name, and the
first entry that does not fit is reported.  Formats differ in one point: a
sequence with more elements than the record has fields is either refused or cut.
-/

namespace PlanningProblem

namespace Description

def readText : Datum → Except Mismatch String
  | .text value => .ok value
  | datum => .error (.unexpected datum .text)

/-- Read the elements of a sequence, up to the first that does not fit. -/
def readSequence {α : Type} (readElement : Datum → Except Mismatch α) :
    Datum → Except Mismatch (List α)
  | .sequence elements => elements.mapM readElement
  | datum => .error (.unexpected datum .sequence)

/-- Read a formula on its own, where null is no formula either. -/
def readFormula (datum : Datum) : Except Mismatch Formula :=
  match Formula.ofDatum? datum with
  | some formula => .ok formula
  | none => .error .notFormula

/-- Read a goal, which null leaves out. -/
def readGoal : Datum → Except Mismatch (Option Formula)
  | .null => .ok none
  | datum =>
      match Formula.ofDatum? datum with
      | some formula => .ok (some formula)
      | none => .error .notFormula

/-- Read a record from its entries, or from the sequence of its fields.  A date or time has
entries too, none of them known to any record. -/
def readRecord {α : Type} (surplus : Surplus) (record : Record)
    (readEntries : List (String × Datum) → Except Mismatch α) : Datum → Except Mismatch α
  | .mapping entries => readEntries entries
  | .moment => readEntries []
  | .sequence [] => .error (.noFields record)
  | .sequence elements => do
      let value ← readEntries (record.fields.zip elements)
      if surplus = .refused ∧ record.fields.length < elements.length then
        .error (.surplusFields elements.length)
      else
        .ok value
  | datum => .error (.unexpected datum (.record record))

structure ObjectDraft where
  name : Option String := none
  type : String := ""
deriving DecidableEq, Inhabited

def ObjectDraft.enter (draft : ObjectDraft) : String × Datum → Except Mismatch ObjectDraft
  | ("name", datum) => do return { draft with name := some (← readText datum) }
  | ("type", datum) => do return { draft with type := ← readText datum }
  | _ => return draft

def ObjectDraft.finish (draft : ObjectDraft) : Except Mismatch Object :=
  match draft.name with
  | some name => .ok ⟨name, draft.type⟩
  | none => .error .missingName

def readObjectEntries (entries : List (String × Datum)) : Except Mismatch Object := do
  (← entries.foldlM ObjectDraft.enter {}).finish

def readObject (surplus : Surplus) : Datum → Except Mismatch Object :=
  readRecord surplus .object readObjectEntries

structure Draft where
  name : Option String := none
  domain : String := ""
  objects : List Object := []
  init : List String := []
  goal : Option Formula := none
deriving DecidableEq, Inhabited

def Draft.enter (surplus : Surplus) (draft : Draft) : String × Datum → Except Mismatch Draft
  | ("name", datum) => do return { draft with name := some (← readText datum) }
  | ("domain", datum) => do return { draft with domain := ← readText datum }
  | ("objects", datum) => do
      return { draft with objects := ← readSequence (readObject surplus) datum }
  | ("init", datum) => do return { draft with init := ← readSequence readText datum }
  | ("goal", datum) => do return { draft with goal := ← readGoal datum }
  | _ => return draft

def Draft.finish (draft : Draft) : Except Mismatch Description :=
  match draft.name with
  | some name => .ok ⟨name, draft.domain, draft.objects, draft.init, draft.goal⟩
  | none => .error .missingName

def readEntries (surplus : Surplus) (entries : List (String × Datum)) :
    Except Mismatch Description := do
  (← entries.foldlM (Draft.enter surplus) {}).finish

/-- Read a description from a datum of the given format. -/
def ofDatum (format : Format) : Datum → Except Mismatch Description :=
  readRecord format.surplus .problem (readEntries format.surplus)

end Description

end PlanningProblem
