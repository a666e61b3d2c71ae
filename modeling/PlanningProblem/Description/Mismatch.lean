import PlanningProblem.Datum
import PlanningProblem.Description.Format

/-!
# Data that are no description

A description and an object are records: each has named fields, and may also be
written as the sequence of its fields.  This module names the records and the
ways in which a datum can fail to be one.
-/

namespace PlanningProblem

namespace Description

inductive Record where
  | object
  | problem
deriving DecidableEq, Inhabited

/-- The fields of a record, in the order in which a sequence gives them. -/
def Record.fields : Record → List String
  | .object => ["name", "type"]
  | .problem => ["name", "domain", "objects", "init", "goal"]

def Record.label : Record → String
  | .object => "struct ObjectConfig"
  | .problem => "struct ProblemConfig"

inductive Wanted where
  | text
  | sequence
  | record (kind : Record)
deriving DecidableEq, Inhabited

def Wanted.label : Wanted → String
  | .text => "a string"
  | .sequence => "a sequence"
  | .record kind => kind.label

/-- The ways in which a datum can fail to be a description. -/
inductive Mismatch where
  | missingName
  /-- A goal that is not made of texts and sequences alone. -/
  | notFormula
  | unexpected (found : Datum) (wanted : Wanted)
  | noFields (record : Record)
  | surplusFields (length : Nat)

/-- The wording of a mismatch with a datum of the given format. -/
def Mismatch.message (format : Format) : Mismatch → String
  | .missingName => "missing field `name`"
  | .notFormula => "data did not match any variant of untagged enum Formula"
  | .unexpected found wanted =>
      "invalid type: " ++ found.label format.style ++ ", expected " ++ wanted.label
  | .noFields record =>
      "invalid length 0, expected " ++ record.label ++ " with " ++
        toString record.fields.length ++ " elements"
  | .surplusFields length =>
      "invalid length " ++ toString length ++ ", expected fewer elements in array"

end Description

end PlanningProblem
