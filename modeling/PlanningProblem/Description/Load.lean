import PlanningProblem.Description.Decode
import PlanningProblem.Folder
import PlanningProblem.Toml.Document

/-!
# Loading descriptions

A description is loaded from the text of a TOML document, or from a file that
holds such a text.
-/

namespace PlanningProblem

namespace Description

/-- Why a text is not a description. -/
inductive Invalid where
  | document
  | content (mismatch : Mismatch)

inductive LoadError where
  | unreadable (path : String) (failure : ReadFailure)
  | invalid (reason : Invalid)

/-- The wording of the error; a text that is no document has no further explanation. -/
def Invalid.message : Invalid → String
  | .document => "Invalid problem description"
  | .content mismatch => "Invalid problem description: " ++ mismatch.message .toml

def LoadError.message : LoadError → String
  | .unreadable path failure =>
      "Failed to read problem description '" ++ path ++ "': " ++ failure.message
  | .invalid reason => reason.message

/-- The description in a TOML document, where sequences may exceed the fields of a record. -/
def ofToml (document : String) : Except Invalid Description :=
  match Toml.read? document with
  | none => .error .document
  | some datum => (ofDatum .toml datum).mapError .content

def load (folder : Folder) (path : String) : Except LoadError Description :=
  match folder.readText path with
  | .error failure => .error (.unreadable path failure)
  | .ok document => (ofToml document).mapError .invalid

end Description

end PlanningProblem
