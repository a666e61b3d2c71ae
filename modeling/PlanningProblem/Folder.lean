/-!
# Reading files

A folder holds files, possibly in folders inside it.  Reading follows a path
part by part: empty parts and single dots stay where they are, double dots lead
one folder up, and every other part names a file or a folder.  The order of the
checks decides which of several faults is reported.
-/

namespace PlanningProblem

/-- Why the bytes of a file, or the text that they encode, are not available. -/
inductive ReadFailure where
  | missing
  | notFolder
  | isFolder
  | nameTooLong
  | nulInName
  | notText
deriving DecidableEq, Inhabited

def ReadFailure.message : ReadFailure → String
  | .missing => "No such file or directory (os error 2)"
  | .notFolder => "Not a directory (os error 20)"
  | .isFolder => "Is a directory (os error 21)"
  | .nameTooLong => "File name too long (os error 36)"
  | .nulInName => "file name contained an unexpected NUL byte"
  | .notText => "stream did not contain valid UTF-8"

/-- Files by the names that lead to them from the outermost folder. -/
structure Folder where
  files : List (List String × ByteArray) := []

namespace Folder

/-- A name has at most so many bytes. -/
def nameBound : Nat :=
  255

/-- A path has fewer bytes than this. -/
def pathBound : Nat :=
  4096

def parts (path : String) : List String :=
  (path.toList.splitOn '/').map String.ofList

/-- The names left of the parts of a path that starts in the given folder, without parts that
name nothing. -/
def resolve : (place : List String) → (parts : List String) → List String
  | place, [] => place
  | place, part :: rest =>
      if part ∈ ["", "."] then resolve place rest
      else if part = ".." then resolve place.dropLast rest
      else resolve (place ++ [part]) rest

def single (path : String) (bytes : ByteArray) : Folder where
  files := [(resolve [] (parts path), bytes)]

/-- Whether there is a folder at the place: some file lies inside it. -/
def hasFolder (folder : Folder) (place : List String) : Bool :=
  folder.files.any fun file => place.isPrefixOf file.1 && place != file.1

/-- The bytes of the file to which the parts of a path lead from a place. -/
def follow (folder : Folder) :
    (place : List String) → (parts : List String) → Except ReadFailure ByteArray
  | _, [] => .error .isFolder
  | place, part :: rest =>
      if part ∈ ["", "."] then
        folder.follow place rest
      else if part = ".." then
        folder.follow place.dropLast rest
      else if nameBound < part.utf8ByteSize then
        .error .nameTooLong
      else
        let next := place ++ [part]
        match folder.files.lookup next with
        | some bytes => if rest = [] then .ok bytes else .error .notFolder
        | none => if folder.hasFolder next then folder.follow next rest else .error .missing

def readBytes (folder : Folder) (path : String) : Except ReadFailure ByteArray :=
  if '\x00' ∈ path.toList then
    .error .nulInName
  else if path = "" then
    .error .missing
  else if pathBound ≤ path.utf8ByteSize then
    .error .nameTooLong
  else
    folder.follow [] (parts path)

def readText (folder : Folder) (path : String) : Except ReadFailure String := do
  let bytes ← folder.readBytes path
  match String.fromUTF8? bytes with
  | some text => return text
  | none => throw .notText

end Folder

end PlanningProblem
