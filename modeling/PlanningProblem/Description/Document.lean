import PlanningProblem.Description.Basic

/-!
# Descriptions as documents

A description is written as a TOML document: the name, the domain, the
propositions and the goal as entries on lines of their own, then for each object
a header and its two entries.  Texts stand between double quotes.  What is written
there for a character is left open, because there are several escape sequences for
the same character, and characters that need none can have one.
-/

namespace PlanningProblem

namespace Description

/-- Whether a text between double quotes cannot hold the character itself: a quote, a backslash, and
every control character other than the tab. -/
def needsEscape (char : Char) : Bool :=
  char == '"' || char == '\\' || (char.toNat < 0x20 && char != '\t') || char.toNat == 0x7F

section Writing

variable (escaping : Char → List Char)

def documentText (text : String) : String :=
  "\"" ++ String.ofList (text.toList.flatMap escaping) ++ "\""

def documentArray (values : List String) : String :=
  "[" ++ ", ".intercalate values ++ "]"

mutual

/-- A goal as texts in nested arrays. -/
def documentGoal : Formula → String
  | .atom token => documentText escaping token
  | .group parts => documentArray (documentGoals parts)

def documentGoals : List Formula → List String
  | [] => []
  | formula :: rest => documentGoal formula :: documentGoals rest

end

def documentEntry (name value : String) : String :=
  name ++ " = " ++ value

def documentHeader (name : String) : String :=
  "[[" ++ name ++ "]]"

def objectLines (object : Object) : List String :=
  [documentHeader "objects", documentEntry "name" (documentText escaping object.name),
    documentEntry "type" (documentText escaping object.type)]

def documentLines (description : Description) : List String :=
  [documentEntry "name" (documentText escaping description.name),
    documentEntry "domain" (documentText escaping description.domain),
    documentEntry "init" (documentArray (description.init.map (documentText escaping)))] ++
    description.goal.toList.map (fun goal => documentEntry "goal" (documentGoal escaping goal)) ++
    description.objects.flatMap (objectLines escaping)

/-- The document of a description, given what is written for each character of its texts. -/
def toTomlWith (description : Description) : String :=
  String.join ((documentLines escaping description).map fun line => line ++ "\n")

end Writing

/-- A backslash before a quote or a backslash, the code point of a control character other than the
tab, and every other character itself. -/
def shortEscaping (char : Char) : List Char :=
  if needsEscape char then
    if char = '"' then ['\\', '"']
    else if char = '\\' then ['\\', '\\']
    else ['\\', 'u', '0', '0', Nat.digitChar (char.toNat / 16), Nat.digitChar (char.toNat % 16)]
  else
    [char]

def toToml (description : Description) : String :=
  description.toTomlWith shortEscaping

end Description

end PlanningProblem
