/-!
# Formulas

A formula is one token of text or a group of formulas.  Groups carry no
delimiters of their own: an opening token and the closing `)` are members of a
group like any other, so the depth of a token is the number of groups around
it.  This module holds the type, its decidable equality, and the view of a
formula as the list of parts that it adds to a surrounding block.
-/

namespace PlanningProblem

/-- A token of text, or an ordered group of formulas. -/
inductive Formula where
  | atom (token : String)
  | group (parts : List Formula)

namespace Formula

/-- The empty conjunction, which every state satisfies. -/
def trivial : Formula :=
  .atom "(and)"

instance : Inhabited Formula := ⟨trivial⟩

def isAtom : Formula → Bool
  | .atom _ => true
  | .group _ => false

def token? : Formula → Option String
  | .atom token => some token
  | .group _ => none

/-- What the formula adds to the body of a block: the members of a group, or the atom itself. -/
def parts : Formula → List Formula
  | .atom token => [.atom token]
  | .group parts => parts

@[simp]
theorem parts_atom (token : String) : (atom token).parts = [atom token] :=
  rfl

@[simp]
theorem parts_group (parts : List Formula) : (group parts).parts = parts :=
  rfl

mutual

def decideEq : (first second : Formula) → Decidable (first = second)
  | .atom token, .atom other =>
      if same : token = other then
        isTrue (congrArg atom same)
      else
        isFalse fun formulaEq => same (atom.inj formulaEq)
  | .atom _, .group _ => isFalse nofun
  | .group _, .atom _ => isFalse nofun
  | .group parts, .group others =>
      match decideEqAll parts others with
      | isTrue same => isTrue (congrArg group same)
      | isFalse different => isFalse fun formulaEq => different (group.inj formulaEq)

def decideEqAll : (firsts seconds : List Formula) → Decidable (firsts = seconds)
  | [], [] => isTrue rfl
  | [], _ :: _ => isFalse nofun
  | _ :: _, [] => isFalse nofun
  | first :: firsts, second :: seconds =>
      match decideEq first second, decideEqAll firsts seconds with
      | isTrue same, isTrue sameRest => isTrue (same ▸ sameRest ▸ rfl)
      | isFalse different, _ => isFalse fun listEq => different (List.cons.inj listEq).1
      | _, isFalse different => isFalse fun listEq => different (List.cons.inj listEq).2

end

instance : DecidableEq Formula := decideEq

end Formula

end PlanningProblem
