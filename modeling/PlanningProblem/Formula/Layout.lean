import PlanningProblem.Formula.Basic

/-!
# The layout of formulas

A formula is written one token to a line.  A token that lies in `depth` groups
has `depth - 1` tabs before it, so that tokens outside every group and tokens
in one group both start at the margin.  `leaves` lists the tokens with their
depths; the text depends on nothing else.  Depths have no bound here, whereas
the printer of `Formula.Printer` keeps its depth in a machine word and prints
this text as long as no depth overflows.
-/

namespace PlanningProblem

namespace Formula

def tabs (count : Nat) : String :=
  String.ofList (List.replicate count '\t')

/-- A line that holds one token, which lies in `depth` groups. -/
def line (depth : Nat) (token : String) : String :=
  tabs (depth - 1) ++ token ++ "\n"

mutual

/-- The lines of a formula that itself lies in `depth` groups, however many those are. -/
def render : Formula → (depth : Nat) → String
  | .atom token, depth => line depth token
  | .group parts, depth => renderAll parts (depth + 1)

def renderAll : List Formula → (depth : Nat) → String
  | [], _ => ""
  | formula :: rest, depth => formula.render depth ++ renderAll rest depth

end

def text (formula : Formula) : String :=
  formula.render 0

instance : ToString Formula := ⟨text⟩

mutual

/-- The tokens of a formula with the number of groups around each. -/
def leaves : Formula → (depth : Nat) → List (Nat × String)
  | .atom token, depth => [(depth, token)]
  | .group parts, depth => leavesAll parts (depth + 1)

def leavesAll : List Formula → (depth : Nat) → List (Nat × String)
  | [], _ => []
  | formula :: rest, depth => formula.leaves depth ++ leavesAll rest depth

end

def lines (leaves : List (Nat × String)) : String :=
  String.join (leaves.map fun (depth, token) => line depth token)

@[simp]
theorem lines_nil : lines [] = "" :=
  rfl

@[simp]
theorem lines_cons (leaf : Nat × String) (rest : List (Nat × String)) :
    lines (leaf :: rest) = line leaf.1 leaf.2 ++ lines rest := by
  simp [lines, String.join_cons]

theorem lines_append (first second : List (Nat × String)) :
    lines (first ++ second) = lines first ++ lines second := by
  simp [lines, String.join_append]

mutual

/-- The text of a formula is the lines of its leaves. -/
theorem render_eq_lines : (formula : Formula) → (depth : Nat) →
    formula.render depth = lines (formula.leaves depth)
  | .atom token, depth => by simp [render, leaves]
  | .group parts, depth => by rw [render, leaves, renderAll_eq_lines parts (depth + 1)]

theorem renderAll_eq_lines : (formulas : List Formula) → (depth : Nat) →
    renderAll formulas depth = lines (leavesAll formulas depth)
  | [], _ => rfl
  | formula :: rest, depth => by
      rw [renderAll, leavesAll, lines_append, render_eq_lines formula depth,
        renderAll_eq_lines rest depth]

end

end Formula

end PlanningProblem
