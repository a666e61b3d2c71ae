import PlanningProblem.Problem.Definition
import PlanningProblem.Proofs.Formula.Indentation
import PlanningProblem.Proofs.Formula.Outline

/-!
# The document of a problem

The text of a problem has a fixed shape: the header, the domain, the objects and
the initial propositions one to a line, and the goal, on one line or as a block.
The shape does not depend on what the parts contain, which may be any texts, and
writing the definition deeper only puts more tabs before every token.
-/

namespace PlanningProblem

namespace Problem

open Formula

def tokenBlockLeaves (name : String) (tokens : List String) (depth : Nat) : List (Nat × String) :=
  (depth, "(" ++ name) :: tokens.map (fun token => (depth + 1, token)) ++ [(depth, ")")]

theorem leavesAll_flatMap_atoms (tokens : List String) (depth : Nat) :
    leavesAll ((tokens.map atom).flatMap parts) depth =
      tokens.map fun token => (depth, token) := by
  induction tokens with
  | nil => rfl
  | cons token rest ih =>
      rw [List.map_cons, List.flatMap_cons, leavesAll_append, ih]
      rfl

theorem leavesAll_parts_tokenBlock (name : String) (tokens : List String) (depth : Nat) :
    leavesAll (block name (tokens.map atom)).parts depth = tokenBlockLeaves name tokens depth := by
  rw [leavesAll_parts_block, leavesAll_flatMap_atoms, tokenBlockLeaves]

def objectTexts (problem : Problem) : List String :=
  problem.objects.toList.map Object.text

theorem objectsBlock_eq (problem : Problem) :
    problem.objectsBlock = block ":objects" (problem.objectTexts.map atom) := by
  rw [objectsBlock, Object.listing, objectTexts, List.map_map]
  rfl

theorem leaves_definition (problem : Problem) :
    problem.definition.leaves 0 =
      (1, "(define " ++ problem.header) :: (2, problem.domainHeader) ::
        (tokenBlockLeaves ":objects" problem.objectTexts 2 ++
          (tokenBlockLeaves ":init" problem.initialState.toList 2 ++
            (leavesAll problem.goalBlock.parts 2 ++ [(1, ")")]))) := by
  have inside : problem.definition.leaves 0 = leavesAll problem.definition.parts 1 := rfl
  rw [inside, definition, leavesAll_parts_block, List.flatMap_cons, List.flatMap_cons,
    List.flatMap_cons, List.flatMap_singleton, leavesAll_append, leavesAll_append,
    leavesAll_append, objectsBlock_eq, leavesAll_parts_tokenBlock, initialBlock,
    leavesAll_parts_tokenBlock]
  rw [← String.append_assoc, List.cons_append, List.append_assoc, List.append_assoc,
    List.append_assoc]
  rfl

theorem text_eq_lines_leaves (problem : Problem) :
    problem.text = lines (problem.definition.leaves 0) :=
  render_eq_lines problem.definition 0

/-- The lines of texts that are two levels deep. -/
def listed (tokens : List String) : String :=
  String.join (tokens.map fun token => "\t\t" ++ token ++ "\n")

theorem lines_tokenBlockLeaves (name : String) (tokens : List String) :
    lines (tokenBlockLeaves name tokens 2) = "\t(" ++ name ++ "\n" ++ listed tokens ++ "\t)\n" := by
  have inner : lines (tokens.map fun token => (3, token)) = listed tokens := by
    rw [lines, listed, List.map_map]
    rfl
  rw [tokenBlockLeaves, lines_append, lines_cons, inner]
  rfl

/-- The goal on one line if it is a single token, and otherwise as a block of its own. -/
def goalText : Formula → String
  | .atom token => "\t(:goal " ++ token ++ ")\n"
  | .group parts => "\t(:goal\n" ++ (group parts).render 2 ++ "\t)\n"

theorem lines_goalBlock (problem : Problem) :
    lines (leavesAll problem.goalBlock.parts 2) = goalText problem.goal := by
  rw [goalBlock]
  cases problem.goal with
  | atom token =>
      rw [parts_group, leavesAll, leavesAll, leaves, List.append_nil, lines_cons, lines_nil,
        String.append_empty, line, inlineBlock, goalText]
      simp only [String.append_assoc]
      rfl
  | group parts =>
      rw [leavesAll_parts_block, List.flatMap_singleton, parts_group, List.cons_append, lines_cons,
        lines_append, ← renderAll_eq_lines, goalText, render, lines_cons, lines_nil]
      rfl

theorem line_header (problem : Problem) :
    line 1 ("(define " ++ problem.header) = "(define (problem " ++ problem.name ++ ")\n" := by
  have joined : "(define " ++ "(problem " = "(define (problem " := rfl
  rw [line, header, inlineBlock, ← joined]
  simp only [String.append_assoc]
  rfl

theorem line_domainHeader (problem : Problem) :
    line 2 problem.domainHeader = "\t(:domain " ++ problem.domain ++ ")\n" := by
  rw [line, domainHeader, inlineBlock]
  simp only [String.append_assoc]
  rfl

theorem text_eq_sections (problem : Problem) :
    problem.text =
      "(define (problem " ++ problem.name ++ ")\n" ++
        ("\t(:domain " ++ problem.domain ++ ")\n" ++
          ("\t(:objects\n" ++ listed problem.objectTexts ++ "\t)\n" ++
            ("\t(:init\n" ++ listed problem.initialState.toList ++ "\t)\n" ++
              (goalText problem.goal ++ ")\n")))) := by
  have closing : lines [(1, ")")] = ")\n" := rfl
  rw [text_eq_lines_leaves, leaves_definition, lines_cons, lines_cons, lines_append, lines_append,
    lines_append, line_header, line_domainHeader, lines_tokenBlockLeaves, lines_tokenBlockLeaves,
    lines_goalBlock, closing]
  rfl

/-- The text of a problem, for any texts in its parts and any goal: objects ascend by name and then
by type, propositions by code points.  If the definition is printed inside further groups, the same
tokens come with as many more tabs before each of them. -/
theorem text_eq_document (problem : Problem) :
    problem.text =
        "(define (problem " ++ problem.name ++ ")\n" ++
        "\t(:domain " ++ problem.domain ++ ")\n" ++
        "\t(:objects\n" ++
        String.join (problem.objects.toList.map fun object => "\t\t" ++ object.text ++ "\n") ++
        "\t)\n" ++
        "\t(:init\n" ++
        String.join (problem.initialState.toList.map fun token => "\t\t" ++ token ++ "\n") ++
        "\t)\n" ++
        goalText problem.goal ++
        ")\n" ∧
      (problem.objects.toList.Pairwise fun earlier later =>
        earlier.name < later.name ∨ earlier.name = later.name ∧ earlier.type < later.type) ∧
      (problem.initialState.toList.Pairwise fun earlier later => earlier < later) ∧
      problem.text =
        String.join ((problem.definition.leaves 0).map fun leaf =>
          String.ofList (List.replicate (leaf.1 - 1) '\t') ++ leaf.2 ++ "\n") ∧
      ∀ (overflow : Overflow) (further : UInt64), problem.definition.FitsAt further.toNat →
        problem.definition.print overflow further =
          some (String.join ((problem.definition.leaves 0).map fun leaf =>
            String.ofList (List.replicate further.toNat '\t') ++
              (String.ofList (List.replicate (leaf.1 - 1) '\t') ++ leaf.2 ++ "\n"))) := by
  refine ⟨?_, ?_, ?_, ?_, ?_⟩
  · have objectsEq : listed problem.objectTexts =
        String.join (problem.objects.toList.map fun object => "\t\t" ++ object.text ++ "\n") := by
      rw [listed, objectTexts, List.map_map]
      rfl
    rw [text_eq_sections, objectsEq, listed]
    simp only [String.append_assoc]
  · exact problem.objects.ascending.imp Object.compare_eq_lt_iff.mp
  · exact problem.initialState.ascending.imp compareOfLessAndEq_eq_lt.mp
  · exact text_eq_lines_leaves problem
  · exact fun overflow further fits => print_group overflow fits

/-- A problem with a compound goal, inside two further groups. -/
theorem text_eq_document_deeper :
    let problem : Problem := { Problem.empty "stack" "blocks" with
      objects := .ofList [⟨"b", "block"⟩, ⟨"a", ""⟩]
      initialState := .ofList ["(clear a)"]
      goal := .group [.atom "(and", .group [.atom "(on a b)"], .atom ")"] }
    problem.definition.FitsAt 2 ∧
      problem.definition.print .stops 2 = some (String.join [
        "\t\t(define (problem stack)\n", "\t\t\t(:domain blocks)\n",
        "\t\t\t(:objects\n", "\t\t\t\ta\n", "\t\t\t\tb - block\n", "\t\t\t)\n",
        "\t\t\t(:init\n", "\t\t\t\t(clear a)\n", "\t\t\t)\n",
        "\t\t\t(:goal\n", "\t\t\t\t(and\n", "\t\t\t\t\t(on a b)\n", "\t\t\t\t)\n", "\t\t\t)\n",
        "\t\t)\n"]) := by
  intro problem
  obtain ⟨-, -, -, -, deeper⟩ := text_eq_document problem
  have fits : problem.definition.FitsAt 2 := by decide +kernel
  refine ⟨fits, ?_⟩
  rw [deeper .stops 2 fits]
  decide +kernel

end Problem

end PlanningProblem
