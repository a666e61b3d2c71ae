import PlanningProblem.Problem.History
import PlanningProblem.Proofs.Balance
import PlanningProblem.Proofs.Formula.TermOutline
import PlanningProblem.Proofs.Problem.Document

/-!
# Problems as single expressions

A block opens a parenthesis on its first line and closes it on its last one,
with any number of lines and parentheses in between.  If the texts in a formula
are balanced, so are its lines, whatever the depth at which they are written,
and a block that stands alone is a single expression.  The definition of a
problem is such a block.
-/

namespace PlanningProblem

namespace Formula

theorem balanced_tabs (count : Nat) : Text.Balanced (tabs count) :=
  Text.Unparenthesized.balanced (by simp [Text.Unparenthesized, tabs, List.mem_replicate])

theorem balanced_inlineBlock {name token : String} (nameBalanced : Text.Balanced name)
    (tokenBalanced : Text.Balanced token) : Text.Balanced (inlineBlock name token) := by
  have inside := (nameBalanced.append (by decide : Text.Balanced " ")).append tokenBalanced
  rw [inlineBlock]
  simpa only [String.append_assoc] using inside.enclosed

namespace Outline

mutual

/-- All texts of the outline are balanced. -/
def Balanced : Outline → Prop
  | .single token => Text.Balanced token
  | .block head body => Text.Balanced head ∧ AllBalanced body

def AllBalanced : List Outline → Prop
  | [] => True
  | outline :: rest => outline.Balanced ∧ AllBalanced rest

end

theorem Balanced.enclose {outline : Outline} {name : String} (balanced : outline.Balanced)
    (nameBalanced : Text.Balanced name) : (outline.enclose name).Balanced := by
  cases outline with
  | single token => exact balanced_inlineBlock nameBalanced balanced
  | block head body => exact ⟨nameBalanced, balanced, True.intro⟩

/-- What a block has between its own parentheses. -/
def inside (head : String) (body : List Outline) (depth : Nat) : String :=
  head ++ "\n" ++ lines (leavesAll body (depth + 1)) ++ tabs (depth - 1)

theorem lines_leaves_block (head : String) (body : List Outline) (depth : Nat) :
    lines ((block head body).leaves depth) =
      tabs (depth - 1) ++ ("(" ++ inside head body depth ++ ")\n") := by
  rw [leaves, List.cons_append, lines_cons, lines_append, lines_cons, lines_nil,
    String.append_empty, line, line, inside]
  have closing : ")" ++ "\n" = ")\n" := rfl
  simp only [String.append_assoc, closing]

mutual

/-- The lines of an outline open and close what its texts do, since each block closes what it
opens. -/
theorem balanced_lines_leaves : (outline : Outline) → outline.Balanced → (depth : Nat) →
    Text.Balanced (lines (outline.leaves depth))
  | .single token, balanced, depth => by
      have lineBalanced := ((balanced_tabs (depth - 1)).append balanced).append
        (by decide : Text.Balanced "\n")
      rw [leaves, lines_cons, lines_nil, String.append_empty, line]
      exact lineBalanced
  | .block head body, balanced, depth => by
      have insideBalanced := balanced_inside head body balanced depth
      have ended := insideBalanced.enclosed.append (by decide : Text.Balanced "\n")
      have closing : ")" ++ "\n" = ")\n" := rfl
      rw [String.append_assoc, closing] at ended
      rw [lines_leaves_block]
      exact (balanced_tabs (depth - 1)).append ended

theorem balanced_inside : (head : String) → (body : List Outline) →
    (block head body).Balanced → (depth : Nat) → Text.Balanced (inside head body depth)
  | head, body, ⟨headBalanced, bodyBalanced⟩, depth => by
      have firstLine := headBalanced.append (by decide : Text.Balanced "\n")
      have bodyLines := balanced_lines_leavesAll body bodyBalanced (depth + 1)
      exact (firstLine.append bodyLines).append (balanced_tabs (depth - 1))

theorem balanced_lines_leavesAll : (outlines : List Outline) → AllBalanced outlines →
    (depth : Nat) → Text.Balanced (lines (leavesAll outlines depth))
  | [], _, _ => (by decide : Text.Balanced "")
  | outline :: rest, ⟨balanced, restBalanced⟩, depth => by
      rw [leavesAll, lines_append]
      exact (balanced_lines_leaves outline balanced depth).append
        (balanced_lines_leavesAll rest restBalanced depth)

end

/-- A block that stands alone starts at the margin, so its parentheses are all of its text. -/
theorem singleExpression_text {head : String} {body : List Outline}
    (balanced : (block head body).Balanced) :
    Text.SingleExpression (block head body).toFormula.text := by
  rw [text, render_toFormula, lines_leaves_block]
  exact (balanced_inside head body balanced 1).singleExpression

theorem toFormulas_map_single (tokens : List String) :
    toFormulas (tokens.map single) = tokens.map atom := by
  induction tokens with
  | nil => rfl
  | cons token rest ih => rw [List.map_cons, List.map_cons, toFormulas, toFormula, ih]

theorem allBalanced_map_single {tokens : List String}
    (balanced : ∀ token ∈ tokens, Text.Balanced token) : AllBalanced (tokens.map single) := by
  induction tokens with
  | nil => exact True.intro
  | cons token rest ih =>
      rw [List.forall_mem_cons] at balanced
      exact ⟨balanced.1, ih balanced.2⟩

end Outline

namespace Term

/-- The vocabulary of terms with balanced literals, and no parentheses in the variables. -/
def balancedVocabulary : Vocabulary where
  literal := Text.Balanced
  variableName := Text.Unparenthesized
  type := Text.Unparenthesized

theorem balanced_binding {quantifier variableName type : String}
    (quantifierBalanced : Text.Balanced quantifier)
    (nameFree : Text.Unparenthesized variableName) (typeFree : Text.Unparenthesized type) :
    Text.Balanced (binding quantifier variableName type) := by
  have marked := (quantifierBalanced.append (by decide : Text.Balanced " ?")).append
    nameFree.balanced
  rw [binding]
  split
  · exact marked.append (by decide)
  · exact marked.append ((by decide : Text.Balanced " - ").append typeFree.balanced)

mutual

theorem balanced_outline : (term : Term) → term.Within balancedVocabulary →
    term.outline.Balanced
  | .literal _, within => within
  | .conjunction operands, within => ⟨by decide, allBalanced_outlines operands within⟩
  | .disjunction operands, within => ⟨by decide, allBalanced_outlines operands within⟩
  | .negation operand, within => (balanced_outline operand within).enclose (by decide)
  | .universal _ _ body, ⟨nameFree, typeFree, within⟩ =>
      ⟨balanced_binding (by decide) nameFree typeFree, balanced_outline body within, True.intro⟩
  | .existential _ _ body, ⟨nameFree, typeFree, within⟩ =>
      ⟨balanced_binding (by decide) nameFree typeFree, balanced_outline body within, True.intro⟩
  | .conditional condition consequence, ⟨conditionWithin, consequenceWithin⟩ =>
      ⟨by decide, balanced_outline condition conditionWithin,
        balanced_outline consequence consequenceWithin, True.intro⟩

theorem allBalanced_outlines : (terms : List Term) → AllWithin balancedVocabulary terms →
    Outline.AllBalanced (outlines terms)
  | [], _ => True.intro
  | term :: rest, ⟨within, restWithin⟩ =>
      ⟨balanced_outline term within, allBalanced_outlines rest restWithin⟩

end

/-- A term whose formula is no single token is written as one expression. -/
theorem singleExpression_text {term : Term} (within : term.Within balancedVocabulary)
    (compound : term.toFormula.isAtom = false) :
    Text.SingleExpression term.toFormula.text := by
  have balanced := balanced_outline term within
  rw [← toFormula_outline] at compound ⊢
  cases outlineEq : term.outline with
  | single token =>
      rw [outlineEq] at compound
      cases compound
  | block head body =>
      rw [outlineEq] at balanced
      exact Outline.singleExpression_text balanced

end Term

end Formula

namespace Problem

open Formula

/-- No text in the problem leaves a parenthesis open or closes one of another text. -/
structure Balanced (problem : Problem) : Prop where
  name_free : Text.Unparenthesized problem.name
  domain_free : Text.Unparenthesized problem.domain
  objectNames_free : ∀ object ∈ problem.objects, Text.Unparenthesized object.name
  types_free : ∀ object ∈ problem.objects, Text.Unparenthesized object.type
  propositions_balanced : ∀ token ∈ problem.initialState, Text.Balanced token
  goal_built : ∃ term : Term, term.Within Term.balancedVocabulary ∧ term.toFormula = problem.goal

/-- The outline of the definition of a problem, given that of its goal. -/
def outline (problem : Problem) (goal : Outline) : Outline :=
  .block ("define " ++ problem.header) [
    .single problem.domainHeader,
    .block ":objects" (problem.objectTexts.map .single),
    .block ":init" (problem.initialState.toList.map .single),
    goal.enclose ":goal"]

theorem toFormula_outline {problem : Problem} {goal : Outline}
    (goalEq : goal.toFormula = problem.goal) :
    (problem.outline goal).toFormula = problem.definition := by
  rw [outline, definition, objectsBlock_eq, initialBlock, goalBlock, ← goalEq]
  cases goal <;>
    simp only [Outline.toFormula, Outline.toFormulas, Outline.enclose,
      Outline.toFormulas_map_single] <;> rfl

theorem Balanced.balanced_of_mem_objectTexts {problem : Problem} (balanced : problem.Balanced) :
    ∀ text ∈ problem.objectTexts, Text.Balanced text := by
  intro text isText
  obtain ⟨object, member, rfl⟩ := List.mem_map.mp isText
  have nameBalanced := (balanced.objectNames_free object member).balanced
  have typeBalanced := (balanced.types_free object member).balanced
  rw [Object.text]
  split
  · exact nameBalanced
  · exact (nameBalanced.append (by decide)).append typeBalanced

theorem Balanced.balanced_outline {problem : Problem} (balanced : problem.Balanced)
    {goal : Outline} (goalBalanced : goal.Balanced) : (problem.outline goal).Balanced := by
  have header : Text.Balanced problem.header :=
    balanced_inlineBlock (by decide) balanced.name_free.balanced
  have domainHeader : Text.Balanced problem.domainHeader :=
    balanced_inlineBlock (by decide) balanced.domain_free.balanced
  have objects := Outline.allBalanced_map_single balanced.balanced_of_mem_objectTexts
  have propositions := Outline.allBalanced_map_single balanced.propositions_balanced
  exact ⟨(by decide : Text.Balanced "define ").append header, domainHeader,
    ⟨by decide, objects⟩, ⟨by decide, propositions⟩, goalBalanced.enclose (by decide), True.intro⟩

/-- The text of a problem is one expression if the texts in the problem are balanced, and so is that
of any compound formula that the operators build from balanced texts.  The parenthesis that
opens the text stays open up to the last one, and only the line ends after that. -/
theorem text_singleExpression :
    (∀ problem : Problem, problem.Balanced → Text.SingleExpression problem.text) ∧
      ∀ term : Term, term.Within Term.balancedVocabulary → term.toFormula.isAtom = false →
        Text.SingleExpression term.toFormula.text := by
  refine ⟨fun problem balanced => ?_, fun term => Term.singleExpression_text⟩
  obtain ⟨term, within, goalEq⟩ := balanced.goal_built
  rw [← Term.toFormula_outline] at goalEq
  have definitionBalanced := balanced.balanced_outline (Term.balanced_outline term within)
  rw [text, ← toFormula_outline goalEq]
  exact Outline.singleExpression_text definitionBalanced

/-- Nested parentheses in a proposition, a literal of two expressions and an empty one. -/
theorem text_singleExpression_nested :
    let goal : Term := .conjunction [.literal "(at (b) c) (on a b)", .negation (.literal ""),
      .universal "x" "block" (.conditional (.disjunction []) (.literal "(clear ?x)"))]
    let history : List Edit := [.addObject ⟨"a", "block"⟩, .addProposition "(at (b) c)",
      .addProposition "on(a, b)", .setGoal goal.toFormula]
    let problem := (empty "stack" "blocks").after history
    problem.Balanced ∧ Text.SingleExpression problem.text ∧
      goal.Within Term.balancedVocabulary ∧ goal.toFormula.isAtom = false ∧
      Text.SingleExpression goal.toFormula.text := by
  intro goal history problem
  have within : goal.Within Term.balancedVocabulary := by
    simp only [goal, Term.Within, Term.AllWithin, Term.balancedVocabulary]
    decide
  have balanced : problem.Balanced := by
    refine ⟨by decide, by decide, ?_, ?_, ?_, goal, within, rfl⟩
    · exact (by decide : ∀ object ∈ problem.objects.toList, Text.Unparenthesized object.name)
    · exact (by decide : ∀ object ∈ problem.objects.toList, Text.Unparenthesized object.type)
    · exact (by decide : ∀ token ∈ problem.initialState.toList, Text.Balanced token)
  exact ⟨balanced, text_singleExpression.1 problem balanced, within, rfl,
    text_singleExpression.2 goal within rfl⟩

end Problem

end PlanningProblem
