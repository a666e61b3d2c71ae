import PlanningProblem.Proofs.Formula.Outline
import PlanningProblem.Proofs.Formula.TermLayout

/-!
# Reading terms back

The operators of a term disappear in its formula: a block keeps only a text for
its head, and a negated token is a token again.  This file gives the outline of
the formula that a term builds, and recovers the term from it.  Which operator
stands at the root is told by the first word; the negations of a token are told
from a literal because no literal starts like a negation.
-/

namespace PlanningProblem

namespace Formula

theorem toList_inlineBlock (name token : String) :
    (inlineBlock name token).toList = '(' :: (name.toList ++ ' ' :: (token.toList ++ [')'])) := by
  simp [inlineBlock]

theorem inlineBlock_inj {name first second : String}
    (textEq : inlineBlock name first = inlineBlock name second) : first = second := by
  rw [inlineBlock, inlineBlock, String.append_left_inj, String.append_right_inj] at textEq
  exact textEq

theorem legible_inlineBlock {name token : String} (nameFree : '\n' ∉ name.toList)
    (tokenFree : '\n' ∉ token.toList) : Legible (inlineBlock name token) where
  oneLine := by simp [toList_inlineBlock, nameFree, tokenFree]
  unindented := by simp [toList_inlineBlock]

namespace Outline

/-- An outline under a name: a line of its own stays on its line, a block becomes the body. -/
def enclose (name : String) : Outline → Outline
  | .single token => .single (inlineBlock name token)
  | .block head body => .block name [.block head body]

theorem enclose_inj {name : String} {first second : Outline}
    (outlineEq : first.enclose name = second.enclose name) : first = second := by
  cases first with
  | single token =>
      cases second with
      | single other => rw [inlineBlock_inj (single.inj outlineEq)]
      | block head body => cases outlineEq
  | block head body =>
      cases second with
      | single other => cases outlineEq
      | block other others => exact (List.cons.inj (block.inj outlineEq).2).1

theorem Readable.enclose {outline : Outline} {name : String} (readable : outline.Readable)
    (oneLine : '\n' ∉ name.toList) : (outline.enclose name).Readable := by
  cases outline with
  | single token =>
      refine ⟨legible_inlineBlock oneLine readable.1.oneLine, fun closing => ?_⟩
      have listEq := congrArg String.toList closing
      simp [toList_inlineBlock] at listEq
  | block head body => exact ⟨oneLine, readable, True.intro⟩

theorem toFormula_enclose (outline : Outline) :
    (outline.enclose "not").toFormula = negation outline.toFormula := by
  cases outline <;> rfl

end Outline

namespace Term

/-- Which texts a term may hold, by the part that they play in it. -/
structure Vocabulary where
  literal : String → Prop
  variableName : String → Prop
  type : String → Prop

mutual

/-- All texts in the term belong to the vocabulary. -/
def Within (vocabulary : Vocabulary) : Term → Prop
  | .literal token => vocabulary.literal token
  | .conjunction operands | .disjunction operands => AllWithin vocabulary operands
  | .negation operand => operand.Within vocabulary
  | .universal variableName type body | .existential variableName type body =>
      vocabulary.variableName variableName ∧ vocabulary.type type ∧ body.Within vocabulary
  | .conditional condition consequence =>
      condition.Within vocabulary ∧ consequence.Within vocabulary

def AllWithin (vocabulary : Vocabulary) : List Term → Prop
  | [] => True
  | term :: rest => term.Within vocabulary ∧ AllWithin vocabulary rest

end

structure Vocabulary.Subset (vocabulary larger : Vocabulary) : Prop where
  literal : ∀ token, vocabulary.literal token → larger.literal token
  variableName : ∀ name, vocabulary.variableName name → larger.variableName name
  type : ∀ type, vocabulary.type type → larger.type type

mutual

theorem Within.mono {vocabulary larger : Vocabulary} (subset : vocabulary.Subset larger) :
    (term : Term) → term.Within vocabulary → term.Within larger
  | .literal token, within => subset.literal token within
  | .conjunction operands, within => AllWithin.mono subset operands within
  | .disjunction operands, within => AllWithin.mono subset operands within
  | .negation operand, within => Within.mono subset operand within
  | .universal variableName type body, ⟨nameWithin, typeWithin, bodyWithin⟩ =>
      ⟨subset.variableName variableName nameWithin, subset.type type typeWithin,
        Within.mono subset body bodyWithin⟩
  | .existential variableName type body, ⟨nameWithin, typeWithin, bodyWithin⟩ =>
      ⟨subset.variableName variableName nameWithin, subset.type type typeWithin,
        Within.mono subset body bodyWithin⟩
  | .conditional condition consequence, ⟨conditionWithin, consequenceWithin⟩ =>
      ⟨Within.mono subset condition conditionWithin,
        Within.mono subset consequence consequenceWithin⟩

theorem AllWithin.mono {vocabulary larger : Vocabulary} (subset : vocabulary.Subset larger) :
    (terms : List Term) → AllWithin vocabulary terms → AllWithin larger terms
  | [], _ => True.intro
  | term :: rest, ⟨within, restWithin⟩ =>
      ⟨Within.mono subset term within, AllWithin.mono subset rest restWithin⟩

end

mutual

/-- The outline of the formula that the term builds. -/
def outline : Term → Outline
  | .literal token => .single token
  | .conjunction operands => .block "and" (outlines operands)
  | .disjunction operands => .block "or" (outlines operands)
  | .negation operand => operand.outline.enclose "not"
  | .universal variableName type body =>
      .block (binding "forall" variableName type) [body.outline]
  | .existential variableName type body =>
      .block (binding "exists" variableName type) [body.outline]
  | .conditional condition consequence =>
      .block "when" [condition.outline, consequence.outline]

def outlines : List Term → List Outline
  | [] => []
  | term :: rest => term.outline :: outlines rest

end

mutual

theorem toFormula_outline : (term : Term) → term.outline.toFormula = term.toFormula
  | .literal token => rfl
  | .conjunction operands => by
      rw [outline, Outline.toFormula, toFormulas_outlines operands, toFormula, Formula.conjunction]
  | .disjunction operands => by
      rw [outline, Outline.toFormula, toFormulas_outlines operands, toFormula, Formula.disjunction]
  | .negation operand => by
      rw [outline, Outline.toFormula_enclose, toFormula_outline operand, toFormula]
  | .universal variableName type body => by
      rw [outline, Outline.toFormula, Outline.toFormulas, Outline.toFormulas,
        toFormula_outline body, toFormula, Formula.universal, quantified_eq_block]
  | .existential variableName type body => by
      rw [outline, Outline.toFormula, Outline.toFormulas, Outline.toFormulas,
        toFormula_outline body, toFormula, Formula.existential, quantified_eq_block]
  | .conditional condition consequence => by
      rw [outline, Outline.toFormula, Outline.toFormulas, Outline.toFormulas, Outline.toFormulas,
        toFormula_outline condition, toFormula_outline consequence, toFormula, Formula.conditional]

theorem toFormulas_outlines : (terms : List Term) →
    Outline.toFormulas (outlines terms) = toFormulas terms
  | [] => rfl
  | term :: rest => by
      rw [outlines, Outline.toFormulas, toFormula_outline term, toFormulas_outlines rest,
        toFormulas]

end

/-- The vocabulary of terms whose lines can be read back: texts without line breaks, and
literals that neither start with a tab nor look like the end of a block. -/
def readableVocabulary : Vocabulary where
  literal token := Legible token ∧ token ≠ ")"
  variableName name := '\n' ∉ name.toList
  type type := '\n' ∉ type.toList

theorem oneLine_binding {quantifier variableName type : String}
    (quantifierFree : '\n' ∉ quantifier.toList) (nameFree : '\n' ∉ variableName.toList)
    (typeFree : '\n' ∉ type.toList) : '\n' ∉ (binding quantifier variableName type).toList := by
  rw [binding]
  split <;> simp [quantifierFree, nameFree, typeFree]

mutual

theorem readable_outline : (term : Term) → term.Within readableVocabulary →
    term.outline.Readable
  | .literal _, within => within
  | .conjunction operands, within => ⟨by decide, readableAll_outlines operands within⟩
  | .disjunction operands, within => ⟨by decide, readableAll_outlines operands within⟩
  | .negation operand, within => (readable_outline operand within).enclose (by decide)
  | .universal _ _ body, ⟨nameFree, typeFree, within⟩ =>
      ⟨oneLine_binding (by decide) nameFree typeFree, readable_outline body within, True.intro⟩
  | .existential _ _ body, ⟨nameFree, typeFree, within⟩ =>
      ⟨oneLine_binding (by decide) nameFree typeFree, readable_outline body within, True.intro⟩
  | .conditional condition consequence, ⟨conditionWithin, consequenceWithin⟩ =>
      ⟨by decide, readable_outline condition conditionWithin,
        readable_outline consequence consequenceWithin, True.intro⟩

theorem readableAll_outlines : (terms : List Term) → AllWithin readableVocabulary terms →
    Outline.ReadableAll (outlines terms)
  | [], _ => True.intro
  | term :: rest, ⟨within, restWithin⟩ =>
      ⟨readable_outline term within, readableAll_outlines rest restWithin⟩

end

end Term

end Formula

end PlanningProblem
