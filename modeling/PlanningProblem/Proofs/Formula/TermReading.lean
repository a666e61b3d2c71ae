import PlanningProblem.Proofs.Formula.TermOutline
import PlanningProblem.Proofs.Formula.WordDepth

/-!
# Terms from texts

The text of the formula that a term builds determines the term, if no literal
can be taken for a negation, a tab or the end of a block, and no variable name
goes on after a space.  The outline is determined by the text already; what
remains is to tell the operators apart by the first words of their blocks.
-/

namespace PlanningProblem

namespace Formula

namespace Term

def negationStart : List Char :=
  "(not ".toList

/-- The vocabulary of terms that can be read back: that of readable lines, without literals that
look like negations and without spaces in variable names. -/
def unambiguousVocabulary : Vocabulary where
  literal token := (Legible token ∧ token ≠ ")") ∧ ¬ negationStart <+: token.toList
  variableName name := '\n' ∉ name.toList ∧ ' ' ∉ name.toList
  type type := '\n' ∉ type.toList

theorem unambiguousVocabulary_subset : unambiguousVocabulary.Subset readableVocabulary where
  literal _ unambiguous := unambiguous.1
  variableName _ unambiguous := unambiguous.1
  type _ unambiguous := unambiguous

theorem Within.readable {term : Term} (within : term.Within unambiguousVocabulary) :
    term.Within readableVocabulary :=
  Within.mono unambiguousVocabulary_subset term within

/-- The word that tells the operator of a term; a literal has none. -/
def keyword : Term → String
  | .literal _ => ""
  | .conjunction _ => "and"
  | .disjunction _ => "or"
  | .negation _ => "not"
  | .universal _ _ _ => "forall"
  | .existential _ _ _ => "exists"
  | .conditional _ _ => "when"

/-- The first word of the head of a block, or of a line that starts like a negation. -/
def outlineKeyword : Outline → String
  | .single token => if negationStart <+: token.toList then "not" else ""
  | .block head _ => String.ofList (head.toList.takeWhile (· != ' '))

theorem outlineKeyword_enclose (outline : Outline) :
    outlineKeyword (outline.enclose "not") = "not" := by
  cases outline with
  | single token =>
      rw [Outline.enclose, outlineKeyword, if_pos]
      exact ⟨token.toList ++ [')'], by rw [toList_inlineBlock]; rfl⟩
  | block head body => rfl

theorem outlineKeyword_binding (quantifier variableName type : String) (body : List Outline)
    (spaceFree : ' ' ∉ quantifier.toList) :
    outlineKeyword (.block (binding quantifier variableName type) body) = quantifier := by
  have wordEq : (binding quantifier variableName type).toList.takeWhile (· != ' ') =
      quantifier.toList := by
    rw [binding_eq, String.toList_append, String.toList_append, List.append_assoc,
      List.takeWhile_append_of_pos]
    · simp
    · intro char member
      simpa using ne_of_mem_of_not_mem member spaceFree
  rw [outlineKeyword, wordEq, String.ofList_toList]

theorem outlineKeyword_outline {term : Term} (within : term.Within unambiguousVocabulary) :
    outlineKeyword term.outline = term.keyword := by
  cases term with
  | literal token => exact if_neg within.2
  | conjunction operands => rfl
  | disjunction operands => rfl
  | negation operand => exact outlineKeyword_enclose operand.outline
  | universal variableName type body =>
      exact outlineKeyword_binding "forall" variableName type _ (by decide)
  | existential variableName type body =>
      exact outlineKeyword_binding "exists" variableName type _ (by decide)
  | conditional condition consequence => rfl

theorem binding_inj {quantifier firstName secondName firstType secondType : String}
    (firstFree : ' ' ∉ firstName.toList) (secondFree : ' ' ∉ secondName.toList)
    (bindingEq :
      binding quantifier firstName firstType = binding quantifier secondName secondType) :
    firstName = secondName ∧ firstType = secondType := by
  rw [binding_eq, binding_eq, String.append_right_inj] at bindingEq
  have marked {name : String} (free : ' ' ∉ name.toList) (type : String) :
      ' ' ∉ (Object.mk ("?" ++ name) type).name.toList := by
    simp [free]
  have variableEq :=
    Object.text_inj (marked firstFree firstType) (marked secondFree secondType) bindingEq
  rw [Object.mk.injEq, String.append_right_inj] at variableEq
  exact variableEq

theorem keyword_eq_of_outline_eq {first second : Term}
    (firstWithin : first.Within unambiguousVocabulary)
    (secondWithin : second.Within unambiguousVocabulary)
    (outlineEq : first.outline = second.outline) : first.keyword = second.keyword := by
  rw [← outlineKeyword_outline firstWithin, ← outlineKeyword_outline secondWithin, outlineEq]

mutual

/-- Terms with the same outline are equal. -/
theorem outline_inj (first second : Term) (firstWithin : first.Within unambiguousVocabulary)
    (secondWithin : second.Within unambiguousVocabulary)
    (outlineEq : first.outline = second.outline) : first = second := by
  -- The keywords tell all operators apart, so only terms with the same operator remain below.
  have keywordEq := keyword_eq_of_outline_eq firstWithin secondWithin outlineEq
  cases first with
  | literal token =>
      cases second with
      | literal other => rw [Outline.single.inj outlineEq]
      | _ => simp [keyword] at keywordEq
  | conjunction operands =>
      cases second with
      | conjunction others =>
          rw [outlines_inj operands others firstWithin secondWithin (Outline.block.inj outlineEq).2]
      | _ => simp [keyword] at keywordEq
  | disjunction operands =>
      cases second with
      | disjunction others =>
          rw [outlines_inj operands others firstWithin secondWithin (Outline.block.inj outlineEq).2]
      | _ => simp [keyword] at keywordEq
  | negation operand =>
      cases second with
      | negation other =>
          rw [outline_inj operand other firstWithin secondWithin (Outline.enclose_inj outlineEq)]
      | _ => simp [keyword] at keywordEq
  | universal variableName type body =>
      cases second with
      | universal otherName otherType otherBody =>
          obtain ⟨headEq, bodiesEq⟩ := Outline.block.inj outlineEq
          obtain ⟨rfl, rfl⟩ := binding_inj firstWithin.1.2 secondWithin.1.2 headEq
          rw [outline_inj body otherBody firstWithin.2.2 secondWithin.2.2
            (List.cons.inj bodiesEq).1]
      | _ => simp [keyword] at keywordEq
  | existential variableName type body =>
      cases second with
      | existential otherName otherType otherBody =>
          obtain ⟨headEq, bodiesEq⟩ := Outline.block.inj outlineEq
          obtain ⟨rfl, rfl⟩ := binding_inj firstWithin.1.2 secondWithin.1.2 headEq
          rw [outline_inj body otherBody firstWithin.2.2 secondWithin.2.2
            (List.cons.inj bodiesEq).1]
      | _ => simp [keyword] at keywordEq
  | conditional condition consequence =>
      cases second with
      | conditional otherCondition otherConsequence =>
          obtain ⟨conditionEq, consequencesEq⟩ :=
            List.cons.inj (Outline.block.inj outlineEq).2
          rw [outline_inj condition otherCondition firstWithin.1 secondWithin.1 conditionEq,
            outline_inj consequence otherConsequence firstWithin.2 secondWithin.2
              (List.cons.inj consequencesEq).1]
      | _ => simp [keyword] at keywordEq

theorem outlines_inj (firsts seconds : List Term)
    (firstsWithin : AllWithin unambiguousVocabulary firsts)
    (secondsWithin : AllWithin unambiguousVocabulary seconds)
    (outlinesEq : outlines firsts = outlines seconds) : firsts = seconds := by
  cases firsts with
  | nil =>
      cases seconds with
      | nil => rfl
      | cons second seconds => cases outlinesEq
  | cons first firsts =>
      cases seconds with
      | nil => cases outlinesEq
      | cons second seconds =>
          obtain ⟨outlineEq, restEq⟩ := List.cons.inj outlinesEq
          rw [outline_inj first second firstsWithin.1 secondsWithin.1 outlineEq,
            outlines_inj firsts seconds firstsWithin.2 secondsWithin.2 restEq]

end

theorem render_toFormula_inj {first second : Term}
    (firstWithin : first.Within unambiguousVocabulary)
    (secondWithin : second.Within unambiguousVocabulary) (depth : Nat)
    (textEq : first.toFormula.render depth = second.toFormula.render depth) : first = second := by
  rw [← toFormula_outline first, ← toFormula_outline second] at textEq
  have outlineEq := Outline.render_inj (readable_outline first firstWithin.readable)
    (readable_outline second secondWithin.readable) depth textEq
  exact outline_inj first second firstWithin secondWithin outlineEq

/-- Two terms for whose formulas the same text is printed at some depth are equal: the text
determines every operator, the number and the order of its operands, and every literal and
variable. -/
theorem eq_of_print_toFormula_eq {first second : Term}
    (firstWithin : first.Within unambiguousVocabulary)
    (secondWithin : second.Within unambiguousVocabulary) (overflow : Overflow) (depth : UInt64)
    (firstFits : first.toFormula.FitsAt depth.toNat)
    (secondFits : second.toFormula.FitsAt depth.toNat)
    (textEq : first.toFormula.print overflow depth = second.toFormula.print overflow depth) :
    first = second := by
  rw [print_eq_iff_render overflow firstFits secondFits] at textEq
  exact render_toFormula_inj firstWithin secondWithin depth.toNat textEq

/-- A condition whose operands are spliced into it, once listed and once written out. -/
theorem eq_of_print_toFormula_eq_spliced :
    let listed : Term := .conditional (.disjunction (["(p a)", "(and"].map .literal))
      (.universal "b" "block" (.conjunction []))
    let written : Term := .conditional (.disjunction [.literal "(p a)", .literal "(and"])
      (.universal "b" "block" (.conjunction []))
    listed.Within unambiguousVocabulary ∧ written.Within unambiguousVocabulary ∧
      listed.toFormula.FitsAt 3 ∧ written.toFormula.FitsAt 3 ∧
      listed.toFormula.print .stops 3 = written.toFormula.print .stops 3 ∧ listed = written := by
  intro listed written
  have listedWithin : listed.Within unambiguousVocabulary := by
    simp only [listed, Within, AllWithin, unambiguousVocabulary, List.map]
    decide
  have writtenWithin : written.Within unambiguousVocabulary := by
    simp only [written, Within, AllWithin, unambiguousVocabulary]
    decide
  have listedFits : listed.toFormula.FitsAt 3 := by decide
  have writtenFits : written.toFormula.FitsAt 3 := by decide
  have textEq : listed.toFormula.print .stops 3 = written.toFormula.print .stops 3 := rfl
  exact ⟨listedWithin, writtenWithin, listedFits, writtenFits, textEq,
    eq_of_print_toFormula_eq listedWithin writtenWithin .stops 3 listedFits writtenFits textEq⟩

end Term

end Formula

end PlanningProblem
