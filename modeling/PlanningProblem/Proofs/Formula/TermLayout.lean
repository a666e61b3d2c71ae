import PlanningProblem.Formula.Term
import PlanningProblem.Proofs.Formula.WordDepth

/-!
# The layout of terms

Nothing in a formula says how deep a block lies: its indentation only comes
out of the groups around its tokens.  This file proves that the text of the
formula that a term builds is nevertheless the layout of the term.  The
induction runs over the parts that a formula adds to a surrounding block,
because a compound operand is spliced into the body one level at a time.
-/

namespace PlanningProblem

namespace Formula

theorem renderAll_append (first second : List Formula) (depth : Nat) :
    renderAll (first ++ second) depth = renderAll first depth ++ renderAll second depth := by
  induction first with
  | nil => rw [List.nil_append, renderAll, String.empty_append]
  | cons formula rest ih => rw [List.cons_append, renderAll, renderAll, ih, String.append_assoc]

/-- A compound formula that stands alone is written like its parts one level deeper. -/
theorem renderAll_parts_of_not_isAtom {formula : Formula} (compound : formula.isAtom = false)
    (depth : Nat) : renderAll formula.parts (depth + 1) = formula.render depth := by
  cases formula with
  | atom token => cases compound
  | group parts => rfl

/-- A token that stands alone is written like its only part one level further out, or in one
group where it lies in none. -/
theorem render_of_isAtom {formula : Formula} (single : formula.isAtom = true) (depth : Nat) :
    formula.render depth = renderAll formula.parts (depth - 1 + 1) := by
  cases formula with
  | atom token =>
      rw [parts_atom, renderAll, renderAll, String.append_empty, render, render, line, line,
        Nat.add_sub_cancel]
  | group parts => cases single

theorem eq_atom_of_token? {formula : Formula} {token : String}
    (tokenEq : formula.token? = some token) : formula = .atom token := by
  cases formula with
  | atom other => exact congrArg atom (Option.some.inj tokenEq)
  | group parts => cases tokenEq

theorem negation_of_token?_eq_none {formula : Formula} (compound : formula.token? = none) :
    negation formula = block "not" [formula] := by
  cases formula with
  | atom token => cases compound
  | group parts => rfl

theorem inlineBlock_not (token : String) :
    inlineBlock "not" token = "(not " ++ token ++ ")" :=
  rfl

namespace Term

/-- A bound variable is written like an object, with a question mark before its name. -/
theorem binding_eq (quantifier variableName type : String) :
    binding quantifier variableName type =
      quantifier ++ " " ++ (Object.mk ("?" ++ variableName) type).text := by
  rw [binding, Object.text]
  split <;> simp only [String.append_assoc, String.append_empty] <;> rfl

theorem quantified_eq_block (quantifier variableName type : String) (body : Formula) :
    quantified quantifier variableName type body =
      block (binding quantifier variableName type) [body] := by
  rw [quantified, binding_eq]

theorem renderAll_parts_atom (token : String) (indentation : Nat) :
    renderAll (atom token).parts (indentation + 1) = indented indentation token := by
  simp only [parts_atom, renderAll, render, line, tabs, indented, Nat.add_sub_cancel,
    String.append_empty]

theorem renderAll_parts_block (name : String) (operands : List Formula) (indentation : Nat) :
    renderAll (block name operands).parts (indentation + 1) =
      enclosed indentation name (renderAll (operands.flatMap parts) (indentation + 2)) := by
  simp only [block, parts_group, render, renderAll, enclosed, indented, line, tabs,
    Nat.add_sub_cancel, String.append_empty, String.append_assoc]

/-- A term fits on one line exactly if its formula is a single token. -/
theorem token?_toFormula (term : Term) : term.toFormula.token? = term.oneLine? := by
  cases term with
  | negation operand =>
      rw [toFormula, oneLine?, ← token?_toFormula operand]
      cases operand.toFormula <;> rfl
  | _ => rfl

mutual

/-- The parts that a term adds to a block are laid out like the term. -/
theorem renderAll_parts_toFormula : (term : Term) → (indentation : Nat) →
    renderAll term.toFormula.parts (indentation + 1) = term.layout indentation
  | .literal token, indentation => by
      rw [toFormula, renderAll_parts_atom, layout]
  | .conjunction operands, indentation => by
      rw [toFormula, Formula.conjunction, renderAll_parts_block,
        renderAll_flatMap_toFormulas operands, layout]
  | .disjunction operands, indentation => by
      rw [toFormula, Formula.disjunction, renderAll_parts_block,
        renderAll_flatMap_toFormulas operands, layout]
  | .negation operand, indentation => by
      have operandToken := token?_toFormula operand
      rw [toFormula, layout]
      -- Whether the negation stays on one line is decided on the term and on its formula alike.
      cases fits : operand.oneLine? with
      | some content =>
          rw [fits] at operandToken
          rw [eq_atom_of_token? operandToken, Formula.negation, renderAll_parts_atom,
            inlineBlock_not]
      | none =>
          rw [fits] at operandToken
          rw [negation_of_token?_eq_none operandToken, renderAll_parts_block,
            List.flatMap_singleton, renderAll_parts_toFormula operand]
  | .universal variableName type body, indentation => by
      rw [toFormula, Formula.universal, quantified_eq_block, renderAll_parts_block,
        List.flatMap_singleton, renderAll_parts_toFormula body, layout]
  | .existential variableName type body, indentation => by
      rw [toFormula, Formula.existential, quantified_eq_block, renderAll_parts_block,
        List.flatMap_singleton, renderAll_parts_toFormula body, layout]
  | .conditional condition consequence, indentation => by
      rw [toFormula, Formula.conditional, renderAll_parts_block, List.flatMap_cons,
        List.flatMap_singleton, renderAll_append, renderAll_parts_toFormula condition,
        renderAll_parts_toFormula consequence, layout]

theorem renderAll_flatMap_toFormulas : (terms : List Term) → (indentation : Nat) →
    renderAll ((toFormulas terms).flatMap parts) (indentation + 1) = layoutAll terms indentation
  | [], _ => rfl
  | term :: rest, indentation => by
      rw [toFormulas, List.flatMap_cons, renderAll_append, renderAll_parts_toFormula term,
        renderAll_flatMap_toFormulas rest, layoutAll]

end

/-- At any depth a block keeps that depth as its indentation, while a single
line stands one level further left, but not beyond the margin. -/
theorem render_toFormula (term : Term) (depth : Nat) :
    term.toFormula.render depth =
      if term.toFormula.isAtom then term.layout (depth - 1) else term.layout depth := by
  split
  · next single =>
      rw [render_of_isAtom single, renderAll_parts_toFormula]
  · next compound =>
      rw [← renderAll_parts_of_not_isAtom (Bool.not_eq_true _ ▸ compound),
        renderAll_parts_toFormula]

/-- A formula built from a term has the layout of the term, and the printer
writes that layout at any depth from which no depth in the formula overflows. -/
theorem print_toFormula_eq_layout (term : Term) :
    term.toFormula.text = term.layout 0 ∧
      ∀ (overflow : Overflow) (depth : UInt64), term.toFormula.FitsAt depth.toNat →
        term.toFormula.print overflow depth =
          some (if term.toFormula.isAtom then term.layout (depth.toNat - 1)
            else term.layout depth.toNat) := by
  constructor
  · rw [text, render_toFormula, Nat.zero_sub, ite_self]
  · intro overflow depth fits
    rw [print_eq_some overflow _ depth fits, render_toFormula]

/-- A conjunction with negations of a literal and of a block, and quantifiers with and without a
type; a single line is written at two depths. -/
theorem print_toFormula_eq_layout_nested :
    let term : Term := .conjunction [.negation (.negation (.literal "(p a)")),
      .negation (.disjunction []),
      .universal "b" "block"
        (.conditional (.literal "(q ?b)") (.existential "c" "" (.literal "r")))]
    let single : Term := .negation (.literal "(p a)")
    term.toFormula.text = String.join ["(and\n",
        "\t(not (not (p a)))\n",
        "\t(not\n", "\t\t(or\n", "\t\t)\n", "\t)\n",
        "\t(forall ?b - block\n", "\t\t(when\n", "\t\t\t(q ?b)\n",
        "\t\t\t(exists ?c\n", "\t\t\t\tr\n", "\t\t\t)\n", "\t\t)\n", "\t)\n",
        ")\n"] ∧
      term.toFormula.FitsAt 2 ∧
      term.toFormula.print .stops 2 = some (String.join ["\t\t(and\n",
        "\t\t\t(not (not (p a)))\n",
        "\t\t\t(not\n", "\t\t\t\t(or\n", "\t\t\t\t)\n", "\t\t\t)\n",
        "\t\t\t(forall ?b - block\n", "\t\t\t\t(when\n", "\t\t\t\t\t(q ?b)\n",
        "\t\t\t\t\t(exists ?c\n", "\t\t\t\t\t\tr\n", "\t\t\t\t\t)\n",
        "\t\t\t\t)\n", "\t\t\t)\n",
        "\t\t)\n"]) ∧
      single.toFormula.FitsAt 3 ∧
      single.toFormula.print .wraps 0 = some "(not (p a))\n" ∧
      single.toFormula.print .wraps 3 = some "\t\t(not (p a))\n" := by
  intro term single
  obtain ⟨outermost, deeper⟩ := print_toFormula_eq_layout term
  obtain ⟨-, singleDeeper⟩ := print_toFormula_eq_layout single
  have fits : term.toFormula.FitsAt 2 := by decide
  have singleFits : single.toFormula.FitsAt 3 := by decide
  refine ⟨?_, fits, ?_, singleFits, ?_, ?_⟩
  · rw [outermost]
    rfl
  · rw [deeper .stops 2 fits]
    rfl
  · rw [singleDeeper .wraps 0 (by decide)]
    rfl
  · rw [singleDeeper .wraps 3 singleFits]
    rfl

end Term

end Formula

end PlanningProblem
