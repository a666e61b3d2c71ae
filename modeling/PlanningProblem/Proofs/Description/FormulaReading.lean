import PlanningProblem.Proofs.Description.Reload
import PlanningProblem.Proofs.Formula.TermLayout

/-!
# Formulas are read from trees of texts

A datum is a formula exactly if everything in it is a text or a sequence, and
then it is the one datum that the formula is written as.  A single datum of
another kind, however deep, makes the whole a mismatch, always the same one.
Blocks written out as nested sequences are read as the blocks that the operators
build, since splicing a sequence into another is splicing its formula.
-/

namespace PlanningProblem

namespace Datum

/-- The first datum stands somewhere in the second, at any depth. -/
inductive Occurs : Datum → Datum → Prop
  | here {datum : Datum} : Occurs datum datum
  | element {part element : Datum} {elements : List Datum} (isElement : element ∈ elements)
      (inside : Occurs part element) : Occurs part (.sequence elements)
  | entry {part value : Datum} {key : String} {entries : List (String × Datum)}
      (isEntry : (key, value) ∈ entries) (inside : Occurs part value) :
      Occurs part (.mapping entries)

/-- The datum is of one of the two kinds that formulas are written as. -/
inductive IsTextOrSequence : Datum → Prop
  | text (value : String) : IsTextOrSequence (.text value)
  | sequence (elements : List Datum) : IsTextOrSequence (.sequence elements)

/-- What the datum adds to the body of a block that is written out: the elements of a sequence, or
the datum itself. -/
def spliced : Datum → List Datum
  | .sequence elements => elements
  | datum => [datum]

/-- A block written out: the opening text, what the operands add to the body, the closing text. -/
def block (name : String) (operands : List Datum) : Datum :=
  .sequence [.text ("(" ++ name), .sequence (operands.flatMap spliced), .text ")"]

/-- A negation written out; a negated text is a text again. -/
def negation : Datum → Datum
  | .text token => .text (Formula.inlineBlock "not" token)
  | datum => block "not" [datum]

end Datum

namespace Formula

open Datum (Occurs IsTextOrSequence)

theorem isTextOrSequence_toDatum (formula : Formula) : formula.toDatum.IsTextOrSequence := by
  cases formula with
  | atom token => exact .text token
  | group parts => exact .sequence (toData parts)

/-- Whatever stands in the datum of a formula is the datum of a formula, too. -/
theorem exists_eq_toDatum_of_occurs {part whole : Datum} (occurs : part.Occurs whole)
    (formula : Formula) (isWritten : whole = formula.toDatum) :
    ∃ inner : Formula, part = inner.toDatum := by
  -- The formula varies along the way in: an element of its datum is the datum of one of its parts.
  induction occurs generalizing formula with
  | here => exact ⟨formula, isWritten⟩
  | element isElement _ ih =>
      cases formula with
      | atom token => cases isWritten
      | group parts =>
          cases isWritten
          rw [toData_eq_map, List.mem_map] at isElement
          obtain ⟨inner, -, elementEq⟩ := isElement
          exact ih inner elementEq.symm
  | entry => cases formula <;> cases isWritten

mutual

theorem exists_eq_toDatum : (datum : Datum) →
    (∀ part : Datum, part.Occurs datum → part.IsTextOrSequence) →
    ∃ formula : Formula, datum = formula.toDatum
  | .text token, _ => ⟨.atom token, rfl⟩
  | .sequence elements, suits => by
      obtain ⟨formulas, elementsEq⟩ := exists_eq_toData elements
        fun element isElement part inside => suits part (.element isElement inside)
      exact ⟨.group formulas, by rw [elementsEq, toDatum]⟩
  | .null, suits => nomatch suits _ .here
  | .boolean _, suits => nomatch suits _ .here
  | .integer _, suits => nomatch suits _ .here
  | .float _, suits => nomatch suits _ .here
  | .moment, suits => nomatch suits _ .here
  | .mapping _, suits => nomatch suits _ .here

theorem exists_eq_toData : (data : List Datum) →
    (∀ element ∈ data, ∀ part : Datum, part.Occurs element → part.IsTextOrSequence) →
    ∃ formulas : List Formula, data = toData formulas
  | [], _ => ⟨[], rfl⟩
  | datum :: rest, suit => by
      rw [List.forall_mem_cons] at suit
      obtain ⟨formula, datumEq⟩ := exists_eq_toDatum datum suit.1
      obtain ⟨formulas, restEq⟩ := exists_eq_toData rest suit.2
      exact ⟨formula :: formulas, by rw [toData, ← datumEq, ← restEq]⟩

end

/-- The data of formulas are those in which nothing but texts and sequences stands. -/
theorem exists_eq_toDatum_iff {datum : Datum} :
    (∃ formula : Formula, datum = formula.toDatum) ↔
      ∀ part : Datum, part.Occurs datum → part.IsTextOrSequence := by
  refine ⟨?_, exists_eq_toDatum datum⟩
  rintro ⟨formula, isWritten⟩ part occurs
  obtain ⟨inner, rfl⟩ := exists_eq_toDatum_of_occurs occurs formula isWritten
  exact isTextOrSequence_toDatum inner

theorem spliced_toDatum (formula : Formula) : formula.toDatum.spliced = toData formula.parts := by
  cases formula <;> rfl

theorem toDatum_block (name : String) (operands : List Formula) :
    (block name operands).toDatum = Datum.block name (operands.map toDatum) := by
  have bodyEq : toData (operands.flatMap parts) = (operands.map toDatum).flatMap Datum.spliced := by
    rw [toData_eq_map, List.map_flatMap, List.flatMap_map]
    congr 1
    funext operand
    rw [spliced_toDatum, toData_eq_map]
  rw [Datum.block, ← bodyEq]
  rfl

theorem toDatum_negation (formula : Formula) :
    formula.negation.toDatum = formula.toDatum.negation := by
  cases formula with
  | atom token => rfl
  | group parts => exact toDatum_block "not" [group parts]

namespace Term

mutual

/-- The term written out as texts in nested sequences, operator by operator. -/
def spelling : Term → Datum
  | .literal token => .text token
  | .conjunction operands => .block "and" (spellings operands)
  | .disjunction operands => .block "or" (spellings operands)
  | .negation operand => operand.spelling.negation
  | .universal variableName type body =>
      .block (binding "forall" variableName type) [body.spelling]
  | .existential variableName type body =>
      .block (binding "exists" variableName type) [body.spelling]
  | .conditional condition consequence =>
      .block "when" [condition.spelling, consequence.spelling]

def spellings : List Term → List Datum
  | [] => []
  | term :: rest => term.spelling :: spellings rest

end

mutual

theorem toDatum_toFormula : (term : Term) → term.toFormula.toDatum = term.spelling
  | .literal _ => rfl
  | .conjunction operands => by
      rw [toFormula, Formula.conjunction, toDatum_block, map_toDatum_toFormulas operands, spelling]
  | .disjunction operands => by
      rw [toFormula, Formula.disjunction, toDatum_block, map_toDatum_toFormulas operands, spelling]
  | .negation operand => by
      rw [toFormula, toDatum_negation, toDatum_toFormula operand, spelling]
  | .universal _ _ body => by
      rw [toFormula, Formula.universal, quantified_eq_block, toDatum_block, List.map_singleton,
        toDatum_toFormula body, spelling]
  | .existential _ _ body => by
      rw [toFormula, Formula.existential, quantified_eq_block, toDatum_block, List.map_singleton,
        toDatum_toFormula body, spelling]
  | .conditional condition consequence => by
      rw [toFormula, Formula.conditional, toDatum_block, List.map_cons, List.map_singleton,
        toDatum_toFormula condition, toDatum_toFormula consequence, spelling]

theorem map_toDatum_toFormulas : (terms : List Term) →
    (toFormulas terms).map toDatum = spellings terms
  | [] => rfl
  | term :: rest => by
      rw [toFormulas, List.map_cons, toDatum_toFormula term, map_toDatum_toFormulas rest, spellings]

end

end Term

end Formula

namespace Description

open Formula (Term)

theorem readFormula_eq_ok_iff {datum : Datum} {formula : Formula} :
    readFormula datum = .ok formula ↔ datum = formula.toDatum := by
  rw [readFormula, ← Formula.ofDatum?_eq_some_iff]
  cases Formula.ofDatum? datum <;> simp

theorem readFormula_eq_error_iff {datum : Datum} {mismatch : Mismatch} :
    readFormula datum = .error mismatch ↔
      mismatch = .notFormula ∧ ¬ ∃ formula : Formula, datum = formula.toDatum := by
  simp only [← Formula.ofDatum?_eq_some_iff, readFormula]
  cases Formula.ofDatum? datum <;> simp [eq_comm]

theorem mapM_readFormula (elements : List Datum) :
    elements.mapM readFormula =
      match Formula.ofData? elements with
      | some formulas => .ok formulas
      | none => .error .notFormula := by
  induction elements with
  | nil => rfl
  | cons element rest ih =>
      -- There is only one mismatch to report, so it does not matter which element comes first.
      rw [List.mapM_cons, ih, readFormula, Formula.ofData?]
      cases Formula.ofDatum? element with
      | none => rfl
      | some formula => cases Formula.ofData? rest <;> rfl

/-- The first of two readings that fits.  If neither does, their own reports are dropped. -/
def firstFitting (asAtom asGroup : Except Mismatch Formula) : Except Mismatch Formula :=
  match asAtom, asGroup with
  | .ok formula, _ => .ok formula
  | .error _, .ok formula => .ok formula
  | .error _, .error _ => .error .notFormula

/-- A formula is read as a text first, and as a sequence of formulas if it is none. -/
theorem readFormula_eq_firstFitting (datum : Datum) :
    readFormula datum =
      firstFitting ((readText datum).map .atom) ((readSequence readFormula datum).map .group) := by
  cases datum with
  | text token => rfl
  | sequence elements =>
      rw [readSequence, mapM_readFormula, readFormula, Formula.ofDatum?]
      cases Formula.ofData? elements <;> rfl
  | _ => rfl

/-- A description written as a mapping, with the given datum in place of its goal. -/
def toDatumWithGoal (description : Description) (goal : Datum) : Datum :=
  .mapping [
    ("name", .text description.name),
    ("domain", .text description.domain),
    ("objects", .sequence (description.objects.map Object.toDatum)),
    ("init", .sequence (description.init.map .text)),
    ("goal", goal)]

theorem toDatumWithGoal_spelling (description : Description) (term : Term) :
    description.toDatumWithGoal term.spelling =
      { description with goal := some term.toFormula }.toDatum := by
  rw [toDatum, Option.map_some, Option.getD_some, Term.toDatum_toFormula]
  rfl

/-- Formulas are read from the data that they are written as and from no others, as texts first and
as sequences otherwise; any datum of another kind, at any depth, makes one and the same mismatch of
the whole.  So operators that are written out, in a goal too, are read as what the operators
build. -/
theorem readFormula_exact :
    (∀ formula : Formula, readFormula formula.toDatum = .ok formula) ∧
      (∀ datum : Datum, (∃ formula, readFormula datum = .ok formula) ↔
        ∀ part : Datum, part.Occurs datum → part.IsTextOrSequence) ∧
      (∀ (datum : Datum) (formula : Formula), readFormula datum = .ok formula →
        formula.toDatum = datum) ∧
      (∀ datum part : Datum, part.Occurs datum → ¬ part.IsTextOrSequence →
        readFormula datum = .error .notFormula) ∧
      (∀ format : Format, Mismatch.message format .notFormula =
        "data did not match any variant of untagged enum Formula") ∧
      (∀ datum : Datum, readFormula datum =
        firstFitting ((readText datum).map .atom)
          ((readSequence readFormula datum).map .group)) ∧
      (∀ (name : String) (operands : List Formula),
        readFormula (Datum.block name (operands.map Formula.toDatum)) =
          .ok (Formula.block name operands)) ∧
      (∀ formula : Formula, readFormula formula.toDatum.negation = .ok formula.negation) ∧
      ∀ (format : Format) (description : Description) (term : Term),
        ofDatum format (description.toDatumWithGoal term.spelling) =
          .ok { description with goal := some term.toFormula } := by
  refine ⟨?_, ?_, ?_, ?_, fun _ => rfl, readFormula_eq_firstFitting, ?_, ?_, ?_⟩
  · exact fun formula => readFormula_eq_ok_iff.mpr rfl
  · intro datum
    simp only [readFormula_eq_ok_iff]
    exact Formula.exists_eq_toDatum_iff
  · exact fun datum formula isRead => (readFormula_eq_ok_iff.mp isRead).symm
  · intro datum part occurs isOther
    refine readFormula_eq_error_iff.mpr ⟨rfl, fun isFormula => ?_⟩
    exact isOther (Formula.exists_eq_toDatum_iff.mp isFormula part occurs)
  · exact fun name operands => readFormula_eq_ok_iff.mpr (Formula.toDatum_block name operands).symm
  · exact fun formula => readFormula_eq_ok_iff.mpr (Formula.toDatum_negation formula).symm
  · intro format description term
    rw [toDatumWithGoal_spelling]
    exact ofDatum_of_writtenAs format (writtenAs_toDatum _)

/-- A conjunction written out, and the same with a mapping deep inside. -/
theorem readFormula_exact_spoilt :
    let written : Datum := .sequence [.text "(and", .sequence [.text "(not (p a))", .text "(or",
      .sequence [.text "(q)", .sequence []], .text ")"], .text ")"]
    let spoilt : Datum := .sequence [.text "(and", .sequence [.text "(p a)",
      .sequence [.mapping [("atom", .text "(q)")]]], .text ")"]
    let formula : Formula := .group [.atom "(and", .group [.atom "(not (p a))", .atom "(or",
      .group [.atom "(q)", .group []], .atom ")"], .atom ")"]
    readFormula written = .ok formula ∧ formula.toDatum = written ∧
      formula = .conjunction [.negation (.atom "(p a)"),
        .disjunction [.atom "(q)", .group [.group []]]] ∧
      (Datum.mapping [("atom", .text "(q)")]).Occurs spoilt ∧
      ¬ (Datum.mapping [("atom", .text "(q)")]).IsTextOrSequence ∧
      readFormula spoilt = .error .notFormula := by
  intro written spoilt formula
  obtain ⟨-, -, encodes, refuses, -⟩ := readFormula_exact
  have isRead : readFormula written = .ok formula := rfl
  have occurs : (Datum.mapping [("atom", .text "(q)")]).Occurs spoilt :=
    .element (.tail _ (.head _)) (.element (.tail _ (.head _)) (.element (.head _) .here))
  have isOther : ¬ (Datum.mapping [("atom", .text "(q)")]).IsTextOrSequence := nofun
  exact ⟨isRead, encodes written formula isRead, rfl, occurs, isOther,
    refuses spoilt _ occurs isOther⟩

end Description

end PlanningProblem
