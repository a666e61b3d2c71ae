import PlanningProblem.Proofs.Formula.TermOutline
import PlanningProblem.Proofs.Problem.Document
import PlanningProblem.Proofs.Problem.FinalState

/-!
# Problems from texts

The text of a problem determines the problem.  The lines of its definition are
known from the text; the sections follow each other in a fixed order, the
members of a set are the lines one level deeper than the closing line after
them, and the goal is read off like any outline.  An object may itself look
like the end of a block, which is why the sets are not read as outlines.
-/

namespace PlanningProblem

namespace Problem

open Formula

/-- No part of the problem interferes with the lines of its text. -/
structure Legible (problem : Problem) : Prop where
  name_oneLine : '\n' ∉ problem.name.toList
  domain_oneLine : '\n' ∉ problem.domain.toList
  objectNames_visible :
    ∀ object ∈ problem.objects, ∀ char ∈ object.name.toList, Text.isBlank char = false
  types_oneLine : ∀ object ∈ problem.objects, '\n' ∉ object.type.toList
  propositions_oneLine : ∀ token ∈ problem.initialState, '\n' ∉ token.toList
  goal_built : ∃ term : Term, term.Within Term.readableVocabulary ∧ term.toFormula = problem.goal

/-- The lines of the definition of a problem, given the outline of its goal. -/
def definitionLeaves (problem : Problem) (goal : Outline) : List (Nat × String) :=
  (1, "(define " ++ problem.header) :: (2, problem.domainHeader) ::
    (tokenBlockLeaves ":objects" problem.objectTexts 2 ++
      (tokenBlockLeaves ":init" problem.initialState.toList 2 ++
        ((goal.enclose ":goal").leaves 2 ++ [(1, ")")])))

theorem parts_goalBlock {problem : Problem} {goal : Outline}
    (goalEq : goal.toFormula = problem.goal) :
    problem.goalBlock.parts = (goal.enclose ":goal").toFormula.parts := by
  rw [goalBlock, ← goalEq]
  cases goal <;> rfl

theorem text_eq_lines {problem : Problem} {goal : Outline}
    (goalEq : goal.toFormula = problem.goal) :
    problem.text = lines (problem.definitionLeaves goal) := by
  rw [text_eq_lines_leaves, leaves_definition, parts_goalBlock goalEq,
    Outline.leavesAll_parts_toFormula, definitionLeaves]

theorem legibleFrom_of_mem_tokenBlockLeaves {name : String} {tokens : List String} {depth : Nat}
    (oneLine : '\n' ∉ name.toList) (legible : ∀ token ∈ tokens, Formula.Legible token) :
    ∀ leaf ∈ tokenBlockLeaves name tokens depth, LegibleFrom depth leaf := by
  intro leaf member
  rw [tokenBlockLeaves, List.mem_append, List.mem_cons, List.mem_singleton, List.mem_map] at member
  rcases member with (rfl | ⟨token, isToken, rfl⟩) | rfl
  · exact ⟨⟨by simp [oneLine], by simp⟩, Nat.le_refl depth⟩
  · exact ⟨legible token isToken, Nat.le_succ depth⟩
  · exact ⟨(by decide : Formula.Legible ")"), Nat.le_refl depth⟩

/-- The closing line ends a block of tokens, as it lies further out than all of them. -/
theorem tokenBlockLeaves_append_inj {name : String} {first second : List String} {depth : Nat}
    {firstRest secondRest : List (Nat × String)}
    (leavesEq : tokenBlockLeaves name first depth ++ firstRest =
      tokenBlockLeaves name second depth ++ secondRest) :
    first = second ∧ firstRest = secondRest := by
  simp only [tokenBlockLeaves, List.cons_append, List.append_assoc, List.cons.injEq,
    List.nil_append, true_and] at leavesEq
  have deeper (tokens : List String) :
      ∀ leaf ∈ tokens.map fun token => (depth + 1, token), leaf.1 = depth + 1 := by
    simp
  have closes (rest : List (Nat × String)) :
      ∀ leaf ∈ ((depth, ")") :: rest).head?, ¬ leaf.1 = depth + 1 := by
    simp
  obtain ⟨tokensEq, restEq⟩ := split_unique (fun leaf => leaf.1 = depth + 1) (deeper first)
    (deeper second) (closes firstRest) (closes secondRest) leavesEq
  have same := (List.map_inj_right fun token other pairEq => (Prod.mk.inj pairEq).2).mp tokensEq
  exact ⟨same, (List.cons.inj restEq).2⟩

namespace Legible

variable {problem : Problem}

theorem blank_not_mem_name (legible : problem.Legible) {object : Object}
    (member : object ∈ problem.objects) {char : Char} (blank : Text.isBlank char = true) :
    char ∉ object.name.toList := by
  intro isChar
  have visible := legible.objectNames_visible object member char isChar
  rw [blank] at visible
  cases visible

/-- The text of an object is one line, and starts with its name or with a space. -/
theorem legible_of_mem_objectTexts (legible : problem.Legible) :
    ∀ token ∈ problem.objectTexts, Formula.Legible token := by
  intro token isText
  obtain ⟨object, member, rfl⟩ := List.mem_map.mp isText
  have lineBreak := legible.blank_not_mem_name member (by decide : Text.isBlank '\n' = true)
  have tab := legible.blank_not_mem_name member (by decide : Text.isBlank '\t' = true)
  have typeFree := legible.types_oneLine object member
  rw [Object.text_eq_append]
  constructor
  · rw [String.toList_append, List.mem_append, not_or]
    refine ⟨lineBreak, ?_⟩
    rw [Object.typeSuffix]
    split <;> simp [typeFree]
  · intro isTab
    rw [String.toList_append, List.head?_append] at isTab
    cases headEq : object.name.toList.head? with
    | none =>
        rw [headEq, Option.none_or] at isTab
        have notTab := Object.head?_typeSuffix object.type '\t' isTab
        revert notTab
        decide
    | some char =>
        rw [headEq, Option.some_or, Option.some.injEq] at isTab
        subst isTab
        exact tab (List.mem_of_head? headEq)

/-- A stored proposition is one line, and starts with a parenthesis in any reachable problem. -/
theorem legible_of_mem_initialState (legible : problem.Legible) (reachable : problem.Reachable) :
    ∀ token ∈ problem.initialState.toList, Formula.Legible token := by
  intro token member
  constructor
  · exact legible.propositions_oneLine token member
  · rw [reachable.head?_of_mem_initialState member]
    decide

/-- All lines of the definition can be read back, and they all lie in its outermost group. -/
theorem legibleFrom_of_mem_definitionLeaves (legible : problem.Legible)
    (reachable : problem.Reachable) {goal : Outline} (goalReadable : goal.Readable) :
    ∀ leaf ∈ problem.definitionLeaves goal, LegibleFrom 1 leaf := by
  have header : Formula.Legible problem.header :=
    legible_inlineBlock (by decide) legible.name_oneLine
  have domainHeader : Formula.Legible problem.domainHeader :=
    legible_inlineBlock (by decide) legible.domain_oneLine
  have objects := legible.legible_of_mem_objectTexts
  have propositions := legible.legible_of_mem_initialState reachable
  have goalBlock := goalReadable.enclose (by decide : '\n' ∉ ":goal".toList)
  intro leaf member
  simp only [Problem.definitionLeaves, List.mem_cons, List.mem_append, List.not_mem_nil,
    or_false] at member
  rcases member with rfl | rfl | inObjects | inInitial | inGoal | rfl
  · exact ⟨⟨by simp [header.oneLine], by simp⟩, Nat.le_refl 1⟩
  · exact ⟨domainHeader, Nat.le_succ 1⟩
  · have inside := legibleFrom_of_mem_tokenBlockLeaves (by decide) objects leaf inObjects
    exact inside.mono (Nat.le_succ 1)
  · have inside := legibleFrom_of_mem_tokenBlockLeaves (by decide) propositions leaf inInitial
    exact inside.mono (Nat.le_succ 1)
  · have inside := Outline.legibleFrom_of_mem_leaves _ goalBlock 2 leaf inGoal
    exact inside.mono (Nat.le_succ 1)
  · exact ⟨(by decide : Formula.Legible ")"), Nat.le_refl 1⟩

end Legible

theorem definitionLeaves_inj {first second : Problem} {firstGoal secondGoal : Outline}
    (firstReadable : firstGoal.Readable) (secondReadable : secondGoal.Readable)
    (leavesEq : first.definitionLeaves firstGoal = second.definitionLeaves secondGoal) :
    first.name = second.name ∧ first.domain = second.domain ∧
      first.objectTexts = second.objectTexts ∧
      first.initialState.toList = second.initialState.toList ∧ firstGoal = secondGoal := by
  rw [definitionLeaves, definitionLeaves, List.cons.injEq, List.cons.injEq] at leavesEq
  obtain ⟨headerEq, domainHeaderEq, sectionsEq⟩ := leavesEq
  have nameEq : first.name = second.name :=
    inlineBlock_inj ((String.append_right_inj _).mp (Prod.mk.inj headerEq).2)
  have domainEq : first.domain = second.domain := inlineBlock_inj (Prod.mk.inj domainHeaderEq).2
  -- An object may be written ")", so each set ends at the first line further out, whatever it is.
  obtain ⟨objectsEq, sectionsEq⟩ := tokenBlockLeaves_append_inj sectionsEq
  obtain ⟨initialEq, goalLeavesEq⟩ := tokenBlockLeaves_append_inj sectionsEq
  have ends : Outline.Ends 2 [(1, ")")] := by
    simp [Outline.Ends]
  have goalEq := (Outline.leaves_append_inj (firstReadable.enclose (by decide))
    (secondReadable.enclose (by decide)) ends ends goalLeavesEq).1
  exact ⟨nameEq, domainEq, objectsEq, initialEq, Outline.enclose_inj goalEq⟩

theorem Legible.exists_outline {problem : Problem} (legible : problem.Legible) :
    ∃ goal : Outline, goal.Readable ∧ goal.toFormula = problem.goal := by
  obtain ⟨term, within, goalEq⟩ := legible.goal_built
  exact ⟨term.outline, Term.readable_outline term within, by rw [Term.toFormula_outline, goalEq]⟩

/-- The text of a problem determines the problem.  Both problems may be built by any histories, as
long as nothing in them interferes with the lines of the text. -/
theorem eq_of_text_eq {first second : Problem} (firstReachable : first.Reachable)
    (secondReachable : second.Reachable) (firstLegible : first.Legible)
    (secondLegible : second.Legible) (textEq : first.text = second.text) : first = second := by
  obtain ⟨firstGoal, firstReadable, firstGoalEq⟩ := firstLegible.exists_outline
  obtain ⟨secondGoal, secondReadable, secondGoalEq⟩ := secondLegible.exists_outline
  have firstLines :=
    firstLegible.legibleFrom_of_mem_definitionLeaves firstReachable firstReadable
  have secondLines :=
    secondLegible.legibleFrom_of_mem_definitionLeaves secondReachable secondReadable
  rw [text_eq_lines firstGoalEq, text_eq_lines secondGoalEq] at textEq
  have leavesEq := lines_inj firstLines secondLines textEq
  obtain ⟨nameEq, domainEq, objectTextsEq, initialEq, goalEq⟩ :=
    definitionLeaves_inj firstReadable secondReadable leavesEq
  apply eq_of_fields_eq nameEq domainEq
  · apply SortedSet.ext_toList
    have space : Text.isBlank ' ' = true := by decide
    exact Object.map_text_inj (fun object member => firstLegible.blank_not_mem_name member space)
      (fun object member => secondLegible.blank_not_mem_name member space) objectTextsEq
  · exact SortedSet.ext_toList initialEq
  · rw [← firstGoalEq, ← secondGoalEq, goalEq]

/-- Two histories in different orders and spellings, with a malformed proposition and an object
that looks like the end of a name. -/
theorem eq_of_text_eq_respelled :
    let goal : Term := .conjunction [.literal "(on a b)", .negation (.literal "(clear b)")]
    let forward : List Edit := [.addObject ⟨"a", "block"⟩, .addProposition "on( b, a )",
      .addPropositions ["clear(a)", "broken"], .withObject ⟨"a)", ""⟩, .setGoal goal.toFormula]
    let backward : List Edit := [.withDomain "blocks", .addObject ⟨"a)", ""⟩, .withGoal .trivial,
      .withGoal goal.toFormula, .withProposition "(clear a)", .withObject ⟨"a", "block"⟩,
      .addProposition "(on b a)"]
    let first := (empty "stack" "blocks").after forward
    let second := (empty "stack" "towers").after backward
    first.Legible ∧ second.Legible ∧ first.text = second.text ∧ first = second := by
  intro goal forward backward first second
  have goalWithin : goal.Within Term.readableVocabulary := by
    simp only [goal, Term.Within, Term.AllWithin, Term.readableVocabulary]
    decide
  have visible (problem : Problem)
      (names : ∀ object ∈ problem.objects.toList, object.name.toList.all (!Text.isBlank ·)) :
      ∀ object ∈ problem.objects, ∀ char ∈ object.name.toList, Text.isBlank char = false := by
    simpa only [SortedSet.mem_def, List.all_eq_true, Bool.not_eq_true'] using names
  have firstLegible : first.Legible := by
    refine ⟨by decide, by decide, ?_, ?_, ?_, goal, goalWithin, rfl⟩
    · exact visible first (by decide)
    · exact (by decide : ∀ object ∈ first.objects.toList, '\n' ∉ object.type.toList)
    · exact (by decide : ∀ token ∈ first.initialState.toList, '\n' ∉ token.toList)
  have secondLegible : second.Legible := by
    refine ⟨by decide, by decide, ?_, ?_, ?_, goal, goalWithin, rfl⟩
    · exact visible second (by decide)
    · exact (by decide : ∀ object ∈ second.objects.toList, '\n' ∉ object.type.toList)
    · exact (by decide : ∀ token ∈ second.initialState.toList, '\n' ∉ token.toList)
  have textEq : first.text = second.text := rfl
  exact ⟨firstLegible, secondLegible, textEq, eq_of_text_eq ⟨_, _, forward, rfl⟩
    ⟨_, _, backward, rfl⟩ firstLegible secondLegible textEq⟩

end Problem

end PlanningProblem
