import PlanningProblem.Problem.History
import PlanningProblem.Proofs.Problem.CanonicalForm
import PlanningProblem.Proofs.Proposition.Reading

/-!
# Refused propositions

Adding several propositions stops at the first malformed text.  The error quotes
that text, and the problem is the one that the texts before it give: neither it
nor any later text leaves a trace, and nothing but the initial state changes.
So a list can be added in one go or in parts.
-/

namespace PlanningProblem

namespace Proposition

/-- The text starts with a parenthesis or is read in conventional notation. -/
def WellFormed (text : String) : Prop :=
  text.toList.head? = some '(' ∨ ∃ proposition, ofText text = .ok proposition

theorem not_malformed_iff_wellFormed {text : String} : ¬ Malformed text ↔ WellFormed text := by
  constructor
  · intro wellFormed
    obtain ⟨token, canonical⟩ := (canonicalForm_or_malformed text).resolve_right wellFormed
    cases canonical with
    | verbatim parenthesized => exact .inl parenthesized
    | conventional _ spelled => exact .inr ⟨_, ofText_eq_ok_iff.mpr spelled⟩
  · intro wellFormed malformed
    by_cases parenthesized : text.toList.head? = some '('
    · exact malformed text (.verbatim parenthesized)
    · obtain ⟨proposition, isRead⟩ := wellFormed.resolve_left parenthesized
      exact malformed _ (.conventional parenthesized (ofText_eq_ok_iff.mp isRead))

theorem malformed_iff_not_wellFormed {text : String} : Malformed text ↔ ¬ WellFormed text := by
  rw [← not_malformed_iff_wellFormed, not_not]

/-- The text is the first malformed one in the list, and comes after the given texts. -/
structure FirstMalformed (texts before : List String) (text : String) : Prop where
  isNext : ∃ later, texts = before ++ text :: later
  wellFormed_before : ∀ earlier ∈ before, WellFormed earlier
  not_wellFormed : ¬ WellFormed text

theorem exists_firstMalformed {texts : List String}
    (someMalformed : ¬ ∀ text ∈ texts, WellFormed text) :
    ∃ before text, FirstMalformed texts before text := by
  induction texts with
  | nil => exact absurd (List.forall_mem_nil _) someMalformed
  | cons text rest ih =>
      by_cases wellFormed : WellFormed text
      · rw [List.forall_mem_cons, not_and] at someMalformed
        obtain ⟨before, first, ⟨later, restEq⟩, beforeWellFormed, malformed⟩ :=
          ih (someMalformed wellFormed)
        refine ⟨text :: before, first, ⟨later, by rw [restEq, List.cons_append]⟩, ?_, malformed⟩
        exact List.forall_mem_cons.mpr ⟨wellFormed, beforeWellFormed⟩
      · exact ⟨[], text, ⟨rest, rfl⟩, List.forall_mem_nil _, wellFormed⟩

end Proposition

namespace Problem

open Proposition

variable {problem : Problem} {texts before : List String} {text : String}

theorem addPropositions_snd_eq_none_iff_wellFormed :
    (problem.addPropositions texts).2 = none ↔ ∀ text ∈ texts, WellFormed text := by
  simp only [addPropositions_snd_eq_none_iff, not_malformed_iff_wellFormed]

/-- Texts are added in parts, as long as none is refused. -/
theorem addPropositions_append (problem : Problem) (texts others : List String) :
    problem.addPropositions (texts ++ others) =
      match problem.addPropositions texts with
      | (extended, none) => extended.addPropositions others
      | (stopped, some error) => (stopped, some error) := by
  induction texts generalizing problem with
  | nil => rfl
  | cons text rest ih =>
      rw [List.cons_append, addPropositions, addPropositions]
      cases problem.addProposition text with
      | error error => rfl
      | ok added => exact ih added.2

/-- The first malformed text is reported, beside what the texts before it give. -/
theorem addPropositions_of_firstMalformed (problem : Problem)
    (first : FirstMalformed texts before text) :
    problem.addPropositions texts = ((problem.addPropositions before).1, some ⟨text⟩) := by
  obtain ⟨⟨later, rfl⟩, wellFormed, malformed⟩ := first
  have accepted : (problem.addPropositions before).2 = none :=
    addPropositions_snd_eq_none_iff_wellFormed.mpr wellFormed
  rw [addPropositions_append]
  cases outcome : problem.addPropositions before with
  | mk extended error =>
      rw [outcome] at accepted
      cases accepted
      change extended.addPropositions (text :: later) = (extended, some ⟨text⟩)
      rw [addPropositions, addProposition_of_malformed (malformed_iff_not_wellFormed.mpr malformed)]

theorem exists_firstMalformed_of_addPropositions {error : MalformedProposition}
    (refused : (problem.addPropositions texts).2 = some error) :
    ∃ before text, FirstMalformed texts before text ∧ error = ⟨text⟩ := by
  have someMalformed : ¬ ∀ text ∈ texts, WellFormed text := by
    rw [← addPropositions_snd_eq_none_iff_wellFormed, refused]
    exact nofun
  obtain ⟨before, text, first⟩ := exists_firstMalformed someMalformed
  rw [addPropositions_of_firstMalformed problem first] at refused
  exact ⟨before, text, first, (Option.some.inj refused).symm⟩

theorem addPropositions_of_wellFormed (problem : Problem)
    (wellFormed : ∀ text ∈ texts, WellFormed text) :
    problem.addPropositions texts =
      ({ problem with
          initialState := (acceptedTokens texts).foldl SortedSet.insert problem.initialState },
        none) :=
  Prod.ext (addPropositions_fst problem texts)
    (addPropositions_snd_eq_none_iff_wellFormed.mpr wellFormed)

theorem mem_initialState_addPropositions {token : String} :
    token ∈ (problem.addPropositions texts).1.initialState ↔
      Accepted texts token ∨ token ∈ problem.initialState := by
  rw [addPropositions_fst, SortedSet.mem_foldl_insert, mem_acceptedTokens]

/-- A single text that is refused leaves the problem as it was. -/
theorem apply_of_refused {edit : Edit}
    (isSingle : edit ∈ [.addProposition text, .withProposition text])
    {error : MalformedProposition} (refused : (problem.apply edit).1 = .refused error) :
    error = ⟨text⟩ ∧ (problem.apply edit).2 = problem := by
  simp only [List.mem_cons, List.not_mem_nil, or_false] at isSingle
  rcases canonicalForm_or_malformed text with ⟨token, canonical⟩ | malformed
  · have added : problem.addProposition text = _ := addProposition_of_canonicalForm canonical
    rcases isSingle with rfl | rfl
    · rw [apply, added] at refused
      cases refused
    · rw [apply, withProposition, added] at refused
      cases refused
  · have notAdded : problem.addProposition text = _ := addProposition_of_malformed malformed
    rcases isSingle with rfl | rfl
    · rw [apply, notAdded] at refused ⊢
      cases refused
      exact ⟨rfl, rfl⟩
    · rw [apply, withProposition, notAdded] at refused ⊢
      cases refused
      exact ⟨rfl, rfl⟩

/-- Adding several propositions succeeds exactly if each starts with a parenthesis or can be read.
Otherwise the error quotes the first one for which neither holds, and the problem is the one that
those before it give; only the initial state changes, by the canonical forms of the texts before
the first malformed one.  A single text that is refused changes nothing.  Texts can be added in
parts, and what was refused in the first part stays refused. -/
theorem addPropositions_exact (problem : Problem) (texts : List String) :
    ((problem.addPropositions texts).2 = none ↔ ∀ text ∈ texts, WellFormed text) ∧
      (∀ before text, FirstMalformed texts before text →
        problem.addPropositions texts = ((problem.addPropositions before).1, some ⟨text⟩)) ∧
      (∀ error, (problem.addPropositions texts).2 = some error →
        ∃ before text, FirstMalformed texts before text ∧ error = ⟨text⟩) ∧
      (problem.addPropositions texts).1 =
        { problem with initialState := (problem.addPropositions texts).1.initialState } ∧
      (∀ token, token ∈ (problem.addPropositions texts).1.initialState ↔
        Accepted texts token ∨ token ∈ problem.initialState) ∧
      (∀ text, ∀ edit ∈ [Edit.addProposition text, .withProposition text], ∀ error,
        (problem.apply edit).1 = .refused error →
          error = ⟨text⟩ ∧ (problem.apply edit).2 = problem) ∧
      ∀ others, problem.addPropositions (texts ++ others) =
        match problem.addPropositions texts with
        | (extended, none) => extended.addPropositions others
        | (stopped, some error) => (stopped, some error) := by
  refine ⟨addPropositions_snd_eq_none_iff_wellFormed, ?_, ?_, ?_, ?_, ?_, ?_⟩
  · exact fun before text first => addPropositions_of_firstMalformed problem first
  · exact fun error refused => exists_firstMalformed_of_addPropositions refused
  · rw [addPropositions_fst]
  · exact fun token => mem_initialState_addPropositions
  · exact fun text edit isSingle error refused => apply_of_refused isSingle refused
  · exact addPropositions_append problem texts

/-- Two spellings of one proposition and then a malformed text, which the next one follows; the
texts before the malformed one are accepted. -/
theorem addPropositions_exact_broken :
    let problem := empty "stack" "blocks"
    let before := ["clear( a )", "(clear a)"]
    let texts := before ++ ["on(a", "on(a, b)"]
    FirstMalformed texts before "on(a" ∧ (∀ text ∈ before, WellFormed text) ∧
      (problem.addPropositions before).2 = none ∧
      problem.addPropositions texts = ((problem.addPropositions before).1, some ⟨"on(a"⟩) ∧
      (problem.addPropositions texts).1.initialState.toList = ["(clear a)"] ∧
      (problem.apply (.addProposition "on(a")).1 = .refused ⟨"on(a"⟩ ∧
      (problem.apply (.addProposition "on(a")).2 = problem := by
  intro problem before texts
  have wellFormed : ∀ text ∈ before, WellFormed text := by
    simp only [before, List.forall_mem_cons]
    exact ⟨.inr ⟨⟨"clear", ["a"]⟩, ofText_eq_ok_iff.mpr (by decide)⟩, .inl (by decide), nofun⟩
  have malformed : ¬ WellFormed "on(a" := by
    rintro (parenthesized | ⟨proposition, isRead⟩)
    · exact absurd parenthesized (by decide)
    · have nothing : ofText? "on(a" = none := by decide
      rw [ofText_eq_ok_iff, nothing] at isRead
      cases isRead
  have first : FirstMalformed texts before "on(a" := ⟨⟨["on(a, b)"], rfl⟩, wellFormed, malformed⟩
  have refused : (problem.apply (.addProposition "on(a")).1 = .refused ⟨"on(a"⟩ := by decide
  obtain ⟨-, stopped, -, -, -, unchanged, -⟩ := addPropositions_exact problem texts
  obtain ⟨accepted, -⟩ := addPropositions_exact problem before
  exact ⟨first, wellFormed, accepted.mpr wellFormed, stopped before "on(a" first, by decide,
    refused, (unchanged "on(a" _ (by simp) _ refused).2⟩

end Problem

end PlanningProblem
