import PlanningProblem.Problem.Basic
import PlanningProblem.SortedSet.Lemmas

/-!
# Canonical forms of propositions

A proposition is stored in its canonical form: a text that starts with `(`
stands for itself, and any other text for the token of the proposition that it
spells.  This file says so without reference to how propositions are stored,
and proves that adding one or several propositions inserts exactly the
canonical forms of the texts before the first malformed one.
-/

namespace PlanningProblem

namespace Proposition

inductive CanonicalForm (text : String) : (token : String) → Prop where
  | verbatim (parenthesized : text.toList.head? = some '(') : CanonicalForm text text
  | conventional {proposition : Proposition} (unparenthesized : text.toList.head? ≠ some '(')
      (spelled : ofText? text = some proposition) : CanonicalForm text proposition.token

/-- Whatever the spelling of a proposition, its canonical form starts with a parenthesis. -/
theorem CanonicalForm.head? {text token : String} (canonical : CanonicalForm text token) :
    token.toList.head? = some '(' := by
  cases canonical with
  | verbatim parenthesized => exact parenthesized
  | conventional _ _ => exact head?_token _

def Malformed (text : String) : Prop :=
  ∀ token, ¬ CanonicalForm text token

theorem storedToken_eq_ok_iff {text token : String} :
    storedToken text = .ok token ↔ CanonicalForm text token := by
  constructor
  · intro stored
    rw [storedToken] at stored
    split at stored
    · next parenthesized =>
        cases stored
        exact .verbatim parenthesized
    · next unparenthesized =>
        rw [ofText] at stored
        split at stored
        · next proposition spelled =>
            cases stored
            exact .conventional unparenthesized spelled
        · cases stored
  · intro canonical
    cases canonical with
    | verbatim parenthesized => rw [storedToken, if_pos parenthesized]
    | conventional unparenthesized spelled =>
        rw [storedToken, if_neg unparenthesized, ofText, spelled]
        rfl

theorem error_eq_of_storedToken {text : String} {error : MalformedProposition}
    (refused : storedToken text = .error error) : error = ⟨text⟩ := by
  rw [storedToken] at refused
  split at refused
  · cases refused
  · rw [ofText] at refused
    split at refused
    · cases refused
    · cases refused
      rfl

/-- A text is refused exactly if it has no canonical form, and the error quotes it. -/
theorem storedToken_eq_error_iff {text : String} {error : MalformedProposition} :
    storedToken text = .error error ↔ Malformed text ∧ error = ⟨text⟩ := by
  constructor
  · intro refused
    refine ⟨fun token canonical => ?_, error_eq_of_storedToken refused⟩
    rw [storedToken_eq_ok_iff.mpr canonical] at refused
    cases refused
  · rintro ⟨malformed, rfl⟩
    cases stored : storedToken text with
    | ok token => exact absurd (storedToken_eq_ok_iff.mp stored) (malformed token)
    | error error => rw [error_eq_of_storedToken stored]

theorem CanonicalForm.unique {text first second : String} (isFirst : CanonicalForm text first)
    (isSecond : CanonicalForm text second) : first = second := by
  rw [← storedToken_eq_ok_iff] at isFirst isSecond
  rw [isFirst] at isSecond
  exact Except.ok.inj isSecond

theorem canonicalForm_or_malformed (text : String) :
    (∃ token, CanonicalForm text token) ∨ Malformed text := by
  by_cases canonical : ∃ token, CanonicalForm text token
  · exact .inl canonical
  · exact .inr fun token isCanonical => canonical ⟨token, isCanonical⟩

/-- The canonical forms of the texts before the first malformed one, in order. -/
def acceptedTokens : List String → List String
  | [] => []
  | text :: rest =>
      match storedToken text with
      | .ok token => token :: acceptedTokens rest
      | .error _ => []

theorem acceptedTokens_of_canonicalForm {text token : String} (canonical : CanonicalForm text token)
    (rest : List String) : acceptedTokens (text :: rest) = token :: acceptedTokens rest := by
  rw [acceptedTokens, storedToken_eq_ok_iff.mpr canonical]

theorem acceptedTokens_of_malformed {text : String} (malformed : Malformed text)
    (rest : List String) : acceptedTokens (text :: rest) = [] := by
  rw [acceptedTokens, storedToken_eq_error_iff.mpr ⟨malformed, rfl⟩]

/-- The token is the canonical form of one of the texts, and none before that one is malformed. -/
def Accepted (texts : List String) (token : String) : Prop :=
  ∃ before text later, texts = before ++ text :: later ∧
    (∀ earlier ∈ before, ¬ Malformed earlier) ∧ CanonicalForm text token

theorem accepted_cons_iff {text : String} {rest : List String} {token : String} :
    Accepted (text :: rest) token ↔
      CanonicalForm text token ∨ ¬ Malformed text ∧ Accepted rest token := by
  constructor
  · rintro ⟨before, chosen, later, textsEq, wellFormed, canonical⟩
    cases before with
    | nil =>
        obtain ⟨rfl, -⟩ := List.cons.inj textsEq
        exact .inl canonical
    | cons first others =>
        obtain ⟨rfl, restEq⟩ := List.cons.inj textsEq
        rw [List.forall_mem_cons] at wellFormed
        exact .inr ⟨wellFormed.1, others, chosen, later, restEq, wellFormed.2, canonical⟩
  · rintro (canonical | ⟨wellFormed, before, chosen, later, rfl, othersWellFormed, canonical⟩)
    · exact ⟨[], text, rest, rfl, nofun, canonical⟩
    · refine ⟨text :: before, chosen, later, rfl, ?_, canonical⟩
      exact List.forall_mem_cons.mpr ⟨wellFormed, othersWellFormed⟩

theorem mem_acceptedTokens {texts : List String} {token : String} :
    token ∈ acceptedTokens texts ↔ Accepted texts token := by
  induction texts with
  | nil => simp [acceptedTokens, Accepted]
  | cons text rest ih =>
      rw [accepted_cons_iff]
      rcases canonicalForm_or_malformed text with ⟨first, canonical⟩ | malformed
      · have wellFormed : ¬ Malformed text := fun malformed => malformed first canonical
        have same : CanonicalForm text token ↔ token = first :=
          ⟨fun other => other.unique canonical, fun tokenEq => tokenEq ▸ canonical⟩
        rw [acceptedTokens_of_canonicalForm canonical, List.mem_cons, ih, same]
        simp [wellFormed]
      · rw [acceptedTokens_of_malformed malformed]
        simp [malformed, malformed token]

theorem acceptedTokens_eq_self {texts : List String}
    (parenthesized : ∀ text ∈ texts, text.toList.head? = some '(') :
    acceptedTokens texts = texts := by
  induction texts with
  | nil => rfl
  | cons text rest ih =>
      rw [List.forall_mem_cons] at parenthesized
      rw [acceptedTokens_of_canonicalForm (.verbatim parenthesized.1), ih parenthesized.2]

end Proposition

namespace Problem

open Proposition

theorem addProposition_of_canonicalForm {problem : Problem} {text token : String}
    (canonical : CanonicalForm text token) :
    problem.addProposition text =
      .ok (!problem.initialState.contains token,
        { problem with initialState := problem.initialState.insert token }) := by
  rw [addProposition, storedToken_eq_ok_iff.mpr canonical]
  rfl

theorem addProposition_of_malformed {problem : Problem} {text : String}
    (malformed : Malformed text) : problem.addProposition text = .error ⟨text⟩ := by
  rw [addProposition, storedToken_eq_error_iff.mpr ⟨malformed, rfl⟩]
  rfl

/-- An accepted text has a canonical form, which is inserted. -/
theorem exists_canonicalForm_of_addProposition {problem extended : Problem} {text : String}
    {isNew : Bool} (added : problem.addProposition text = .ok (isNew, extended)) :
    ∃ token, CanonicalForm text token ∧
      extended = { problem with initialState := problem.initialState.insert token } := by
  rcases canonicalForm_or_malformed text with ⟨token, canonical⟩ | malformed
  · rw [addProposition_of_canonicalForm canonical] at added
    cases added
    exact ⟨token, canonical, rfl⟩
  · rw [addProposition_of_malformed malformed] at added
    cases added

/-- Adding several propositions inserts the accepted ones and changes nothing else. -/
theorem addPropositions_fst (problem : Problem) (texts : List String) :
    (problem.addPropositions texts).1 =
      { problem with
        initialState := (acceptedTokens texts).foldl SortedSet.insert problem.initialState } := by
  induction texts generalizing problem with
  | nil => rfl
  | cons text rest ih =>
      rw [addPropositions]
      rcases canonicalForm_or_malformed text with ⟨token, canonical⟩ | malformed
      · rw [addProposition_of_canonicalForm canonical, acceptedTokens_of_canonicalForm canonical,
          ih]
        rfl
      · rw [addProposition_of_malformed malformed, acceptedTokens_of_malformed malformed]
        rfl

/-- Adding several propositions fails exactly if one of them is malformed. -/
theorem addPropositions_snd_eq_none_iff {problem : Problem} {texts : List String} :
    (problem.addPropositions texts).2 = none ↔ ∀ text ∈ texts, ¬ Malformed text := by
  induction texts generalizing problem with
  | nil => simp [addPropositions]
  | cons text rest ih =>
      rw [addPropositions, List.forall_mem_cons]
      rcases canonicalForm_or_malformed text with ⟨token, canonical⟩ | malformed
      · have wellFormed : ¬ Malformed text := fun malformed => malformed token canonical
        rw [addProposition_of_canonicalForm canonical]
        simp only [wellFormed, not_false_eq_true, true_and]
        exact ih
      · rw [addProposition_of_malformed malformed]
        simp [malformed]

end Problem

end PlanningProblem
