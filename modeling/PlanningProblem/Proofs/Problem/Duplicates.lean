import PlanningProblem.Proofs.Problem.CanonicalForm
import PlanningProblem.Proofs.Proposition.Reading

/-!
# Duplicate propositions

A proposition can be added as any text that is read as it, in its own
conventional spelling, or as its token.  All of them are stored as the token, so
whichever comes second is recognised as a duplicate.  Conversely the token
determines the proposition, because neither a name without spaces nor an
argument can hold the space that separates them; so no two different
propositions are taken for each other.
-/

namespace PlanningProblem

namespace Proposition

/-- Words without spaces are recovered from their joined text, empty ones included. -/
theorem intercalate_space_inj {first second : List String} (firstNonempty : first ≠ [])
    (secondNonempty : second ≠ []) (firstFree : ∀ word ∈ first, ' ' ∉ word.toList)
    (secondFree : ∀ word ∈ second, ' ' ∉ word.toList)
    (joinedEq : " ".intercalate first = " ".intercalate second) : first = second := by
  have pieces {words : List String} (nonempty : words ≠ [])
      (free : ∀ word ∈ words, ' ' ∉ word.toList) :
      (" ".intercalate words).toList.splitOn ' ' = words.map String.toList := by
    rw [String.toList_intercalate]
    apply List.splitOn_intercalate
    · simpa using free
    · simpa using nonempty
  have wordsEq : first.map String.toList = second.map String.toList := by
    rw [← pieces firstNonempty firstFree, joinedEq, pieces secondNonempty secondFree]
  exact (List.map_inj_right fun word other => String.toList_inj.mp).mp wordsEq

theorem token_inj {first second : Proposition}
    (firstFree : ∀ word ∈ first.name :: first.arguments, ' ' ∉ word.toList)
    (secondFree : ∀ word ∈ second.name :: second.arguments, ' ' ∉ word.toList)
    (tokenEq : first.token = second.token) : first = second := by
  rw [token_eq_intercalate, token_eq_intercalate, String.append_left_inj,
    String.append_right_inj] at tokenEq
  have wordsEq := intercalate_space_inj (List.cons_ne_nil _ _) (List.cons_ne_nil _ _)
    firstFree secondFree tokenEq
  rw [List.cons.injEq] at wordsEq
  cases first
  cases second
  rw [mk.injEq]
  exact wordsEq

theorem Legible.words_free {proposition : Proposition} (legible : proposition.Legible)
    (nameFree : ' ' ∉ proposition.name.toList) :
    ∀ word ∈ proposition.name :: proposition.arguments, ' ' ∉ word.toList := by
  rw [List.forall_mem_cons]
  refine ⟨nameFree, fun argument member space => ?_⟩
  have visible := legible.arguments_visible argument member ' ' space
  revert visible
  decide

/-- A text that spells a proposition does not start with its opening parenthesis: a name comes
first. -/
theorem head?_ne_of_ofText? {text : String} {proposition : Proposition}
    (spelled : ofText? text = some proposition) : text.toList.head? ≠ some '(' := by
  obtain ⟨head, inside, isCut, nonempty, -⟩ := ofText?_eq_some_iff.mp spelled
  obtain ⟨headFree, -, rest, textEq⟩ := cut?_eq_some_iff.mp isCut
  rw [textEq]
  cases head with
  | nil => exact absurd rfl nonempty
  | cons char chars =>
      intro isHead
      rw [List.cons_append, List.head?_cons, Option.some.injEq] at isHead
      exact headFree (by simp [isHead])

theorem canonicalForm_of_ofText? {text : String} {proposition : Proposition}
    (spelled : ofText? text = some proposition) : CanonicalForm text proposition.token :=
  .conventional (head?_ne_of_ofText? spelled) spelled

/-- A text, and what it is written as once it has been read: in the same notation, or as a token. -/
def respellings (text : String) (proposition : Proposition) : List String :=
  [text, proposition.text, proposition.token]

theorem canonicalForm_of_mem_respellings {text : String} {proposition : Proposition}
    (spelled : ofText? text = some proposition) :
    ∀ spelling ∈ respellings text proposition, CanonicalForm spelling proposition.token := by
  have again := (legible_of_ofText? spelled).ofText?_text
  simp only [respellings, List.forall_mem_cons]
  exact ⟨canonicalForm_of_ofText? spelled, canonicalForm_of_ofText? again,
    .verbatim proposition.head?_token, nofun⟩

end Proposition

namespace Problem

open Proposition

/-- Once its canonical form is a member, a text is a duplicate and adding it changes nothing. -/
theorem addProposition_of_mem {problem : Problem} {text token : String}
    (canonical : CanonicalForm text token) (member : token ∈ problem.initialState) :
    problem.addProposition text = .ok (false, problem) := by
  rw [addProposition_of_canonicalForm canonical, SortedSet.contains_iff.mpr member,
    SortedSet.insert_eq_self member, Bool.not_true]

/-- Any way to write a proposition adds its token, and after that every way is a duplicate. -/
theorem addProposition_respellings {text : String} {proposition : Proposition}
    (spelled : ofText? text = some proposition) (problem : Problem) {first : String}
    (isFirst : first ∈ respellings text proposition) :
    let extended :=
      { problem with initialState := problem.initialState.insert proposition.token }
    (∃ isNew, problem.addProposition first = .ok (isNew, extended)) ∧
      ∀ second ∈ respellings text proposition,
        extended.addProposition second = .ok (false, extended) := by
  intro extended
  have canonical := canonicalForm_of_mem_respellings spelled
  have member : proposition.token ∈ extended.initialState := SortedSet.mem_insert.mpr (.inl rfl)
  constructor
  · exact ⟨_, addProposition_of_canonicalForm (canonical first isFirst)⟩
  · intro second isSecond
    exact addProposition_of_mem (canonical second isSecond) member

/-- After one proposition, another is a duplicate exactly if it is the same one. -/
theorem addProposition_isNew_eq_false_iff {secondText : String} {first second : Proposition}
    (firstFree : ∀ word ∈ first.name :: first.arguments, ' ' ∉ word.toList)
    (secondFree : ∀ word ∈ second.name :: second.arguments, ' ' ∉ word.toList)
    (secondSpelled : ofText? secondText = some second) {problem : Problem}
    (holds : ∀ token, token ∈ problem.initialState ↔ token = first.token) :
    ∃ isNew extended, problem.addProposition secondText = .ok (isNew, extended) ∧
      (isNew = false ↔ first = second) := by
  refine ⟨_, _, addProposition_of_canonicalForm (canonicalForm_of_ofText? secondSpelled), ?_⟩
  rw [Bool.not_eq_false', SortedSet.contains_iff, holds]
  constructor
  · exact fun sameToken => token_inj firstFree secondFree sameToken.symm
  · rintro rfl
    rfl

/-- Duplicates are recognised across the two notations, and nothing else is taken for one.  A text
that spells a proposition, the proposition's own spelling and its token are all stored as the
token, so that whichever is added first makes the others duplicates; and of two texts whose names
have no spaces, the second is a duplicate of the first exactly if both spell the same name with the
same arguments. -/
theorem duplicates_exact :
    (∀ text proposition, ofText text = .ok proposition →
      text.toList.head? ≠ some '(' ∧ proposition.token.toList.head? = some '(' ∧
        ∀ problem : Problem, ∀ first ∈ [text, proposition.text, proposition.token],
          let extended :=
            { problem with initialState := problem.initialState.insert proposition.token }
          (∃ isNew, problem.addProposition first = .ok (isNew, extended)) ∧
            ∀ second ∈ [text, proposition.text, proposition.token],
              extended.addProposition second = .ok (false, extended)) ∧
      ∀ firstText secondText first second, ofText firstText = .ok first →
        ofText secondText = .ok second → ' ' ∉ first.name.toList → ' ' ∉ second.name.toList →
        ∀ problem : Problem,
          (∀ token, token ∈ problem.initialState ↔ token = first.token) →
          ∃ isNew extended, problem.addProposition secondText = .ok (isNew, extended) ∧
            (isNew = false ↔ first.name = second.name ∧ first.arguments = second.arguments) := by
  constructor
  · intro text proposition isRead
    have spelled := ofText_eq_ok_iff.mp isRead
    refine ⟨head?_ne_of_ofText? spelled, proposition.head?_token, fun problem first isFirst => ?_⟩
    exact addProposition_respellings spelled problem isFirst
  · intro firstText secondText first second firstRead secondRead firstFree secondFree problem holds
    have firstSpelled := ofText_eq_ok_iff.mp firstRead
    have secondSpelled := ofText_eq_ok_iff.mp secondRead
    obtain ⟨isNew, extended, added, same⟩ := addProposition_isNew_eq_false_iff
      ((legible_of_ofText? firstSpelled).words_free firstFree)
      ((legible_of_ofText? secondSpelled).words_free secondFree) secondSpelled holds
    refine ⟨isNew, extended, added, ?_⟩
    rw [same]
    cases first
    cases second
    rw [Proposition.mk.injEq]

/-- An empty argument counts: `on(a,)` is a duplicate of its own token, and `on(a)` is none. -/
theorem duplicates_exact_empty_argument :
    let proposition : Proposition := ⟨"on", ["a", ""]⟩
    let shorter : Proposition := ⟨"on", ["a"]⟩
    let problem : Problem :=
      { empty "p" "d" with initialState := SortedSet.empty.insert proposition.token }
    ofText "on( a,)" = .ok proposition ∧ ofText "on(a)" = .ok shorter ∧
      (∃ isNew, (empty "p" "d").addProposition "on( a,)" = .ok (isNew, problem)) ∧
      problem.addProposition proposition.token = .ok (false, problem) ∧
      (∀ token, token ∈ problem.initialState ↔ token = proposition.token) ∧
      ∃ isNew extended, problem.addProposition "on(a)" = .ok (isNew, extended) ∧
        (isNew = false ↔ proposition.name = shorter.name ∧
          proposition.arguments = shorter.arguments) := by
  intro proposition shorter problem
  have spelled : ofText "on( a,)" = .ok proposition := ofText_eq_ok_iff.mpr (by decide)
  have shorterSpelled : ofText "on(a)" = .ok shorter := ofText_eq_ok_iff.mpr (by decide)
  have holds (token : String) : token ∈ problem.initialState ↔ token = proposition.token := by
    simp [problem]
  obtain ⟨respelled, distinct⟩ := duplicates_exact
  obtain ⟨added, again⟩ :=
    (respelled "on( a,)" proposition spelled).2.2 (empty "p" "d") "on( a,)" (by simp)
  exact ⟨spelled, shorterSpelled, added, again proposition.token (by simp), holds,
    distinct "on( a,)" "on(a)" proposition shorter spelled shorterSpelled (by decide) (by decide)
      problem holds⟩

end Problem

end PlanningProblem
