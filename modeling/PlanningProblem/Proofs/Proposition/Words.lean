import PlanningProblem.Proofs.Problem.CanonicalForm
import PlanningProblem.Proofs.Proposition.Reading

/-!
# The words of stored propositions

A proposition in conventional notation is stored as its name and its arguments
between parentheses, separated by single spaces.  Nothing prevents a name of
several words, a parenthesis in a name or an argument, or an empty argument, so
not every stored token is a flat list of symbols.  The words between its
parentheses are the name and the arguments exactly if the name has no blanks and
no argument is empty.
-/

namespace PlanningProblem

namespace Text

/-- The words of a text: what stands between its blanks. -/
def words (text : String) : List String :=
  ((text.toList.splitOnP isBlank).filter (· ≠ [])).map String.ofList

/-- A text without its first and its last character. -/
def withoutEnds (text : String) : String :=
  String.ofList text.toList.tail.dropLast

/-- A word that can stand between parentheses: not empty, without blanks and parentheses. -/
def IsSymbol (word : String) : Prop :=
  word ≠ "" ∧ ∀ char ∈ word.toList, isBlank char = false ∧ char ≠ '(' ∧ char ≠ ')'

-- The type of all characters is finite too, so that the list to be searched has to be named.
instance (word : String) : Decidable (IsSymbol word) :=
  @instDecidableAnd _ _ _ (List.decidableBAll _ _)

@[simp]
theorem withoutEnds_enclosed (inside : String) : withoutEnds ("(" ++ inside ++ ")") = inside := by
  simp [withoutEnds]

theorem of_mem_words {text word : String} (isWord : word ∈ words text) :
    word ≠ "" ∧ ∀ char ∈ word.toList, isBlank char = false := by
  obtain ⟨piece, isPiece, rfl⟩ := List.mem_map.mp isWord
  obtain ⟨inText, nonempty⟩ := List.mem_filter.mp isPiece
  rw [String.toList_ofList]
  refine ⟨fun isEmpty => ?_, of_mem_splitOnP inText⟩
  have pieceNil : piece = [] := by simpa using congrArg String.toList isEmpty
  simp [pieceNil] at nonempty

theorem words_append_space (first second : String) :
    words (first ++ " " ++ second) = words first ++ words second := by
  have isSeparator : isBlank ' ' = true := by decide
  have listEq : (first ++ " " ++ second).toList = first.toList ++ ' ' :: second.toList := by
    simp
  rw [words, listEq, List.splitOnP_append_cons _ _ isSeparator, List.filter_append,
    List.map_append, words, words]

theorem words_of_visible {word : String} (nonempty : word ≠ "")
    (visible : ∀ char ∈ word.toList, isBlank char = false) : words word = [word] := by
  rw [words, List.splitOnP_eq_singleton visible]
  simp [nonempty]

/-- Texts joined by spaces are the words of the joined text exactly if each of them is a word. -/
theorem words_intercalate_eq_self_iff {texts : List String} :
    words (" ".intercalate texts) = texts ↔
      ∀ text ∈ texts, text ≠ "" ∧ ∀ char ∈ text.toList, isBlank char = false := by
  constructor
  · intro wordsEq text member
    rw [← wordsEq] at member
    exact of_mem_words member
  · intro areWords
    induction texts with
    | nil => decide
    | cons text rest ih =>
        rw [List.forall_mem_cons] at areWords
        obtain ⟨⟨nonempty, visible⟩, restWords⟩ := areWords
        cases rest with
        | nil =>
            rw [String.intercalate_singleton]
            exact words_of_visible nonempty visible
        | cons next later =>
            rw [String.intercalate_cons_cons, words_append_space, ih restWords,
              words_of_visible nonempty visible, List.singleton_append]

end Text

namespace Proposition

theorem withoutEnds_token (proposition : Proposition) :
    Text.withoutEnds proposition.token =
      " ".intercalate (proposition.name :: proposition.arguments) := by
  rw [token_eq_intercalate, Text.withoutEnds_enclosed]

namespace Legible

variable {proposition : Proposition}

theorem words_token_iff (legible : proposition.Legible) :
    Text.words (Text.withoutEnds proposition.token) =
        proposition.name :: proposition.arguments ↔
      (∀ char ∈ proposition.name.toList, Text.isBlank char = false) ∧
        "" ∉ proposition.arguments := by
  rw [withoutEnds_token, Text.words_intercalate_eq_self_iff, List.forall_mem_cons]
  constructor
  · rintro ⟨nameWord, argumentWords⟩
    exact ⟨nameWord.2, fun isArgument => (argumentWords "" isArgument).1 rfl⟩
  · rintro ⟨nameVisible, noneEmpty⟩
    refine ⟨⟨legible.name_ne_empty, nameVisible⟩, fun argument member => ?_⟩
    exact ⟨ne_of_mem_of_not_mem member noneEmpty, legible.arguments_visible argument member⟩

/-- What a name and arguments that were read may still hold, although no symbol does. -/
theorem isSymbol_iff (legible : proposition.Legible) :
    (∀ word ∈ proposition.name :: proposition.arguments, Text.IsSymbol word) ↔
      (∀ char ∈ proposition.name.toList, Text.isBlank char = false ∧ char ≠ ')') ∧
        ∀ argument ∈ proposition.arguments, argument ≠ "" ∧ '(' ∉ argument.toList := by
  rw [List.forall_mem_cons]
  constructor
  · rintro ⟨nameSymbol, argumentSymbols⟩
    refine ⟨fun char isChar => ?_, fun argument member => ?_⟩
    · obtain ⟨visible, -, notClosing⟩ := nameSymbol.2 char isChar
      exact ⟨visible, notClosing⟩
    · obtain ⟨nonempty, isPlain⟩ := argumentSymbols argument member
      exact ⟨nonempty, fun opened => (isPlain '(' opened).2.1 rfl⟩
  · rintro ⟨namePlain, argumentsPlain⟩
    refine ⟨⟨legible.name_ne_empty, fun char isChar => ?_⟩, fun argument member => ?_⟩
    · obtain ⟨visible, notClosing⟩ := namePlain char isChar
      exact ⟨visible, ne_of_mem_of_not_mem isChar legible.name_unopened, notClosing⟩
    · obtain ⟨nonempty, unopened⟩ := argumentsPlain argument member
      have unclosed := legible.arguments_unclosed argument member
      refine ⟨nonempty, fun char isChar => ?_⟩
      exact ⟨legible.arguments_visible argument member char isChar,
        ne_of_mem_of_not_mem isChar unopened, ne_of_mem_of_not_mem isChar unclosed⟩

end Legible

end Proposition

namespace Problem

open Proposition

/-- An accepted text that does not start with a parenthesis is read as a proposition, and stored as
its name and its arguments in parentheses, separated by single spaces.  All of these are symbols
unless the name has a blank or a `)` or some argument is empty or has a `(`; and they are the words
between the parentheses unless the name has a blank or some argument is empty. -/
theorem token_of_addProposition {problem extended : Problem} {text : String} {isNew : Bool}
    (unparenthesized : text.toList.head? ≠ some '(')
    (added : problem.addProposition text = .ok (isNew, extended)) :
    ∃ proposition : Proposition, ofText text = .ok proposition ∧ proposition.Legible ∧
      ∃ token,
        extended = { problem with initialState := problem.initialState.insert token } ∧
        token = "(" ++ " ".intercalate (proposition.name :: proposition.arguments) ++ ")" ∧
        ((∀ word ∈ proposition.name :: proposition.arguments, Text.IsSymbol word) ↔
          (∀ char ∈ proposition.name.toList, Text.isBlank char = false ∧ char ≠ ')') ∧
            ∀ argument ∈ proposition.arguments, argument ≠ "" ∧ '(' ∉ argument.toList) ∧
        (Text.words (Text.withoutEnds token) = proposition.name :: proposition.arguments ↔
          (∀ char ∈ proposition.name.toList, Text.isBlank char = false) ∧
            "" ∉ proposition.arguments) := by
  obtain ⟨token, canonical, extendedEq⟩ := exists_canonicalForm_of_addProposition added
  cases canonical with
  | verbatim parenthesized => exact absurd parenthesized unparenthesized
  | @conventional proposition _ spelled =>
      have legible := legible_of_ofText? spelled
      exact ⟨proposition, ofText_eq_ok_iff.mpr spelled, legible, proposition.token, extendedEq,
        proposition.token_eq_intercalate, legible.isSymbol_iff, legible.words_token_iff⟩

/-- Blanks around the name and among the arguments and a rest leave no trace in the token. -/
theorem token_of_addProposition_tidy :
    let text := "\ton( b,\n a ) and more"
    let extended : Problem :=
      { empty "p" "d" with initialState := SortedSet.empty.insert "(on b a)" }
    text.toList.head? ≠ some '(' ∧ (empty "p" "d").addProposition text = .ok (true, extended) ∧
      ∃ proposition : Proposition, ofText text = .ok proposition ∧
        (∀ word ∈ proposition.name :: proposition.arguments, Text.IsSymbol word) ∧
        Text.words (Text.withoutEnds "(on b a)") = proposition.name :: proposition.arguments := by
  intro text extended
  have unparenthesized : text.toList.head? ≠ some '(' := by decide
  have spelled : ofText? text = some ⟨"on", ["b", "a"]⟩ := by decide
  have added : (empty "p" "d").addProposition text = .ok (true, extended) :=
    addProposition_of_canonicalForm (.conventional unparenthesized spelled)
  obtain ⟨proposition, isRead, -, token, -, tokenEq, symbols, words⟩ :=
    token_of_addProposition unparenthesized added
  have readEq := (ofText_eq_ok_iff.mp isRead).symm.trans spelled
  cases readEq
  subst tokenEq
  have areSymbols : ∀ word ∈ ["on", "b", "a"], Text.IsSymbol word := by decide
  have named := symbols.mp areSymbols
  exact ⟨unparenthesized, added, _, isRead, areSymbols,
    words.mpr ⟨fun char isChar => (named.1 char isChar).1, by decide⟩⟩

/-- A name of two words, an empty argument and one with a parenthesis are all accepted.  The token
then is no flat list of symbols, and its words are not the name and the arguments. -/
theorem token_of_addProposition_not_flat :
    let text := "on top(a,,(b)"
    let proposition : Proposition := ⟨"on top", ["a", "", "(b"]⟩
    let extended : Problem :=
      { empty "p" "d" with initialState := SortedSet.empty.insert "(on top a  (b)" }
    text.toList.head? ≠ some '(' ∧ (empty "p" "d").addProposition text = .ok (true, extended) ∧
      ofText text = .ok proposition ∧ proposition.token = "(on top a  (b)" ∧
      (∀ word ∈ ["on top", "", "(b"],
        word ∈ proposition.name :: proposition.arguments ∧ ¬ Text.IsSymbol word) ∧
      Text.words (Text.withoutEnds proposition.token) = ["on", "top", "a", "(b"] ∧
      Text.words (Text.withoutEnds proposition.token) ≠
        proposition.name :: proposition.arguments := by
  intro text proposition extended
  have wordsEq : Text.words (Text.withoutEnds proposition.token) = ["on", "top", "a", "(b"] := by
    decide
  have unparenthesized : text.toList.head? ≠ some '(' := by decide
  have spelled : ofText? text = some proposition := by decide
  have added : (empty "p" "d").addProposition text = .ok (true, extended) :=
    addProposition_of_canonicalForm (.conventional unparenthesized spelled)
  refine ⟨unparenthesized, added, ofText_eq_ok_iff.mpr spelled, by decide, by decide, wordsEq, ?_⟩
  rw [wordsEq]
  decide

end Problem

end PlanningProblem
