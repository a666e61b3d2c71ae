import Mathlib.Data.List.TakeWhile
import PlanningProblem.Proofs.Separation
import PlanningProblem.Proposition.Notation

/-!
# The conventional spelling of propositions

Reading a text in conventional notation gives a proposition of a particular
kind: its name has no `(` and no blank at either end, and its arguments have no
blanks and none of the punctuation that follows an argument.  These are exactly
the propositions that can be read back from their own spelling, so spelling and
reading are inverse to each other between them and the texts that they spell.
-/

namespace PlanningProblem

namespace Proposition

theorem cut?_append {head inside : List Char} (headFree : '(' ∉ head) (insideFree : ')' ∉ inside)
    (rest : List Char) : cut? (head ++ '(' :: (inside ++ ')' :: rest)) = some (head, inside) := by
  have closed : ')' ∈ inside ++ ')' :: rest := by simp
  rw [cut?, dropWhile_ne_append_cons headFree]
  simp only [closed, if_true]
  rw [takeWhile_ne_append_cons headFree, takeWhile_ne_append_cons insideFree]

/-- A text is cut at its first `(` and at the first `)` after that. -/
theorem cut?_eq_some_iff {chars head inside : List Char} :
    cut? chars = some (head, inside) ↔
      '(' ∉ head ∧ ')' ∉ inside ∧ ∃ rest, chars = head ++ '(' :: (inside ++ ')' :: rest) := by
  constructor
  · intro isCut
    by_cases opened : '(' ∈ chars
    · obtain ⟨before, after, rfl, beforeFree⟩ := List.eq_append_cons_of_mem opened
      by_cases closed : ')' ∈ after
      · obtain ⟨between, rest, rfl, betweenFree⟩ := List.eq_append_cons_of_mem closed
        rw [cut?_append beforeFree betweenFree, Option.some.injEq] at isCut
        cases isCut
        exact ⟨beforeFree, betweenFree, rest, rfl⟩
      · rw [cut?, dropWhile_ne_append_cons beforeFree] at isCut
        simp [closed] at isCut
    · have nothing : chars.dropWhile (· != '(') = [] := by
        rw [List.dropWhile_eq_nil_iff]
        intro char member
        simpa using ne_of_mem_of_not_mem member opened
      rw [cut?, nothing] at isCut
      cases isCut
  · rintro ⟨headFree, insideFree, rest, rfl⟩
    exact cut?_append headFree insideFree rest

theorem splitArguments_of_dropBlanks_eq_nil {inside : List Char}
    (blank : Text.dropBlanks inside = []) : splitArguments inside = [] := by
  rw [splitArguments, blank]

theorem splitArguments_of_dropBlanks_ne_nil {inside : List Char}
    (visible : Text.dropBlanks inside ≠ []) :
    splitArguments inside = ((Text.dropBlanks inside).splitOn ',').map String.ofList := by
  rw [splitArguments]
  split
  · next blank => exact absurd blank visible
  · rfl

/-- An argument consists of visible characters from between the parentheses, without commas. -/
theorem of_mem_splitArguments {inside : List Char} {argument : String}
    (member : argument ∈ splitArguments inside) :
    ',' ∉ argument.toList ∧
      ∀ char ∈ argument.toList, char ∈ inside ∧ Text.isBlank char = false := by
  by_cases blank : Text.dropBlanks inside = []
  · rw [splitArguments_of_dropBlanks_eq_nil blank] at member
    cases member
  · rw [splitArguments_of_dropBlanks_ne_nil blank] at member
    obtain ⟨piece, isPiece, rfl⟩ := List.mem_map.mp member
    rw [String.toList_ofList]
    refine ⟨not_mem_of_mem_splitOn isPiece, fun char isChar => ?_⟩
    have joined : [','].intercalate ((Text.dropBlanks inside).splitOn ',') =
        Text.dropBlanks inside := List.intercalate_splitOn ','
    have isVisible : char ∈ Text.dropBlanks inside := by
      rw [← joined]
      exact subset_intercalate isPiece [','] isChar
    exact ⟨(List.mem_filter.mp isVisible).1, Text.not_isBlank_of_mem_dropBlanks isVisible⟩

/-- A blank text has no arguments, so no text spells a single argument that is empty. -/
theorem splitArguments_ne_singleton_empty (inside : List Char) : splitArguments inside ≠ [""] := by
  by_cases blank : Text.dropBlanks inside = []
  · rw [splitArguments_of_dropBlanks_eq_nil blank]
    exact nofun
  · rw [splitArguments_of_dropBlanks_ne_nil blank]
    intro isEmpty
    obtain ⟨piece, splitEq, pieceEq⟩ := List.map_eq_singleton_iff.mp isEmpty
    have pieceNil : piece = [] := by simpa using congrArg String.toList pieceEq
    have joined : [','].intercalate ((Text.dropBlanks inside).splitOn ',') =
        Text.dropBlanks inside := List.intercalate_splitOn ','
    rw [splitEq, pieceNil, List.intercalate_singleton] at joined
    exact blank joined.symm

theorem ofText?_eq_some_iff {text : String} {proposition : Proposition} :
    ofText? text = some proposition ↔
      ∃ head inside, cut? text.toList = some (head, inside) ∧ Text.trim head ≠ [] ∧
        proposition = ⟨String.ofList (Text.trim head), splitArguments inside⟩ := by
  constructor
  · intro spelled
    rw [ofText?] at spelled
    split at spelled
    · cases spelled
    · next head inside isCut =>
        split at spelled
        · cases spelled
        · next nonempty =>
            cases spelled
            exact ⟨head, inside, isCut, nonempty, rfl⟩
  · rintro ⟨head, inside, isCut, nonempty, rfl⟩
    simp only [ofText?, isCut]

theorem ofText_eq_ok_iff {text : String} {proposition : Proposition} :
    ofText text = .ok proposition ↔ ofText? text = some proposition := by
  rw [ofText]
  cases ofText? text <;> simp

/-- No part of the proposition interferes with the punctuation of its conventional spelling. -/
structure Legible (proposition : Proposition) : Prop where
  name_ne_empty : proposition.name ≠ ""
  name_unopened : '(' ∉ proposition.name.toList
  name_trimmed : Text.Trimmed proposition.name.toList
  arguments_visible :
    ∀ argument ∈ proposition.arguments, ∀ char ∈ argument.toList, Text.isBlank char = false
  arguments_unseparated : ∀ argument ∈ proposition.arguments, ',' ∉ argument.toList
  arguments_unclosed : ∀ argument ∈ proposition.arguments, ')' ∉ argument.toList
  arguments_ne : proposition.arguments ≠ [""]

theorem legible_of_ofText? {text : String} {proposition : Proposition}
    (spelled : ofText? text = some proposition) : proposition.Legible := by
  obtain ⟨head, inside, isCut, nonempty, rfl⟩ := ofText?_eq_some_iff.mp spelled
  obtain ⟨headFree, insideFree, -⟩ := cut?_eq_some_iff.mp isCut
  refine ⟨?_, ?_, ?_, ?_, ?_, ?_, splitArguments_ne_singleton_empty inside⟩
  · exact fun isEmpty => nonempty (by simpa using congrArg String.toList isEmpty)
  · rw [String.toList_ofList]
    exact fun opened => headFree (Text.mem_of_mem_trim opened)
  · rw [String.toList_ofList]
    exact Text.trimmed_trim head
  · exact fun argument member char isChar => ((of_mem_splitArguments member).2 char isChar).2
  · exact fun argument member => (of_mem_splitArguments member).1
  · exact fun argument member closed =>
      insideFree ((of_mem_splitArguments member).2 ')' closed).1

/-- The characters between the parentheses of the conventional spelling. -/
def inside (proposition : Proposition) : List Char :=
  [',', ' '].intercalate (proposition.arguments.map String.toList)

theorem toList_text (proposition : Proposition) :
    proposition.text.toList = proposition.name.toList ++ '(' :: (proposition.inside ++ [')']) := by
  simp [text, inside]

namespace Legible

variable {proposition : Proposition}

theorem not_mem_inside (legible : proposition.Legible) : ')' ∉ proposition.inside := by
  intro closed
  rcases of_mem_intercalate closed with inSeparator | ⟨piece, isPiece, inPiece⟩
  · simp at inSeparator
  · obtain ⟨argument, member, rfl⟩ := List.mem_map.mp isPiece
    exact legible.arguments_unclosed argument member inPiece

theorem dropBlanks_inside (legible : proposition.Legible) :
    Text.dropBlanks proposition.inside =
      [','].intercalate (proposition.arguments.map String.toList) := by
  have visible : (proposition.arguments.map String.toList).map Text.dropBlanks =
      proposition.arguments.map String.toList := by
    rw [List.map_map]
    apply List.map_congr_left
    intro argument member
    exact Text.dropBlanks_eq_self (legible.arguments_visible argument member)
  have separator : Text.dropBlanks [',', ' '] = [','] := by decide
  rw [inside, Text.dropBlanks_intercalate, visible, separator]

/-- The arguments are recovered from between the parentheses.  A single empty argument would not
be: it looks like none at all. -/
theorem splitArguments_inside (legible : proposition.Legible) :
    splitArguments proposition.inside = proposition.arguments := by
  have argumentsNe := legible.arguments_ne
  have joined := legible.dropBlanks_inside
  cases argumentsEq : proposition.arguments with
  | nil =>
      rw [argumentsEq] at joined
      exact splitArguments_of_dropBlanks_eq_nil joined
  | cons first rest =>
      have free : ∀ piece ∈ proposition.arguments.map String.toList, ',' ∉ piece := by
        intro piece isPiece
        obtain ⟨argument, member, rfl⟩ := List.mem_map.mp isPiece
        exact legible.arguments_unseparated argument member
      have nonempty : proposition.arguments.map String.toList ≠ [] := by simp [argumentsEq]
      have pieces := List.splitOn_intercalate ',' free nonempty
      rw [← joined] at pieces
      have visible : Text.dropBlanks proposition.inside ≠ [] := by
        intro blank
        rw [blank, List.splitOn_nil, argumentsEq, List.map_cons, List.cons.injEq] at pieces
        have firstEmpty : first = "" := String.toList_inj.mp pieces.1.symm
        have restNil : rest = [] := List.map_eq_nil_iff.mp pieces.2.symm
        exact argumentsNe (by rw [argumentsEq, firstEmpty, restNil])
      rw [splitArguments_of_dropBlanks_ne_nil visible, pieces, List.map_map, argumentsEq]
      simp

theorem ofText?_text (legible : proposition.Legible) :
    ofText? proposition.text = some proposition := by
  rw [ofText?_eq_some_iff]
  have trimEq := Text.trim_eq_self_iff.mpr legible.name_trimmed
  refine ⟨proposition.name.toList, proposition.inside, ?_, ?_, ?_⟩
  · rw [toList_text]
    exact cut?_append legible.name_unopened legible.not_mem_inside []
  · rw [trimEq]
    simpa using legible.name_ne_empty
  · rw [trimEq, legible.splitArguments_inside, String.ofList_toList]

end Legible

theorem ofText_text_iff {proposition : Proposition} :
    ofText proposition.text = .ok proposition ↔ proposition.Legible := by
  rw [ofText_eq_ok_iff]
  exact ⟨legible_of_ofText?, Legible.ofText?_text⟩

/-- Reading yields legible propositions only, and the legible propositions are those that are read
back from their own spelling.  So spelling again what was read changes nothing. -/
theorem ofText_inverse_text :
    (∀ text proposition, ofText text = .ok proposition → proposition.Legible) ∧
      (∀ proposition : Proposition,
        ofText proposition.text = .ok proposition ↔ proposition.Legible) ∧
      ∀ text proposition, ofText text = .ok proposition →
        ofText proposition.text = ofText text := by
  refine ⟨fun text proposition spelled => ?_, fun proposition => ofText_text_iff,
    fun text proposition spelled => ?_⟩
  · exact legible_of_ofText? (ofText_eq_ok_iff.mp spelled)
  · have legible := legible_of_ofText? (ofText_eq_ok_iff.mp spelled)
    rw [spelled, ofText_text_iff.mpr legible]

/-- Blanks of several kinds, a parenthesis among the arguments, an empty argument, and a rest. -/
theorem ofText_inverse_text_untidy :
    let text := "\t on top (b,\n( ,\u00A0) and more)"
    let proposition : Proposition := ⟨"on top", ["b", "(", ""]⟩
    ofText text = .ok proposition ∧ proposition.Legible ∧
      ofText proposition.text = .ok proposition ∧ ofText proposition.text = ofText text := by
  intro text proposition
  have spelled : ofText text = .ok proposition := ofText_eq_ok_iff.mpr (by decide)
  obtain ⟨legible, readBack, unchanged⟩ := ofText_inverse_text
  have isLegible := legible text proposition spelled
  exact ⟨spelled, isLegible, (readBack proposition).mpr isLegible,
    unchanged text proposition spelled⟩

end Proposition

end PlanningProblem
