import PlanningProblem.Object.Basic

/-!
# Separated texts

Where a text is joined from parts, a part ends at the first character that it
cannot hold itself.  This file states that once for lists of anything, and
applies it to the text of an object: a name without spaces ends at the first
space, so the text determines the name and the type.
-/

namespace PlanningProblem

/-- There is only one way to split a list into a part with a property and a
rest that does not go on with it. -/
theorem split_unique {α : Type} (property : α → Prop)
    {first second firstRest secondRest : List α}
    (firstHolds : ∀ element ∈ first, property element)
    (secondHolds : ∀ element ∈ second, property element)
    (firstEnds : ∀ element ∈ firstRest.head?, ¬ property element)
    (secondEnds : ∀ element ∈ secondRest.head?, ¬ property element)
    (joinedEq : first ++ firstRest = second ++ secondRest) :
    first = second ∧ firstRest = secondRest := by
  induction first generalizing second with
  | nil =>
      cases second with
      | nil => exact ⟨rfl, joinedEq⟩
      | cons other others =>
          have otherEnds := firstEnds other (by simpa using congrArg List.head? joinedEq)
          exact absurd (secondHolds other (by simp)) otherEnds
  | cons element elements ih =>
      cases second with
      | nil =>
          have elementEnds := secondEnds element (by simpa using congrArg List.head? joinedEq.symm)
          exact absurd (firstHolds element (by simp)) elementEnds
      | cons other others =>
          rw [List.cons_append, List.cons_append, List.cons.injEq] at joinedEq
          obtain ⟨rfl, tailEq⟩ := joinedEq
          obtain ⟨rfl, restEq⟩ :=
            ih (fun member memberMem => firstHolds member (by simp [memberMem]))
              (fun member memberMem => secondHolds member (by simp [memberMem])) tailEq
          exact ⟨rfl, restEq⟩

/-- Two texts without a separator are equal, and so are the rests, if they are
joined to equal texts by the separator. -/
theorem split_unique_at {separator : Char} {first second firstRest secondRest : List Char}
    (firstFree : separator ∉ first) (secondFree : separator ∉ second)
    (joinedEq : first ++ separator :: firstRest = second ++ separator :: secondRest) :
    first = second ∧ firstRest = secondRest := by
  have parts := split_unique (· ≠ separator)
    (fun char member => ne_of_mem_of_not_mem member firstFree)
    (fun char member => ne_of_mem_of_not_mem member secondFree)
    (by simp) (by simp) joinedEq
  exact ⟨parts.1, (List.cons.inj parts.2).2⟩

theorem takeWhile_ne_append_cons {separator : Char} {first : List Char}
    (free : separator ∉ first) (rest : List Char) :
    (first ++ separator :: rest).takeWhile (· != separator) = first := by
  have visible : ∀ char ∈ first, (char != separator) = true := fun char member => by
    simpa using ne_of_mem_of_not_mem member free
  rw [List.takeWhile_append_of_pos visible]
  simp

theorem dropWhile_ne_append_cons {separator : Char} {first : List Char}
    (free : separator ∉ first) (rest : List Char) :
    (first ++ separator :: rest).dropWhile (· != separator) = separator :: rest := by
  have visible : ∀ char ∈ first, (char != separator) = true := fun char member => by
    simpa using ne_of_mem_of_not_mem member free
  rw [List.dropWhile_append_of_pos visible]
  simp

theorem subset_intercalate {α : Type} {piece : List α} {pieces : List (List α)}
    (member : piece ∈ pieces) (separator : List α) : piece ⊆ separator.intercalate pieces := by
  induction pieces with
  | nil => cases member
  | cons first rest ih =>
      cases rest with
      | nil => simp_all
      | cons next later =>
          rw [List.intercalate_cons_cons]
          rcases List.mem_cons.mp member with rfl | inRest
          · exact fun element isElement => by simp [isElement]
          · exact fun element isElement => List.mem_append_right _ (ih inRest isElement)

theorem of_mem_intercalate {α : Type} {element : α} {separator : List α} {pieces : List (List α)}
    (member : element ∈ separator.intercalate pieces) :
    element ∈ separator ∨ ∃ piece ∈ pieces, element ∈ piece := by
  induction pieces with
  | nil => cases member
  | cons first rest ih =>
      cases rest with
      | nil => exact .inr ⟨first, by simp, by simpa using member⟩
      | cons next later =>
          rw [List.intercalate_cons_cons, List.mem_append, List.mem_append] at member
          rcases member with (inFirst | inSeparator) | inRest
          · exact .inr ⟨first, by simp, inFirst⟩
          · exact .inl inSeparator
          · exact (ih inRest).imp_right fun ⟨piece, isPiece, inPiece⟩ =>
              ⟨piece, List.mem_cons_of_mem first isPiece, inPiece⟩

/-- Pieces that all end with a separator are separated pieces of which the last is empty. -/
theorem flatMap_append_separator {α : Type} (separator : List α) (pieces : List (List α)) :
    pieces.flatMap (fun piece => piece ++ separator) = separator.intercalate (pieces ++ [[]]) := by
  induction pieces with
  | nil => simp
  | cons first rest ih =>
      obtain ⟨next, later, isCons⟩ := List.exists_cons_of_ne_nil (List.concat_ne_nil [] rest)
      rw [List.flatMap_cons, ih, List.cons_append, isCons, List.intercalate_cons_cons]

/-- The pieces between separators hold no separator. -/
theorem of_mem_splitOnP {separates : Char → Bool} {chars piece : List Char}
    (isPiece : piece ∈ chars.splitOnP separates) : ∀ char ∈ piece, separates char = false := by
  induction chars generalizing piece with
  | nil =>
      rw [List.splitOnP_nil, List.mem_singleton] at isPiece
      simp [isPiece]
  | cons char rest ih =>
      rw [List.splitOnP_cons_eq_if_modifyHead] at isPiece
      obtain ⟨first, others, splitEq⟩ :=
        List.exists_cons_of_ne_nil (List.splitOnP_ne_nil separates rest)
      rw [splitEq] at ih isPiece
      split at isPiece
      · rcases List.mem_cons.mp isPiece with rfl | inRest
        · exact nofun
        · exact ih inRest
      · next belongs =>
          rw [List.modifyHead_cons] at isPiece
          rcases List.mem_cons.mp isPiece with rfl | inOthers
          · exact List.forall_mem_cons.mpr
              ⟨Bool.not_eq_true _ ▸ belongs, ih List.mem_cons_self⟩
          · exact ih (List.mem_cons_of_mem first inOthers)

/-- There is one piece more than there are separators. -/
theorem length_splitOnP (separates : Char → Bool) (chars : List Char) :
    (chars.splitOnP separates).length = chars.countP separates + 1 := by
  induction chars with
  | nil => rfl
  | cons char rest ih =>
      rw [List.splitOnP_cons_eq_if_modifyHead, List.countP_cons]
      split
      · rw [List.length_cons, ih]
      · rw [List.length_modifyHead, ih, Nat.add_zero]

theorem length_splitOn (separator : Char) (chars : List Char) :
    (chars.splitOn separator).length = chars.count separator + 1 := by
  rw [List.splitOn_eq_splitOnP, length_splitOnP, List.count]

theorem not_mem_of_mem_splitOn {separator : Char} {chars piece : List Char}
    (isPiece : piece ∈ chars.splitOn separator) : separator ∉ piece := by
  rw [List.splitOn_eq_splitOnP] at isPiece
  intro member
  simpa using of_mem_splitOnP isPiece separator member

namespace Object

/-- What the text of an object of the given type has after the name. -/
def typeSuffix (type : String) : String :=
  if type = "" then "" else " - " ++ type

theorem text_eq_append (object : Object) : object.text = object.name ++ typeSuffix object.type := by
  rw [text, typeSuffix]
  split
  · rw [String.append_empty]
  · rw [String.append_assoc]

theorem head?_typeSuffix (type : String) : ∀ char ∈ (typeSuffix type).toList.head?, char = ' ' := by
  rw [typeSuffix]
  split <;> simp

theorem typeSuffix_inj {first second : String} (suffixEq : typeSuffix first = typeSuffix second) :
    first = second := by
  have dashed (type : String) : " - " ++ type ≠ "" := fun emptyEq => by
    simpa using congrArg String.toList emptyEq
  rw [typeSuffix, typeSuffix] at suffixEq
  split at suffixEq <;> split at suffixEq
  · next firstEmpty secondEmpty => rw [firstEmpty, secondEmpty]
  · exact absurd suffixEq.symm (dashed second)
  · exact absurd suffixEq (dashed first)
  · exact (String.append_right_inj _).mp suffixEq

/-- Objects whose names have no spaces are told apart by their texts. -/
theorem text_inj {first second : Object} (firstFree : ' ' ∉ first.name.toList)
    (secondFree : ' ' ∉ second.name.toList) (textEq : first.text = second.text) :
    first = second := by
  have listEq := congrArg String.toList textEq
  rw [text_eq_append, text_eq_append, String.toList_append, String.toList_append] at listEq
  have parts := split_unique (· ≠ ' ')
    (fun char member => ne_of_mem_of_not_mem member firstFree)
    (fun char member => ne_of_mem_of_not_mem member secondFree)
    (fun char isHead different => different (head?_typeSuffix first.type char isHead))
    (fun char isHead different => different (head?_typeSuffix second.type char isHead)) listEq
  have nameEq := String.toList_inj.mp parts.1
  have typeEq := typeSuffix_inj (String.toList_inj.mp parts.2)
  cases first
  cases second
  cases nameEq
  cases typeEq
  rfl

theorem map_text_inj {first second : List Object}
    (firstFree : ∀ object ∈ first, ' ' ∉ object.name.toList)
    (secondFree : ∀ object ∈ second, ' ' ∉ object.name.toList)
    (textsEq : first.map text = second.map text) : first = second := by
  induction first generalizing second with
  | nil => exact (List.map_eq_nil_iff.mp textsEq.symm).symm
  | cons object objects ih =>
      cases second with
      | nil => cases textsEq
      | cons other others =>
          rw [List.map_cons, List.map_cons, List.cons.injEq] at textsEq
          rw [List.forall_mem_cons] at firstFree secondFree
          have objectEq := text_inj firstFree.1 secondFree.1 textsEq.1
          have objectsEq := ih firstFree.2 secondFree.2 textsEq.2
          rw [objectEq, objectsEq]

end Object

end PlanningProblem
