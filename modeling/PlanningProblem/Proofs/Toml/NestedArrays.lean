import PlanningProblem.Formula.Tree
import PlanningProblem.Proofs.Separation
import PlanningProblem.Proofs.Toml.QuotedText

/-!
# Nested arrays

Arrays are read back in which a comma and a space stand between two elements, if
the elements are read back where something else than a quote follows them.  By
induction over a goal, the texts in nested arrays as which it is written are read
back, unless the arrays are nested deeper than a value can be.
-/

namespace PlanningProblem

namespace Toml

open Description (documentText documentArray documentGoal documentGoals)

/-- The input goes on with the first character of a value or with one that can follow a value. -/
inductive Visible : List Char → Prop
  | quote (rest : List Char) : Visible ('"' :: rest)
  | opening (rest : List Char) : Visible ('[' :: rest)
  | closing (rest : List Char) : Visible (']' :: rest)
  | comma (rest : List Char) : Visible (',' :: rest)

/-- The input goes on as it does after an element of an array. -/
inductive EndsElement : List Char → Prop
  | closing (rest : List Char) : EndsElement (']' :: rest)
  | comma (rest : List Char) : EndsElement (',' :: rest)

theorem EndsElement.visible {input : List Char} (ends : EndsElement input) : Visible input := by
  cases ends with
  | closing rest => exact .closing rest
  | comma rest => exact .comma rest

theorem EndsElement.head?_ne {input : List Char} (ends : EndsElement input) :
    input.head? ≠ some '"' := by
  cases ends <;> simp

theorem Visible.append {input : List Char} (visible : Visible input) (rest : List Char) :
    Visible (input ++ rest) := by
  cases visible <;> constructor

theorem gap_of_visible {input : List Char} (visible : Visible input) :
    gap input = some ((), input) := by
  cases visible <;> rfl

theorem gap_space_cons {input : List Char} (visible : Visible input) :
    gap (' ' :: input) = some ((), input) := by
  cases visible <;> rfl

theorem scalar_openBracket (rest : List Char) : scalar ('[' :: rest) = none :=
  rfl

theorem value_closeBracket (room : Nat) (rest : List Char) : value room (']' :: rest) = none := by
  cases room <;> rfl

section Elements

variable {α : Type} {reader : Reader Datum} {spelling : α → String} {meaning : α → Datum}
  {elements : List α} {rest : List Char}

theorem element_of_taken {input left : List Char} {datum : Datum}
    (skipped : gap input = some ((), left)) (taken : reader left = some (datum, rest))
    (ends : EndsElement rest) : (gap *> reader <* gap) input = some (datum, rest) :=
  seqLeft_of_taken ((seqRight_of_taken skipped).trans taken) (gap_of_visible ends.visible)

theorem elements_append (starts : ∀ element ∈ elements, Visible (spelling element).toList)
    (takes : ∀ element ∈ elements, ∀ rest, EndsElement rest →
      reader ((spelling element).toList ++ rest) = some (meaning element, rest))
    (stops : reader (']' :: rest) = none) :
    sepBy (gap *> reader <* gap) (char ',')
        ([',', ' '].intercalate (elements.map fun element => (spelling element).toList) ++
          ']' :: rest) = some (elements.map meaning, ']' :: rest) := by
  have closes : EndsElement (']' :: rest) := .closing rest
  by_cases isEmpty : elements = []
  · have failed : (gap *> reader <* gap) (']' :: rest) = none :=
      bind_of_failed ((seqRight_of_taken (gap_of_visible closes.visible)).trans stops)
    rw [isEmpty]
    exact orElse_of_failed (bind_of_failed failed)
  · have spaced : [',', ' '] ≠ [] := by simp
    refine orElse_of_taken (sepBy1_intercalate spaced isEmpty ?_ ?_ ?_ closes rfl)
    · intro element member left ends
      exact element_of_taken (gap_of_visible ((starts element member).append left))
        (takes element member left ends) ends
    · intro element member left ends
      rw [List.append_assoc]
      refine (seqRight_of_taken (char_cons_self _ _)).trans ?_
      exact element_of_taken (gap_space_cons ((starts element member).append left))
        (takes element member left ends) ends
    · exact fun left => .comma (' ' :: left)

theorem toList_documentArray_append (spelling : α → String) (elements : List α)
    (rest : List Char) :
    (documentArray (elements.map spelling)).toList ++ rest =
      '[' :: ([',', ' '].intercalate (elements.map fun element => (spelling element).toList) ++
        ']' :: rest) := by
  simp [documentArray, String.toList_intercalate, Function.comp_def]

/-- An array is read if each of its elements is. -/
theorem array_documentArray_append
    (starts : ∀ element ∈ elements, Visible (spelling element).toList)
    (takes : ∀ element ∈ elements, ∀ rest, EndsElement rest →
      reader ((spelling element).toList ++ rest) = some (meaning element, rest))
    (stops : reader (']' :: rest) = none) :
    array reader ((documentArray (elements.map spelling)).toList ++ rest) =
      some (.sequence (elements.map meaning), rest) := by
  have opened : Visible ([',', ' '].intercalate
      (elements.map fun element => (spelling element).toList) ++ ']' :: rest) := by
    cases elements with
    | nil => exact .closing rest
    | cons first others =>
        rw [List.map_cons, intercalate_cons, List.append_assoc]
        exact (starts first List.mem_cons_self).append _
  -- A comma could follow the last element, but none is written there.
  have noComma : discard (optional (char ',')) (']' :: rest) = some ((), ']' :: rest) := rfl
  have closed : (do
      gap
      char ']'
      return Datum.sequence (elements.map meaning)) (']' :: rest) =
        some (Datum.sequence (elements.map meaning), rest) := by
    rw [bind_of_taken (gap_of_visible (.closing rest)),
      bind_of_taken (char_cons_self _ _), pure_apply]
  rw [toList_documentArray_append, array, bind_of_taken (char_cons_self _ _),
    bind_of_taken (gap_of_visible opened), bind_of_taken (elements_append starts takes stops)]
  dsimp only
  split
  · exact closed
  · exact (bind_of_taken noComma).trans closed

end Elements

section Goals

variable {escaping : Char → List Char}

theorem documentGoals_eq_map (goals : List Formula) :
    documentGoals escaping goals = goals.map (documentGoal escaping) := by
  induction goals with
  | nil => rfl
  | cons goal goals ih => rw [documentGoals, ih, List.map_cons]

theorem visible_documentText (escaping : Char → List Char) (text : String) :
    Visible (documentText escaping text).toList := by
  rw [← List.append_nil (documentText escaping text).toList, toList_documentText_append]
  exact .quote _

theorem visible_documentArray {α : Type} (spelling : α → String) (elements : List α) :
    Visible (documentArray (elements.map spelling)).toList := by
  rw [← List.append_nil (documentArray _).toList, toList_documentArray_append]
  exact .opening _

theorem visible_documentGoal (escaping : Char → List Char) (goal : Formula) :
    Visible (documentGoal escaping goal).toList := by
  cases goal with
  | atom token => exact visible_documentText escaping token
  | group parts =>
      rw [documentGoal, documentGoals_eq_map]
      exact visible_documentArray (documentGoal escaping) parts

theorem value_documentArray_append {α : Type} (room : Nat) {spelling : α → String}
    {meaning : α → Datum} {elements : List α} {rest : List Char}
    (starts : ∀ element ∈ elements, Visible (spelling element).toList)
    (takes : ∀ element ∈ elements, ∀ rest, EndsElement rest →
      value room ((spelling element).toList ++ rest) = some (meaning element, rest)) :
    value (room + 1) ((documentArray (elements.map spelling)).toList ++ rest) =
      some (.sequence (elements.map meaning), rest) := by
  have isArray := array_documentArray_append starts takes (value_closeBracket room rest)
  rw [toList_documentArray_append] at isArray ⊢
  rw [value, orElse_of_failed (scalar_openBracket _), orElse_of_taken isArray]

mutual

/-- A goal is read back from the texts in nested arrays as which it is written. -/
theorem value_documentGoal_append (escapes : Escapes escaping) :
    (goal : Formula) → (room : Nat) → goal.nesting ≤ room → ∀ rest, rest.head? ≠ some '"' →
      value room ((documentGoal escaping goal).toList ++ rest) = some (goal.toDatum, rest)
  | .atom token, room, _, _, ends => value_documentText_append escapes room token ends
  | .group parts, 0, shallow, _, _ => absurd shallow (Nat.not_succ_le_zero _)
  | .group parts, room + 1, shallow, rest, _ => by
      rw [documentGoal, documentGoals_eq_map, Formula.toDatum, Formula.toData_eq_map]
      exact value_documentArray_append room (fun part _ => visible_documentGoal escaping part)
        fun part member rest ends => value_documentGoals_append escapes parts room
          (Nat.le_of_succ_le_succ shallow) part member rest ends.head?_ne

theorem value_documentGoals_append (escapes : Escapes escaping) :
    (goals : List Formula) → (room : Nat) → Formula.nestingAll goals ≤ room →
      ∀ goal ∈ goals, ∀ rest, rest.head? ≠ some '"' →
        value room ((documentGoal escaping goal).toList ++ rest) = some (goal.toDatum, rest)
  | [], _, _ => nofun
  | goal :: goals, room, shallow => by
      rw [Formula.nestingAll, Nat.max_le] at shallow
      rw [List.forall_mem_cons]
      exact ⟨value_documentGoal_append escapes goal room shallow.1,
        value_documentGoals_append escapes goals room shallow.2⟩

end

end Goals

end Toml

end PlanningProblem
