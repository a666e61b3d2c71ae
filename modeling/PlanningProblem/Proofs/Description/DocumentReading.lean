import PlanningProblem.Description.Document
import PlanningProblem.Description.Load
import PlanningProblem.Proofs.Description.Reload
import PlanningProblem.Proofs.Toml.Assembly
import PlanningProblem.Proofs.Toml.StatementLines

/-!
# Documents read back

A description is read back from the document as which it is written, whatever
its texts hold, unless its goal is nested deeper than a value of a document can
be.  The lines say entry by entry what the description is made of, and from what
they say the reader collects a datum that denotes the description.
-/

namespace PlanningProblem

namespace Description

open Toml (Escapes IsWord LinesReadAs ReadsAs Statement elementStatements elementsEntry
  nestingLimit)

/-- The entries of a description before its objects. -/
def rootEntries (description : Description) : List (String × Datum) :=
  [("name", .text description.name), ("domain", .text description.domain),
    ("init", .sequence (description.init.map .text))] ++
    description.goal.toList.map fun goal => ("goal", goal.toDatum)

/-- What the lines of the document of a description say. -/
def documentStatements (description : Description) : List Statement :=
  description.rootEntries.map Statement.ofPair ++
    (description.objects.map Object.entries).flatMap (elementStatements "objects")

/-- The entries of the document of a description. -/
def documentEntries (description : Description) : List (String × Datum) :=
  description.rootEntries ++ elementsEntry "objects" (description.objects.map Object.entries)

section Lines

variable {escaping : Char → List Char}

theorem readsAs_text (escapes : Escapes escaping) {word : String} (isWord : IsWord word)
    (text : String) :
    ReadsAs (documentEntry word (documentText escaping text)) (some (.ofPair (word, .text text))) :=
  Toml.readsAs_documentEntry isWord (Toml.visible_documentText escaping text) fun _ =>
    Toml.value_documentText_append escapes nestingLimit text

theorem readsAs_texts (escapes : Escapes escaping) {word : String} (isWord : IsWord word)
    (texts : List String) :
    ReadsAs (documentEntry word (documentArray (texts.map (documentText escaping))))
      (some (.ofPair (word, .sequence (texts.map .text)))) := by
  refine Toml.readsAs_documentEntry isWord (Toml.visible_documentArray _ texts) fun rest _ => ?_
  -- The array is one of the levels of the limit, and its texts need no further one.
  refine Toml.value_documentArray_append 78 ?_ ?_
  · exact fun text _ => Toml.visible_documentText escaping text
  · exact fun text _ rest ends => Toml.value_documentText_append escapes 78 text ends.head?_ne

theorem readsAs_goal (escapes : Escapes escaping) {word : String} (isWord : IsWord word)
    {goal : Formula} (shallow : goal.nesting ≤ nestingLimit) :
    ReadsAs (documentEntry word (documentGoal escaping goal))
      (some (.ofPair (word, goal.toDatum))) :=
  Toml.readsAs_documentEntry isWord (Toml.visible_documentGoal escaping goal) fun rest =>
    Toml.value_documentGoal_append escapes goal nestingLimit shallow rest

theorem objectLines_readAs (escapes : Escapes escaping) (object : Object) :
    LinesReadAs (objectLines escaping object) (elementStatements "objects" object.entries) :=
  .cons (Toml.readsAs_documentHeader (by decide))
    (.cons (readsAs_text escapes (by decide) object.name)
      (.cons (readsAs_text escapes (by decide) object.type) .nil))

theorem documentLines_readAs (escapes : Escapes escaping) (description : Description)
    (shallow : ∀ goal ∈ description.goal, goal.nesting ≤ nestingLimit) :
    LinesReadAs (documentLines escaping description) description.documentStatements := by
  have goalRead : LinesReadAs
      (description.goal.toList.map fun goal => documentEntry "goal" (documentGoal escaping goal))
      (description.goal.toList.map fun goal => Statement.ofPair ("goal", goal.toDatum)) := by
    rw [LinesReadAs, List.forall₂_map_left_iff, List.forall₂_map_right_iff, List.forall₂_same]
    exact fun goal member =>
      readsAs_goal escapes (by decide) (shallow goal (Option.mem_toList.mp member))
  have objectsRead (objects : List Object) :
      LinesReadAs (objects.flatMap (objectLines escaping))
        ((objects.map Object.entries).flatMap (elementStatements "objects")) := by
    induction objects with
    | nil => exact .nil
    | cons object objects ih => exact List.rel_append (objectLines_readAs escapes object) ih
  rw [documentLines, documentStatements, rootEntries, List.map_append, List.map_map]
  refine List.rel_append (List.rel_append ?_ goalRead) (objectsRead description.objects)
  exact .cons (readsAs_text escapes (by decide) description.name)
    (.cons (readsAs_text escapes (by decide) description.domain)
      (.cons (readsAs_texts escapes (by decide) description.init) .nil))

end Lines

theorem nodup_rootEntries (description : Description) :
    (description.rootEntries.map Prod.fst).Nodup := by
  cases goalEq : description.goal <;> simp [rootEntries, goalEq]

theorem objects_not_mem_rootEntries (description : Description) :
    "objects" ∉ description.rootEntries.map Prod.fst := by
  cases goalEq : description.goal <;> simp [rootEntries, goalEq]

theorem assemble_documentStatements (description : Description) :
    Toml.assemble description.documentStatements = some (.mapping description.documentEntries) := by
  refine Toml.assemble_tables description.nodup_rootEntries
    description.objects_not_mem_rootEntries ?_
  rw [List.forall_mem_map]
  exact fun object _ => by simp [Object.entries]

/-- Objects have an entry of their own if there are any, and else the default holds. -/
theorem objects_denote (objects : List Object) :
    Datum.FieldDenotes (Datum.DenotesSequence (Datum.DenotesObject .ignored)) []
      ((elementsEntry "objects" (objects.map Object.entries)).lookup "objects") objects := by
  cases objects with
  | nil => exact .absent
  | cons first others =>
      refine .present (objects_denote_of_writtenAs .ignored ?_)
      rw [List.map_map]
      exact writtenAs_map_toDatum (first :: others)

theorem goal_denotes (description : Description) :
    Datum.FieldDenotes Datum.DenotesGoal none (description.rootEntries.lookup "goal")
      description.goal := by
  rw [rootEntries]
  cases description.goal with
  | none => exact .absent
  | some goal => exact .present (.tree goal)

theorem denotesDescription_documentEntries (description : Description) :
    (Datum.mapping description.documentEntries).DenotesDescription .ignored description := by
  have objectsFound : description.documentEntries.lookup "objects" =
      (elementsEntry "objects" (description.objects.map Object.entries)).lookup "objects" := by
    rw [documentEntries, List.lookup_append,
      lookup_eq_none_of_not_mem_keys description.objects_not_mem_rootEntries, Option.none_or]
  have goalFound : description.documentEntries.lookup "goal" =
      description.rootEntries.lookup "goal" := by
    have notObjects : (elementsEntry "objects"
        (description.objects.map Object.entries)).lookup "goal" = none := by
      cases description.objects <;> rfl
    rw [documentEntries, List.lookup_append, notObjects, Option.or_none]
  refine .keyed ⟨rfl, .present rfl, ?_, .present (texts_denote description.init), ?_⟩
  · rw [objectsFound]
    exact objects_denote description.objects
  · rw [goalFound]
    exact goal_denotes description

theorem ofToml_toTomlWith {escaping : Char → List Char} (escapes : Escapes escaping)
    (description : Description)
    (shallow : ∀ goal ∈ description.goal, goal.nesting ≤ nestingLimit) :
    ofToml (description.toTomlWith escaping) = .ok description := by
  have noMark : (description.toTomlWith escaping).toList.head? ≠ some '\uFEFF' := by
    simp [toTomlWith, documentLines, documentEntry]
  have taken := Toml.statements_join (documentLines_readAs escapes description shallow) noMark
  have isRead : Toml.read? (description.toTomlWith escaping) =
      some (.mapping description.documentEntries) := by
    rw [Toml.read?, toTomlWith, taken]
    exact assemble_documentStatements description
  have isOk : ofDatum .toml (.mapping description.documentEntries) = .ok description :=
    (ofDatum_eq_ok_iff (Toml.wellKeyed_of_read? isRead)).mpr
      (denotesDescription_documentEntries description)
  rw [ofToml, isRead]
  simp only [isOk, Except.mapError]

/-- A description is loaded unchanged from its document, whichever escape sequences are written
there. -/
theorem loaded_from_document (description : Description)
    (shallow : ∀ goal ∈ description.goal, goal.nesting ≤ 79) :
    ofToml description.toToml = .ok description ∧
      ∀ escaping, Escapes escaping → ofToml (description.toTomlWith escaping) = .ok description :=
  ⟨ofToml_toTomlWith Toml.escapes_shortEscaping description shallow,
    fun _ escapes => ofToml_toTomlWith escapes description shallow⟩

/-- Texts that are empty or hold what needs an escape sequence, a repeated proposition, and a goal
with an empty group; line feeds are written in two ways. -/
theorem loaded_from_document_escaped :
    let goal : Formula := .group [.atom "and", .group [], .group [.atom "say \"hi\"", .atom ""]]
    let description : Description :=
      ⟨"a\\b\n\x7f", "é\t", [⟨"x", ""⟩, ⟨"", "]["⟩], ["(p x)", "", "(p x)"], some goal⟩
    let letters : Char → List Char := fun char =>
      if char = '\n' then ['\\', 'n'] else shortEscaping char
    goal.nesting = 2 ∧ Escapes letters ∧
      description.toToml =
        "name = \"a\\\\b\\u000a\\u007f\"\ndomain = \"é\t\"\n" ++
          "init = [\"(p x)\", \"\", \"(p x)\"]\n" ++
          "goal = [\"and\", [], [\"say \\\"hi\\\"\", \"\"]]\n" ++
          "[[objects]]\nname = \"x\"\ntype = \"\"\n" ++
          "[[objects]]\nname = \"\"\ntype = \"][\"\n" ∧
      ofToml description.toToml = .ok description ∧
      description.toTomlWith letters ≠ description.toToml ∧
      ofToml (description.toTomlWith letters) = .ok description := by
  intro goal description letters
  have nesting_eq : goal.nesting = 2 := by decide
  have shallow : ∀ goal ∈ description.goal, goal.nesting ≤ 79 := by
    rintro _ ⟨⟩
    exact nesting_eq.trans_le (by decide)
  have escapes : Escapes letters := by
    intro char
    by_cases isLineFeed : char = '\n'
    · subst isLineFeed
      exact .escape .lineFeed
    · simpa [letters, isLineFeed] using Toml.escapes_shortEscaping char
  obtain ⟨fromShort, fromAny⟩ := loaded_from_document description shallow
  exact ⟨nesting_eq, escapes, by decide +kernel, fromShort, by decide +kernel,
    fromAny letters escapes⟩

end Description

end PlanningProblem
