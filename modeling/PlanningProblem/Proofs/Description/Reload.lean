import PlanningProblem.Description.Encode
import PlanningProblem.Proofs.Description.SameTree
import PlanningProblem.Proofs.Description.Schema
import PlanningProblem.Proofs.Problem.FinalState

/-!
# Descriptions read back

A problem that was built by any history is recovered from its description, and
a description from the datum that it is written as.  The first rests on the
stored propositions: in whichever spelling they were added, they start with a
parenthesis and are taken as they stand when they are added again.  The second
holds for every description, whatever the order of the keys in the datum.
-/

namespace PlanningProblem

/-- The datum is a mapping with the given entries, in any order. -/
def Datum.IsMapping (datum : Datum) (entries : List (String × Datum)) : Prop :=
  ∃ rearranged : List (String × Datum), datum = .mapping rearranged ∧ rearranged.Perm entries

theorem Datum.IsMapping.sameTree {datum : Datum} {entries : List (String × Datum)}
    (isMapping : datum.IsMapping entries) (distinct : (entries.map Prod.fst).Nodup) :
    SameTree (.mapping entries) datum := by
  obtain ⟨rearranged, rfl, order⟩ := isMapping
  exact sameTree_of_perm order.symm distinct

theorem Datum.IsMapping.wellKeyed {datum : Datum} {entries : List (String × Datum)}
    (isMapping : datum.IsMapping entries) (wellKeyed : (mapping entries).WellKeyed) :
    datum.WellKeyed := by
  obtain ⟨rearranged, rfl, order⟩ := isMapping
  rw [wellKeyed_mapping_iff] at wellKeyed ⊢
  exact ⟨(order.map Prod.fst).nodup_iff.mpr wellKeyed.1,
    fun entry member => wellKeyed.2 entry (order.mem_iff.mp member)⟩

def Object.entries (object : Object) : List (String × Datum) :=
  [("name", .text object.name), ("type", .text object.type)]

/-- The datum holds the object, with the keys in any order. -/
def Object.WrittenAs (object : Object) (datum : Datum) : Prop :=
  datum.IsMapping object.entries

mutual

theorem Formula.wellKeyed_toDatum : (formula : Formula) → formula.toDatum.WellKeyed
  | .atom _ => True.intro
  | .group parts => Formula.wellKeyed_toData parts

theorem Formula.wellKeyed_toData : (formulas : List Formula) →
    Datum.AllWellKeyed (Formula.toData formulas)
  | [] => True.intro
  | formula :: rest => ⟨formula.wellKeyed_toDatum, Formula.wellKeyed_toData rest⟩

end

namespace Description

/-- The entries of a description, given the data of its objects. -/
def entries (description : Description) (objects : List Datum) : List (String × Datum) := [
  ("name", .text description.name),
  ("domain", .text description.domain),
  ("objects", .sequence objects),
  ("init", .sequence (description.init.map .text)),
  ("goal", (description.goal.map Formula.toDatum).getD .null)]

/-- The datum holds the description, with the keys of all its mappings in any order. -/
def WrittenAs (description : Description) (datum : Datum) : Prop :=
  ∃ objects : List Datum, List.Forall₂ Object.WrittenAs description.objects objects ∧
    datum.IsMapping (description.entries objects)

theorem writtenAs_map_toDatum (objects : List Object) :
    List.Forall₂ Object.WrittenAs objects (objects.map Object.toDatum) := by
  rw [List.forall₂_map_right_iff, List.forall₂_same]
  exact fun object _ => ⟨_, rfl, .refl _⟩

theorem writtenAs_toDatum (description : Description) :
    description.WrittenAs description.toDatum :=
  ⟨_, writtenAs_map_toDatum description.objects, _, rfl, .refl _⟩

theorem denotesObject_of_writtenAs (surplus : Surplus) {object : Object} {datum : Datum}
    (written : object.WrittenAs datum) : datum.DenotesObject surplus object := by
  have distinct : (object.entries.map Prod.fst).Nodup := by simp [Object.entries]
  rw [← Datum.unordered_object surplus (written.sameTree distinct)]
  exact .keyed ⟨rfl, .present rfl⟩

theorem texts_denote (texts : List String) :
    (Datum.sequence (texts.map .text)).DenotesSequence Datum.DenotesText texts := by
  refine ⟨_, rfl, ?_⟩
  rw [List.forall₂_map_left_iff, List.forall₂_same]
  exact fun text _ => rfl

theorem objects_denote_of_writtenAs (surplus : Surplus) {objects : List Object}
    {data : List Datum} (written : List.Forall₂ Object.WrittenAs objects data) :
    (Datum.sequence data).DenotesSequence (Datum.DenotesObject surplus) objects :=
  ⟨data, rfl, written.flip.imp fun _ _ => denotesObject_of_writtenAs surplus⟩

theorem denotesGoal_toDatum (goal : Option Formula) :
    ((goal.map Formula.toDatum).getD .null).DenotesGoal goal := by
  cases goal with
  | none => exact .absent
  | some formula => exact .tree formula

theorem denotesDescription_of_writtenAs (surplus : Surplus) {description : Description}
    {datum : Datum} (written : description.WrittenAs datum) :
    datum.DenotesDescription surplus description := by
  obtain ⟨objects, objectsWritten, isMapping⟩ := written
  have distinct : ((description.entries objects).map Prod.fst).Nodup := by
    simp [Description.entries]
  rw [← Datum.unordered_description surplus (isMapping.sameTree distinct)]
  exact .keyed ⟨rfl, .present rfl, .present (objects_denote_of_writtenAs surplus objectsWritten),
    .present (texts_denote description.init), .present (denotesGoal_toDatum description.goal)⟩

theorem wellKeyed_of_objectWrittenAs {object : Object} {datum : Datum}
    (written : object.WrittenAs datum) : datum.WellKeyed := by
  refine written.wellKeyed (Datum.wellKeyed_mapping_iff.mpr ⟨by simp [Object.entries], ?_⟩)
  simp [Object.entries, Datum.WellKeyed]

theorem wellKeyed_goal (goal : Option Formula) :
    ((goal.map Formula.toDatum).getD .null).WellKeyed := by
  cases goal with
  | none => trivial
  | some formula => exact formula.wellKeyed_toDatum

theorem wellKeyed_of_writtenAs {description : Description} {datum : Datum}
    (written : description.WrittenAs datum) : datum.WellKeyed := by
  obtain ⟨objects, objectsWritten, isMapping⟩ := written
  refine isMapping.wellKeyed (Datum.wellKeyed_mapping_iff.mpr ⟨by simp [Description.entries], ?_⟩)
  simp only [Description.entries, List.forall_mem_cons, Datum.wellKeyed_sequence_iff]
  refine ⟨trivial, trivial, ?_, ?_, wellKeyed_goal description.goal, nofun⟩
  · have each := objectsWritten.flip.imp fun datum object isWritten =>
      And.intro (wellKeyed_of_objectWrittenAs isWritten) isWritten
    exact ((List.forall₂_and_left objects description.objects).mp each).1
  · simp [Datum.WellKeyed]

/-- A description is read back from every datum that holds it, in any format. -/
theorem ofDatum_of_writtenAs (format : Format) {description : Description} {datum : Datum}
    (written : description.WrittenAs datum) : ofDatum format datum = .ok description :=
  (ofDatum_eq_ok_iff (wellKeyed_of_writtenAs written)).mpr
    (denotesDescription_of_writtenAs format.surplus written)

end Description

namespace Problem

theorem foldl_withObject (problem : Problem) (objects : List Object) :
    objects.foldl withObject problem =
      { problem with objects := objects.foldl SortedSet.insert problem.objects } := by
  induction objects generalizing problem with
  | nil => rfl
  | cons object rest ih =>
      rw [List.foldl_cons, ih]
      rfl

/-- Propositions that start with a parenthesis are all accepted, as they stand. -/
theorem addPropositions_of_parenthesized (problem : Problem) {texts : List String}
    (parenthesized : ∀ text ∈ texts, text.toList.head? = some '(') :
    problem.addPropositions texts =
      ({ problem with
          initialState := texts.foldl SortedSet.insert problem.initialState }, none) := by
  have accepted := addPropositions_fst problem texts
  rw [Proposition.acceptedTokens_eq_self parenthesized] at accepted
  have noError : (problem.addPropositions texts).2 = none :=
    addPropositions_snd_eq_none_iff.mpr fun text member malformed =>
      malformed text (.verbatim (parenthesized text member))
  exact Prod.ext accepted noError

/-- A problem whose stored propositions start with a parenthesis is recovered from its
description. -/
theorem toProblem_describe {problem : Problem}
    (parenthesized : ∀ token ∈ problem.initialState, token.toList.head? = some '(') :
    problem.describe.toProblem = .ok problem := by
  have objectsEq : problem.objects.toList.foldl SortedSet.insert .empty = problem.objects :=
    SortedSet.ofList_toList problem.objects
  have initialEq :
      problem.initialState.toList.foldl SortedSet.insert .empty = problem.initialState :=
    SortedSet.ofList_toList problem.initialState
  rw [Description.toProblem, describe, foldl_withObject,
    addPropositions_of_parenthesized _ parenthesized]
  simp only [empty, objectsEq, initialEq, setGoal]

/-- A problem survives being written down and read again.  Its description builds it anew, and the
datum of the description gives the description back, also with the keys in another order. -/
theorem recovered_from_description (problem : Problem) (reachable : problem.Reachable) :
    problem.describe.toProblem = .ok problem ∧
      Description.ofDatum .json problem.describe.toDatum = .ok problem.describe ∧
      ∀ datum, problem.describe.WrittenAs datum →
        ∃ description, Description.ofDatum .json datum = .ok description ∧
          description.toProblem = .ok problem := by
  have rebuilt := toProblem_describe fun token member =>
    reachable.head?_of_mem_initialState member
  refine ⟨rebuilt, ?_, fun datum written => ?_⟩
  · exact Description.ofDatum_of_writtenAs .json (Description.writtenAs_toDatum _)
  · exact ⟨_, Description.ofDatum_of_writtenAs .json written, rebuilt⟩

/-- Both spellings, a failing call and a compound goal, with the keys from last to first. -/
theorem recovered_from_description_reversed :
    let history : List Edit := [.addObject ⟨"b", "block"⟩, .withObject ⟨"a", ""⟩,
      .addProposition "on( b, a )", .addPropositions ["(clear  b)", "broken", "clear(a)"],
      .setGoal (Formula.conjunction [.negation (.atom "(on b a)")])]
    let problem := (empty "stack" "blocks").after history
    let reversed : Datum :=
      .mapping (problem.describe.entries (problem.describe.objects.map Object.toDatum)).reverse
    problem.Reachable ∧ problem.describe.init = ["(clear  b)", "(on b a)"] ∧
      problem.describe.toProblem = .ok problem ∧
      Description.ofDatum .json problem.describe.toDatum = .ok problem.describe ∧
      problem.describe.WrittenAs reversed ∧
      ∃ description, Description.ofDatum .json reversed = .ok description ∧
        description.toProblem = .ok problem := by
  intro history problem reversed
  have reachable : problem.Reachable := ⟨_, _, history, rfl⟩
  have written : problem.describe.WrittenAs reversed :=
    ⟨_, Description.writtenAs_map_toDatum problem.describe.objects, _, rfl, List.reverse_perm _⟩
  obtain ⟨rebuilt, readBack, rearranged⟩ := recovered_from_description problem reachable
  exact ⟨reachable, by decide, rebuilt, readBack, written, rearranged reversed written⟩

end Problem

end PlanningProblem
