import Mathlib
import PlanningProblem.Description.Load
import PlanningProblem.Proofs.Description.SameTree
import PlanningProblem.Proofs.Description.Schema
import PlanningProblem.Proofs.Toml.DistinctKeys

/-!
# The formats agree

Both formats read the same descriptions from the same trees, up to one point: in
TOML, an object that is written as a sequence may go on after its two fields.
So what JSON accepts, TOML reads alike, and what TOML reads is what JSON reads
once such objects are cut after their second element.
-/

namespace PlanningProblem

namespace Datum

/-- An object that is written as a sequence ends after its second element. -/
def cutObject : Datum → Datum
  | .sequence elements => .sequence (elements.take 2)
  | datum => datum

def cutElements : Datum → Datum
  | .sequence elements => .sequence (elements.map cutObject)
  | datum => datum

/-- The datum of a description in which every object that is written as a sequence ends after its
second element. -/
def cutObjects : Datum → Datum
  | .mapping entries =>
      .mapping (entries.map fun entry =>
        (entry.1, if entry.1 = "objects" then entry.2.cutElements else entry.2))
  | datum => datum

section Strictness

variable {datum : Datum}

/-- An object that ends after its fields is one that may go on. -/
theorem DenotesObject.of_refused {object : Object} (denotes : datum.DenotesObject .refused object) :
    datum.DenotesObject .ignored object := by
  cases denotes with
  | keyed fields => exact .keyed fields
  | positional _ fields => exact .positional nofun fields

theorem DenotesSequence.of_refused {objects : List Object}
    (denotes : datum.DenotesSequence (DenotesObject .refused) objects) :
    datum.DenotesSequence (DenotesObject .ignored) objects := by
  obtain ⟨elements, rfl, each⟩ := denotes
  exact ⟨elements, rfl, each.imp fun _ _ => DenotesObject.of_refused⟩

theorem DescriptionFields.of_refused {name domain objects init goal : Option Datum}
    {description : Description}
    (fields : DescriptionFields .refused name domain objects init goal description) :
    DescriptionFields .ignored name domain objects init goal description :=
  { fields with
    objects_denotes := fields.objects_denotes.imp fun _ _ => DenotesSequence.of_refused }

theorem DenotesDescription.of_refused {description : Description}
    (denotes : datum.DenotesDescription .refused description) :
    datum.DenotesDescription .ignored description := by
  cases denotes with
  | keyed fields => exact .keyed fields.of_refused
  | positional _ fields => exact .positional nofun fields.of_refused

end Strictness

section Cut

theorem denotesObject_cutObject_iff {datum : Datum} {object : Object} :
    datum.cutObject.DenotesObject .refused object ↔ datum.DenotesObject .ignored object := by
  cases datum with
  | sequence elements =>
      rw [cutObject, denotesObject_sequence_iff, denotesObject_sequence_iff]
      simp
  | mapping entries =>
      change (mapping entries).DenotesObject .refused object ↔ _
      rw [denotesObject_mapping_iff, denotesObject_mapping_iff]
  | _ => exact ⟨nofun, nofun⟩

theorem denotesSequence_cutElements_iff {datum : Datum} {objects : List Object} :
    datum.cutElements.DenotesSequence (DenotesObject .refused) objects ↔
      datum.DenotesSequence (DenotesObject .ignored) objects := by
  cases datum with
  | sequence elements =>
      simp only [cutElements, DenotesSequence, sequence.injEq, exists_eq_left',
        List.forall₂_map_left_iff, denotesObject_cutObject_iff]
  | _ => simp [cutElements, DenotesSequence]

theorem objects_denote_cutElements_iff {found : Option Datum} {objects : List Object} :
    FieldDenotes (DenotesSequence (DenotesObject .refused)) [] (found.map cutElements) objects ↔
      FieldDenotes (DenotesSequence (DenotesObject .ignored)) [] found objects := by
  cases found with
  | none => rw [Option.map_none, fieldDenotes_none_iff, fieldDenotes_none_iff]
  | some datum =>
      rw [Option.map_some, fieldDenotes_some_iff, fieldDenotes_some_iff,
        denotesSequence_cutElements_iff]

variable {entries : List (String × Datum)} {description : Description}

/-- Cutting objects changes what is found under their own key, and under no other. -/
theorem denotesDescription_cutObjects_iff :
    (mapping entries).cutObjects.DenotesDescription .refused description ↔
      (mapping entries).DenotesDescription .ignored description := by
  have found := lookup_map_value
    (fun key datum => if key = "objects" then datum.cutElements else datum) entries
  rw [cutObjects, denotesDescription_mapping_iff, denotesDescription_mapping_iff]
  simp only [found, reduceIte, String.reduceEq, Option.map_id']
  constructor
  · exact fun fields =>
      { fields with objects_denotes := objects_denote_cutElements_iff.mp fields.objects_denotes }
  · exact fun fields =>
      { fields with objects_denotes := objects_denote_cutElements_iff.mpr fields.objects_denotes }

theorem WellKeyed.cutObject {datum : Datum} (wellKeyed : datum.WellKeyed) :
    datum.cutObject.WellKeyed := by
  cases datum with
  | sequence elements =>
      rw [wellKeyed_sequence_iff] at wellKeyed
      exact wellKeyed_sequence_iff.mpr fun element member =>
        wellKeyed element (List.mem_of_mem_take member)
  | _ => exact wellKeyed

theorem WellKeyed.cutElements {datum : Datum} (wellKeyed : datum.WellKeyed) :
    datum.cutElements.WellKeyed := by
  cases datum with
  | sequence elements =>
      rw [wellKeyed_sequence_iff] at wellKeyed
      rw [Datum.cutElements, wellKeyed_sequence_iff, List.forall_mem_map]
      exact fun element member => (wellKeyed element member).cutObject
  | _ => exact wellKeyed

theorem WellKeyed.cutObjects (wellKeyed : (mapping entries).WellKeyed) :
    (mapping entries).cutObjects.WellKeyed := by
  rw [wellKeyed_mapping_iff] at wellKeyed
  rw [Datum.cutObjects, wellKeyed_mapping_iff, List.map_map, List.forall_mem_map]
  refine ⟨wellKeyed.1, fun entry member => ?_⟩
  have datumWellKeyed := wellKeyed.2 entry member
  dsimp only
  split
  · exact datumWellKeyed.cutElements
  · exact datumWellKeyed

end Cut

end Datum

namespace Description

open Datum

variable {entries : List (String × Datum)} {other : Datum} {description : Description}

/-- A tree that JSON accepts is read alike in TOML, whatever the order of its entries. -/
theorem ofDatum_toml_of_json {datum : Datum} (wellKeyed : datum.WellKeyed)
    (otherWellKeyed : other.WellKeyed) (same : datum.SameTree other)
    (isRead : ofDatum .json datum = .ok description) : ofDatum .toml other = .ok description := by
  rw [ofDatum_eq_ok_iff wellKeyed] at isRead
  rw [ofDatum_eq_ok_iff otherWellKeyed, ← unordered_description _ same]
  exact isRead.of_refused

/-- In TOML, a tree is read as JSON reads it with its objects cut after their second element. -/
theorem ofDatum_toml_eq_ok_iff_json_cut (wellKeyed : (mapping entries).WellKeyed)
    (otherWellKeyed : other.WellKeyed) (same : (mapping entries).SameTree other) :
    ofDatum .toml other = .ok description ↔
      ofDatum .json (mapping entries).cutObjects = .ok description := by
  rw [ofDatum_eq_ok_iff otherWellKeyed, ofDatum_eq_ok_iff wellKeyed.cutObjects,
    ← unordered_description _ same]
  exact denotesDescription_cutObjects_iff.symm

/-- What JSON accepts is read alike in TOML, and what TOML reads is what JSON reads from the cut
tree; the same problems, or the same malformed propositions, come of it. -/
structure RoutesAgree {ε : Type} (json cut : Except Mismatch Description)
    (toml : Except ε Description) : Prop where
  of_json : ∀ description, json = .ok description → toml = .ok description
  iff_cut : ∀ description, toml = .ok description ↔ cut = .ok description
  problem_of_json : ∀ outcome, json.map toProblem = .ok outcome → toml.map toProblem = .ok outcome
  problem_iff_cut : ∀ outcome, toml.map toProblem = .ok outcome ↔ cut.map toProblem = .ok outcome

theorem map_eq_ok_iff {ε α β : Type} {read : Except ε α} {convert : α → β} {result : β} :
    read.map convert = .ok result ↔ ∃ value, read = .ok value ∧ convert value = result := by
  cases read <;> simp [Except.map]

theorem RoutesAgree.of_reads {ε : Type} {json cut : Except Mismatch Description}
    {toml : Except ε Description}
    (ofJson : ∀ description, json = .ok description → toml = .ok description)
    (iffCut : ∀ description, toml = .ok description ↔ cut = .ok description) :
    RoutesAgree json cut toml where
  of_json := ofJson
  iff_cut := iffCut
  problem_of_json outcome := by
    rw [map_eq_ok_iff, map_eq_ok_iff]
    rintro ⟨description, isRead, built⟩
    exact ⟨description, ofJson description isRead, built⟩
  problem_iff_cut outcome := by
    simp only [map_eq_ok_iff, iffCut]

theorem ofToml_eq_ok_iff {document : String} (isRead : Toml.read? document = some other) :
    ofToml document = .ok description ↔ ofDatum .toml other = .ok description := by
  rw [ofToml, isRead]
  cases outcome : ofDatum .toml other <;> simp [Except.mapError, outcome]

/-- A tree is read alike from JSON and from TOML, whether from its data or from a document, and
whatever the order of its entries there. -/
theorem formats_agree (wellKeyed : (mapping entries).WellKeyed) :
    (∀ other : Datum, other.WellKeyed → (mapping entries).SameTree other →
      RoutesAgree (ofDatum .json (.mapping entries))
        (ofDatum .json (mapping entries).cutObjects) (ofDatum .toml other)) ∧
      ∀ document other, Toml.read? document = some other → (mapping entries).SameTree other →
        RoutesAgree (ofDatum .json (.mapping entries))
          (ofDatum .json (mapping entries).cutObjects) (ofToml document) := by
  have dataAgree (other : Datum) (otherWellKeyed : other.WellKeyed)
      (same : (mapping entries).SameTree other) :
      RoutesAgree (ofDatum .json (.mapping entries))
        (ofDatum .json (mapping entries).cutObjects) (ofDatum .toml other) :=
    .of_reads (fun _ => ofDatum_toml_of_json wellKeyed otherWellKeyed same)
      fun _ => ofDatum_toml_eq_ok_iff_json_cut wellKeyed otherWellKeyed same
  refine ⟨dataAgree, fun document other isRead same => ?_⟩
  have agree := dataAgree other (Toml.wellKeyed_of_read? isRead) same
  refine .of_reads ?_ ?_
  · exact fun description accepted => (ofToml_eq_ok_iff isRead).mpr (agree.of_json _ accepted)
  · exact fun description => (ofToml_eq_ok_iff isRead).trans (agree.iff_cut description)

/-- A surplus element in a document, whose keys come in another order than in the tree: JSON refuses
the tree, but reads what TOML reads once the object is cut. -/
theorem formats_agree_surplus :
    let object : List Datum := [.text "a", .text "t", .integer 1]
    let tree : List (String × Datum) :=
      [("name", .text "p"), ("objects", .sequence [.sequence object])]
    let cut : List (String × Datum) :=
      [("name", .text "p"), ("objects", .sequence [.sequence (object.take 2)])]
    let description : Description := ⟨"p", "", [⟨"a", "t"⟩], [], none⟩
    (mapping tree).WellKeyed ∧ (mapping tree).cutObjects = .mapping cut ∧
      (mapping cut).WellKeyed ∧
      ofDatum .json (.mapping tree) = .error (.surplusFields 3) ∧
      ofToml "objects = [['a', 't', 1]]\nname = 'p'" = .ok description ∧
      ofDatum .json (.mapping cut) = .ok description ∧
      ofToml "name = 'p'\nobjects = [['a', 't']]" = .ok description := by
  intro object tree cut description
  have wellKeyed : (mapping tree).WellKeyed := by
    simp [tree, object, WellKeyed, EntriesWellKeyed, AllWellKeyed]
  have same : (mapping tree).SameTree (.mapping tree.reverse) :=
    sameTree_of_perm (List.reverse_perm tree).symm wellKeyed.distinct
  have cutWellKeyed : (mapping cut).WellKeyed := wellKeyed.cutObjects
  have fromTree := (formats_agree wellKeyed).2 "objects = [['a', 't', 1]]\nname = 'p'"
    (.mapping tree.reverse) (by cbv) same
  have fromCut := (formats_agree cutWellKeyed).2 "name = 'p'\nobjects = [['a', 't']]"
    (.mapping cut) (by cbv) (.refl _)
  have cutRead : ofDatum .json (.mapping cut) = .ok description := rfl
  exact ⟨wellKeyed, rfl, cutWellKeyed, rfl, (fromTree.iff_cut description).mpr cutRead, cutRead,
    fromCut.of_json description cutRead⟩

end Description

end PlanningProblem
