import Mathlib.Tactic.IntervalCases
import PlanningProblem.Proofs.Description.RecordReading

/-!
# Descriptions are read from the data that denote them

Reading a datum in which keys are distinct yields an object or a description
exactly if the datum denotes it, whatever the order of the entries and whatever
else they hold.  So a record written by its keys and the same record written by
the positions of its fields are read alike.
-/

namespace PlanningProblem

namespace Description

open Datum

theorem ObjectDraft.finish_eq_ok_iff {draft : ObjectDraft} {object : Object} :
    draft.finish = .ok object ↔ draft = ⟨some object.name, object.type⟩ := by
  obtain ⟨_ | name, type⟩ := draft
  · simp [ObjectDraft.finish]
  · obtain ⟨objectName, objectType⟩ := object
    simp [ObjectDraft.finish]

theorem ObjectDraft.exists_enter (draft : ObjectDraft) {entry : String × Datum}
    (nameRead : entry.1 = "name" → ∃ value, readText entry.2 = .ok value)
    (typeRead : entry.1 = "type" → ∃ value, readText entry.2 = .ok value) :
    ∃ next, draft.enter entry = .ok next := by
  simp only [ObjectDraft.enter_eq_ok_iff]
  by_cases isName : entry.1 = "name"
  · obtain ⟨value, isRead⟩ := nameRead isName
    exact ⟨_, .name isName isRead⟩
  by_cases isType : entry.1 = "type"
  · obtain ⟨value, isRead⟩ := typeRead isType
    exact ⟨_, .type isType isRead⟩
  exact ⟨_, .unknown (by simp [Record.fields, isName, isType])⟩

/-- Distinct entries are read as an object exactly if the data under its two keys denote it. -/
theorem readObjectEntries_eq_ok_iff {entries : List (String × Datum)} {object : Object}
    (distinct : (entries.map Prod.fst).Nodup) :
    readObjectEntries entries = .ok object ↔
      ObjectFields (entries.lookup "name") (entries.lookup "type") object := by
  rw [readObjectEntries, bind_eq_ok_iff]
  constructor
  · rintro ⟨draft, entered, finished⟩
    rw [ObjectDraft.finish_eq_ok_iff] at finished
    subst finished
    have nameDenotes := ObjectDraft.governs_name.fieldDenotes entered distinct
    have typeDenotes := ObjectDraft.governs_type.fieldDenotes entered distinct
    exact ⟨name_denotes_iff.mp nameDenotes, text_denotes_iff.mp typeDenotes⟩
  · rintro ⟨nameEq, typeDenotes⟩
    have nameDenotes := name_denotes_iff.mpr nameEq
    rw [← text_denotes_iff] at typeDenotes
    have enterable (entry : String × Datum) (member : entry ∈ entries) (draft : ObjectDraft) :
        ∃ next, draft.enter entry = .ok next :=
      draft.exists_enter (exists_readText_of_name distinct nameEq member)
        fun isType => ⟨_, exists_read_of_mem distinct typeDenotes member isType⟩
    obtain ⟨⟨name?, type⟩, entered⟩ := exists_foldlM_eq_ok enterable {}
    cases fieldDenotes_unique (ObjectDraft.governs_name.fieldDenotes entered distinct) nameDenotes
    cases fieldDenotes_unique (ObjectDraft.governs_type.fieldDenotes entered distinct) typeDenotes
    exact ⟨_, entered, rfl⟩

theorem readObjectElements_eq_ok_iff {elements : List Datum} {object : Object} :
    readObjectEntries ((Record.fields .object).zip elements) = .ok object ↔
      ObjectFields elements[0]? elements[1]? object := by
  have distinct : (Record.fields .object).Nodup := by decide
  rw [readObjectEntries_eq_ok_iff (nodup_keys_zip distinct elements),
    lookup_zip distinct elements 0 rfl, lookup_zip distinct elements 1 rfl]

theorem readObject_eq_ok_iff {surplus : Surplus} {datum : Datum} {object : Object}
    (wellKeyed : datum.WellKeyed) :
    readObject surplus datum = .ok object ↔ datum.DenotesObject surplus object := by
  have nameless : readObjectEntries [] ≠ .ok object := nofun
  rw [readObject, readRecord_eq_ok_iff nameless]
  constructor
  · rintro (⟨entries, rfl, isRead⟩ | ⟨elements, rfl, length_le, isRead⟩)
    · exact .keyed ((readObjectEntries_eq_ok_iff wellKeyed.distinct).mp isRead)
    · exact .positional length_le (readObjectElements_eq_ok_iff.mp isRead)
  · rintro (fields | ⟨length_le, fields⟩)
    · exact .inl ⟨_, rfl, (readObjectEntries_eq_ok_iff wellKeyed.distinct).mpr fields⟩
    · exact .inr ⟨_, rfl, length_le, readObjectElements_eq_ok_iff.mpr fields⟩

theorem readObjects_eq_ok_iff {surplus : Surplus} {datum : Datum} {objects : List Object}
    (wellKeyed : datum.WellKeyed) :
    readSequence (readObject surplus) datum = .ok objects ↔
      datum.DenotesSequence (DenotesObject surplus) objects := by
  apply readSequence_eq_ok_iff
  rintro elements rfl element member object
  exact readObject_eq_ok_iff (wellKeyed_sequence_iff.mp wellKeyed element member)

theorem Draft.finish_eq_ok_iff {draft : Draft} {description : Description} :
    draft.finish = .ok description ↔
      draft = ⟨some description.name, description.domain, description.objects, description.init,
        description.goal⟩ := by
  obtain ⟨_ | name, domain, objects, init, goal⟩ := draft
  · simp [Draft.finish]
  · cases description
    simp [Draft.finish]

theorem Draft.exists_enter {surplus : Surplus} (draft : Draft) {entry : String × Datum}
    (nameRead : entry.1 = "name" → ∃ value, readText entry.2 = .ok value)
    (domainRead : entry.1 = "domain" → ∃ value, readText entry.2 = .ok value)
    (objectsRead : entry.1 = "objects" →
      ∃ value, readSequence (readObject surplus) entry.2 = .ok value)
    (initRead : entry.1 = "init" → ∃ value, readSequence readText entry.2 = .ok value)
    (goalRead : entry.1 = "goal" → ∃ value, readGoal entry.2 = .ok value) :
    ∃ next, draft.enter surplus entry = .ok next := by
  simp only [Draft.enter_eq_ok_iff]
  by_cases isField : entry.1 ∈ Record.fields .problem
  · simp only [Record.fields, List.mem_cons, List.not_mem_nil, or_false] at isField
    rcases isField with isKey | isKey | isKey | isKey | isKey
    · exact (nameRead isKey).imp' _ fun _ => .name isKey
    · exact (domainRead isKey).imp' _ fun _ => .domain isKey
    · exact (objectsRead isKey).imp' _ fun _ => .objects isKey
    · exact (initRead isKey).imp' _ fun _ => .init isKey
    · exact (goalRead isKey).imp' _ fun _ => .goal isKey
  · exact ⟨draft, .unknown isField⟩

theorem objects_denote_iff {surplus : Surplus} {found : Option Datum} {objects : List Object}
    (wellKeyed : ∀ datum ∈ found, datum.WellKeyed) :
    FieldDenotes (fun datum value => readSequence (readObject surplus) datum = .ok value) [] found
        objects ↔
      FieldDenotes (DenotesSequence (DenotesObject surplus)) [] found objects :=
  fieldDenotes_congr fun datum isFound => readObjects_eq_ok_iff (wellKeyed datum isFound)

theorem texts_denote_iff {found : Option Datum} {texts : List String} :
    FieldDenotes (fun datum value => readSequence readText datum = .ok value) [] found texts ↔
      FieldDenotes (DenotesSequence DenotesText) [] found texts :=
  fieldDenotes_congr fun _ _ => readTexts_eq_ok_iff

theorem goal_denotes_iff {found : Option Datum} {goal : Option Formula} :
    FieldDenotes (fun datum value => readGoal datum = .ok value) none found goal ↔
      FieldDenotes DenotesGoal none found goal :=
  fieldDenotes_congr fun _ _ => readGoal_eq_ok_iff

/-- Distinct entries are read as a description exactly if the data under its five keys denote it. -/
theorem readEntries_eq_ok_iff {surplus : Surplus} {entries : List (String × Datum)}
    {description : Description} (wellKeyed : (mapping entries).WellKeyed) :
    readEntries surplus entries = .ok description ↔
      DescriptionFields surplus (entries.lookup "name") (entries.lookup "domain")
        (entries.lookup "objects") (entries.lookup "init") (entries.lookup "goal") description := by
  have distinct := wellKeyed.distinct
  have objectsWellKeyed := wellKeyed.of_lookup "objects"
  rw [readEntries, bind_eq_ok_iff]
  constructor
  · rintro ⟨draft, entered, finished⟩
    rw [Draft.finish_eq_ok_iff] at finished
    subst finished
    have nameDenotes := (Draft.governs_name surplus).fieldDenotes entered distinct
    have domainDenotes := (Draft.governs_domain surplus).fieldDenotes entered distinct
    have objectsDenote := (Draft.governs_objects surplus).fieldDenotes entered distinct
    have initDenotes := (Draft.governs_init surplus).fieldDenotes entered distinct
    have goalDenotes := (Draft.governs_goal surplus).fieldDenotes entered distinct
    exact ⟨name_denotes_iff.mp nameDenotes, text_denotes_iff.mp domainDenotes,
      (objects_denote_iff objectsWellKeyed).mp objectsDenote, texts_denote_iff.mp initDenotes,
      goal_denotes_iff.mp goalDenotes⟩
  · rintro ⟨nameEq, domainDenotes, objectsDenote, initDenotes, goalDenotes⟩
    have nameDenotes := name_denotes_iff.mpr nameEq
    rw [← text_denotes_iff] at domainDenotes
    rw [← objects_denote_iff objectsWellKeyed] at objectsDenote
    rw [← texts_denote_iff] at initDenotes
    rw [← goal_denotes_iff] at goalDenotes
    have enterable (entry : String × Datum) (member : entry ∈ entries) (draft : Draft) :
        ∃ next, draft.enter surplus entry = .ok next :=
      draft.exists_enter (exists_readText_of_name distinct nameEq member)
        (fun isKey => ⟨_, exists_read_of_mem distinct domainDenotes member isKey⟩)
        (fun isKey => ⟨_, exists_read_of_mem distinct objectsDenote member isKey⟩)
        (fun isKey => ⟨_, exists_read_of_mem distinct initDenotes member isKey⟩)
        (fun isKey => ⟨_, exists_read_of_mem distinct goalDenotes member isKey⟩)
    obtain ⟨⟨name?, domain, objects, init, goal⟩, entered⟩ := exists_foldlM_eq_ok enterable {}
    cases fieldDenotes_unique ((Draft.governs_name surplus).fieldDenotes entered distinct)
      nameDenotes
    cases fieldDenotes_unique ((Draft.governs_domain surplus).fieldDenotes entered distinct)
      domainDenotes
    cases fieldDenotes_unique ((Draft.governs_objects surplus).fieldDenotes entered distinct)
      objectsDenote
    cases fieldDenotes_unique ((Draft.governs_init surplus).fieldDenotes entered distinct)
      initDenotes
    cases fieldDenotes_unique ((Draft.governs_goal surplus).fieldDenotes entered distinct)
      goalDenotes
    exact ⟨_, entered, rfl⟩

theorem readElements_eq_ok_iff {surplus : Surplus} {elements : List Datum}
    {description : Description} (wellKeyed : (sequence elements).WellKeyed) :
    readEntries surplus ((Record.fields .problem).zip elements) = .ok description ↔
      DescriptionFields surplus elements[0]? elements[1]? elements[2]? elements[3]? elements[4]?
        description := by
  have distinct : (Record.fields .problem).Nodup := by decide
  rw [readEntries_eq_ok_iff (wellKeyed_zip distinct wellKeyed),
    lookup_zip distinct elements 0 rfl, lookup_zip distinct elements 1 rfl,
    lookup_zip distinct elements 2 rfl, lookup_zip distinct elements 3 rfl,
    lookup_zip distinct elements 4 rfl]

/-- In every format, a datum is read as the description that it denotes, and as nothing else. -/
theorem ofDatum_eq_ok_iff {format : Format} {datum : Datum} {description : Description}
    (wellKeyed : datum.WellKeyed) :
    ofDatum format datum = .ok description ↔
      datum.DenotesDescription format.surplus description := by
  have nameless : readEntries format.surplus [] ≠ .ok description := nofun
  rw [ofDatum, readRecord_eq_ok_iff nameless]
  constructor
  · rintro (⟨entries, rfl, isRead⟩ | ⟨elements, rfl, length_le, isRead⟩)
    · exact .keyed ((readEntries_eq_ok_iff wellKeyed).mp isRead)
    · exact .positional length_le ((readElements_eq_ok_iff wellKeyed).mp isRead)
  · rintro (fields | ⟨length_le, fields⟩)
    · exact .inl ⟨_, rfl, (readEntries_eq_ok_iff wellKeyed).mpr fields⟩
    · exact .inr ⟨_, rfl, length_le, (readElements_eq_ok_iff wellKeyed).mpr fields⟩

theorem denotesObject_iff_of_sameFields {surplus : Surplus} {entries : List (String × Datum)}
    {elements : List Datum} (same : SameFields .object entries elements) {object : Object} :
    (mapping entries).DenotesObject surplus object ↔
      (sequence elements).DenotesObject surplus object := by
  obtain ⟨length_le, found⟩ := same
  rw [denotesObject_mapping_iff, denotesObject_sequence_iff, found 0 "name" rfl,
    found 1 "type" rfl]
  exact (and_iff_right fun _ => length_le).symm

theorem denotesDescription_iff_of_sameFields {surplus : Surplus}
    {entries : List (String × Datum)} {elements : List Datum}
    (same : SameFields .problem entries elements) {description : Description} :
    (mapping entries).DenotesDescription surplus description ↔
      (sequence elements).DenotesDescription surplus description := by
  obtain ⟨length_le, found⟩ := same
  rw [denotesDescription_mapping_iff, denotesDescription_sequence_iff, found 0 "name" rfl,
    found 1 "domain" rfl, found 2 "objects" rfl, found 3 "init" rfl, found 4 "goal" rfl]
  exact (and_iff_right fun _ => length_le).symm

/-- Reading JSON accepts the data that denote a description and no others, and yields the
description that they denote.  So a record can be spelled by its keys or by the positions of its
fields. -/
theorem ofDatum_json_exact :
    (∀ datum : Datum, datum.WellKeyed → ∀ description,
      ofDatum .json datum = .ok description ↔
        datum.DenotesDescription .refused description) ∧
      (∀ datum : Datum, datum.WellKeyed →
        (∀ description, ¬ datum.DenotesDescription .refused description) →
        ∃ mismatch, ofDatum .json datum = .error mismatch) ∧
      (∀ entries elements, (mapping entries).WellKeyed → (sequence elements).WellKeyed →
        SameFields .problem entries elements → ∀ description,
        (ofDatum .json (.mapping entries) = .ok description ↔
          ofDatum .json (.sequence elements) = .ok description)) ∧
      ∀ entries elements, (mapping entries).WellKeyed → (sequence elements).WellKeyed →
        SameFields .object entries elements → ∀ object,
        (readObject .refused (.mapping entries) = .ok object ↔
          readObject .refused (.sequence elements) = .ok object) := by
  refine ⟨fun datum wellKeyed description => ofDatum_eq_ok_iff wellKeyed, ?_, ?_, ?_⟩
  · intro datum wellKeyed denotesNone
    cases outcome : ofDatum .json datum with
    | ok description =>
        exact absurd ((ofDatum_eq_ok_iff wellKeyed).mp outcome) (denotesNone description)
    | error mismatch => exact ⟨mismatch, rfl⟩
  · intro entries elements keyed positional same description
    rw [ofDatum_eq_ok_iff keyed, ofDatum_eq_ok_iff positional,
      denotesDescription_iff_of_sameFields same]
  · intro entries elements keyed positional same object
    rw [readObject_eq_ok_iff keyed, readObject_eq_ok_iff positional,
      denotesObject_iff_of_sameFields same]

/-- Keys in any order and among unknown ones, objects in both spellings, and the same by position;
beside them, a name that is missing. -/
theorem ofDatum_json_exact_spellings :
    let objects : Datum := .sequence [.sequence [.text "a"],
      .mapping [("type", .text "block"), ("size", .null), ("name", .text "b")]]
    let goal := (Formula.conjunction [.atom "(on a b)"]).toDatum
    let entries := [("goal", goal), ("note", .mapping [("name", .null)]), ("init", .sequence []),
      ("objects", objects), ("name", .text "stack"), ("domain", .text "")]
    let elements := [.text "stack", .text "", objects, .sequence [], goal]
    let description : Description := ⟨"stack", "", [⟨"a", ""⟩, ⟨"b", "block"⟩], [],
      some (Formula.conjunction [.atom "(on a b)"])⟩
    (mapping entries).WellKeyed ∧ (sequence elements).WellKeyed ∧
      SameFields .problem entries elements ∧
      (mapping entries).DenotesDescription .refused description ∧
      ofDatum .json (.mapping entries) = .ok description ∧
      ofDatum .json (.sequence elements) = .ok description ∧
      (∀ other, ¬ (mapping [("goal", .null)]).DenotesDescription .refused other) ∧
      ∃ mismatch, ofDatum .json (.mapping [("goal", .null)]) = .error mismatch := by
  intro objects goal entries elements description
  have keyed : (mapping entries).WellKeyed := by
    simp [entries, objects, goal, WellKeyed, EntriesWellKeyed, AllWellKeyed, Formula.toDatum,
      Formula.conjunction, Formula.block, Formula.toData]
  have positional : (sequence elements).WellKeyed := by
    simp [elements, objects, goal, WellKeyed, EntriesWellKeyed, AllWellKeyed, Formula.toDatum,
      Formula.conjunction, Formula.block, Formula.toData]
  have same : SameFields .problem entries elements := by
    refine ⟨by decide, fun index key isKey => ?_⟩
    have inFields : index < 5 := (List.getElem?_eq_some_iff.mp isKey).1
    interval_cases index <;> cases isKey <;> rfl
  have objectsDenote : objects.DenotesSequence (DenotesObject .refused) description.objects :=
    ⟨_, rfl, .cons (.positional (fun _ => by decide) ⟨rfl, .absent⟩)
      (.cons (.keyed ⟨rfl, .present rfl⟩) .nil)⟩
  have denotes : (mapping entries).DenotesDescription .refused description :=
    .keyed ⟨rfl, .present rfl, .present objectsDenote, .present ⟨_, rfl, .nil⟩, .present (.tree _)⟩
  have nameless (other : Description) :
      ¬ (mapping [("goal", .null)]).DenotesDescription .refused other := by
    rintro (⟨nameEq, -⟩ | _)
    cases nameEq
  obtain ⟨accepted, refused, respelled, -⟩ := ofDatum_json_exact
  have isRead := (accepted _ keyed description).mpr denotes
  have namelessKeyed : (mapping [("goal", .null)]).WellKeyed := by
    simp [WellKeyed, EntriesWellKeyed]
  exact ⟨keyed, positional, same, denotes, isRead,
    (respelled entries elements keyed positional same description).mp isRead, nameless,
    refused _ namelessKeyed nameless⟩

end Description

end PlanningProblem
