import Mathlib.Data.List.Forall2
import PlanningProblem.Description.Decode
import PlanningProblem.Proofs.Lookup

/-!
# What data denote

This file says which descriptions, objects and goals a datum stands for, with no
reference to how data are read.  A record is denoted by a mapping with an entry
for each field, in any order and among any other entries, or by the sequence of
its fields; a field that is not there has its default.  Whether a sequence may go
on after the last field of the record depends on the format.
-/

namespace PlanningProblem

namespace Datum

mutual

/-- No mapping in the datum has two entries with the same key. -/
def WellKeyed : Datum → Prop
  | .sequence elements => AllWellKeyed elements
  | .mapping entries => (entries.map Prod.fst).Nodup ∧ EntriesWellKeyed entries
  | _ => True

def AllWellKeyed : List Datum → Prop
  | [] => True
  | datum :: rest => datum.WellKeyed ∧ AllWellKeyed rest

def EntriesWellKeyed : List (String × Datum) → Prop
  | [] => True
  | (_, datum) :: rest => datum.WellKeyed ∧ EntriesWellKeyed rest

end

theorem wellKeyed_sequence_iff {elements : List Datum} :
    (sequence elements).WellKeyed ↔ ∀ element ∈ elements, element.WellKeyed := by
  rw [WellKeyed]
  induction elements with
  | nil => simp [AllWellKeyed]
  | cons element rest ih => rw [AllWellKeyed, List.forall_mem_cons, ih]

theorem wellKeyed_mapping_iff {entries : List (String × Datum)} :
    (mapping entries).WellKeyed ↔
      (entries.map Prod.fst).Nodup ∧ ∀ entry ∈ entries, entry.2.WellKeyed := by
  have eachWellKeyed : EntriesWellKeyed entries ↔ ∀ entry ∈ entries, entry.2.WellKeyed := by
    induction entries with
    | nil => simp [EntriesWellKeyed]
    | cons entry rest ih =>
        obtain ⟨key, datum⟩ := entry
        rw [EntriesWellKeyed, List.forall_mem_cons, ih]
  rw [WellKeyed, eachWellKeyed]

theorem WellKeyed.distinct {entries : List (String × Datum)}
    (wellKeyed : (mapping entries).WellKeyed) : (entries.map Prod.fst).Nodup :=
  (wellKeyed_mapping_iff.mp wellKeyed).1

theorem WellKeyed.of_lookup {entries : List (String × Datum)}
    (wellKeyed : (mapping entries).WellKeyed) (key : String) :
    ∀ datum ∈ entries.lookup key, datum.WellKeyed :=
  fun datum found => (wellKeyed_mapping_iff.mp wellKeyed).2 (key, datum) (mem_of_lookup found)

def DenotesText (datum : Datum) (value : String) : Prop :=
  datum = .text value

def DenotesSequence {α : Type} (means : Datum → α → Prop) (datum : Datum) (values : List α) :
    Prop :=
  ∃ elements, datum = .sequence elements ∧ List.Forall₂ means elements values

/-- Null stands for no goal, and a tree of texts and sequences for the goal of that shape. -/
inductive DenotesGoal : Datum → Option Formula → Prop
  | absent : DenotesGoal .null none
  | tree (formula : Formula) : DenotesGoal formula.toDatum (some formula)

/-- A field has the meaning of the datum found for it, or its default if there is none. -/
inductive FieldDenotes {α : Type} (means : Datum → α → Prop) (default : α) :
    (found : Option Datum) → (value : α) → Prop
  | present {datum : Datum} {value : α} (isMeant : means datum value) :
      FieldDenotes means default (some datum) value
  | absent : FieldDenotes means default none default

/-- The data found for the two fields of an object denote that object. -/
structure ObjectFields (name type : Option Datum) (object : Object) : Prop where
  name_eq : name = some (.text object.name)
  type_denotes : FieldDenotes DenotesText "" type object.type

/-- A mapping with the fields of an object, or a sequence that begins with them. -/
inductive DenotesObject (surplus : Description.Surplus) : Datum → Object → Prop
  | keyed {entries : List (String × Datum)} {object : Object}
      (fields : ObjectFields (entries.lookup "name") (entries.lookup "type") object) :
      DenotesObject surplus (.mapping entries) object
  | positional {elements : List Datum} {object : Object}
      (length_le : surplus = .refused → elements.length ≤ 2)
      (fields : ObjectFields elements[0]? elements[1]? object) :
      DenotesObject surplus (.sequence elements) object

/-- The data found for the five fields of a description denote that description. -/
structure DescriptionFields (surplus : Description.Surplus)
    (name domain objects init goal : Option Datum) (description : Description) : Prop where
  name_eq : name = some (.text description.name)
  domain_denotes : FieldDenotes DenotesText "" domain description.domain
  objects_denotes :
    FieldDenotes (DenotesSequence (DenotesObject surplus)) [] objects description.objects
  init_denotes : FieldDenotes (DenotesSequence DenotesText) [] init description.init
  goal_denotes : FieldDenotes DenotesGoal none goal description.goal

/-- A mapping with the fields of a description, or a sequence that begins with them. -/
inductive DenotesDescription (surplus : Description.Surplus) : Datum → Description → Prop
  | keyed {entries : List (String × Datum)} {description : Description}
      (fields : DescriptionFields surplus (entries.lookup "name") (entries.lookup "domain")
        (entries.lookup "objects") (entries.lookup "init") (entries.lookup "goal") description) :
      DenotesDescription surplus (.mapping entries) description
  | positional {elements : List Datum} {description : Description}
      (length_le : surplus = .refused → elements.length ≤ 5)
      (fields : DescriptionFields surplus elements[0]? elements[1]? elements[2]? elements[3]?
        elements[4]? description) :
      DenotesDescription surplus (.sequence elements) description

section Records

variable {surplus : Description.Surplus} {entries : List (String × Datum)} {elements : List Datum}

theorem denotesObject_mapping_iff {object : Object} :
    (mapping entries).DenotesObject surplus object ↔
      ObjectFields (entries.lookup "name") (entries.lookup "type") object :=
  ⟨fun (.keyed fields) => fields, .keyed⟩

theorem denotesObject_sequence_iff {object : Object} :
    (sequence elements).DenotesObject surplus object ↔
      (surplus = .refused → elements.length ≤ 2) ∧
        ObjectFields elements[0]? elements[1]? object :=
  ⟨fun (.positional length_le fields) => ⟨length_le, fields⟩,
    fun ⟨length_le, fields⟩ => .positional length_le fields⟩

theorem denotesDescription_mapping_iff {description : Description} :
    (mapping entries).DenotesDescription surplus description ↔
      DescriptionFields surplus (entries.lookup "name") (entries.lookup "domain")
        (entries.lookup "objects") (entries.lookup "init") (entries.lookup "goal") description :=
  ⟨fun (.keyed fields) => fields, .keyed⟩

theorem denotesDescription_sequence_iff {description : Description} :
    (sequence elements).DenotesDescription surplus description ↔
      (surplus = .refused → elements.length ≤ 5) ∧
        DescriptionFields surplus elements[0]? elements[1]? elements[2]? elements[3]? elements[4]?
          description :=
  ⟨fun (.positional length_le fields) => ⟨length_le, fields⟩,
    fun ⟨length_le, fields⟩ => .positional length_le fields⟩

end Records

/-- The entries give by their keys what the elements give by their positions. -/
def SameFields (record : Description.Record) (entries : List (String × Datum))
    (elements : List Datum) : Prop :=
  elements.length ≤ record.fields.length ∧
    ∀ (index : Nat) (key : String), record.fields[index]? = some key →
      entries.lookup key = elements[index]?

section FieldDenotes

variable {α : Type} {means : Datum → α → Prop} {default value : α} {found : Option Datum}

theorem fieldDenotes_none_iff : FieldDenotes means default none value ↔ value = default := by
  constructor
  · rintro ⟨⟩
    rfl
  · rintro rfl
    exact .absent

theorem fieldDenotes_some_iff {datum : Datum} :
    FieldDenotes means default (some datum) value ↔ means datum value :=
  ⟨fun (.present isMeant) => isMeant, .present⟩

theorem FieldDenotes.imp {other : Datum → α → Prop}
    (implies : ∀ datum ∈ found, means datum value → other datum value)
    (denotes : FieldDenotes means default found value) :
    FieldDenotes other default found value := by
  cases denotes with
  | present isMeant => exact .present (implies _ rfl isMeant)
  | absent => exact .absent

theorem fieldDenotes_congr {other : Datum → α → Prop}
    (same : ∀ datum ∈ found, means datum value ↔ other datum value) :
    FieldDenotes means default found value ↔ FieldDenotes other default found value :=
  ⟨FieldDenotes.imp fun datum isFound => (same datum isFound).mp,
    FieldDenotes.imp fun datum isFound => (same datum isFound).mpr⟩

end FieldDenotes

end Datum

end PlanningProblem
