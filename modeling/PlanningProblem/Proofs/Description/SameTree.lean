import PlanningProblem.Proofs.Description.Denotation

/-!
# The same tree in another order

Two data are the same tree if they differ at most in the order of the entries of
their mappings.  Fields are looked up by their keys, so what a datum denotes
does not depend on that order.
-/

namespace PlanningProblem

namespace Datum

/-- The data agree but for the order of entries: in place of lists of entries, what is found under
each key is compared. -/
inductive SameTree : Datum → Datum → Prop
  | refl (datum : Datum) : SameTree datum datum
  | sequence {elements others : List Datum} (each : List.Forall₂ SameTree elements others) :
      SameTree (.sequence elements) (.sequence others)
  | mapping {entries others : List (String × Datum)}
      (each : ∀ key, Option.Rel SameTree (entries.lookup key) (others.lookup key)) :
      SameTree (.mapping entries) (.mapping others)

/-- What a datum means is the same in every order of its entries. -/
def Unordered {α : Type} (means : Datum → α → Prop) : Prop :=
  ∀ ⦃datum other : Datum⦄, SameTree datum other → ∀ value, means datum value ↔ means other value

theorem found_refl (found : Option Datum) : Option.Rel SameTree found found := by
  cases found with
  | none => exact .none
  | some datum => exact .some (.refl datum)

/-- Distinct entries stand for the same tree in every order. -/
theorem sameTree_of_perm {entries others : List (String × Datum)} (rearranged : entries.Perm others)
    (distinct : (entries.map Prod.fst).Nodup) : SameTree (.mapping entries) (.mapping others) :=
  .mapping fun key => lookup_eq_of_perm rearranged distinct key ▸ found_refl _

theorem found_getElem? {elements others : List Datum}
    (each : List.Forall₂ SameTree elements others) (index : Nat) :
    Option.Rel SameTree elements[index]? others[index]? := by
  induction each generalizing index with
  | nil => exact .none
  | cons same _ ih =>
      cases index with
      | zero => exact .some same
      | succ index => exact ih index

theorem SameTree.eq_text_iff {datum other : Datum} (same : datum.SameTree other) (value : String) :
    datum = .text value ↔ other = .text value := by
  cases same with
  | refl => rfl
  | sequence => simp
  | mapping => simp

theorem SameTree.eq_null_iff {datum other : Datum} (same : datum.SameTree other) :
    datum = .null ↔ other = .null := by
  cases same with
  | refl => rfl
  | sequence => simp
  | mapping => simp

section Fields

variable {α : Type} {means : Datum → α → Prop}

theorem unordered_text : Unordered DenotesText :=
  fun _ _ same value => same.eq_text_iff value

theorem Unordered.forall₂_iff (unordered : Unordered means) {elements others : List Datum}
    (each : List.Forall₂ SameTree elements others) (values : List α) :
    List.Forall₂ means elements values ↔ List.Forall₂ means others values := by
  induction each generalizing values with
  | nil => rfl
  | cons same _ ih =>
      cases values with
      | nil => simp
      | cons value values =>
          rw [List.forall₂_cons, List.forall₂_cons, unordered same value, ih values]

theorem Unordered.sequence (unordered : Unordered means) :
    Unordered (DenotesSequence means) := by
  intro datum other same values
  cases same with
  | refl => rfl
  | sequence each => simpa [DenotesSequence] using unordered.forall₂_iff each values
  | mapping => simp [DenotesSequence]

theorem Unordered.field (unordered : Unordered means) {found others : Option Datum}
    (same : Option.Rel SameTree found others) (default value : α) :
    FieldDenotes means default found value ↔ FieldDenotes means default others value := by
  cases same with
  | none => rfl
  | some same => rw [fieldDenotes_some_iff, fieldDenotes_some_iff, unordered same value]

theorem eq_some_text_iff {found others : Option Datum} (same : Option.Rel SameTree found others)
    (value : String) : found = some (.text value) ↔ others = some (.text value) := by
  cases same with
  | none => rfl
  | some same => rw [Option.some.injEq, Option.some.injEq, same.eq_text_iff]

end Fields

mutual

theorem SameTree.eq_toDatum_iff {datum other : Datum} (same : datum.SameTree other) :
    (formula : Formula) → (datum = formula.toDatum ↔ other = formula.toDatum)
  | .atom token => by
      rw [Formula.toDatum]
      exact same.eq_text_iff token
  | .group parts => by
      rw [Formula.toDatum]
      cases same with
      | refl => rfl
      | sequence each =>
          rw [sequence.injEq, sequence.injEq]
          exact eq_toData_iff each parts
      | mapping => simp

theorem eq_toData_iff {elements others : List Datum}
    (each : List.Forall₂ SameTree elements others) :
    (formulas : List Formula) → (elements = Formula.toData formulas ↔
      others = Formula.toData formulas)
  | [] => by
      rw [Formula.toData]
      cases each <;> simp
  | formula :: rest => by
      rw [Formula.toData]
      cases each with
      | nil => simp
      | cons same each =>
          rw [List.cons.injEq, List.cons.injEq, same.eq_toDatum_iff formula,
            eq_toData_iff each rest]

end

theorem denotesGoal_none_iff {datum : Datum} : datum.DenotesGoal none ↔ datum = .null := by
  constructor
  · rintro ⟨⟩
    rfl
  · rintro rfl
    exact .absent

theorem denotesGoal_some_iff {datum : Datum} {formula : Formula} :
    datum.DenotesGoal (some formula) ↔ datum = formula.toDatum := by
  constructor
  · rintro ⟨⟩
    rfl
  · rintro rfl
    exact .tree formula

theorem unordered_goal : Unordered DenotesGoal := by
  intro datum other same goal
  cases goal with
  | none => rw [denotesGoal_none_iff, denotesGoal_none_iff, same.eq_null_iff]
  | some formula => rw [denotesGoal_some_iff, denotesGoal_some_iff, same.eq_toDatum_iff]

section Records

variable {surplus : Description.Surplus}

theorem objectFields_iff {name type otherName otherType : Option Datum} {object : Object}
    (sameName : Option.Rel SameTree name otherName)
    (sameType : Option.Rel SameTree type otherType) :
    ObjectFields name type object ↔ ObjectFields otherName otherType object := by
  have nameIff := eq_some_text_iff sameName object.name
  have typeIff := unordered_text.field sameType "" object.type
  constructor
  · rintro ⟨nameEq, typeDenotes⟩
    exact ⟨nameIff.mp nameEq, typeIff.mp typeDenotes⟩
  · rintro ⟨nameEq, typeDenotes⟩
    exact ⟨nameIff.mpr nameEq, typeIff.mpr typeDenotes⟩

theorem unordered_object (surplus : Description.Surplus) :
    Unordered (DenotesObject surplus) := by
  intro datum other same object
  cases same with
  | refl => rfl
  | sequence each =>
      rw [denotesObject_sequence_iff, denotesObject_sequence_iff, each.length_eq,
        objectFields_iff (found_getElem? each 0) (found_getElem? each 1)]
  | mapping each =>
      rw [denotesObject_mapping_iff, denotesObject_mapping_iff]
      exact objectFields_iff (each "name") (each "type")

theorem descriptionFields_iff
    {name domain objects init goal otherName otherDomain otherObjects otherInit otherGoal :
      Option Datum} {description : Description}
    (sameName : Option.Rel SameTree name otherName)
    (sameDomain : Option.Rel SameTree domain otherDomain)
    (sameObjects : Option.Rel SameTree objects otherObjects)
    (sameInit : Option.Rel SameTree init otherInit)
    (sameGoal : Option.Rel SameTree goal otherGoal) :
    DescriptionFields surplus name domain objects init goal description ↔
      DescriptionFields surplus otherName otherDomain otherObjects otherInit otherGoal
        description := by
  have nameIff := eq_some_text_iff sameName description.name
  have domainIff := unordered_text.field sameDomain "" description.domain
  have objectsIff :=
    (unordered_object surplus).sequence.field sameObjects [] description.objects
  have initIff := unordered_text.sequence.field sameInit [] description.init
  have goalIff := unordered_goal.field sameGoal none description.goal
  constructor
  · rintro ⟨nameEq, domainDenotes, objectsDenote, initDenotes, goalDenotes⟩
    exact ⟨nameIff.mp nameEq, domainIff.mp domainDenotes, objectsIff.mp objectsDenote,
      initIff.mp initDenotes, goalIff.mp goalDenotes⟩
  · rintro ⟨nameEq, domainDenotes, objectsDenote, initDenotes, goalDenotes⟩
    exact ⟨nameIff.mpr nameEq, domainIff.mpr domainDenotes, objectsIff.mpr objectsDenote,
      initIff.mpr initDenotes, goalIff.mpr goalDenotes⟩

/-- What a datum denotes as a description does not depend on the order of any entries in it. -/
theorem unordered_description (surplus : Description.Surplus) :
    Unordered (DenotesDescription surplus) := by
  intro datum other same description
  cases same with
  | refl => rfl
  | sequence each =>
      rw [denotesDescription_sequence_iff, denotesDescription_sequence_iff, each.length_eq,
        descriptionFields_iff (found_getElem? each 0) (found_getElem? each 1)
          (found_getElem? each 2) (found_getElem? each 3) (found_getElem? each 4)]
  | mapping each =>
      rw [denotesDescription_mapping_iff, denotesDescription_mapping_iff]
      exact descriptionFields_iff (each "name") (each "domain") (each "objects") (each "init")
        (each "goal")

end Records

end Datum

end PlanningProblem
