import PlanningProblem.Proofs.Description.Denotation
import PlanningProblem.Proofs.Description.Entries

/-!
# Fields are read from the data that denote them

Texts, goals and sequences are read from exactly the data that denote them.  In
a record with distinct keys, each field is read from the entry under its own
key, and stays at its default if there is none; entries of unknown keys play no
part.  A sequence is read like the mapping that pairs the keys of the record
with its elements.
-/

namespace PlanningProblem

namespace Description

open Datum

theorem readText_eq_ok_iff {datum : Datum} {value : String} :
    readText datum = .ok value ↔ datum.DenotesText value := by
  cases datum <;> simp [readText, DenotesText]

/-- A list of data is read whole exactly if each element is read as what it means. -/
theorem mapM_eq_ok_iff {α : Type} {read : Datum → Except Mismatch α} {means : Datum → α → Prop}
    {elements : List Datum} {values : List α}
    (isMeant : ∀ element ∈ elements, ∀ value, read element = .ok value ↔ means element value) :
    elements.mapM read = .ok values ↔ List.Forall₂ means elements values := by
  induction elements generalizing values with
  | nil => simp [pure, Except.pure, eq_comm]
  | cons element rest ih =>
      rw [List.forall_mem_cons] at isMeant
      rw [List.mapM_cons, bind_eq_ok_iff]
      constructor
      · rintro ⟨value, isRead, restRead⟩
        obtain ⟨others, othersRead, rfl⟩ := update_eq_ok_iff.mp restRead
        exact .cons ((isMeant.1 value).mp isRead) ((ih isMeant.2).mp othersRead)
      · rintro (_ | ⟨means, othersMeant⟩)
        exact ⟨_, (isMeant.1 _).mpr means,
          update_eq_ok_iff.mpr ⟨_, (ih isMeant.2).mpr othersMeant, rfl⟩⟩

theorem readSequence_eq_ok_iff {α : Type} {read : Datum → Except Mismatch α}
    {means : Datum → α → Prop} {datum : Datum} {values : List α}
    (isMeant : ∀ elements, datum = .sequence elements → ∀ element ∈ elements, ∀ value,
      read element = .ok value ↔ means element value) :
    readSequence read datum = .ok values ↔ datum.DenotesSequence means values := by
  rw [DenotesSequence]
  cases datum with
  | sequence elements =>
      rw [readSequence, mapM_eq_ok_iff (isMeant elements rfl)]
      simp
  | _ => simp [readSequence]

theorem readTexts_eq_ok_iff {datum : Datum} {values : List String} :
    readSequence readText datum = .ok values ↔ datum.DenotesSequence DenotesText values :=
  readSequence_eq_ok_iff fun _ _ _ _ _ => readText_eq_ok_iff

theorem readGoal_eq_ok_iff {datum : Datum} {goal : Option Formula} :
    readGoal datum = .ok goal ↔ datum.DenotesGoal goal := by
  constructor
  · intro isRead
    rw [readGoal.eq_def] at isRead
    split at isRead
    · cases isRead
      exact .absent
    · split at isRead
      · next formula isFormula =>
          cases isRead
          rw [Formula.ofDatum?_eq_some_iff] at isFormula
          exact isFormula ▸ .tree formula
      · cases isRead
  · rintro (_ | formula)
    · rfl
    · have isFormula := Formula.ofDatum?_toDatum formula
      cases formula <;> simp only [Formula.toDatum, readGoal] at isFormula ⊢ <;> rw [isFormula]

section Governs

variable {σ β : Type} {enter : σ → String × Datum → Except Mismatch σ} {key : String}
  {read : Datum → Except Mismatch β} {field : σ → β}

/-- Once all entries are entered, a field has the meaning of the entry found under its key, or the
value it had before. -/
theorem Governs.fieldDenotes (governs : Governs enter key read field)
    {entries : List (String × Datum)} {draft final : σ}
    (entered : entries.foldlM enter draft = .ok final)
    (distinct : (entries.map Prod.fst).Nodup) :
    FieldDenotes (fun datum value => read datum = .ok value) (field draft) (entries.lookup key)
      (field final) := by
  cases found : entries.lookup key with
  | none =>
      rw [governs.field_of_not_mem entered (not_mem_keys_of_lookup found)]
      exact .absent
  | some datum => exact .present (governs.field_of_mem entered distinct (mem_of_lookup found))

theorem fieldDenotes_unique {default value other : β} {found : Option Datum}
    (first : FieldDenotes (fun datum value => read datum = .ok value) default found value)
    (second : FieldDenotes (fun datum value => read datum = .ok value) default found other) :
    value = other := by
  cases first with
  | absent =>
      cases second
      rfl
  | present isRead =>
      cases second with
      | present otherRead => exact Except.ok.inj (isRead.symm.trans otherRead)

/-- What denotes a field can be read from any entry with the key of that field. -/
theorem exists_read_of_mem {entries : List (String × Datum)}
    (distinct : (entries.map Prod.fst).Nodup) {default value : β}
    (denotes : FieldDenotes (fun datum value => read datum = .ok value) default
      (entries.lookup key) value)
    {entry : String × Datum} (member : entry ∈ entries) (isKey : entry.1 = key) :
    read entry.2 = .ok value := by
  rw [← isKey, lookup_of_mem distinct member] at denotes
  cases denotes with
  | present isRead => exact isRead

end Governs

/-- A name has to be there, which a draft without a name as the default expresses. -/
theorem name_denotes_iff {found : Option Datum} {value : String} :
    FieldDenotes (fun datum name => (readText datum).map some = .ok name) none found (some value) ↔
      found = some (.text value) := by
  constructor
  · rintro (isRead | _)
    cases readEq : readText _ with
    | ok name =>
        rw [readEq] at isRead
        cases isRead
        exact congrArg some (readText_eq_ok_iff.mp readEq)
    | error mismatch =>
        rw [readEq] at isRead
        cases isRead
  · rintro rfl
    exact .present rfl

theorem exists_readText_of_name {entries : List (String × Datum)}
    (distinct : (entries.map Prod.fst).Nodup) {name : String}
    (nameEq : entries.lookup "name" = some (.text name)) {entry : String × Datum}
    (member : entry ∈ entries) (isName : entry.1 = "name") :
    ∃ value, readText entry.2 = .ok value := by
  have found := lookup_of_mem distinct member
  rw [isName, nameEq, Option.some.injEq] at found
  exact ⟨name, readText_eq_ok_iff.mpr found.symm⟩

theorem text_denotes_iff {default value : String} {found : Option Datum} :
    FieldDenotes (fun datum value => readText datum = .ok value) default found value ↔
      FieldDenotes DenotesText default found value :=
  fieldDenotes_congr fun _ _ => readText_eq_ok_iff

theorem wellKeyed_zip {keys : List String} (distinct : keys.Nodup) {elements : List Datum}
    (wellKeyed : (sequence elements).WellKeyed) : (mapping (keys.zip elements)).WellKeyed := by
  rw [wellKeyed_mapping_iff]
  refine ⟨nodup_keys_zip distinct elements, fun entry member => ?_⟩
  exact wellKeyed_sequence_iff.mp wellKeyed entry.2 (List.of_mem_zip member).2

/-- A record is read from the entries of a mapping, or from the entries that a sequence of its
fields stands for. -/
theorem readRecord_eq_ok_iff {α : Type} {surplus : Surplus} {record : Record}
    {readEntries : List (String × Datum) → Except Mismatch α} {datum : Datum} {value : α}
    (nameless : readEntries [] ≠ .ok value) :
    readRecord surplus record readEntries datum = .ok value ↔
      (∃ entries, datum = .mapping entries ∧ readEntries entries = .ok value) ∨
        ∃ elements, datum = .sequence elements ∧
          (surplus = .refused → elements.length ≤ record.fields.length) ∧
          readEntries (record.fields.zip elements) = .ok value := by
  cases datum with
  | mapping entries => simp [readRecord]
  | moment => simp [readRecord, nameless]
  | sequence elements =>
      cases elements with
      | nil => simp [readRecord, nameless]
      | cons element rest =>
          simp only [readRecord, bind_eq_ok_iff]
          constructor
          · rintro ⟨other, isRead, accepted⟩
            split at accepted
            · cases accepted
            · next allowed =>
                cases accepted
                rw [not_and, Nat.not_lt] at allowed
                exact .inr ⟨_, rfl, allowed, isRead⟩
          · rintro (⟨_, isMapping, -⟩ | ⟨_, isSequence, allowed, isRead⟩)
            · cases isMapping
            · cases isSequence
              refine ⟨value, isRead, if_neg ?_⟩
              rw [not_and, Nat.not_lt]
              exact allowed
  | _ => simp [readRecord]

end Description

end PlanningProblem
