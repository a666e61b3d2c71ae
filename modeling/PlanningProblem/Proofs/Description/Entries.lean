import PlanningProblem.Description.Decode

/-!
# Reading records entry by entry

Every field of a record is governed by one key: an entry with that key sets the
field to what is read from its datum, and no other entry changes it.  So if the
keys of a mapping are distinct, each field ends up with what its own entry says,
wherever in the mapping that entry stands.
-/

namespace PlanningProblem

namespace Description

theorem bind_eq_ok_iff {α β : Type} {read : Except Mismatch α} {next : α → Except Mismatch β}
    {result : β} :
    (read >>= next) = .ok result ↔ ∃ value, read = .ok value ∧ next value = .ok result := by
  cases read <;> simp [bind, Except.bind]

theorem update_eq_ok_iff {α σ : Type} {read : Except Mismatch α} {update : α → σ} {next : σ} :
    (do return update (← read)) = .ok next ↔ ∃ value, read = .ok value ∧ update value = next := by
  rw [bind_eq_ok_iff]
  simp [pure, Except.pure]

section Governs

variable {σ β : Type}

/-- Entries with the given key, and no others, determine the field of the draft. -/
structure Governs (enter : σ → String × Datum → Except Mismatch σ) (key : String)
    (read : Datum → Except Mismatch β) (field : σ → β) : Prop where
  enter_self : ∀ {draft next : σ} {datum : Datum},
    enter draft (key, datum) = .ok next → read datum = .ok (field next)
  enter_other : ∀ {draft next : σ} {entry : String × Datum},
    entry.1 ≠ key → enter draft entry = .ok next → field next = field draft

variable {enter : σ → String × Datum → Except Mismatch σ} {key : String}
  {read : Datum → Except Mismatch β} {field : σ → β}

theorem Governs.field_of_not_mem (governs : Governs enter key read field)
    {entries : List (String × Datum)} {draft final : σ}
    (entered : entries.foldlM enter draft = .ok final) (absent : key ∉ entries.map Prod.fst) :
    field final = field draft := by
  induction entries generalizing draft with
  | nil =>
      cases entered
      rfl
  | cons entry rest ih =>
      rw [List.foldlM_cons, bind_eq_ok_iff] at entered
      obtain ⟨next, first, others⟩ := entered
      rw [List.map_cons, List.mem_cons, not_or] at absent
      rw [ih others absent.2, governs.enter_other (Ne.symm absent.1) first]

/-- A field is read from the only entry with its key, whatever comes before and after that. -/
theorem Governs.field_of_mem (governs : Governs enter key read field)
    {entries : List (String × Datum)} {draft final : σ} {datum : Datum}
    (entered : entries.foldlM enter draft = .ok final) (distinct : (entries.map Prod.fst).Nodup)
    (member : (key, datum) ∈ entries) : read datum = .ok (field final) := by
  induction entries generalizing draft with
  | nil => cases member
  | cons entry rest ih =>
      rw [List.foldlM_cons, bind_eq_ok_iff] at entered
      obtain ⟨next, first, others⟩ := entered
      rw [List.map_cons, List.nodup_cons] at distinct
      rcases List.mem_cons.mp member with rfl | inRest
      · rw [governs.field_of_not_mem others distinct.1]
        exact governs.enter_self first
      · exact ih others distinct.2 inRest

theorem exists_foldlM_eq_ok {entries : List (String × Datum)}
    (enterable : ∀ entry ∈ entries, ∀ draft, ∃ next, enter draft entry = .ok next) (draft : σ) :
    ∃ final, entries.foldlM enter draft = .ok final := by
  induction entries generalizing draft with
  | nil => exact ⟨draft, rfl⟩
  | cons entry rest ih =>
      rw [List.forall_mem_cons] at enterable
      obtain ⟨next, first⟩ := enterable.1 draft
      obtain ⟨final, others⟩ := ih enterable.2 next
      exact ⟨final, by rw [List.foldlM_cons, first]; exact others⟩

end Governs

/-- What entering an entry makes of the draft of an object. -/
inductive ObjectDraft.Entered (draft : ObjectDraft) (entry : String × Datum) : ObjectDraft → Prop
  | name {value : String} (isKey : entry.1 = "name") (isRead : readText entry.2 = .ok value) :
      Entered draft entry { draft with name := some value }
  | type {value : String} (isKey : entry.1 = "type") (isRead : readText entry.2 = .ok value) :
      Entered draft entry { draft with type := value }
  | unknown (noField : entry.1 ∉ Record.fields .object) : Entered draft entry draft

theorem ObjectDraft.enter_eq_ok_iff {draft next : ObjectDraft} {entry : String × Datum} :
    draft.enter entry = .ok next ↔ draft.Entered entry next := by
  constructor
  · intro entered
    rw [ObjectDraft.enter.eq_def] at entered
    split at entered
    · obtain ⟨value, isRead, rfl⟩ := update_eq_ok_iff.mp entered
      exact .name rfl isRead
    · obtain ⟨value, isRead, rfl⟩ := update_eq_ok_iff.mp entered
      exact .type rfl isRead
    · cases entered
      obtain ⟨key, datum⟩ := entry
      exact .unknown (by simp_all [Record.fields])
  · obtain ⟨key, datum⟩ := entry
    rintro (⟨rfl, isRead⟩ | ⟨rfl, isRead⟩ | noField)
    · exact update_eq_ok_iff.mpr ⟨_, isRead, rfl⟩
    · exact update_eq_ok_iff.mpr ⟨_, isRead, rfl⟩
    · rw [ObjectDraft.enter.eq_def]
      split <;> simp_all [Record.fields, pure, Except.pure]

theorem ObjectDraft.governs_name :
    Governs ObjectDraft.enter "name" (fun datum => (readText datum).map some) ObjectDraft.name where
  enter_self entered := by
    cases ObjectDraft.enter_eq_ok_iff.mp entered <;> simp_all [Record.fields, Except.map]
  enter_other different entered := by
    cases ObjectDraft.enter_eq_ok_iff.mp entered <;> simp_all

theorem ObjectDraft.governs_type : Governs ObjectDraft.enter "type" readText ObjectDraft.type where
  enter_self entered := by
    cases ObjectDraft.enter_eq_ok_iff.mp entered <;> simp_all [Record.fields]
  enter_other different entered := by
    cases ObjectDraft.enter_eq_ok_iff.mp entered <;> simp_all

/-- What entering an entry makes of the draft of a description. -/
inductive Draft.Entered (surplus : Surplus) (draft : Draft) (entry : String × Datum) : Draft → Prop
  | name {value : String} (isKey : entry.1 = "name") (isRead : readText entry.2 = .ok value) :
      Entered surplus draft entry { draft with name := some value }
  | domain {value : String} (isKey : entry.1 = "domain") (isRead : readText entry.2 = .ok value) :
      Entered surplus draft entry { draft with domain := value }
  | objects {value : List Object} (isKey : entry.1 = "objects")
      (isRead : readSequence (readObject surplus) entry.2 = .ok value) :
      Entered surplus draft entry { draft with objects := value }
  | init {value : List String} (isKey : entry.1 = "init")
      (isRead : readSequence readText entry.2 = .ok value) :
      Entered surplus draft entry { draft with init := value }
  | goal {value : Option Formula} (isKey : entry.1 = "goal")
      (isRead : readGoal entry.2 = .ok value) :
      Entered surplus draft entry { draft with goal := value }
  | unknown (noField : entry.1 ∉ Record.fields .problem) : Entered surplus draft entry draft

theorem Draft.enter_eq_ok_iff {surplus : Surplus} {draft next : Draft} {entry : String × Datum} :
    draft.enter surplus entry = .ok next ↔ draft.Entered surplus entry next := by
  constructor
  · intro entered
    rw [Draft.enter.eq_def] at entered
    split at entered
    · obtain ⟨value, isRead, rfl⟩ := update_eq_ok_iff.mp entered
      exact .name rfl isRead
    · obtain ⟨value, isRead, rfl⟩ := update_eq_ok_iff.mp entered
      exact .domain rfl isRead
    · obtain ⟨value, isRead, rfl⟩ := update_eq_ok_iff.mp entered
      exact .objects rfl isRead
    · obtain ⟨value, isRead, rfl⟩ := update_eq_ok_iff.mp entered
      exact .init rfl isRead
    · obtain ⟨value, isRead, rfl⟩ := update_eq_ok_iff.mp entered
      exact .goal rfl isRead
    · cases entered
      obtain ⟨key, datum⟩ := entry
      exact .unknown (by simp_all [Record.fields])
  · obtain ⟨key, datum⟩ := entry
    rintro (⟨rfl, isRead⟩ | ⟨rfl, isRead⟩ | ⟨rfl, isRead⟩ | ⟨rfl, isRead⟩ | ⟨rfl, isRead⟩ | noField)
    · exact update_eq_ok_iff.mpr ⟨_, isRead, rfl⟩
    · exact update_eq_ok_iff.mpr ⟨_, isRead, rfl⟩
    · exact update_eq_ok_iff.mpr ⟨_, isRead, rfl⟩
    · exact update_eq_ok_iff.mpr ⟨_, isRead, rfl⟩
    · exact update_eq_ok_iff.mpr ⟨_, isRead, rfl⟩
    · rw [Draft.enter.eq_def]
      split <;> simp_all [Record.fields, pure, Except.pure]

namespace Draft

variable (surplus : Surplus)

theorem governs_name :
    Governs (enter surplus) "name" (fun datum => (readText datum).map some) name where
  enter_self entered := by
    cases enter_eq_ok_iff.mp entered <;> simp_all [Record.fields, Except.map]
  enter_other different entered := by
    cases enter_eq_ok_iff.mp entered <;> simp_all

theorem governs_domain : Governs (enter surplus) "domain" readText domain where
  enter_self entered := by
    cases enter_eq_ok_iff.mp entered <;> simp_all [Record.fields]
  enter_other different entered := by
    cases enter_eq_ok_iff.mp entered <;> simp_all

theorem governs_objects :
    Governs (enter surplus) "objects" (readSequence (readObject surplus)) objects where
  enter_self entered := by
    cases enter_eq_ok_iff.mp entered <;> simp_all [Record.fields]
  enter_other different entered := by
    cases enter_eq_ok_iff.mp entered <;> simp_all

theorem governs_init : Governs (enter surplus) "init" (readSequence readText) init where
  enter_self entered := by
    cases enter_eq_ok_iff.mp entered <;> simp_all [Record.fields]
  enter_other different entered := by
    cases enter_eq_ok_iff.mp entered <;> simp_all

theorem governs_goal : Governs (enter surplus) "goal" readGoal goal where
  enter_self entered := by
    cases enter_eq_ok_iff.mp entered <;> simp_all [Record.fields]
  enter_other different entered := by
    cases enter_eq_ok_iff.mp entered <;> simp_all

end Draft

end Description

end PlanningProblem
