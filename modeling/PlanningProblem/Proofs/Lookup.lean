import Mathlib.Data.List.Basic

/-!
# Looking up entries by their keys

A list of entries with distinct keys is a finite map: the value found under a key
is the one that stands in an entry with that key, wherever in the list this is.
-/

namespace PlanningProblem

variable {α : Type} {entries : List (String × α)} {key : String} {value : α}

theorem mem_of_lookup (found : entries.lookup key = some value) : (key, value) ∈ entries := by
  obtain ⟨before, after, rfl, -⟩ := List.lookup_eq_some_iff.mp found
  simp

theorem not_mem_keys_of_lookup (missing : entries.lookup key = none) :
    key ∉ entries.map Prod.fst := by
  intro isKey
  obtain ⟨entry, member, rfl⟩ := List.mem_map.mp isKey
  simpa using List.lookup_eq_none_iff.mp missing entry member

theorem lookup_eq_none_of_not_mem_keys (fresh : key ∉ entries.map Prod.fst) :
    entries.lookup key = none := by
  rw [List.lookup_eq_none_iff]
  intro entry member
  have different : key ≠ entry.1 := fun same => fresh (same ▸ List.mem_map_of_mem member)
  simpa using different

theorem lookup_of_mem (distinct : (entries.map Prod.fst).Nodup) {entry : String × α}
    (member : entry ∈ entries) : entries.lookup entry.1 = some entry.2 := by
  obtain ⟨before, after, rfl⟩ := List.append_of_mem member
  rw [List.map_append, List.map_cons, List.nodup_append] at distinct
  rw [List.lookup_eq_some_iff]
  refine ⟨before, after, rfl, fun other isBefore => ?_⟩
  have different := distinct.2.2 other.1 (List.mem_map_of_mem isBefore) entry.1 List.mem_cons_self
  simpa using different.symm

theorem lookup_eq_some_iff_mem (distinct : (entries.map Prod.fst).Nodup) :
    entries.lookup key = some value ↔ (key, value) ∈ entries :=
  ⟨mem_of_lookup, lookup_of_mem distinct⟩

/-- Where keys are distinct, the order of the entries makes no difference. -/
theorem lookup_eq_of_perm {others : List (String × α)} (rearranged : entries.Perm others)
    (distinct : (entries.map Prod.fst).Nodup) (key : String) :
    entries.lookup key = others.lookup key := by
  have othersDistinct : (others.map Prod.fst).Nodup :=
    (rearranged.map Prod.fst).nodup_iff.mp distinct
  ext value
  rw [lookup_eq_some_iff_mem distinct, lookup_eq_some_iff_mem othersDistinct, rearranged.mem_iff]

theorem lookup_map_value (change : String → α → α) (entries : List (String × α)) (key : String) :
    (entries.map fun entry => (entry.1, change entry.1 entry.2)).lookup key =
      (entries.lookup key).map (change key) := by
  induction entries with
  | nil => rfl
  | cons entry rest ih =>
      rw [List.map_cons, List.lookup_cons, List.lookup_cons]
      by_cases isKey : key = entry.1
      · simp [isKey]
      · rw [beq_eq_false_iff_ne.mpr isKey]
        exact ih

/-- Distinct keys that are paired with values are found by their positions. -/
theorem lookup_zip {keys : List String} (distinct : keys.Nodup) (values : List α)
    (index : Nat) {key : String} (isKey : keys[index]? = some key) :
    (keys.zip values).lookup key = values[index]? := by
  induction keys generalizing values index with
  | nil => simp at isKey
  | cons first rest ih =>
      rw [List.nodup_cons] at distinct
      cases values with
      | nil => simp
      | cons value others =>
          rw [List.zip_cons_cons, List.lookup_cons]
          cases index with
          | zero =>
              rw [List.getElem?_cons_zero, Option.some.injEq] at isKey
              simp [isKey]
          | succ index =>
              rw [List.getElem?_cons_succ] at isKey
              have different : key ≠ first := fun same =>
                distinct.1 (same ▸ List.mem_of_getElem? isKey)
              rw [beq_eq_false_iff_ne.mpr different, List.getElem?_cons_succ]
              exact ih distinct.2 others index isKey

theorem nodup_keys_zip {keys : List String} (distinct : keys.Nodup) (values : List α) :
    ((keys.zip values).map Prod.fst).Nodup := by
  rw [List.zip_eq_zip_take_min, List.map_fst_zip (by simp)]
  exact distinct.sublist (List.take_sublist _ _)

end PlanningProblem
