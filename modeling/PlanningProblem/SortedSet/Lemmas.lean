import PlanningProblem.SortedSet.Basic

/-!
# Laws of ascending sets

A set is determined by its members: two sets with the same members are equal,
so the order and the number of insertions leave no trace.  The listing has no
repetitions, and inserting a new member makes it longer by one.
-/

namespace PlanningProblem

namespace SortedSet

variable {α : Type} [Ord α] [Std.TransOrd α] [Std.LawfulEqOrd α]

omit [Std.LawfulEqOrd α] in
theorem nodup_of_ascending {members : List α}
    (ascending : members.Pairwise fun earlier later => compare earlier later = .lt) :
    members.Nodup :=
  ascending.imp fun below same => by
    subst same
    rw [Std.ReflOrd.compare_self] at below
    cases below

omit [Std.LawfulEqOrd α] in
theorem nodup_toList (set : SortedSet α) : set.toList.Nodup :=
  nodup_of_ascending set.ascending

omit [Std.LawfulEqOrd α] in
/-- Two sets with the same members are equal. -/
theorem ext_mem {first second : SortedSet α} (same : ∀ member, member ∈ first ↔ member ∈ second) :
    first = second := by
  apply ext_toList
  apply List.Perm.eq_of_pairwise _ first.ascending second.ascending
  · exact (List.perm_ext_iff_of_nodup first.nodup_toList second.nodup_toList).mpr same
  · intro member other _ _ below above
    exact absurd above (Std.OrientedCmp.not_lt_of_lt below)

theorem insert_eq_self {set : SortedSet α} {member : α} (isMember : member ∈ set) :
    set.insert member = set :=
  ext_mem fun other => by
    rw [mem_insert]
    exact ⟨fun either => either.elim (fun same => same ▸ isMember) id, .inr⟩

omit [Std.TransOrd α] [Std.LawfulEqOrd α] in
@[simp]
theorem not_mem_empty {member : α} : member ∉ (empty : SortedSet α) := by
  simp [mem_def]

@[simp]
theorem mem_foldl_insert {members : List α} {set : SortedSet α} {member : α} :
    member ∈ members.foldl insert set ↔ member ∈ members ∨ member ∈ set := by
  induction members generalizing set with
  | nil => simp
  | cons first rest ih =>
      rw [List.foldl_cons, ih, mem_insert, List.mem_cons]
      exact ⟨fun either => either.elim (.inl ∘ .inr) (·.elim (.inl ∘ .inl) .inr),
        fun either => either.elim (·.elim (.inr ∘ .inl) .inl) (.inr ∘ .inr)⟩

@[simp]
theorem mem_ofList {members : List α} {member : α} :
    member ∈ ofList members ↔ member ∈ members := by
  simp [ofList]

/-- Listing a set and inserting what is listed gives the set again. -/
@[simp]
theorem ofList_toList (set : SortedSet α) : ofList set.toList = set :=
  ext_mem fun member => by rw [mem_ofList, mem_def]

omit [Std.TransOrd α] in
theorem length_insertInto {member : α} {members : List α} (isNew : member ∉ members) :
    (insertInto member members).length = members.length + 1 := by
  induction members with
  | nil => rfl
  | cons next later ih =>
      rw [List.mem_cons, not_or] at isNew
      rw [insertInto]
      split
      · rfl
      · next same => exact absurd (Std.LawfulEqOrd.eq_of_compare same) isNew.1
      · rw [List.length_cons, ih isNew.2, List.length_cons]

theorem size_insert {set : SortedSet α} {member : α} (isNew : member ∉ set) :
    (set.insert member).size = set.size + 1 :=
  length_insertInto isNew

end SortedSet

end PlanningProblem
