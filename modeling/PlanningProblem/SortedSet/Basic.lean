/-!
# Finite sets in ascending order

A set is the list of its members in strictly ascending order.  The order is
part of the type, so two sets with the same members are equal and listing a
set needs no sorting.  Inserting keeps the order, adds exactly one member, and
leaves a set that already has the member unchanged.
-/

namespace PlanningProblem

/-- A finite set, given by its members in strictly ascending order. -/
structure SortedSet (α : Type) [Ord α] where
  toList : List α
  ascending : toList.Pairwise fun earlier later => compare earlier later = .lt

namespace SortedSet

section Basic

variable {α : Type} [Ord α]

@[ext]
theorem ext_toList {first second : SortedSet α} (listEq : first.toList = second.toList) :
    first = second := by
  cases first
  cases second
  cases listEq
  rfl

instance [DecidableEq α] : DecidableEq (SortedSet α) := fun first second =>
  if listEq : first.toList = second.toList then
    isTrue (ext_toList listEq)
  else
    isFalse fun setEq => listEq (congrArg toList setEq)

instance : Membership α (SortedSet α) where
  mem set member := member ∈ set.toList

theorem mem_def {set : SortedSet α} {member : α} : member ∈ set ↔ member ∈ set.toList :=
  Iff.rfl

def empty : SortedSet α where
  toList := []
  ascending := .nil

instance : Inhabited (SortedSet α) := ⟨empty⟩

@[simp]
theorem toList_empty : (empty : SortedSet α).toList = [] :=
  rfl

def size (set : SortedSet α) : Nat :=
  set.toList.length

def isEmpty (set : SortedSet α) : Bool :=
  set.toList.isEmpty

def contains [DecidableEq α] (set : SortedSet α) (member : α) : Bool :=
  decide (member ∈ set.toList)

@[simp]
theorem contains_iff [DecidableEq α] {set : SortedSet α} {member : α} :
    set.contains member = true ↔ member ∈ set := by
  simp [contains, mem_def]

/-- Put a member in front of the first one above it, unless it is there already. -/
def insertInto (member : α) : List α → List α
  | [] => [member]
  | next :: later =>
      match compare member next with
      | .lt => member :: next :: later
      | .eq => next :: later
      | .gt => next :: insertInto member later

end Basic

section Insert

variable {α : Type} [Ord α] [Std.TransOrd α] [Std.LawfulEqOrd α]

omit [Std.TransOrd α] in
@[simp]
theorem mem_insertInto {member other : α} {members : List α} :
    other ∈ insertInto member members ↔ other = member ∨ other ∈ members := by
  induction members with
  | nil => simp [insertInto]
  | cons next later ih =>
      rw [insertInto]
      split
      · simp
      · next same =>
          rw [Std.LawfulEqOrd.compare_eq_iff_eq] at same
          simp [same]
      · simp only [List.mem_cons, ih]
        exact or_left_comm

theorem ascending_insertInto {member : α} {members : List α}
    (ascending : members.Pairwise fun earlier later => compare earlier later = .lt) :
    (insertInto member members).Pairwise fun earlier later => compare earlier later = .lt := by
  induction members with
  | nil => simp [insertInto]
  | cons next later ih =>
      have belowLater := (List.pairwise_cons.mp ascending).1
      have laterAscending := (List.pairwise_cons.mp ascending).2
      rw [insertInto]
      split
      · next below =>
          refine List.pairwise_cons.mpr ⟨fun other otherMem => ?_, ascending⟩
          rcases List.mem_cons.mp otherMem with rfl | otherLater
          · exact below
          · exact Std.TransCmp.lt_trans below (belowLater other otherLater)
      · exact ascending
      · next above =>
          refine List.pairwise_cons.mpr ⟨fun other otherMem => ?_, ih laterAscending⟩
          rcases mem_insertInto.mp otherMem with rfl | otherLater
          · exact Std.OrientedCmp.lt_of_gt above
          · exact belowLater other otherLater

def insert (set : SortedSet α) (member : α) : SortedSet α where
  toList := insertInto member set.toList
  ascending := ascending_insertInto set.ascending

@[simp]
theorem mem_insert {set : SortedSet α} {member other : α} :
    other ∈ set.insert member ↔ other = member ∨ other ∈ set :=
  mem_insertInto

/-- The set with one more member, after whether that member is new. -/
def add [DecidableEq α] (set : SortedSet α) (member : α) : Bool × SortedSet α :=
  (!set.contains member, set.insert member)

def ofList (members : List α) : SortedSet α :=
  members.foldl insert empty

end Insert

end SortedSet

end PlanningProblem
