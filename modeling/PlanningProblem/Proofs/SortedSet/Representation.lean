import Mathlib.Data.List.Dedup
import PlanningProblem.Object.Listing
import PlanningProblem.SortedSet.History
import PlanningProblem.SortedSet.Lemmas

/-!
# What a set shows of its history

A set that starts empty shows which members were added so far, and nothing
else: not how often, not in which order, and not what was asked for.  One lemma
says which members a single call leaves in the set; what holds after a whole
history follows by induction, and the listing, the size and the answer of the
next call are read off the members.
-/

namespace PlanningProblem

/-- The first text stands before the second in code point order. -/
def Text.Precedes (first second : String) : Prop :=
  List.Lex (fun char other => char.toNat < other.toNat) first.toList second.toList

theorem Text.compare_eq_lt_iff {first second : String} :
    compare first second = .lt ↔ Precedes first second :=
  compareOfLessAndEq_eq_lt

/-- The first object stands before the second: by its name, or by its type if the names agree. -/
def Object.Precedes (first second : Object) : Prop :=
  Text.Precedes first.name second.name ∨
    first.name = second.name ∧ Text.Precedes first.type second.type

theorem Object.compare_eq_lt_iff_precedes {first second : Object} :
    compare first second = .lt ↔ Precedes first second :=
  compare_eq_lt_iff

namespace SortedSet

variable {α : Type}

def Call.added? : Call α → Option α
  | .add member => some member
  | .contains _ => none

/-- What a history adds, with repetitions and in the order of the calls. -/
def added (history : List (Call α)) : List α :=
  history.filterMap Call.added?

theorem mem_added_iff {history : List (Call α)} {member : α} :
    member ∈ added history ↔ .add member ∈ history := by
  rw [added, List.mem_filterMap]
  constructor
  · rintro ⟨call, isCall, adds⟩
    cases call with
    | add other =>
        cases adds
        exact isCall
    | contains other => cases adds
  · exact fun isCall => ⟨_, isCall, rfl⟩

variable [Ord α]

/-- The members of the set are those that the history adds. -/
def Records (set : SortedSet α) (history : List (Call α)) : Prop :=
  ∀ member, member ∈ set ↔ .add member ∈ history

theorem records_empty : (empty : SortedSet α).Records [] :=
  fun member => by simp

theorem Records.isEmpty_iff {set : SortedSet α} {history : List (Call α)}
    (records : set.Records history) : set.isEmpty = true ↔ ∀ member, .add member ∉ history := by
  rw [isEmpty, List.isEmpty_iff, List.eq_nil_iff_forall_not_mem]
  exact forall_congr' fun member => not_congr (records member)

variable [Std.TransOrd α]

/-- Sets are equal exactly if their histories add the same members. -/
theorem Records.eq_iff {first second : SortedSet α} {history other : List (Call α)}
    (firstRecords : first.Records history) (secondRecords : second.Records other) :
    first = second ↔ ∀ member, .add member ∈ history ↔ .add member ∈ other := by
  constructor
  · rintro rfl member
    rw [← firstRecords member, secondRecords member]
  · intro same
    apply ext_mem
    intro member
    rw [firstRecords member, same, secondRecords member]

variable [DecidableEq α]

/-- The listing has the same elements as the list of additions without its repetitions. -/
theorem Records.perm_dedup {set : SortedSet α} {history : List (Call α)}
    (records : set.Records history) : set.toList.Perm (added history).dedup := by
  rw [List.perm_ext_iff_of_nodup set.nodup_toList (List.nodup_dedup _)]
  intro member
  rw [List.mem_dedup, mem_added_iff, ← records member, mem_def]

variable [Std.LawfulEqOrd α]

/-- The members after a call: those before it, and the one that it adds. -/
theorem mem_apply_snd {set : SortedSet α} {call : Call α} {member : α} :
    member ∈ (set.apply call).2 ↔ member ∈ set ∨ call = .add member := by
  cases call with
  | add other => rw [apply, add, mem_insert, or_comm, Call.add.injEq, eq_comm]
  | contains other => simp [apply]

theorem Records.apply {set : SortedSet α} {history : List (Call α)} (records : set.Records history)
    (call : Call α) : (set.apply call).2.Records (history ++ [call]) := by
  intro member
  rw [mem_apply_snd, records member, List.mem_append, List.mem_singleton, eq_comm (a := call)]

/-- The invariant holds along every run, by induction on the calls that remain. -/
theorem Records.after {set : SortedSet α} {history : List (Call α)} (records : set.Records history)
    (later : List (Call α)) : (set.after later).Records (history ++ later) := by
  induction later generalizing set history with
  | nil => simpa [SortedSet.after] using records
  | cons call rest ih => simpa [SortedSet.after] using ih (records.apply call)

theorem records_after_empty (history : List (Call α)) :
    ((empty : SortedSet α).after history).Records history :=
  records_empty.after history

/-- What can be seen of a set after a history: its listing and its size, and for each call that may
come next the answer and what becomes of the set. -/
structure Represents (set : SortedSet α) (precedes : α → α → Prop) (history : List (Call α)) :
    Prop where
  mem_toList : ∀ member, member ∈ set.toList ↔ .add member ∈ history
  ascending : set.toList.Pairwise precedes
  nodup : set.toList.Nodup
  size_eq : set.size = (added history).dedup.length
  isEmpty_iff : set.isEmpty = true ↔ ∀ member, .add member ∉ history
  isNew_iff : ∀ member, (set.apply (.add member)).1 = true ↔ .add member ∉ history
  size_of_new : ∀ member, .add member ∉ history →
    (set.apply (.add member)).2.size = set.size + 1
  eq_of_known : ∀ member, .add member ∈ history → (set.apply (.add member)).2 = set
  isMember_iff : ∀ member, (set.apply (.contains member)).1 = true ↔ .add member ∈ history
  eq_of_contains : ∀ member, (set.apply (.contains member)).2 = set

theorem Records.represents {set : SortedSet α} {history : List (Call α)}
    (records : set.Records history) {precedes : α → α → Prop}
    (compare_iff : ∀ {first second : α}, compare first second = .lt ↔ precedes first second) :
    set.Represents precedes history where
  mem_toList := records
  ascending := set.ascending.imp compare_iff.mp
  nodup := set.nodup_toList
  size_eq := records.perm_dedup.length_eq
  isEmpty_iff := records.isEmpty_iff
  isNew_iff member := by
    rw [SortedSet.apply, add, Bool.not_eq_true', ← Bool.not_eq_true, contains_iff, records member]
  size_of_new member isNew := size_insert (mt (records member).mp isNew)
  eq_of_known member known := insert_eq_self ((records member).mpr known)
  isMember_iff member := contains_iff.trans (records member)
  eq_of_contains _ := rfl

/-- After every history of calls, and so after every beginning of one, a set of objects and a set of
propositions represent what was added to them.  Histories with the same additions, in any order and
number, end in equal sets, and then the objects are listed alike.  Objects are equal only if both
the name and the type are. -/
theorem after_empty_represents :
    (∀ history : List (Call Object),
      ((empty : SortedSet Object).after history).Represents Object.Precedes history ∧
        ∀ other : List (Call Object),
          (∀ member, .add member ∈ history ↔ .add member ∈ other) →
            (empty : SortedSet Object).after history = (empty : SortedSet Object).after other ∧
              Object.listing ((empty : SortedSet Object).after history) =
                Object.listing ((empty : SortedSet Object).after other)) ∧
      (∀ history : List (Call String),
        ((empty : SortedSet String).after history).Represents Text.Precedes history ∧
          ∀ other : List (Call String),
            (∀ member, .add member ∈ history ↔ .add member ∈ other) →
              (empty : SortedSet String).after history =
                (empty : SortedSet String).after other) ∧
      ∀ first second : Object,
        first = second ↔ first.name = second.name ∧ first.type = second.type := by
  refine ⟨fun history => ⟨?_, ?_⟩, fun history => ⟨?_, ?_⟩, ?_⟩
  · exact (records_after_empty history).represents Object.compare_eq_lt_iff_precedes
  · intro other same
    have setEq := ((records_after_empty history).eq_iff (records_after_empty other)).mpr same
    exact ⟨setEq, congrArg Object.listing setEq⟩
  · exact (records_after_empty history).represents Text.compare_eq_lt_iff
  · intro other same
    exact ((records_after_empty history).eq_iff (records_after_empty other)).mpr same
  · rintro ⟨name, type⟩ ⟨otherName, otherType⟩
    rw [Object.mk.injEq]

/-- Two fillings with the same objects, where a type tells two objects of one name apart, and two
with the same propositions, whose order is not that of UTF-16. -/
theorem after_empty_represents_shuffled :
    let filled : List (Call Object) :=
      [.add ⟨"b", "t"⟩, .contains ⟨"a", ""⟩, .add ⟨"a", ""⟩, .add ⟨"b", "t"⟩, .add ⟨"b", ""⟩]
    let shuffled : List (Call Object) :=
      [.add ⟨"b", ""⟩, .add ⟨"b", "t"⟩, .add ⟨"a", ""⟩, .contains ⟨"c", ""⟩, .add ⟨"b", ""⟩]
    let told : List (Call String) := [.add "(😀)", .add "(\uFFFD)", .add "("]
    let retold : List (Call String) := [.add "(", .add "(\uFFFD)", .add "(", .add "(😀)"]
    let objects := (empty : SortedSet Object).after filled
    let propositions := (empty : SortedSet String).after told
    (∀ member, .add member ∈ filled ↔ .add member ∈ shuffled) ∧
      objects = (empty : SortedSet Object).after shuffled ∧
      objects.toList = [⟨"a", ""⟩, ⟨"b", ""⟩, ⟨"b", "t"⟩] ∧
      .add ⟨"a", "t"⟩ ∉ filled ∧ (objects.apply (.add ⟨"a", "t"⟩)).2.size = objects.size + 1 ∧
      .add ⟨"b", ""⟩ ∈ filled ∧ (objects.apply (.add ⟨"b", ""⟩)).2 = objects ∧
      (∀ member, .add member ∈ told ↔ .add member ∈ retold) ∧
      propositions = (empty : SortedSet String).after retold ∧
      propositions.toList = ["(", "(\uFFFD)", "(😀)"] := by
  intro filled shuffled told retold objects propositions
  obtain ⟨ofObjects, ofTexts, -⟩ := after_empty_represents
  have sameObjects (member : Object) : .add member ∈ filled ↔ .add member ∈ shuffled := by
    simp only [filled, shuffled, List.mem_cons, Call.add.injEq, reduceCtorEq, List.not_mem_nil]
    tauto
  have sameTexts (member : String) : .add member ∈ told ↔ .add member ∈ retold := by
    simp only [told, retold, List.mem_cons, Call.add.injEq, List.not_mem_nil]
    tauto
  have isNew : .add ⟨"a", "t"⟩ ∉ filled := by decide
  have known : .add ⟨"b", ""⟩ ∈ filled := by decide
  exact ⟨sameObjects, ((ofObjects filled).2 shuffled sameObjects).1, by decide, isNew,
    (ofObjects filled).1.size_of_new _ isNew, known, (ofObjects filled).1.eq_of_known _ known,
    sameTexts, (ofTexts told).2 retold sameTexts, by decide⟩

end SortedSet

end PlanningProblem
