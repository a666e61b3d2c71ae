/-!
# Objects

An object has a name and a type, and both identify it.  Objects are ordered by
name and then by type, in code point order.
-/

namespace PlanningProblem

/-- A named object; an empty type means that it has none. -/
structure Object where
  name : String
  type : String := ""
deriving DecidableEq, Inhabited

namespace Object

def text (object : Object) : String :=
  if object.type = "" then object.name else object.name ++ " - " ++ object.type

instance : ToString Object := ⟨text⟩

instance : Ord Object where
  compare := compareLex (compareOn name) (compareOn type)

theorem compare_eq_lt_iff {first second : Object} :
    compare first second = .lt ↔
      first.name < second.name ∨ first.name = second.name ∧ first.type < second.type := by
  have lexicographic : compare first second =
      (compare first.name second.name).then (compare first.type second.type) := rfl
  rw [lexicographic, Ordering.then_eq_lt, Std.LawfulEqOrd.compare_eq_iff_eq]
  exact or_congr compareOfLessAndEq_eq_lt (and_congr_right' compareOfLessAndEq_eq_lt)

instance : Std.TransOrd Object :=
  inferInstanceAs (Std.TransCmp (compareLex (compareOn name) (compareOn type)))

instance : Std.LawfulEqOrd Object where
  eq_of_compare {first second} same := by
    have both : (compare first.name second.name).then (compare first.type second.type) = .eq :=
      same
    rw [Ordering.then_eq_eq] at both
    cases first
    cases second
    rw [mk.injEq]
    exact ⟨Std.LawfulEqOrd.eq_of_compare both.1, Std.LawfulEqOrd.eq_of_compare both.2⟩

end Object

end PlanningProblem
