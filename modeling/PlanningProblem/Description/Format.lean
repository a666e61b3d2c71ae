import PlanningProblem.Numeric.Shortest

/-!
# Formats of descriptions

A description can come as a TOML document or as a JSON value.  The two formats
agree on everything but two points: what becomes of a sequence with more
elements than its record has fields, and how a message shows a number.
-/

namespace PlanningProblem

namespace Description

/-- What is done with the elements of a sequence that exceed the fields of its record. -/
inductive Surplus where
  | ignored
  | refused
deriving DecidableEq, Inhabited

/-- The points in which formats of descriptions differ. -/
structure Format where
  surplus : Surplus
  style : Binary64.Style
deriving DecidableEq, Inhabited

/-- In TOML, surplus elements are ignored; messages show the upper of two equally near decimal
numbers, and no exponents. -/
def Format.toml : Format where
  surplus := .ignored
  style := ⟨.upper, none⟩

/-- In JSON, surplus elements are refused; of two equally near decimal numbers messages show the
one with an even last digit, and exponents from `10 ^ 16` on and below `10 ^ (-5)`. -/
def Format.json : Format where
  surplus := .refused
  style := ⟨.even, some (-5, 15)⟩

end Description

end PlanningProblem
