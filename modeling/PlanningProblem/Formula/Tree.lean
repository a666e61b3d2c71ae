import PlanningProblem.Datum
import PlanningProblem.Formula.Basic

/-!
# Formulas as data

A token is written as a text and a group as the sequence of its members.  Data
of any other kind, at any depth, are no formula.  Reading what was written
gives the formula back, and only written formulas can be read.
-/

namespace PlanningProblem

namespace Formula

mutual

/-- The datum that stands for a formula. -/
def toDatum : Formula → Datum
  | .atom token => .text token
  | .group parts => .sequence (toData parts)

def toData : List Formula → List Datum
  | [] => []
  | formula :: rest => formula.toDatum :: toData rest

end

theorem toData_eq_map (formulas : List Formula) : toData formulas = formulas.map toDatum := by
  induction formulas with
  | nil => rfl
  | cons formula rest ih => rw [toData, ih, List.map_cons]

mutual

def ofDatum? : Datum → Option Formula
  | .text token => some (.atom token)
  | .sequence elements => (ofData? elements).map .group
  | _ => none

def ofData? : List Datum → Option (List Formula)
  | [] => some []
  | datum :: rest =>
      match ofDatum? datum, ofData? rest with
      | some formula, some formulas => some (formula :: formulas)
      | _, _ => none

end

mutual

/-- How many groups stand inside one another. -/
def nesting : Formula → Nat
  | .atom _ => 0
  | .group parts => nestingAll parts + 1

def nestingAll : List Formula → Nat
  | [] => 0
  | formula :: rest => max formula.nesting (nestingAll rest)

end

mutual

@[simp]
theorem ofDatum?_toDatum : (formula : Formula) → ofDatum? formula.toDatum = some formula
  | .atom _ => rfl
  | .group parts => by simp [toDatum, ofDatum?, ofData?_toData parts]

@[simp]
theorem ofData?_toData : (formulas : List Formula) → ofData? (toData formulas) = some formulas
  | [] => rfl
  | formula :: rest => by
      simp [toData, ofData?, ofDatum?_toDatum formula, ofData?_toData rest]

end

mutual

theorem eq_toDatum_of_ofDatum? : (datum : Datum) → (formula : Formula) →
    ofDatum? datum = some formula → datum = formula.toDatum
  | .text _, _, isRead => by
      rw [ofDatum?, Option.some.injEq] at isRead
      rw [← isRead, toDatum]
  | .sequence elements, _, isRead => by
      rw [ofDatum?, Option.map_eq_some_iff] at isRead
      obtain ⟨parts, partsRead, rfl⟩ := isRead
      rw [toDatum, ← eq_toData_of_ofData? elements parts partsRead]
  | .null, _, isRead => by simp [ofDatum?] at isRead
  | .boolean _, _, isRead => by simp [ofDatum?] at isRead
  | .integer _, _, isRead => by simp [ofDatum?] at isRead
  | .float _, _, isRead => by simp [ofDatum?] at isRead
  | .moment, _, isRead => by simp [ofDatum?] at isRead
  | .mapping _, _, isRead => by simp [ofDatum?] at isRead

theorem eq_toData_of_ofData? : (data : List Datum) → (formulas : List Formula) →
    ofData? data = some formulas → data = toData formulas
  | [], _, areRead => by
      rw [ofData?, Option.some.injEq] at areRead
      rw [← areRead, toData]
  | datum :: rest, _, areRead => by
      rw [ofData?] at areRead
      split at areRead
      · next formula formulas isRead restRead =>
          cases areRead
          rw [toData, ← eq_toDatum_of_ofDatum? datum formula isRead,
            ← eq_toData_of_ofData? rest formulas restRead]
      · cases areRead

end

/-- A datum stands for a formula exactly if it is the datum of that formula. -/
theorem ofDatum?_eq_some_iff {datum : Datum} {formula : Formula} :
    ofDatum? datum = some formula ↔ datum = formula.toDatum :=
  ⟨eq_toDatum_of_ofDatum? datum formula, fun same => same ▸ ofDatum?_toDatum formula⟩

end Formula

end PlanningProblem
