import PlanningProblem.Formula.Printer

/-!
# Depths that fit in a word

The printer counts depths in machine words, the layout counts them without a
bound.  This file proves that the two agree on every formula whose depths fit in
a word, and that the condition cannot be relaxed: beyond it a printer that stops
at an overflow prints nothing, and one that wraps writes every token as if it
lay at the remainder of its depth.
-/

namespace PlanningProblem

namespace Formula

theorem toNat_add_of_fits {depth further : UInt64}
    (fits : depth.toNat + further.toNat < UInt64.size) :
    (depth + further).toNat = depth.toNat + further.toNat := by
  rw [UInt64.toNat_add]
  exact Nat.mod_eq_of_lt fits

theorem toNat_deeper {depth : UInt64} (fits : depth.toNat + 1 < UInt64.size) :
    (depth + 1).toNat = depth.toNat + 1 :=
  toNat_add_of_fits fits

theorem FitsAt.lt {formula : Formula} {depth : Nat} (fits : formula.FitsAt depth) :
    depth < UInt64.size :=
  Nat.lt_of_le_of_lt (Nat.le_add_right depth formula.reach) fits

theorem FitsAt.of_le {formula : Formula} {depth outer : Nat} (fits : formula.FitsAt depth)
    (outerLe : outer ≤ depth) : formula.FitsAt outer :=
  Nat.lt_of_le_of_lt (Nat.add_le_add_right outerLe formula.reach) fits

theorem fits_cons_iff {formula : Formula} {rest : List Formula} {outer : Nat} :
    outer + reachAll (formula :: rest) < UInt64.size ↔
      formula.FitsAt (outer + 1) ∧ outer + reachAll rest < UInt64.size := by
  rw [reachAll, FitsAt]
  omega

theorem Overflow.deeper?_of_fits (overflow : Overflow) {depth : UInt64}
    (fits : depth.toNat + 1 < UInt64.size) : overflow.deeper? depth = some (depth + 1) := by
  cases overflow with
  | stops => exact if_pos fits
  | wraps => rfl

theorem printAll_cons_of_fits (overflow : Overflow) (formula : Formula) (rest : List Formula)
    {outer : UInt64} (fits : outer.toNat + 1 < UInt64.size) :
    printAll overflow (formula :: rest) outer = do
      let first ← formula.print overflow (outer + 1)
      let others ← printAll overflow rest outer
      return first ++ others := by
  rw [printAll, overflow.deeper?_of_fits fits]
  rfl

mutual

/-- Whatever an overflow does, the printer writes the layout as long as every depth fits. -/
theorem print_eq_some (overflow : Overflow) : (formula : Formula) → (depth : UInt64) →
    formula.FitsAt depth.toNat →
      formula.print overflow depth = some (formula.render depth.toNat)
  | .atom _, _, _ => rfl
  | .group parts, depth, fits => printAll_eq_some overflow parts depth fits

theorem printAll_eq_some (overflow : Overflow) : (formulas : List Formula) → (outer : UInt64) →
    outer.toNat + reachAll formulas < UInt64.size →
      printAll overflow formulas outer = some (renderAll formulas (outer.toNat + 1))
  | [], _, _ => rfl
  | formula :: rest, outer, fits => by
      obtain ⟨formulaFits, restFits⟩ := fits_cons_iff.mp fits
      have deeperFits := formulaFits.lt
      have depthEq := toNat_deeper deeperFits
      rw [← depthEq] at formulaFits
      rw [printAll_cons_of_fits overflow formula rest deeperFits,
        print_eq_some overflow formula (outer + 1) formulaFits,
        printAll_eq_some overflow rest outer restFits, depthEq, renderAll]
      rfl

end

theorem print_eq_iff_render (overflow : Overflow) {first second : Formula} {depth : UInt64}
    (firstFits : first.FitsAt depth.toNat) (secondFits : second.FitsAt depth.toNat) :
    first.print overflow depth = second.print overflow depth ↔
      first.render depth.toNat = second.render depth.toNat := by
  rw [print_eq_some overflow first depth firstFits, print_eq_some overflow second depth secondFits,
    Option.some_inj]

mutual

theorem print_stops_of_not_fitsAt : (formula : Formula) → (depth : UInt64) →
    ¬ formula.FitsAt depth.toNat → formula.print .stops depth = none
  | .atom _, depth, beyond => absurd depth.toNat_lt_size beyond
  | .group parts, depth, beyond => printAll_stops_of_not_fits parts depth beyond

theorem printAll_stops_of_not_fits : (formulas : List Formula) → (outer : UInt64) →
    ¬ outer.toNat + reachAll formulas < UInt64.size → printAll .stops formulas outer = none
  | [], outer, beyond => absurd outer.toNat_lt_size beyond
  | formula :: rest, outer, beyond => by
      by_cases deeperFits : outer.toNat + 1 < UInt64.size
      · rw [fits_cons_iff, ← toNat_deeper deeperFits] at beyond
        rw [printAll_cons_of_fits .stops formula rest deeperFits]
        -- A part that stops the printer stops it for the group, whatever came before.
        rcases Classical.not_and_iff_not_or_not.mp beyond with formulaBeyond | restBeyond
        · rw [print_stops_of_not_fitsAt formula (outer + 1) formulaBeyond]
          rfl
        · rw [printAll_stops_of_not_fits rest outer restBeyond]
          cases formula.print .stops (outer + 1) <;> rfl
      · rw [printAll, Overflow.deeper?, if_neg deeperFits]
        rfl

end

/-- A printer that stops at an overflow has no text exactly if some depth does not fit. -/
theorem print_stops_eq_none_iff (formula : Formula) (depth : UInt64) :
    formula.print .stops depth = none ↔ ¬ formula.FitsAt depth.toNat := by
  constructor
  · intro stopped fits
    rw [print_eq_some .stops formula depth fits] at stopped
    cases stopped
  · exact print_stops_of_not_fitsAt formula depth

/-- The leaf with its depth as a word that wraps counts it. -/
def wrapped (leaf : Nat × String) : Nat × String :=
  (leaf.1 % UInt64.size, leaf.2)

mutual

theorem print_wraps_ofNat : (formula : Formula) → (depth : Nat) →
    formula.print .wraps (UInt64.ofNat depth) =
      some (lines ((formula.leaves depth).map wrapped))
  | .atom token, depth => by
      rw [print, leaves, List.map_singleton, lines_cons, lines_nil, String.append_empty, wrapped,
        UInt64.toNat_ofNat']
  | .group parts, depth => printAll_wraps_ofNat parts depth

theorem printAll_wraps_ofNat : (formulas : List Formula) → (outer : Nat) →
    printAll .wraps formulas (UInt64.ofNat outer) =
      some (lines ((leavesAll formulas (outer + 1)).map wrapped))
  | [], _ => rfl
  | formula :: rest, outer => by
      have deeperEq : Overflow.wraps.deeper? (UInt64.ofNat outer) =
          some (UInt64.ofNat (outer + 1)) := by
        rw [Overflow.deeper?, UInt64.ofNat_add]
        rfl
      rw [printAll, deeperEq, Option.bind_eq_bind, Option.bind_some,
        print_wraps_ofNat formula (outer + 1), printAll_wraps_ofNat rest outer, leavesAll,
        List.map_append, lines_append]
      rfl

end

/-- A printer that wraps prints every token, in the same order, at the remainder of its depth. -/
theorem print_wraps (formula : Formula) (depth : UInt64) :
    formula.print .wraps depth = some (lines ((formula.leaves depth.toNat).map wrapped)) := by
  rw [← print_wraps_ofNat, UInt64.ofNat_toNat]

/-- At the largest depth, a part of a group comes to stand at the margin if the depth wraps. -/
example : (group [.atom "(p)"]).print .wraps 0xFFFFFFFFFFFFFFFF = some "(p)\n" := by
  decide +kernel

end Formula

end PlanningProblem
