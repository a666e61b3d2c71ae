import Mathlib.Data.List.Basic
import PlanningProblem.Proofs.Formula.Indentation
import PlanningProblem.Proofs.Formula.Lines

/-!
# What a text tells of the grouping

Two formulas can differ in their groups and still have the same tokens at the
same depths, for instance if one of them has an empty group more.  The text does
not tell such formulas apart, and tells all others apart.  Only outside every
group it shows less than the depths, since a lone token starts at the margin
like one in a single group.
-/

namespace PlanningProblem

namespace Formula

/-- Every token of the formula can be read back from its line. -/
def LegibleTokens (formula : Formula) : Prop :=
  ∀ leaf ∈ formula.leaves 0, Legible leaf.2

instance : DecidablePred LegibleTokens := fun formula =>
  inferInstanceAs (Decidable (∀ leaf ∈ formula.leaves 0, Legible leaf.2))

/-- The leaf as its line shows it: at depth 0 like one at depth 1. -/
def shown (leaf : Nat × String) : Nat × String :=
  (max leaf.1 1, leaf.2)

theorem shown_eq_self {leaf : Nat × String} (inGroup : 1 ≤ leaf.1) : shown leaf = leaf :=
  Prod.ext (Nat.max_eq_left inGroup) rfl

theorem lines_map_shown (leaves : List (Nat × String)) :
    lines (leaves.map shown) = lines leaves := by
  have lineEq (leaf : Nat × String) : line (shown leaf).1 (shown leaf).2 = line leaf.1 leaf.2 := by
    have indentationEq : max leaf.1 1 - 1 = leaf.1 - 1 := by omega
    rw [shown, line, line, indentationEq]
  induction leaves with
  | nil => rfl
  | cons leaf rest ih => rw [List.map_cons, lines_cons, lines_cons, lineEq, ih]

/-- Lines show their leaves and nothing else. -/
theorem lines_eq_iff {first second : List (Nat × String)}
    (firstLegible : ∀ leaf ∈ first, Legible leaf.2)
    (secondLegible : ∀ leaf ∈ second, Legible leaf.2) :
    lines first = lines second ↔ first.map shown = second.map shown := by
  have inside {leaves : List (Nat × String)} (legible : ∀ leaf ∈ leaves, Legible leaf.2) :
      ∀ leaf ∈ leaves.map shown, LegibleFrom 1 leaf := by
    rw [List.forall_mem_map]
    exact fun leaf member => ⟨legible leaf member, Nat.le_max_right leaf.1 1⟩
  constructor
  · intro linesEq
    -- As shown, every leaf lies in some group, where lines determine their leaves.
    rw [← lines_map_shown first, ← lines_map_shown second] at linesEq
    exact lines_inj (inside firstLegible) (inside secondLegible) linesEq
  · intro shownEq
    rw [← lines_map_shown first, shownEq, lines_map_shown]

theorem leaves_eq_map (formula : Formula) (depth : Nat) :
    formula.leaves depth = (formula.leaves 0).map fun leaf => (leaf.1 + depth, leaf.2) := by
  rw [← leaves_add, Nat.zero_add]

theorem LegibleTokens.of_mem_leaves {formula : Formula} (legible : formula.LegibleTokens)
    (depth : Nat) : ∀ leaf ∈ formula.leaves depth, Legible leaf.2 := by
  rw [leaves_eq_map, List.forall_mem_map]
  exact legible

/-- Depths count from the depth of the formula, so formulas share their leaves at every depth or at
none. -/
theorem leaves_eq_iff (first second : Formula) (depth : Nat) :
    first.leaves depth = second.leaves depth ↔ first.leaves 0 = second.leaves 0 := by
  have deepened : Function.Injective fun leaf : Nat × String => (leaf.1 + depth, leaf.2) := by
    intro leaf other leafEq
    obtain ⟨depthEq, tokenEq⟩ := Prod.mk.inj leafEq
    exact Prod.ext (Nat.add_right_cancel depthEq) tokenEq
  rw [leaves_eq_map first, leaves_eq_map second]
  exact deepened.list_map.eq_iff

section Texts

variable {first second : Formula} (firstLegible : first.LegibleTokens)
  (secondLegible : second.LegibleTokens)

include firstLegible secondLegible

theorem render_eq_iff_shown (depth : Nat) :
    first.render depth = second.render depth ↔
      (first.leaves depth).map shown = (second.leaves depth).map shown := by
  rw [render_eq_lines, render_eq_lines,
    lines_eq_iff (firstLegible.of_mem_leaves depth) (secondLegible.of_mem_leaves depth)]

/-- Inside a group the text tells exactly the tokens and their depths. -/
theorem render_eq_iff_leaves {depth : Nat} (inGroup : 1 ≤ depth) :
    first.render depth = second.render depth ↔ first.leaves 0 = second.leaves 0 := by
  have allShown (formula : Formula) :
      (formula.leaves depth).map shown = formula.leaves depth :=
    calc
      (formula.leaves depth).map shown = (formula.leaves depth).map id :=
        List.map_congr_left fun leaf member =>
          shown_eq_self (one_le_of_mem_leaves (.inl inGroup) leaf member)
      _ = formula.leaves depth := List.map_id _
  rw [render_eq_iff_shown firstLegible secondLegible, allShown, allShown, leaves_eq_iff]

end Texts

/-- What is printed for a formula in some group tells its tokens with their depths and nothing else
of its grouping; what is printed outside every group does not tell depth 0 from depth 1.  Further
groups around a formula that lies in one, or is one, are as many more tabs before each token. -/
theorem print_forgets_grouping (overflow : Overflow) :
    (∀ first second : Formula, first.LegibleTokens → second.LegibleTokens →
      (∀ depth : UInt64, 1 ≤ depth → first.FitsAt depth.toNat → second.FitsAt depth.toNat →
        (first.print overflow depth = second.print overflow depth ↔
          first.leaves 0 = second.leaves 0)) ∧
      (first.FitsAt 0 → second.FitsAt 0 →
        (first.print overflow 0 = second.print overflow 0 ↔
          (first.leaves 0).map shown = (second.leaves 0).map shown))) ∧
      ∀ (formula : Formula) (depth further : UInt64), 1 ≤ depth ∨ formula.isAtom = false →
        formula.FitsAt (depth.toNat + further.toNat) →
          formula.print overflow depth =
              some (String.join ((formula.leaves depth.toNat).map fun leaf =>
                String.ofList (List.replicate (leaf.1 - 1) '\t') ++ leaf.2 ++ "\n")) ∧
            formula.print overflow (depth + further) =
              some (String.join ((formula.leaves depth.toNat).map fun leaf =>
                String.ofList (List.replicate further.toNat '\t') ++
                  (String.ofList (List.replicate (leaf.1 - 1) '\t') ++ leaf.2 ++ "\n"))) := by
  refine ⟨fun first second firstLegible secondLegible => ⟨?_, ?_⟩, ?_⟩
  · intro depth inGroup firstFits secondFits
    rw [print_eq_iff_render overflow firstFits secondFits]
    exact render_eq_iff_leaves firstLegible secondLegible (UInt64.le_iff_toNat_le.mp inGroup)
  · intro firstFits secondFits
    exact (print_eq_iff_render overflow firstFits secondFits).trans
      (render_eq_iff_shown firstLegible secondLegible 0)
  · intro formula depth further inGroup fits
    constructor
    · rw [print_eq_some overflow formula depth (fits.of_le (Nat.le_add_right _ _)),
        render_eq_lines]
      rfl
    · rw [print_add overflow (inGroup.imp_left UInt64.le_iff_toNat_le.mp) fits]
      rfl

/-- A token that changes its group but not its depth, and one that leaves its only group. -/
theorem print_forgets_grouping_moved :
    let apart : Formula := .group [.atom "(and", .group [.group [], .atom "(p)"],
      .group [.atom "(q)"], .atom ")"]
    let together : Formula := .group [.atom "(and", .group [.atom "(p)", .atom "(q)"], .atom ")"]
    let alone : Formula := .atom "(p)"
    let grouped : Formula := .group [.atom "(p)"]
    apart.LegibleTokens ∧ together.LegibleTokens ∧ apart ≠ together ∧
      apart.FitsAt 3 ∧ together.FitsAt 3 ∧ apart.print .wraps 3 = together.print .wraps 3 ∧
      apart.print .wraps 0 = together.print .wraps 0 ∧
      alone.LegibleTokens ∧ grouped.LegibleTokens ∧ alone.FitsAt 1 ∧ grouped.FitsAt 1 ∧
      alone.print .wraps 0 = grouped.print .wraps 0 ∧
      alone.print .wraps 1 ≠ grouped.print .wraps 1 ∧
      apart.isAtom = false ∧
      apart.print .wraps 2 =
        some ("\t\t(and\n" ++ "\t\t\t(p)\n" ++ "\t\t\t(q)\n" ++ "\t\t)\n") := by
  intro apart together alone grouped
  obtain ⟨told, deepened⟩ := print_forgets_grouping .wraps
  have apartLegible : apart.LegibleTokens := by decide
  have togetherLegible : together.LegibleTokens := by decide
  have aloneLegible : alone.LegibleTokens := by decide
  have groupedLegible : grouped.LegibleTokens := by decide
  have apartFits : apart.FitsAt 3 := by decide
  have togetherFits : together.FitsAt 3 := by decide
  have aloneFits : alone.FitsAt 1 := by decide
  have groupedFits : grouped.FitsAt 1 := by decide
  obtain ⟨inGroup, outside⟩ := told apart together apartLegible togetherLegible
  obtain ⟨loneInGroup, loneOutside⟩ := told alone grouped aloneLegible groupedLegible
  refine ⟨apartLegible, togetherLegible, by decide, apartFits, togetherFits,
    (inGroup 3 (by decide) apartFits togetherFits).mpr rfl,
    (outside (by decide) (by decide)).mpr rfl, aloneLegible, groupedLegible, aloneFits,
    groupedFits, (loneOutside (by decide) (by decide)).mpr rfl, ?_, rfl, ?_⟩
  · rw [Ne, loneInGroup 1 (by decide) aloneFits groupedFits]
    decide
  · exact (deepened apart 0 2 (.inr rfl) (by decide)).2

end Formula

end PlanningProblem
