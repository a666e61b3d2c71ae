import PlanningProblem.Proofs.Formula.WordDepth

/-!
# Indentation

Writing a formula deeper indents every one of its tokens further, and changes
nothing else.  The depth of a leaf counts from the depth of the formula, so the
leaves move together.  Only a token outside every group would be an exception,
since it starts at the margin like one in a single group.
-/

namespace PlanningProblem

namespace Formula

mutual

/-- Leaves lie at least as deep as the formula. -/
theorem le_of_mem_leaves : (formula : Formula) → (depth : Nat) →
    ∀ leaf ∈ formula.leaves depth, depth ≤ leaf.1
  | .atom token, depth, leaf, member => by
      rw [leaves, List.mem_singleton] at member
      exact Nat.le_of_eq (congrArg Prod.fst member).symm
  | .group parts, depth, leaf, member => by
      have deeper := le_of_mem_leavesAll parts (depth + 1) leaf member
      omega

theorem le_of_mem_leavesAll : (formulas : List Formula) → (depth : Nat) →
    ∀ leaf ∈ leavesAll formulas depth, depth ≤ leaf.1
  | [], _, _, member => nomatch member
  | formula :: rest, depth, leaf, member => by
      rw [leavesAll, List.mem_append] at member
      rcases member with inFirst | inRest
      · exact le_of_mem_leaves formula depth leaf inFirst
      · exact le_of_mem_leavesAll rest depth leaf inRest

end

mutual

theorem leaves_add (further : Nat) : (formula : Formula) → (depth : Nat) →
    formula.leaves (depth + further) =
      (formula.leaves depth).map fun leaf => (leaf.1 + further, leaf.2)
  | .atom token, depth => rfl
  | .group parts, depth => by
      rw [leaves, leaves, Nat.add_right_comm, leavesAll_add further parts (depth + 1)]

theorem leavesAll_add (further : Nat) : (formulas : List Formula) → (depth : Nat) →
    leavesAll formulas (depth + further) =
      (leavesAll formulas depth).map fun leaf => (leaf.1 + further, leaf.2)
  | [], _ => rfl
  | formula :: rest, depth => by
      rw [leavesAll, leavesAll, List.map_append, leaves_add further formula depth,
        leavesAll_add further rest depth]

end

theorem tabs_add (first second : Nat) : tabs (first + second) = tabs first ++ tabs second := by
  rw [tabs, tabs, tabs, ← List.replicate_append_replicate, String.ofList_append]

/-- Inside a group, one level of depth is one tab. -/
theorem line_add {depth : Nat} (inGroup : 1 ≤ depth) (further : Nat) (token : String) :
    line (depth + further) token = tabs further ++ line depth token := by
  have tabsEq : depth + further - 1 = further + (depth - 1) := by omega
  rw [line, line, tabsEq, tabs_add, String.append_assoc, String.append_assoc,
    String.append_assoc]

/-- The lines of leaves, with the same number of further tabs in front of each token. -/
def linesBehind (further : Nat) (leaves : List (Nat × String)) : String :=
  String.join (leaves.map fun leaf => tabs further ++ line leaf.1 leaf.2)

theorem lines_map_add (further : Nat) {leaves : List (Nat × String)}
    (inGroup : ∀ leaf ∈ leaves, 1 ≤ leaf.1) :
    lines (leaves.map fun leaf => (leaf.1 + further, leaf.2)) = linesBehind further leaves := by
  rw [lines, linesBehind, List.map_map]
  congr 1
  apply List.map_congr_left
  intro leaf member
  exact line_add (inGroup leaf member) further leaf.2

/-- A formula that lies in a group, or is one, has all its tokens in some group. -/
theorem one_le_of_mem_leaves {formula : Formula} {depth : Nat}
    (inGroup : 1 ≤ depth ∨ formula.isAtom = false) :
    ∀ leaf ∈ formula.leaves depth, 1 ≤ leaf.1 := by
  intro leaf member
  rcases inGroup with inOuter | isGroup
  · exact Nat.le_trans inOuter (le_of_mem_leaves formula depth leaf member)
  · cases formula with
    | atom token => cases isGroup
    | group parts =>
        have deeper := le_of_mem_leavesAll parts (depth + 1) leaf member
        omega

/-- Further groups around a formula are that many more tabs before every token. -/
theorem render_add {formula : Formula} {depth : Nat}
    (inGroup : 1 ≤ depth ∨ formula.isAtom = false) (further : Nat) :
    formula.render (depth + further) = linesBehind further (formula.leaves depth) := by
  rw [render_eq_lines, leaves_add, lines_map_add]
  exact one_le_of_mem_leaves inGroup

/-- A group that lies in further groups is written with one more tab before every token for each of
them. -/
theorem render_group (parts : List Formula) (further : Nat) :
    (group parts).render further = linesBehind further ((group parts).leaves 0) := by
  rw [← render_add (.inr rfl), Nat.zero_add]

section Printing

variable (overflow : Overflow)

/-- The printer, too, puts further tabs before every token, as long as the sum of the depths fits
in a word. -/
theorem print_add {formula : Formula} {depth further : UInt64}
    (inGroup : 1 ≤ depth.toNat ∨ formula.isAtom = false)
    (fits : formula.FitsAt (depth.toNat + further.toNat)) :
    formula.print overflow (depth + further) =
      some (linesBehind further.toNat (formula.leaves depth.toNat)) := by
  have depthEq := toNat_add_of_fits fits.lt
  rw [← depthEq] at fits
  rw [print_eq_some overflow formula (depth + further) fits, depthEq, render_add inGroup]

theorem print_group {parts : List Formula} {further : UInt64}
    (fits : (group parts).FitsAt further.toNat) :
    (group parts).print overflow further =
      some (linesBehind further.toNat ((group parts).leaves 0)) := by
  rw [print_eq_some overflow (group parts) further fits, render_group]

end Printing

end Formula

end PlanningProblem
