import PlanningProblem.Formula.Layout
import PlanningProblem.Proofs.Separation

/-!
# Reading lines back

The text of a formula is the lines of its leaves.  Tokens that hold no line
break and do not start with a tab can be read back from it: a line ends at the
first line break, and its token starts after the tabs.  What remains unknown is
only whether a token at the margin lies in one group or in none.
-/

namespace PlanningProblem

namespace Formula

/-- A token that can be told from the tabs before it and the line break after it. -/
structure Legible (token : String) : Prop where
  oneLine : '\n' ∉ token.toList
  unindented : token.toList.head? ≠ some '\t'

instance (token : String) : Decidable (Legible token) :=
  decidable_of_iff ('\n' ∉ token.toList ∧ token.toList.head? ≠ some '\t')
    ⟨fun ⟨oneLine, unindented⟩ => ⟨oneLine, unindented⟩,
      fun legible => ⟨legible.oneLine, legible.unindented⟩⟩

/-- A line that can be read back and lies in at least so many groups. -/
structure LegibleFrom (depth : Nat) (leaf : Nat × String) : Prop where
  legible : Legible leaf.2
  le_depth : depth ≤ leaf.1

theorem LegibleFrom.mono {lower depth : Nat} {leaf : Nat × String} (inside : LegibleFrom depth leaf)
    (le : lower ≤ depth) : LegibleFrom lower leaf where
  legible := inside.legible
  le_depth := Nat.le_trans le inside.le_depth

theorem toList_line (depth : Nat) (token : String) :
    (line depth token).toList = List.replicate (depth - 1) '\t' ++ token.toList ++ ['\n'] := by
  simp [line, tabs]

theorem indented_inj {first second : Nat} {firstToken secondToken : String}
    (firstLegible : Legible firstToken) (secondLegible : Legible secondToken)
    (indentedEq : List.replicate first '\t' ++ firstToken.toList =
      List.replicate second '\t' ++ secondToken.toList) :
    first = second ∧ firstToken = secondToken := by
  have parts := split_unique (· = '\t')
    (fun char member => List.eq_of_mem_replicate member)
    (fun char member => List.eq_of_mem_replicate member)
    (fun char isHead isTab => firstLegible.unindented (isTab ▸ isHead))
    (fun char isHead isTab => secondLegible.unindented (isTab ▸ isHead)) indentedEq
  have countEq : first = second := by simpa using congrArg List.length parts.1
  exact ⟨countEq, String.toList_inj.mp parts.2⟩

/-- The first line of a text determines its indentation and its token, and what follows it. -/
theorem line_append_inj {first second : Nat} {firstToken secondToken firstRest secondRest : String}
    (firstLegible : Legible firstToken) (secondLegible : Legible secondToken)
    (textEq : line first firstToken ++ firstRest = line second secondToken ++ secondRest) :
    first - 1 = second - 1 ∧ firstToken = secondToken ∧ firstRest = secondRest := by
  have listEq := congrArg String.toList textEq
  simp only [String.toList_append, toList_line, List.append_assoc, List.singleton_append]
    at listEq
  rw [← List.append_assoc, ← List.append_assoc (List.replicate (second - 1) '\t')] at listEq
  have free {count : Nat} {token : String} (legible : Legible token) :
      '\n' ∉ List.replicate count '\t' ++ token.toList := by
    simp [legible.oneLine, List.mem_replicate]
  obtain ⟨indentedEq, restEq⟩ := split_unique_at (free firstLegible) (free secondLegible) listEq
  obtain ⟨countEq, tokenEq⟩ := indented_inj firstLegible secondLegible indentedEq
  exact ⟨countEq, tokenEq, String.toList_inj.mp restEq⟩

theorem line_append_ne_empty (depth : Nat) (token rest : String) :
    line depth token ++ rest ≠ "" := fun emptyEq => by
  have listEq := congrArg String.toList emptyEq
  simp [toList_line] at listEq

/-- Leaves that all lie in a group are determined by their lines. -/
theorem lines_inj {first second : List (Nat × String)}
    (firstInside : ∀ leaf ∈ first, LegibleFrom 1 leaf)
    (secondInside : ∀ leaf ∈ second, LegibleFrom 1 leaf)
    (linesEq : lines first = lines second) : first = second := by
  induction first generalizing second with
  | nil =>
      cases second with
      | nil => rfl
      | cons other others =>
          rw [lines_nil, lines_cons] at linesEq
          exact absurd linesEq.symm (line_append_ne_empty _ _ _)
  | cons leaf leaves ih =>
      cases second with
      | nil =>
          rw [lines_nil, lines_cons] at linesEq
          exact absurd linesEq (line_append_ne_empty _ _ _)
      | cons other others =>
          rw [lines_cons, lines_cons] at linesEq
          rw [List.forall_mem_cons] at firstInside secondInside
          obtain ⟨indentationEq, tokenEq, restEq⟩ :=
            line_append_inj firstInside.1.legible secondInside.1.legible linesEq
          -- Lines at depth 0 and depth 1 look the same, so equal indentations are not enough.
          have depthEq : leaf.1 = other.1 := by
            have firstDepth := firstInside.1.le_depth
            have secondDepth := secondInside.1.le_depth
            omega
          have leavesEq := ih firstInside.2 secondInside.2 restEq
          rw [Prod.ext depthEq tokenEq, leavesEq]

end Formula

end PlanningProblem
