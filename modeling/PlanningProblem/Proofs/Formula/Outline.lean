import PlanningProblem.Formula.Combinators
import PlanningProblem.Proofs.Formula.Lines

/-!
# Outlines

An outline is what a reader of a text sees: lines of their own, and blocks with
a head line, a body and a closing line.  A block splices its body into one
group, so a formula does not store where one operand ends and the next begins.
The leaves of an outline still determine it.  A line of its own is never
followed by a deeper line, nor by a closing line at its own depth, whereas the
head of a block is always followed by one of the two.
-/

namespace PlanningProblem

namespace Formula

/-- A line of its own, or a block with a head and a body. -/
inductive Outline where
  | single (token : String)
  | block (head : String) (body : List Outline)

namespace Outline

mutual

def toFormula : Outline → Formula
  | .single token => .atom token
  | .block head body => Formula.block head (toFormulas body)

def toFormulas : List Outline → List Formula
  | [] => []
  | outline :: rest => outline.toFormula :: toFormulas rest

end

mutual

/-- The lines of an outline, with the depth of each, from the depth of the first one. -/
def leaves : Outline → (depth : Nat) → List (Nat × String)
  | .single token, depth => [(depth, token)]
  | .block head body, depth =>
      (depth, "(" ++ head) :: leavesAll body (depth + 1) ++ [(depth, ")")]

def leavesAll : List Outline → (depth : Nat) → List (Nat × String)
  | [], _ => []
  | outline :: rest, depth => outline.leaves depth ++ leavesAll rest depth

end

mutual

/-- Every line can be read back, and no line of its own looks like the end of a block. -/
def Readable : Outline → Prop
  | .single token => Legible token ∧ token ≠ ")"
  | .block head body => '\n' ∉ head.toList ∧ ReadableAll body

def ReadableAll : List Outline → Prop
  | [] => True
  | outline :: rest => outline.Readable ∧ ReadableAll rest

end

end Outline

theorem leavesAll_append (first second : List Formula) (depth : Nat) :
    leavesAll (first ++ second) depth = leavesAll first depth ++ leavesAll second depth := by
  induction first with
  | nil => rfl
  | cons formula rest ih => rw [List.cons_append, leavesAll, leavesAll, ih, List.append_assoc]

theorem leavesAll_parts_block (name : String) (operands : List Formula) (depth : Nat) :
    leavesAll (block name operands).parts depth =
      (depth, "(" ++ name) :: leavesAll (operands.flatMap parts) (depth + 1) ++
        [(depth, ")")] := by
  simp only [block, parts_group, leavesAll, leaves, List.nil_append, List.append_nil,
    List.cons_append]

namespace Outline

mutual

theorem leavesAll_parts_toFormula : (outline : Outline) → (depth : Nat) →
    Formula.leavesAll outline.toFormula.parts depth = outline.leaves depth
  | .single token, depth => rfl
  | .block head body, depth => by
      rw [toFormula, leavesAll_parts_block, leavesAll_flatMap_toFormulas body, leaves]

theorem leavesAll_flatMap_toFormulas : (outlines : List Outline) → (depth : Nat) →
    Formula.leavesAll ((toFormulas outlines).flatMap parts) depth = leavesAll outlines depth
  | [], _ => rfl
  | outline :: rest, depth => by
      rw [toFormulas, List.flatMap_cons, leavesAll_append, leavesAll_parts_toFormula outline,
        leavesAll_flatMap_toFormulas rest, leavesAll]

end

theorem head?_leaves {outline : Outline} (readable : outline.Readable) (depth : Nat) :
    ∃ token, (outline.leaves depth).head? = some (depth, token) ∧ token ≠ ")" := by
  cases outline with
  | single token => exact ⟨token, rfl, readable.2⟩
  | block head body =>
      refine ⟨"(" ++ head, rfl, fun tokenEq => ?_⟩
      have listEq := congrArg String.toList tokenEq
      simp at listEq

/-- What stands after outlines at a depth: nothing, or a line further out. -/
def Ends (depth : Nat) (rest : List (Nat × String)) : Prop :=
  ∀ leaf ∈ rest.head?, leaf.1 < depth

/-- After a line of its own comes another outline at the same depth, or a line further out. -/
theorem head?_after_single {outlines : List Outline} {depth : Nat} {rest : List (Nat × String)}
    (readable : ReadableAll outlines) (ends : Ends depth rest) :
    ∀ leaf ∈ (leavesAll outlines depth ++ rest).head?,
      leaf.1 < depth ∨ leaf.1 = depth ∧ leaf.2 ≠ ")" := by
  intro leaf isHead
  cases outlines with
  | nil => exact .inl (ends leaf isHead)
  | cons outline outlines =>
      obtain ⟨token, headEq, different⟩ := head?_leaves readable.1 depth
      have leafEq : (depth, token) = leaf := by
        simpa [leavesAll, List.head?_append, headEq] using isHead
      subst leafEq
      exact .inr ⟨rfl, different⟩

/-- After the head of a block comes a line of its body, one level deeper, or its end. -/
theorem head?_after_head {body : List Outline} (readable : ReadableAll body) (depth : Nat)
    (rest : List (Nat × String)) :
    ∃ leaf ∈ (leavesAll body (depth + 1) ++ (depth, ")") :: rest).head?,
      depth < leaf.1 ∨ leaf = (depth, ")") := by
  cases body with
  | nil => exact ⟨_, rfl, .inr rfl⟩
  | cons outline outlines =>
      obtain ⟨token, headEq, -⟩ := head?_leaves readable.1 (depth + 1)
      refine ⟨(depth + 1, token), ?_, .inl (Nat.lt_succ_self depth)⟩
      simp [leavesAll, List.head?_append, headEq]

theorem after_single_ne_after_head {outlines body : List Outline} {depth : Nat}
    {rest blockRest : List (Nat × String)} (readable : ReadableAll outlines)
    (bodyReadable : ReadableAll body) (ends : Ends depth rest) :
    leavesAll outlines depth ++ rest ≠ leavesAll body (depth + 1) ++ (depth, ")") :: blockRest := by
  intro leavesEq
  obtain ⟨leaf, isHead, inside⟩ := head?_after_head bodyReadable depth blockRest
  rw [← leavesEq] at isHead
  have outside := head?_after_single readable ends leaf isHead
  rcases inside with deeper | rfl
  · omega
  · simp at outside

theorem leavesAll_single_cons (token : String) (outlines : List Outline) (depth : Nat)
    (rest : List (Nat × String)) :
    leavesAll (.single token :: outlines) depth ++ rest =
      (depth, token) :: (leavesAll outlines depth ++ rest) :=
  rfl

theorem leavesAll_block_cons (head : String) (body outlines : List Outline) (depth : Nat)
    (rest : List (Nat × String)) :
    leavesAll (.block head body :: outlines) depth ++ rest =
      (depth, "(" ++ head) ::
        (leavesAll body (depth + 1) ++ (depth, ")") :: (leavesAll outlines depth ++ rest)) := by
  simp only [leavesAll, leaves, List.append_assoc, List.cons_append, List.nil_append]

theorem leavesAll_cons_ne {outline : Outline} {outlines : List Outline} {depth : Nat}
    {firstRest secondRest : List (Nat × String)} (readable : outline.Readable)
    (ends : Ends depth firstRest) :
    firstRest ≠ leavesAll (outline :: outlines) depth ++ secondRest := by
  rintro rfl
  obtain ⟨token, headEq, -⟩ := head?_leaves readable depth
  have below := ends (depth, token) (by simp [leavesAll, List.head?_append, headEq])
  exact Nat.lt_irrefl depth below

/-- Outlines can be read off their lines in one way only, whatever comes after them further out. -/
theorem leavesAll_append_inj : (first second : List Outline) → (depth : Nat) →
    (firstRest secondRest : List (Nat × String)) → ReadableAll first → ReadableAll second →
    Ends depth firstRest → Ends depth secondRest →
    leavesAll first depth ++ firstRest = leavesAll second depth ++ secondRest →
    first = second ∧ firstRest = secondRest
  | [], [], _, _, _, _, _, _, _, leavesEq => ⟨rfl, leavesEq⟩
  | [], _ :: _, _, _, _, _, secondReadable, firstEnds, _, leavesEq =>
      absurd leavesEq (leavesAll_cons_ne secondReadable.1 firstEnds)
  | _ :: _, [], _, _, _, firstReadable, _, _, secondEnds, leavesEq =>
      absurd leavesEq.symm (leavesAll_cons_ne firstReadable.1 secondEnds)
  | .single token :: first, .single other :: second, depth, firstRest, secondRest,
      firstReadable, secondReadable, firstEnds, secondEnds, leavesEq => by
      rw [leavesAll_single_cons, leavesAll_single_cons, List.cons.injEq] at leavesEq
      obtain ⟨leafEq, leavesEq⟩ := leavesEq
      obtain ⟨rfl, restEq⟩ := leavesAll_append_inj first second depth firstRest secondRest
        firstReadable.2 secondReadable.2 firstEnds secondEnds leavesEq
      exact ⟨by rw [(Prod.mk.inj leafEq).2], restEq⟩
  | .single token :: first, .block head body :: second, depth, firstRest, secondRest,
      firstReadable, secondReadable, firstEnds, _, leavesEq => by
      rw [leavesAll_single_cons, leavesAll_block_cons, List.cons.injEq] at leavesEq
      exact absurd leavesEq.2
        (after_single_ne_after_head firstReadable.2 secondReadable.1.2 firstEnds)
  | .block head body :: first, .single token :: second, depth, firstRest, secondRest,
      firstReadable, secondReadable, _, secondEnds, leavesEq => by
      rw [leavesAll_single_cons, leavesAll_block_cons, List.cons.injEq] at leavesEq
      exact absurd leavesEq.2.symm
        (after_single_ne_after_head secondReadable.2 firstReadable.1.2 secondEnds)
  | .block head body :: first, .block other otherBody :: second, depth, firstRest, secondRest,
      firstReadable, secondReadable, firstEnds, secondEnds, leavesEq => by
      rw [leavesAll_block_cons, leavesAll_block_cons, List.cons.injEq] at leavesEq
      obtain ⟨leafEq, leavesEq⟩ := leavesEq
      have headEq : head = other := (String.append_right_inj _).mp (Prod.mk.inj leafEq).2
      -- The closing line is what comes after the body, further out, so the body can be read first.
      have closes (rest : List (Nat × String)) : Ends (depth + 1) ((depth, ")") :: rest) := by
        intro leaf isHead
        rw [List.head?_cons, Option.mem_some_iff] at isHead
        rw [← isHead]
        exact Nat.lt_succ_self depth
      obtain ⟨bodyEq, closedEq⟩ := leavesAll_append_inj body otherBody (depth + 1) _ _
        firstReadable.1.2 secondReadable.1.2 (closes _) (closes _) leavesEq
      obtain ⟨rfl, restEq⟩ := leavesAll_append_inj first second depth firstRest secondRest
        firstReadable.2 secondReadable.2 firstEnds secondEnds (List.cons.inj closedEq).2
      exact ⟨by rw [headEq, bodyEq], restEq⟩

mutual

theorem legibleFrom_of_mem_leaves : (outline : Outline) → outline.Readable → (depth : Nat) →
    ∀ leaf ∈ outline.leaves depth, LegibleFrom depth leaf
  | .single token, readable, depth, leaf, member => by
      rw [leaves, List.mem_singleton] at member
      subst member
      exact ⟨readable.1, Nat.le_refl depth⟩
  | .block head body, readable, depth, leaf, member => by
      rw [leaves, List.mem_append, List.mem_cons, List.mem_singleton] at member
      rcases member with (rfl | inside) | rfl
      · refine ⟨⟨?_, ?_⟩, Nat.le_refl depth⟩
        · simp [readable.1]
        · simp
      · have inBody := legibleFrom_of_mem_leavesAll body readable.2 (depth + 1) leaf inside
        exact inBody.mono (Nat.le_succ depth)
      · exact ⟨(by decide : Legible ")"), Nat.le_refl depth⟩

theorem legibleFrom_of_mem_leavesAll : (outlines : List Outline) → ReadableAll outlines →
    (depth : Nat) → ∀ leaf ∈ leavesAll outlines depth, LegibleFrom depth leaf
  | [], _, _, _, member => nomatch member
  | outline :: rest, readable, depth, leaf, member => by
      rw [leavesAll, List.mem_append] at member
      rcases member with inFirst | inRest
      · exact legibleFrom_of_mem_leaves outline readable.1 depth leaf inFirst
      · exact legibleFrom_of_mem_leavesAll rest readable.2 depth leaf inRest

end

theorem leaves_append_inj {first second : Outline} {depth : Nat}
    {firstRest secondRest : List (Nat × String)} (firstReadable : first.Readable)
    (secondReadable : second.Readable) (firstEnds : Ends depth firstRest)
    (secondEnds : Ends depth secondRest)
    (leavesEq : first.leaves depth ++ firstRest = second.leaves depth ++ secondRest) :
    first = second ∧ firstRest = secondRest := by
  have alone (outline : Outline) : leavesAll [outline] depth = outline.leaves depth := by
    rw [leavesAll, leavesAll, List.append_nil]
  rw [← alone first, ← alone second] at leavesEq
  obtain ⟨listEq, restEq⟩ := leavesAll_append_inj [first] [second] depth firstRest secondRest
    ⟨firstReadable, True.intro⟩ ⟨secondReadable, True.intro⟩ firstEnds secondEnds leavesEq
  exact ⟨(List.cons.inj listEq).1, restEq⟩

/-- An outline is determined by its lines, even if the depth of the first one is unknown. -/
theorem leaves_inj {first second : Outline} {firstDepth secondDepth : Nat}
    (firstReadable : first.Readable) (secondReadable : second.Readable)
    (leavesEq : first.leaves firstDepth = second.leaves secondDepth) : first = second := by
  obtain ⟨token, firstHead, -⟩ := head?_leaves firstReadable firstDepth
  obtain ⟨other, secondHead, -⟩ := head?_leaves secondReadable secondDepth
  rw [leavesEq, secondHead, Option.some.injEq] at firstHead
  have depthEq : secondDepth = firstDepth := (Prod.mk.inj firstHead).1
  subst depthEq
  have nothing : Ends secondDepth [] := fun leaf isHead => nomatch isHead
  rw [← List.append_nil (first.leaves secondDepth), ← List.append_nil (second.leaves secondDepth)]
    at leavesEq
  exact (leaves_append_inj firstReadable secondReadable nothing nothing leavesEq).1

/-- The depth of the first line of an outline whose formula lies in `depth` groups.  A line of
its own has no depth below 1, since its text is the same in one group as in none. -/
def startDepth : Outline → (depth : Nat) → Nat
  | .single _, depth => max depth 1
  | .block _ _, depth => depth + 1

theorem one_le_startDepth (outline : Outline) (depth : Nat) : 1 ≤ outline.startDepth depth := by
  cases outline with
  | single token => exact Nat.le_max_right depth 1
  | block head body => exact Nat.succ_pos depth

theorem render_toFormula (outline : Outline) (depth : Nat) :
    outline.toFormula.render depth = lines (outline.leaves (outline.startDepth depth)) := by
  cases outline with
  | single token =>
      have indentationEq : max depth 1 - 1 = depth - 1 := by omega
      rw [toFormula, render, leaves, startDepth, lines_cons, lines_nil, String.append_empty, line,
        line, indentationEq]
  | block head body =>
      rw [startDepth, ← leavesAll_parts_toFormula, ← renderAll_eq_lines]
      rfl

/-- The lines of the text of a readable outline lie in some group. -/
theorem Readable.legibleFrom_one {outline : Outline} (readable : outline.Readable) (depth : Nat) :
    ∀ leaf ∈ outline.leaves (outline.startDepth depth), LegibleFrom 1 leaf := by
  intro leaf member
  have inside := legibleFrom_of_mem_leaves outline readable (outline.startDepth depth) leaf member
  exact inside.mono (one_le_startDepth outline depth)

/-- Formulas with readable outlines are told apart by their texts at any depth. -/
theorem render_inj {first second : Outline} (firstReadable : first.Readable)
    (secondReadable : second.Readable) (depth : Nat)
    (textEq : first.toFormula.render depth = second.toFormula.render depth) : first = second := by
  rw [render_toFormula, render_toFormula] at textEq
  have leavesEq :=
    lines_inj (firstReadable.legibleFrom_one depth) (secondReadable.legibleFrom_one depth) textEq
  exact leaves_inj firstReadable secondReadable leavesEq

end Outline

end Formula

end PlanningProblem
