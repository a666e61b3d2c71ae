import Mathlib.Data.List.Infix

/-!
# Balanced parentheses

A text is balanced if each of its closing parentheses closes one that was opened
before, and none stays open.  Texts without parentheses are balanced, and so are
balanced texts in a row and a balanced text in parentheses.  The latter is a
single expression: nothing but its last parenthesis closes the first one.
-/

namespace PlanningProblem

namespace Text

/-- By how much opening parentheses outnumber closing ones. -/
def excess (chars : List Char) : Int :=
  chars.count '(' - chars.count ')'

@[simp]
theorem excess_append (first second : List Char) :
    excess (first ++ second) = excess first + excess second := by
  simp only [excess, List.count_append]
  omega

@[simp]
theorem excess_open_cons (rest : List Char) : excess ('(' :: rest) = excess rest + 1 := by
  simp [excess]
  omega

@[simp]
theorem excess_close : excess [')'] = -1 :=
  rfl

def Unparenthesized (text : String) : Prop :=
  '(' ∉ text.toList ∧ ')' ∉ text.toList

instance (text : String) : Decidable (Unparenthesized text) :=
  inferInstanceAs (Decidable (_ ∧ _))

theorem excess_of_not_mem {chars : List Char} (unopened : '(' ∉ chars) (unclosed : ')' ∉ chars) :
    excess chars = 0 := by
  rw [excess, List.count_eq_zero_of_not_mem unopened, List.count_eq_zero_of_not_mem unclosed]
  rfl

/-- Every closing parenthesis closes one before it, and none stays open. -/
structure Balanced (text : String) : Prop where
  nonneg : ∀ before, before <+: text.toList → 0 ≤ excess before
  closed : excess text.toList = 0

instance (text : String) : Decidable (Balanced text) :=
  decidable_of_iff ((∀ before ∈ text.toList.inits, 0 ≤ excess before) ∧ excess text.toList = 0)
    ⟨fun ⟨nonneg, closed⟩ =>
        ⟨fun before start => nonneg before ((List.mem_inits _ _).mpr start), closed⟩,
      fun balanced =>
        ⟨fun before member => balanced.nonneg before ((List.mem_inits _ _).mp member),
          balanced.closed⟩⟩

theorem Unparenthesized.balanced {text : String} (unparenthesized : Unparenthesized text) :
    Balanced text where
  nonneg before start := by
    have unopened : '(' ∉ before := fun opened => unparenthesized.1 (start.subset opened)
    have unclosed : ')' ∉ before := fun closed => unparenthesized.2 (start.subset closed)
    exact Int.le_of_eq (excess_of_not_mem unopened unclosed).symm
  closed := excess_of_not_mem unparenthesized.1 unparenthesized.2

/-- After a balanced text, counting starts anew. -/
theorem Balanced.append {first second : String} (firstBalanced : Balanced first)
    (secondBalanced : Balanced second) : Balanced (first ++ second) where
  nonneg before start := by
    rw [String.toList_append] at start
    rcases List.prefix_or_prefix_of_prefix start (List.prefix_append _ _) with
      inFirst | ⟨later, rfl⟩
    · exact firstBalanced.nonneg before inFirst
    · have inSecond : later <+: second.toList := (List.prefix_append_right_inj _).mp start
      rw [excess_append, firstBalanced.closed, Int.zero_add]
      exact secondBalanced.nonneg later inSecond
  closed := by
    rw [String.toList_append, excess_append, firstBalanced.closed, secondBalanced.closed]
    rfl

theorem toList_enclosed (inside : String) :
    ("(" ++ inside ++ ")").toList = '(' :: inside.toList ++ [')'] := by
  simp

/-- Between the parenthesis that encloses a balanced text and the one that closes it, something is
always open. -/
theorem Balanced.excess_pos {inside : String} (balanced : Balanced inside) {before : List Char}
    (start : before <+: '(' :: inside.toList) (nonempty : before ≠ []) : 1 ≤ excess before := by
  cases before with
  | nil => exact absurd rfl nonempty
  | cons char later =>
      obtain ⟨rfl, laterStart⟩ := List.cons_prefix_cons.mp start
      have laterNonneg := balanced.nonneg later laterStart
      rw [excess_open_cons]
      omega

theorem Balanced.excess_enclosed {inside : String} (balanced : Balanced inside) :
    excess ('(' :: inside.toList ++ [')']) = 0 := by
  rw [excess_append, excess_open_cons, balanced.closed, excess_close]
  rfl

theorem Balanced.enclosed {inside : String} (balanced : Balanced inside) :
    Balanced ("(" ++ inside ++ ")") where
  nonneg before start := by
    rw [toList_enclosed, List.prefix_concat_iff] at start
    rcases start with rfl | start
    · exact Int.le_of_eq balanced.excess_enclosed.symm
    · by_cases empty : before = []
      · exact Int.le_of_eq (congrArg excess empty).symm
      · exact Int.le_trans (by decide) (balanced.excess_pos start empty)
  closed := by rw [toList_enclosed, balanced.excess_enclosed]

/-- A text that is one expression: the parenthesis with which it starts stays open up to the last
one, which closes it, and after that only the line ends. -/
def SingleExpression (text : String) : Prop :=
  ∃ body, text.toList = body ++ [')', '\n'] ∧
    (∀ before, before <+: body → before ≠ [] → 1 ≤ excess before) ∧ excess (body ++ [')']) = 0

theorem Balanced.singleExpression {inside : String} (balanced : Balanced inside) :
    SingleExpression ("(" ++ inside ++ ")\n") :=
  ⟨'(' :: inside.toList, by simp, fun _ => balanced.excess_pos, balanced.excess_enclosed⟩

end Text

end PlanningProblem
