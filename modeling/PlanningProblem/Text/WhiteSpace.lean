/-!
# White space

The Unicode property `White_Space`, and two operations on lists of characters
that depend on it: trimming both ends, and dropping every blank.  A trimmed
list has no blank at either end, and a list without blanks is left as it is by
both operations.
-/

namespace PlanningProblem

namespace Text

/-- The Unicode property `White_Space`. -/
def isBlank (char : Char) : Bool :=
  let code := char.toNat
  (0x0009 ≤ code && code ≤ 0x000D) || code == 0x0020 || code == 0x0085 || code == 0x00A0 ||
    code == 0x1680 || (0x2000 ≤ code && code ≤ 0x200A) || code == 0x2028 || code == 0x2029 ||
    code == 0x202F || code == 0x205F || code == 0x3000

def trimStart (chars : List Char) : List Char :=
  chars.dropWhile isBlank

def trimEnd (chars : List Char) : List Char :=
  (trimStart chars.reverse).reverse

/-- The characters between the first and the last visible one, both included. -/
def trim (chars : List Char) : List Char :=
  trimEnd (trimStart chars)

def dropBlanks (chars : List Char) : List Char :=
  chars.filter fun char => !isBlank char

theorem isBlank_head_trimStart {char : Char} {chars : List Char}
    (first : (trimStart chars).head? = some char) : isBlank char = false := by
  have visible := List.head?_dropWhile_not isBlank chars
  rw [trimStart] at first
  simpa [first] using visible

theorem not_isBlank_of_mem_dropBlanks {char : Char} {chars : List Char}
    (member : char ∈ dropBlanks chars) : isBlank char = false := by
  simpa [dropBlanks] using (List.mem_filter.mp member).2

/-- A list with no blank at either end. -/
structure Trimmed (chars : List Char) : Prop where
  first_visible : ∀ char ∈ chars.head?, isBlank char = false
  last_visible : ∀ char ∈ chars.getLast?, isBlank char = false

theorem trimStart_eq_self_iff {chars : List Char} :
    trimStart chars = chars ↔ ∀ char ∈ chars.head?, isBlank char = false := by
  constructor
  · intro unchanged char first
    rw [← unchanged] at first
    exact isBlank_head_trimStart first
  · intro visible
    cases chars with
    | nil => rfl
    | cons char rest => simp [trimStart, visible char rfl]

theorem trimEnd_eq_self_iff {chars : List Char} :
    trimEnd chars = chars ↔ ∀ char ∈ chars.getLast?, isBlank char = false := by
  rw [trimEnd, List.reverse_eq_iff, trimStart_eq_self_iff, List.head?_reverse]

theorem trimEnd_isPrefix (chars : List Char) : trimEnd chars <+: chars := by
  rw [trimEnd, ← List.reverse_suffix, List.reverse_reverse]
  exact List.dropWhile_suffix _

theorem mem_of_mem_trim {char : Char} {chars : List Char} (member : char ∈ trim chars) :
    char ∈ chars :=
  (List.dropWhile_suffix _).subset ((trimEnd_isPrefix _).subset member)

theorem trimmed_trim (chars : List Char) : Trimmed (trim chars) where
  first_visible char first := by
    obtain ⟨dropped, startEq⟩ := trimEnd_isPrefix (trimStart chars)
    have firstEq : (trimEnd (trimStart chars)).head? = some char := first
    have startFirst : (trimStart chars).head? = some char := by
      rw [← startEq, List.head?_append, firstEq, Option.some_or]
    exact isBlank_head_trimStart startFirst
  last_visible char last := by
    rw [trim, trimEnd, List.getLast?_reverse] at last
    exact isBlank_head_trimStart last

/-- Trimming changes nothing exactly if there is no blank at either end. -/
theorem trim_eq_self_iff {chars : List Char} : trim chars = chars ↔ Trimmed chars := by
  constructor
  · intro unchanged
    rw [← unchanged]
    exact trimmed_trim chars
  · intro trimmed
    rw [trim, trimStart_eq_self_iff.mpr trimmed.first_visible,
      trimEnd_eq_self_iff.mpr trimmed.last_visible]

theorem dropBlanks_eq_self {chars : List Char}
    (visible : ∀ char ∈ chars, isBlank char = false) : dropBlanks chars = chars := by
  simpa [dropBlanks] using visible

@[simp]
theorem dropBlanks_append (first second : List Char) :
    dropBlanks (first ++ second) = dropBlanks first ++ dropBlanks second :=
  List.filter_append ..

theorem dropBlanks_intercalate (separator : List Char) (pieces : List (List Char)) :
    dropBlanks (separator.intercalate pieces) =
      (dropBlanks separator).intercalate (pieces.map dropBlanks) := by
  induction pieces with
  | nil => rfl
  | cons piece rest ih =>
      cases rest with
      | nil => simp
      | cons next later =>
          rw [List.intercalate_cons_cons, dropBlanks_append, dropBlanks_append, ih,
            List.map_cons, List.map_cons, List.map_cons, List.intercalate_cons_cons]

end Text

end PlanningProblem
