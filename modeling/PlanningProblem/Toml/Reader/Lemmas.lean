import PlanningProblem.Toml.Reader.Basic

/-!
# Running readers

What each combinator does to an input.  The main statements are about repetition:
if a reader takes each of some pieces, given what can follow a piece, and fails
on what comes after the last one, then repeating it takes exactly these pieces,
with or without separators between them.  Where only the values matter that a
reader can give, whatever it takes, its parts are followed with `Yields`.
-/

namespace PlanningProblem

namespace Toml

variable {α β : Type}

theorem pure_apply (value : α) (input : List Char) :
    (pure value : Reader α) input = some (value, input) :=
  rfl

theorem bind_apply (reader : Reader α) (next : α → Reader β) (input : List Char) :
    (reader >>= next) input = (reader input).bind fun (value, rest) => next value rest := by
  change StateT.bind reader next input = _
  simp only [StateT.bind]
  cases reader input <;> rfl

/-- If the first reader takes something, the next one goes on behind that. -/
theorem bind_of_taken {reader : Reader α} {next : α → Reader β} {input rest : List Char}
    {value : α} (taken : reader input = some (value, rest)) :
    (reader >>= next) input = next value rest := by
  rw [bind_apply, taken, Option.bind_some]

theorem bind_of_failed {reader : Reader α} {next : α → Reader β} {input : List Char}
    (failed : reader input = none) : (reader >>= next) input = none := by
  rw [bind_apply, failed, Option.bind_none]

theorem orElse_apply (first second : Reader α) (input : List Char) :
    (first <|> second) input = (first input).or (second input) := by
  change StateT.orElse first (fun _ => second) input = _
  simp only [StateT.orElse]
  cases first input <;> rfl

theorem orElse_of_taken {first second : Reader α} {input rest : List Char} {value : α}
    (taken : first input = some (value, rest)) :
    (first <|> second) input = some (value, rest) := by
  rw [orElse_apply, taken, Option.some_or]

theorem orElse_of_failed {first second : Reader α} {input : List Char}
    (failed : first input = none) : (first <|> second) input = second input := by
  rw [orElse_apply, failed, Option.none_or]

theorem discard_apply (reader : Reader α) (input : List Char) :
    discard reader input = (reader input).map fun (_, rest) => ((), rest) := by
  change StateT.map (Function.const α ()) reader input = _
  simp only [StateT.map]
  cases reader input <;> rfl

theorem seqRight_of_taken {first : Reader α} {second : Reader β} {input rest : List Char}
    {value : α} (taken : first input = some (value, rest)) :
    (first *> second) input = second rest :=
  bind_of_taken taken

theorem seqRight_of_failed {first : Reader α} {second : Reader β} {input : List Char}
    (failed : first input = none) : (first *> second) input = none :=
  bind_of_failed failed

theorem seqLeft_of_taken {first : Reader α} {second : Reader β} {input rest left : List Char}
    {value : α} {other : β} (taken : first input = some (value, rest))
    (skipped : second rest = some (other, left)) :
    (first <* second) input = some (value, left) := by
  change (first >>= fun value => second >>= fun _ => pure value) input = _
  rw [bind_of_taken taken, bind_of_taken skipped, pure_apply]

theorem map_of_taken {convert : α → β} {reader : Reader α} {input rest : List Char} {value : α}
    (taken : reader input = some (value, rest)) :
    (convert <$> reader) input = some (convert value, rest) := by
  change (reader >>= fun value => pure (convert value)) input = _
  rw [bind_of_taken taken, pure_apply]

theorem optional_of_taken {reader : Reader α} {input rest : List Char} {value : α}
    (taken : reader input = some (value, rest)) :
    optional reader input = some (some value, rest) :=
  orElse_of_taken (map_of_taken taken)

theorem optional_of_failed {reader : Reader α} {input : List Char} (failed : reader input = none) :
    optional reader input = some (none, input) := by
  have notMapped : (reader >>= fun value => pure (some value)) input = none := bind_of_failed failed
  exact orElse_of_failed notMapped

@[simp]
theorem satisfy_cons (accepts : Char → Bool) (char : Char) (rest : List Char) :
    satisfy accepts (char :: rest) = if accepts char then some (char, rest) else none :=
  rfl

@[simp]
theorem char_cons_self (expected : Char) (rest : List Char) :
    char expected (expected :: rest) = some ((), rest) := by
  simp [char, discard_apply]

theorem char_cons_of_ne {expected other : Char} (different : other ≠ expected)
    (rest : List Char) : char expected (other :: rest) = none := by
  simp [char, discard_apply, different]

theorem chars_cons_apply (first : Char) (others input : List Char) :
    chars (first :: others) input = (char first input).bind fun (_, rest) => chars others rest :=
  bind_apply (char first) (fun _ => chars others) input

theorem chars_eq_none_of_differs {expected input : List Char}
    (differs : ¬ expected <+: input) : chars expected input = none := by
  induction expected generalizing input with
  | nil => exact absurd List.nil_prefix differs
  | cons first others ih =>
      rw [chars_cons_apply]
      cases input with
      | nil => rfl
      | cons head rest =>
          by_cases same : head = first
          · subst same
            rw [char_cons_self, Option.bind_some]
            exact ih fun agrees => differs (List.cons_prefix_cons.mpr ⟨rfl, agrees⟩)
          · rw [char_cons_of_ne same, Option.bind_none]

@[simp]
theorem takeWhile_apply (accepts : Char → Bool) (input : List Char) :
    takeWhile accepts input = some (input.takeWhile accepts, input.dropWhile accepts) :=
  rfl

/-- What is accepted is taken up to the first character that is not. -/
theorem takeWhile_append {accepts : Char → Bool} {taken left : List Char}
    (each : ∀ char ∈ taken, accepts char = true)
    (ends : ∀ char ∈ left.head?, accepts char = false) :
    takeWhile accepts (taken ++ left) = some (taken, left) := by
  rw [takeWhile_apply, List.takeWhile_append_of_pos each, List.dropWhile_append_of_pos each]
  cases left with
  | nil => simp
  | cons char rest =>
      have refused := ends char rfl
      simp [refused]

theorem takeWhile1_cons_append {accepts : Char → Bool} {first : Char} {taken left : List Char}
    (each : ∀ char ∈ first :: taken, accepts char = true)
    (ends : ∀ char ∈ left.head?, accepts char = false) :
    takeWhile1 accepts (first :: (taken ++ left)) = some (first :: taken, left) := by
  rw [List.forall_mem_cons] at each
  have isFirst : satisfy accepts (first :: (taken ++ left)) = some (first, taken ++ left) := by
    rw [satisfy_cons, if_pos each.1]
  rw [takeWhile1, bind_of_taken isFirst, bind_of_taken (takeWhile_append each.2 ends), pure_apply]

section Repetition

variable {reader : Reader α} {spelling : β → List Char} {meaning : β → α} {pieces : List β}
  {left : List Char} {follows : List Char → Prop}

theorem repeatAtMost_flatMap {rounds : Nat} (enough : pieces.length ≤ rounds)
    (takes : ∀ piece ∈ pieces, ∀ rest, follows rest →
      reader (spelling piece ++ rest) = some (meaning piece, rest))
    (continues : ∀ piece ∈ pieces, ∀ rest, follows (spelling piece ++ rest))
    (ends : follows left) (stops : reader left = none) :
    repeatAtMost reader rounds (pieces.flatMap spelling ++ left) =
      (pieces.map meaning, left) := by
  induction pieces generalizing rounds with
  | nil => cases rounds <;> simp [repeatAtMost, stops]
  | cons piece pieces ih =>
      cases rounds with
      | zero => simp at enough
      | succ rounds =>
          rw [List.forall_mem_cons] at takes continues
          have followed : follows (pieces.flatMap spelling ++ left) := by
            cases pieces with
            | nil => exact ends
            | cons next later =>
                rw [List.flatMap_cons, List.append_assoc]
                exact continues.2 next List.mem_cons_self _
          have others := ih (Nat.le_of_succ_le_succ enough) takes.2 continues.2
          rw [List.flatMap_cons, List.append_assoc, repeatAtMost, takes.1 _ followed]
          simp only [others, List.map_cons]

/-- Repetition takes exactly the pieces that its reader takes before what can follow a piece. -/
theorem many_flatMap_of_follows (visible : ∀ piece ∈ pieces, spelling piece ≠ [])
    (takes : ∀ piece ∈ pieces, ∀ rest, follows rest →
      reader (spelling piece ++ rest) = some (meaning piece, rest))
    (continues : ∀ piece ∈ pieces, ∀ rest, follows (spelling piece ++ rest))
    (ends : follows left) (stops : reader left = none) :
    many reader (pieces.flatMap spelling ++ left) = some (pieces.map meaning, left) := by
  refine congrArg some (repeatAtMost_flatMap ?_ takes continues ends stops)
  rw [List.length_append, List.length_flatMap]
  refine Nat.le_trans ?_ (Nat.le_add_right _ _)
  clear takes continues
  induction pieces with
  | nil => simp
  | cons piece pieces ih =>
      rw [List.forall_mem_cons] at visible
      have taken : 0 < (spelling piece).length := List.length_pos_iff.mpr visible.1
      have rest := ih visible.2
      simp only [List.map_cons, List.sum_cons, List.length_cons]
      omega

/-- Repetition takes exactly the pieces that its reader takes, whatever follows them. -/
theorem many_flatMap (visible : ∀ piece ∈ pieces, spelling piece ≠ [])
    (takes : ∀ piece ∈ pieces, ∀ rest,
      reader (spelling piece ++ rest) = some (meaning piece, rest))
    (stops : reader left = none) :
    many reader (pieces.flatMap spelling ++ left) = some (pieces.map meaning, left) :=
  many_flatMap_of_follows visible (fun piece member rest (_ : True) => takes piece member rest)
    (fun _ _ _ => trivial) trivial stops

theorem many_of_failed {input : List Char} (failed : reader input = none) :
    many reader input = some ([], input) := by
  rw [many]
  cases input.length <;> simp [repeatAtMost, failed]

/-- Every piece but the first comes after a separator. -/
theorem intercalate_cons (separator first : List α) (others : List (List α)) :
    separator.intercalate (first :: others) =
      first ++ others.flatMap (fun piece => separator ++ piece) := by
  induction others generalizing first with
  | nil => simp
  | cons next later ih =>
      rw [List.intercalate_cons_cons, ih, List.flatMap_cons, List.append_assoc, List.append_assoc]

/-- Pieces with separators between them are taken one by one. -/
theorem sepBy1_intercalate {separator : Reader Unit} {between : List Char}
    (visible : between ≠ []) (notEmpty : pieces ≠ [])
    (takes : ∀ piece ∈ pieces, ∀ rest, follows rest →
      reader (spelling piece ++ rest) = some (meaning piece, rest))
    (takesNext : ∀ piece ∈ pieces, ∀ rest, follows rest →
      (separator *> reader) (between ++ spelling piece ++ rest) = some (meaning piece, rest))
    (continues : ∀ rest, follows (between ++ rest)) (ends : follows left)
    (stops : separator left = none) :
    sepBy1 reader separator (between.intercalate (pieces.map spelling) ++ left) =
      some (pieces.map meaning, left) := by
  obtain ⟨first, others, rfl⟩ := List.exists_cons_of_ne_nil notEmpty
  rw [List.forall_mem_cons] at takes takesNext
  have nextVisible : ∀ piece ∈ others, between ++ spelling piece ≠ [] := fun piece _ isNil =>
    visible (List.append_eq_nil_iff.mp isNil).1
  have nextContinues : ∀ piece ∈ others, ∀ rest, follows (between ++ spelling piece ++ rest) := by
    intro piece _ rest
    rw [List.append_assoc]
    exact continues _
  have nextStops : (separator *> reader) left = none := seqRight_of_failed stops
  have followed : follows (others.flatMap (fun piece => between ++ spelling piece) ++ left) := by
    cases others with
    | nil => exact ends
    | cons piece rest =>
        rw [List.flatMap_cons, List.append_assoc]
        exact nextContinues piece List.mem_cons_self _
  have taken := many_flatMap_of_follows nextVisible takesNext.2 nextContinues ends nextStops
  rw [List.map_cons, intercalate_cons, List.flatMap_map, List.append_assoc, sepBy1,
    bind_of_taken (takes.1 _ followed), bind_of_taken taken, pure_apply, List.map_cons]

end Repetition

section Yields

/-- Whatever the reader takes, the value that it gives is of the kind. -/
def Yields (reader : Reader α) (kind : α → Prop) : Prop :=
  ∀ (input : List Char) (value : α) (rest : List Char),
    reader input = some (value, rest) → kind value

variable {reader : Reader α} {kind : α → Prop} {other : β → Prop}

theorem Yields.pure {value : α} (isKind : kind value) : Yields (pure value) kind := by
  intro input result rest taken
  rw [pure_apply] at taken
  cases taken
  exact isKind

theorem Yields.bind {next : α → Reader β} (first : Yields reader kind)
    (second : ∀ value, kind value → Yields (next value) other) :
    Yields (reader >>= next) other := by
  intro input result rest taken
  rw [bind_apply, Option.bind_eq_some_iff] at taken
  obtain ⟨⟨value, left⟩, isRead, taken⟩ := taken
  exact second value (first input value left isRead) left result rest taken

/-- What a reader gives at its end does not depend on what was skipped before. -/
theorem Yields.after {next : α → Reader β} (second : ∀ value, Yields (next value) other) :
    Yields (reader >>= next) other :=
  .bind (fun _ _ _ _ => trivial) fun value (_ : True) => second value

theorem Yields.map {convert : α → β} (isKind : ∀ value, other (convert value)) :
    Yields (convert <$> reader) other :=
  .after fun value => .pure (isKind value)

theorem Yields.orElse {second : Reader α} (left : Yields reader kind)
    (right : Yields second kind) : Yields (reader <|> second) kind := by
  intro input value rest taken
  rw [orElse_apply, Option.or_eq_some_iff] at taken
  rcases taken with taken | ⟨-, taken⟩
  · exact left input value rest taken
  · exact right input value rest taken

theorem Yields.many (each : Yields reader kind) :
    Yields (many reader) fun values => ∀ value ∈ values, kind value := by
  have repeated : ∀ rounds input, ∀ value ∈ (repeatAtMost reader rounds input).1, kind value := by
    intro rounds
    induction rounds with
    | zero => exact fun input => nofun
    | succ rounds ih =>
        intro input
        rw [repeatAtMost]
        split
        · exact nofun
        · next first rest taken =>
            rw [List.forall_mem_cons]
            exact ⟨each input first rest taken, ih rest⟩
  intro input values rest taken
  have given := repeated input.length input
  rw [Option.some.inj taken] at given
  exact given

theorem Yields.sepBy1 {separator : Reader Unit} (each : Yields reader kind) :
    Yields (sepBy1 reader separator) fun values => ∀ value ∈ values, kind value :=
  .bind each fun _ isFirst => .bind (.many (.after fun _ => each)) fun _ areRest =>
    .pure (List.forall_mem_cons.mpr ⟨isFirst, areRest⟩)

theorem Yields.sepBy {separator : Reader Unit} (each : Yields reader kind) :
    Yields (sepBy reader separator) fun values => ∀ value ∈ values, kind value :=
  .orElse (.sepBy1 each) (.pure nofun)

theorem Yields.optional (each : Yields reader kind) :
    Yields (optional reader) fun found => ∀ value ∈ found, kind value := by
  refine .orElse (.bind each fun value isKind => .pure ?_) (.pure nofun)
  rintro _ ⟨⟩
  exact isKind

theorem Yields.lift {value? : Option α} (isKind : ∀ value, value? = some value → kind value) :
    Yields (liftM value?) kind := by
  intro input value rest taken
  cases value? with
  | none => cases taken
  | some given =>
      cases taken
      exact isKind _ rfl

/-- What holds at first and after every step holds at the end. -/
theorem Yields.foldlM {step : α → β → Reader α} {pieces : List β} {initial : α}
    (isKind : kind initial)
    (kept : ∀ state, kind state → ∀ piece ∈ pieces, Yields (step state piece) kind) :
    Yields (pieces.foldlM step initial) kind := by
  induction pieces generalizing initial with
  | nil => exact .pure isKind
  | cons piece pieces ih =>
      rw [List.foldlM_cons]
      refine .bind (kept initial isKind piece List.mem_cons_self) fun state stateIsKind => ?_
      exact ih stateIsKind fun next nextIsKind other member =>
        kept next nextIsKind other (List.mem_cons_of_mem _ member)

end Yields

end Toml

end PlanningProblem
