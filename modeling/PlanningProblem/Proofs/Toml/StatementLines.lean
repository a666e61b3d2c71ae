import Mathlib.Data.List.Forall2
import PlanningProblem.Proofs.Toml.NestedArrays
import PlanningProblem.Toml.Document

/-!
# Lines with statements

A line that is written for an entry or for a header is read as that statement,
and a document of such lines, each with a line feed at its end, as all of their
statements in this order.
-/

namespace PlanningProblem

namespace Toml

open Description (documentEntry documentHeader)

/-- Letters, digits, dashes and underscores, at least one of them. -/
structure IsWord (word : String) : Prop where
  ne_nil : word.toList ≠ []
  areBare : ∀ char ∈ word.toList, isBare char = true

instance (word : String) : Decidable (IsWord word) :=
  decidable_of_iff (word.toList ≠ [] ∧ word.toList.all isBare = true)
    ⟨fun ⟨ne_nil, allBare⟩ => ⟨ne_nil, List.all_eq_true.mp allBare⟩,
      fun ⟨ne_nil, areBare⟩ => ⟨ne_nil, List.all_eq_true.mpr areBare⟩⟩

theorem IsWord.exists_eq_cons {word : String} (isWord : IsWord word) :
    ∃ first others, word.toList = first :: others ∧ isBare first = true := by
  obtain ⟨first, others, isCons⟩ := List.exists_cons_of_ne_nil isWord.ne_nil
  exact ⟨first, others, isCons, isWord.areBare first (isCons ▸ List.mem_cons_self)⟩

theorem ne_of_isBare {char other : Char} (bare : isBare char = true)
    (notBare : isBare other = false) : char ≠ other := by
  rintro rfl
  simp [notBare] at bare

theorem isSpace_eq_false_of_isBare {char : Char} (bare : isBare char = true) :
    isSpace char = false := by
  have notSpace : char ≠ ' ' := ne_of_isBare bare (by decide)
  have notTab : char ≠ '\t' := ne_of_isBare bare (by decide)
  simp [isSpace, notSpace, notTab]

theorem isBare_eq_false_of_isSpace {char : Char} (space : isSpace char = true) :
    isBare char = false := by
  cases bare : isBare char with
  | false => rfl
  | true => rw [isSpace_eq_false_of_isBare bare] at space; cases space

theorem spaces_append {blank left : List Char} (areBlank : ∀ char ∈ blank, isSpace char = true)
    (ends : ∀ char ∈ left.head?, isSpace char = false) :
    spaces (blank ++ left) = some ((), left) := by
  rw [spaces, discard_apply, takeWhile_append areBlank ends, Option.map_some]

theorem spaces_cons {first : Char} (visible : isSpace first = false) (rest : List Char) :
    spaces (first :: rest) = some ((), first :: rest) := by
  have nothing : ∀ char ∈ ([] : List Char), isSpace char = true := nofun
  exact spaces_append nothing (by simpa using visible)

theorem basicText_cons_of_ne {first : Char} (different : first ≠ '"') (rest : List Char) :
    basicText (first :: rest) = none :=
  bind_of_failed (char_cons_of_ne different rest)

theorem literalText_cons_of_ne {first : Char} (different : first ≠ '\'') (rest : List Char) :
    literalText (first :: rest) = none :=
  bind_of_failed (char_cons_of_ne different rest)

section Keys

variable {word : String} {blank : List Char} {closing : Char}

theorem keyPart_word (isWord : IsWord word) (areBlank : ∀ char ∈ blank, isSpace char = true)
    (closes : closing = '=' ∨ closing = ']') (left : List Char) :
    keyPart (word.toList ++ (blank ++ closing :: left)) = some (word, closing :: left) := by
  obtain ⟨first, others, isCons, bare⟩ := isWord.exists_eq_cons
  have notQuote : first ≠ '"' := ne_of_isBare bare (by decide)
  have notApostrophe : first ≠ '\'' := ne_of_isBare bare (by decide)
  have wordEnds : ∀ char ∈ (blank ++ closing :: left).head?, isBare char = false := by
    intro char isHead
    cases blank with
    | nil =>
        cases isHead
        rcases closes with rfl | rfl <;> rfl
    | cons space spaces =>
        cases isHead
        exact isBare_eq_false_of_isSpace (areBlank char List.mem_cons_self)
  have blankEnds : ∀ char ∈ (closing :: left).head?, isSpace char = false := by
    rcases closes with rfl | rfl <;> simp [isSpace]
  have isPart : (String.ofList <$> takeWhile1 isBare)
      (first :: (others ++ (blank ++ closing :: left))) =
        some (String.ofList (first :: others), blank ++ closing :: left) :=
    map_of_taken (takeWhile1_cons_append (isCons ▸ isWord.areBare) wordEnds)
  rw [isCons, List.cons_append, keyPart,
    bind_of_taken (spaces_cons (isSpace_eq_false_of_isBare bare) _),
    bind_of_taken ((orElse_of_failed (basicText_cons_of_ne notQuote _)).trans
      ((orElse_of_failed (literalText_cons_of_ne notApostrophe _)).trans isPart)),
    bind_of_taken (spaces_append areBlank blankEnds), pure_apply, ← isCons, String.ofList_toList]

theorem key_word (isWord : IsWord word) (areBlank : ∀ char ∈ blank, isSpace char = true)
    (closes : closing = '=' ∨ closing = ']') (left : List Char) :
    key (word.toList ++ (blank ++ closing :: left)) = some (⟨[], word⟩, closing :: left) := by
  have noDot : (char '.' *> keyPart) (closing :: left) = none := by
    refine seqRight_of_failed (char_cons_of_ne ?_ left)
    rcases closes with rfl | rfl <;> decide
  rw [key, bind_of_taken (keyPart_word isWord areBlank closes left),
    bind_of_taken (many_of_failed noDot)]
  rfl

end Keys

/-- The input is at the end of a line. -/
inductive EndsLine : List Char → Prop
  | nil : EndsLine []
  | lineFeed (rest : List Char) : EndsLine ('\n' :: rest)

theorem spaces_of_endsLine {input : List Char} (ends : EndsLine input) :
    spaces input = some ((), input) := by
  cases ends <;> rfl

theorem comment_of_endsLine {input : List Char} (ends : EndsLine input) : comment input = none := by
  cases ends <;> rfl

theorem EndsLine.head?_ne {input : List Char} (ends : EndsLine input) :
    input.head? ≠ some '"' := by
  cases ends <;> simp

/-- The line is read up to its end as the given content. -/
def ReadsAs (written : String) (content : Option Statement) : Prop :=
  ∀ rest, EndsLine rest → line (written.toList ++ rest) = some (content, rest)

/-- The lines are read one by one as the statements. -/
abbrev LinesReadAs : List String → List Statement → Prop :=
  List.Forall₂ fun written content => ReadsAs written (some content)

theorem readsAs_empty : ReadsAs "" none := by
  intro rest ends
  cases ends <;> rfl

theorem line_of_statement {first : Char} {others left : List Char} {content : Statement}
    (visible : isSpace first = false)
    (taken : statement (first :: others) = some (content, left)) (ends : EndsLine left) :
    line (first :: others) = some (some content, left) := by
  have noComment : discard (optional comment) left = some ((), left) := by
    rw [discard_apply, optional_of_failed (comment_of_endsLine ends), Option.map_some]
  rw [line, bind_of_taken (spaces_cons visible others), bind_of_taken (optional_of_taken taken),
    bind_of_taken (spaces_of_endsLine ends), bind_of_taken noComment, pure_apply]

theorem statement_of_entry {first : Char} {others left : List Char} {content : Statement}
    (noBracket : first ≠ '[') (taken : entry (first :: others) = some (content, left)) :
    statement (first :: others) = some (content, left) := by
  have noElement : elementHeader (first :: others) = none :=
    bind_of_failed (chars_eq_none_of_differs (by simp [noBracket.symm]))
  have noTable : tableHeader (first :: others) = none :=
    bind_of_failed (char_cons_of_ne noBracket others)
  rw [statement, orElse_of_failed noElement, orElse_of_failed noTable, taken]

theorem spaces_space_cons {input : List Char} (visible : Visible input) :
    spaces (' ' :: input) = some ((), input) := by
  cases visible <;> rfl

theorem readsAs_documentEntry {word written : String} {datum : Datum} (isWord : IsWord word)
    (visible : Visible written.toList)
    (takes : ∀ rest, rest.head? ≠ some '"' →
      value nestingLimit (written.toList ++ rest) = some (datum, rest)) :
    ReadsAs (documentEntry word written) (some (.entry ⟨[], word⟩ datum)) := by
  intro rest ends
  have oneSpace : ∀ char ∈ [' '], isSpace char = true := by simp [isSpace]
  have isKey : key (word.toList ++ ' ' :: '=' :: ' ' :: (written.toList ++ rest)) =
      some (⟨[], word⟩, '=' :: ' ' :: (written.toList ++ rest)) :=
    key_word isWord oneSpace (.inl rfl) _
  have isEntry : entry (word.toList ++ ' ' :: '=' :: ' ' :: (written.toList ++ rest)) =
      some (.entry ⟨[], word⟩ datum, rest) := by
    rw [entry, bind_of_taken isKey, bind_of_taken (char_cons_self _ _),
      bind_of_taken (spaces_space_cons (visible.append rest)),
      bind_of_taken (takes rest ends.head?_ne), pure_apply]
  have isWritten : (documentEntry word written).toList ++ rest =
      word.toList ++ ' ' :: '=' :: ' ' :: (written.toList ++ rest) := by
    simp [documentEntry]
  -- The first character of the word tells the entry from the two kinds of headers.
  obtain ⟨first, others, isCons, bare⟩ := isWord.exists_eq_cons
  rw [isCons, List.cons_append] at isEntry isWritten
  rw [isWritten]
  exact line_of_statement (isSpace_eq_false_of_isBare bare)
    (statement_of_entry (ne_of_isBare bare (by decide)) isEntry) ends

theorem readsAs_documentHeader {word : String} (isWord : IsWord word) :
    ReadsAs (documentHeader word) (some (.element ⟨[], word⟩)) := by
  intro rest ends
  have opens (left : List Char) : chars ['[', '['] ('[' :: '[' :: left) = some ((), left) := rfl
  have closes (left : List Char) : chars [']', ']'] (']' :: ']' :: left) = some ((), left) := rfl
  have noSpace : ∀ char ∈ ([] : List Char), isSpace char = true := nofun
  have isKey : key (word.toList ++ ']' :: ']' :: rest) = some (⟨[], word⟩, ']' :: ']' :: rest) :=
    key_word isWord noSpace (.inr rfl) _
  have isHeader : elementHeader ('[' :: '[' :: (word.toList ++ ']' :: ']' :: rest)) =
      some (.element ⟨[], word⟩, rest) := by
    rw [elementHeader, bind_of_taken (opens _), bind_of_taken isKey, bind_of_taken (closes _),
      pure_apply]
  have isWritten : (documentHeader word).toList ++ rest =
      '[' :: '[' :: (word.toList ++ ']' :: ']' :: rest) := by
    simp [documentHeader]
  rw [isWritten]
  exact line_of_statement rfl (orElse_of_taken isHeader) ends

section Documents

variable {pieces : List (String × Option Statement)}

/-- Lines of which each is read as its content are read as all of these contents. -/
theorem sepBy1_line (each : ∀ piece ∈ pieces, ReadsAs piece.1 piece.2) (notEmpty : pieces ≠ []) :
    sepBy1 line lineEnd (['\n'].intercalate (pieces.map fun piece => piece.1.toList)) =
      some (pieces.map Prod.snd, []) := by
  have separates (rest : List Char) : lineEnd ('\n' :: rest) = some ((), rest) :=
    orElse_of_taken (char_cons_self _ _)
  have feeds : ['\n'] ≠ [] := by simp
  rw [← List.append_nil (['\n'].intercalate _)]
  refine sepBy1_intercalate feeds notEmpty each ?_ .lineFeed .nil rfl
  exact fun piece member rest ends =>
    (seqRight_of_taken (separates _)).trans (each piece member rest ends)

theorem skip_absent_mark {input : List Char} (noMark : input.head? ≠ some '\uFEFF') :
    discard (optional (char '\uFEFF')) input = some ((), input) := by
  have failed : char '\uFEFF' input = none := by
    cases input with
    | nil => rfl
    | cons first rest => exact char_cons_of_ne (fun same => noMark (congrArg some same)) rest
  rw [discard_apply, optional_of_failed failed, Option.map_some]

/-- What each line says is read from a document of lines that all have an end. -/
theorem statements_join {written : List String} {contents : List Statement}
    (each : LinesReadAs written contents)
    (noMark : (String.join (written.map (· ++ "\n"))).toList.head? ≠ some '\uFEFF') :
    statements (String.join (written.map (· ++ "\n"))).toList = some (contents, []) := by
  obtain ⟨length_eq, each⟩ := List.forall₂_iff_zip.mp each
  -- Behind the last line feed the reader finds one more line, which says nothing.
  let pieces : List (String × Option Statement) :=
    (written.zip contents).map (fun piece => (piece.1, some piece.2)) ++ [("", none)]
  have eachRead : ∀ piece ∈ pieces, ReadsAs piece.1 piece.2 := by
    simp only [pieces, List.forall_mem_append, List.forall_mem_map, List.forall_mem_singleton]
    exact ⟨fun piece member => each member, readsAs_empty⟩
  have areTexts : pieces.map (fun piece => piece.1.toList) = written.map String.toList ++ [[]] := by
    conv_rhs => rw [← List.map_fst_zip (Nat.le_of_eq length_eq)]
    simp [pieces]
  have areContents : (pieces.map Prod.snd).filterMap id = contents := by
    conv_rhs => rw [← List.map_snd_zip (Nat.le_of_eq length_eq.symm)]
    simp [pieces, List.filterMap_map]
  have isJoined : (String.join (written.map (· ++ "\n"))).toList =
      ['\n'].intercalate (pieces.map fun piece => piece.1.toList) := by
    rw [areTexts, ← flatMap_append_separator, String.toList_join, List.flatMap_map,
      List.flatMap_map]
    simp
  have taken := sepBy1_line eachRead (by simp [pieces])
  rw [← isJoined] at taken
  rw [statements, bind_of_taken (skip_absent_mark noMark), bind_of_taken taken,
    bind_of_taken rfl, pure_apply, areContents]

end Documents

end Toml

end PlanningProblem
