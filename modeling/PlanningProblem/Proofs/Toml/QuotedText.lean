import PlanningProblem.Description.Document
import PlanningProblem.Toml.Reader.Lemmas
import PlanningProblem.Toml.Value

/-!
# Texts between double quotes

A text that is written between double quotes is read back.  A character stands
for itself unless it needs an escape sequence, and of the sequences that stand for
a character, any can be written.  The one thing that must not follow is another
quote, because the empty text before it would look like the start of a text between
three quotes.
-/

namespace PlanningProblem

namespace Toml

open Description (needsEscape documentText shortEscaping)

/-- The digits are the code point of the character in hexadecimal. -/
structure CodePointDigits (char : Char) (digits : List Char) : Prop where
  areHex : ∀ digit ∈ digits, isHexDigit digit = true
  value_eq : valueOf 16 digits = char.toNat

/-- The escape sequences that stand for a character. -/
inductive EscapeFor : (char : Char) → (spelling : List Char) → Prop
  | quote : EscapeFor '"' ['\\', '"']
  | backslash : EscapeFor '\\' ['\\', '\\']
  | backspace : EscapeFor '\x08' ['\\', 'b']
  | tab : EscapeFor '\t' ['\\', 't']
  | lineFeed : EscapeFor '\n' ['\\', 'n']
  | formFeed : EscapeFor '\x0c' ['\\', 'f']
  | carriageReturn : EscapeFor '\r' ['\\', 'r']
  | short {char : Char} {digits : List Char} (length_eq : digits.length = 4)
      (isCode : CodePointDigits char digits) : EscapeFor char ('\\' :: 'u' :: digits)
  | long {char : Char} {digits : List Char} (length_eq : digits.length = 8)
      (isCode : CodePointDigits char digits) : EscapeFor char ('\\' :: 'U' :: digits)

/-- What can be written for a character between double quotes. -/
inductive StandsFor : (spelling : List Char) → (char : Char) → Prop
  | itself {char : Char} (plain : needsEscape char = false) : StandsFor [char] char
  | escape {char : Char} {spelling : List Char} (escapeFor : EscapeFor char spelling) :
      StandsFor spelling char

/-- What is written for a character stands for it. -/
def Escapes (escaping : Char → List Char) : Prop :=
  ∀ char, StandsFor (escaping char) char

theorem hexNumber_append {digits : List Char} (areHex : ∀ digit ∈ digits, isHexDigit digit = true)
    (before : Nat) (rest : List Char) :
    hexNumber digits.length before (digits ++ rest) =
      some (digits.foldl (fun before digit => before * 16 + hexValue digit) before, rest) := by
  induction digits generalizing before with
  | nil => rfl
  | cons digit digits ih =>
      rw [List.forall_mem_cons] at areHex
      rw [List.length_cons, hexNumber, bind_apply, List.cons_append, satisfy_cons, if_pos areHex.1]
      exact ih areHex.2 _

theorem codePoint_append {char : Char} {digits : List Char} {count : Nat}
    (length_eq : digits.length = count) (isCode : CodePointDigits char digits)
    (rest : List Char) : codePoint count (digits ++ rest) = some (char, rest) := by
  have valid : (valueOf 16 digits).isValidChar := by
    rw [isCode.value_eq]
    exact char.valid
  have isNumber : hexNumber count 0 (digits ++ rest) = some (valueOf 16 digits, rest) :=
    length_eq ▸ hexNumber_append isCode.areHex 0 rest
  rw [codePoint, bind_of_taken isNumber, if_pos valid, isCode.value_eq, Char.ofNat_toNat,
    pure_apply]

theorem escape_append {char : Char} {spelling : List Char} (escapeFor : EscapeFor char spelling)
    (rest : List Char) : escape (spelling ++ rest) = some (char, rest) := by
  cases escapeFor with
  | short length_eq isCode => exact codePoint_append length_eq isCode rest
  | long length_eq isCode => exact codePoint_append length_eq isCode rest
  | _ => rfl

theorem isBasicPlain_eq_not_needsEscape (char : Char) : isBasicPlain char = !needsEscape char := by
  rw [Bool.eq_iff_iff]
  by_cases isTab : char = '\t'
  · subst isTab
    decide
  · simp [isBasicPlain, isPlain, needsEscape, isTab]
    grind

/-- The code point of every ASCII character is a number of two digits. -/
theorem codePointDigits_of_lt {char : Char} (isAscii : char.toNat < 0x80) :
    CodePointDigits char
      ['0', '0', Nat.digitChar (char.toNat / 16), Nat.digitChar (char.toNat % 16)] := by
  have digit : ∀ digit < 16, isHexDigit (Nat.digitChar digit) = true ∧
      hexValue (Nat.digitChar digit) = digit := by decide
  have high := digit (char.toNat / 16) (by omega)
  have low := digit (char.toNat % 16) (by omega)
  refine ⟨by simp [high.1, low.1, show isHexDigit '0' = true by decide], ?_⟩
  simp only [valueOf, List.foldl_cons, List.foldl_nil, high.2, low.2,
    show hexValue '0' = 0 by decide]
  omega

theorem escapes_shortEscaping : Escapes shortEscaping := by
  intro char
  rw [shortEscaping]
  split
  · next needed =>
      refine .escape ?_
      split
      · next isQuote => exact isQuote ▸ .quote
      · next notQuote =>
          split
          · next isBackslash => exact isBackslash ▸ .backslash
          · next notBackslash =>
              have isAscii : char.toNat < 0x80 := by
                simp [needsEscape, notQuote, notBackslash] at needed
                omega
              exact .short rfl (codePointDigits_of_lt isAscii)
  · next notNeeded => exact .itself (Bool.not_eq_true _ ▸ notNeeded)

/-- An escape sequence starts with a backslash. -/
theorem EscapeFor.exists_eq_cons {char : Char} {spelling : List Char}
    (escapeFor : EscapeFor char spelling) : ∃ letters, spelling = '\\' :: letters := by
  cases escapeFor <;> exact ⟨_, rfl⟩

/-- What is written for a character does not start with a quote. -/
theorem StandsFor.exists_eq_cons {char : Char} {spelling : List Char}
    (standsFor : StandsFor spelling char) :
    ∃ first others, spelling = first :: others ∧ first ≠ '"' := by
  cases standsFor with
  | itself plain =>
      refine ⟨char, [], rfl, ?_⟩
      rintro rfl
      cases plain
  | escape escapeFor =>
      obtain ⟨letters, isEscape⟩ := escapeFor.exists_eq_cons
      exact ⟨_, letters, isEscape, by decide⟩

/-- A character is read from what stands for it. -/
theorem basicChar_append {char : Char} {spelling : List Char}
    (standsFor : StandsFor spelling char) (rest : List Char) :
    (satisfy isBasicPlain <|> escape) (spelling ++ rest) = some (char, rest) := by
  cases standsFor with
  | itself plain =>
      have isPlain : isBasicPlain char = true := by
        rw [isBasicPlain_eq_not_needsEscape, plain, Bool.not_false]
      refine orElse_of_taken ?_
      rw [List.singleton_append, satisfy_cons, if_pos isPlain]
  | escape escapeFor =>
      have notPlain : satisfy isBasicPlain (spelling ++ rest) = none := by
        obtain ⟨letters, isEscape⟩ := escapeFor.exists_eq_cons
        rw [isEscape]
        rfl
      rw [orElse_of_failed notPlain, escape_append escapeFor]

section Writing

variable {escaping : Char → List Char}

theorem toList_documentText_append (escaping : Char → List Char) (text : String)
    (rest : List Char) :
    (documentText escaping text).toList ++ rest =
      '"' :: (text.toList.flatMap escaping ++ '"' :: rest) := by
  simp [documentText]

theorem basicText_append (escapes : Escapes escaping) (text : String) (rest : List Char) :
    basicText ((documentText escaping text).toList ++ rest) = some (text, rest) := by
  have content : many (satisfy isBasicPlain <|> escape)
      (text.toList.flatMap escaping ++ '"' :: rest) =
        some (text.toList.map id, '"' :: rest) := by
    refine many_flatMap (fun char _ isNil => ?_)
      (fun char _ => basicChar_append (escapes char)) rfl
    obtain ⟨first, others, isCons, -⟩ := (escapes char).exists_eq_cons
    simp [isCons] at isNil
  rw [toList_documentText_append, basicText, bind_of_taken (char_cons_self _ _),
    bind_of_taken content, bind_of_taken (char_cons_self _ _), pure_apply, List.map_id,
    String.ofList_toList]

/-- Unless a quote follows it, a text between double quotes does not begin with three of them. -/
theorem not_startsWith_threeQuotes (escapes : Escapes escaping) (text : String) {rest : List Char}
    (ends : rest.head? ≠ some '"') :
    ¬ ['"', '"', '"'] <+: (documentText escaping text).toList ++ rest := by
  rw [toList_documentText_append]
  cases text.toList with
  | nil =>
      -- The empty text consists of two quotes, so what follows decides.
      cases rest with
      | nil => simp
      | cons head rest =>
          have different : '"' ≠ head := fun same => ends (congrArg some same.symm)
          simp [different]
  | cons char chars =>
      obtain ⟨first, others, isCons, different⟩ := (escapes char).exists_eq_cons
      simp [isCons, different.symm]

theorem text_append (escapes : Escapes escaping) (content : String) {rest : List Char}
    (ends : rest.head? ≠ some '"') :
    text ((documentText escaping content).toList ++ rest) = some (content, rest) := by
  have notMultiLine :
      multiLineBasicText ((documentText escaping content).toList ++ rest) = none :=
    bind_of_failed (chars_eq_none_of_differs (not_startsWith_threeQuotes escapes content ends))
  rw [text, orElse_of_failed notMultiLine, orElse_of_taken (basicText_append escapes content rest)]

theorem value_documentText_append (escapes : Escapes escaping) (room : Nat) (content : String)
    {rest : List Char} (ends : rest.head? ≠ some '"') :
    value room ((documentText escaping content).toList ++ rest) = some (.text content, rest) := by
  have isScalar : scalar ((documentText escaping content).toList ++ rest) =
      some (.text content, rest) :=
    orElse_of_taken (map_of_taken (text_append escapes content ends))
  cases room with
  | zero => exact isScalar
  | succ room => exact orElse_of_taken isScalar

end Writing

end Toml

end PlanningProblem
