import Mathlib.Logic.Relation
import PlanningProblem.Proofs.Proposition.Reading

/-!
# The grammar of conventional notation

A proposition in conventional notation is a name among blanks, an opening
parenthesis, arguments with commas between them, a closing parenthesis, and
anything after that.  This file says so as a relation between texts and
propositions, without reference to how a text is read, and proves that reading
accepts the texts of this grammar and no others.  It follows that blanks around
the name, blanks among the arguments, and what stands after the closing
parenthesis can be changed at will.
-/

namespace PlanningProblem

namespace Text

def AllBlank (chars : List Char) : Prop :=
  ∀ char ∈ chars, isBlank char = true

/-- The characters are the word with blanks before and after it. -/
def Padded (word chars : List Char) : Prop :=
  Trimmed word ∧ ∃ before after, chars = before ++ word ++ after ∧ AllBlank before ∧ AllBlank after

variable {before after chars word : List Char}

theorem trimStart_append_of_allBlank (blank : AllBlank before) (chars : List Char) :
    trimStart (before ++ chars) = trimStart chars :=
  List.dropWhile_append_of_pos blank

theorem trimEnd_append_of_allBlank (chars : List Char) (blank : AllBlank after) :
    trimEnd (chars ++ after) = trimEnd chars := by
  have reversedBlank : AllBlank after.reverse := fun char member =>
    blank char (List.mem_reverse.mp member)
  rw [trimEnd, List.reverse_append, trimStart_append_of_allBlank reversedBlank, trimEnd]

theorem trimStart_eq_nil_iff : trimStart chars = [] ↔ AllBlank chars :=
  List.dropWhile_eq_nil_iff

/-- Blanks before and after some characters make no difference to what is left once they are
trimmed. -/
theorem trim_append_of_allBlank (beforeBlank : AllBlank before) (chars : List Char)
    (afterBlank : AllBlank after) : trim (before ++ chars ++ after) = trim chars := by
  rw [List.append_assoc, trim, trimStart_append_of_allBlank beforeBlank, trim]
  by_cases blank : AllBlank chars
  · rw [trimStart_append_of_allBlank blank, trimStart_eq_nil_iff.mpr afterBlank,
      trimStart_eq_nil_iff.mpr blank]
  · have visible : trimStart chars ≠ [] := mt trimStart_eq_nil_iff.mp blank
    have startEq : trimStart (chars ++ after) = trimStart chars ++ after := by
      rw [trimStart, List.dropWhile_append, ← trimStart]
      simp [visible]
    rw [startEq, trimEnd_append_of_allBlank _ afterBlank]

theorem exists_append_trimStart (chars : List Char) :
    ∃ before, chars = before ++ trimStart chars ∧ AllBlank before :=
  ⟨chars.takeWhile isBlank, List.takeWhile_append_dropWhile.symm, fun _ member =>
    List.mem_takeWhile_imp member⟩

theorem exists_trimEnd_append (chars : List Char) :
    ∃ after, chars = trimEnd chars ++ after ∧ AllBlank after := by
  obtain ⟨before, reversedEq, blank⟩ := exists_append_trimStart chars.reverse
  refine ⟨before.reverse, ?_, fun char member => blank char (List.mem_reverse.mp member)⟩
  rw [trimEnd, ← List.reverse_append, ← reversedEq, List.reverse_reverse]

/-- What trimming leaves is the one word without blanks at its ends that the characters hold among
blanks. -/
theorem trim_eq_iff_padded : trim chars = word ↔ Padded word chars := by
  constructor
  · rintro rfl
    obtain ⟨before, startEq, beforeBlank⟩ := exists_append_trimStart chars
    obtain ⟨after, endEq, afterBlank⟩ := exists_trimEnd_append (trimStart chars)
    refine ⟨trimmed_trim chars, before, after, ?_, beforeBlank, afterBlank⟩
    rw [List.append_assoc, trim, ← endEq, ← startEq]
  · rintro ⟨trimmed, before, after, rfl, beforeBlank, afterBlank⟩
    rw [trim_append_of_allBlank beforeBlank word afterBlank, trim_eq_self_iff.mpr trimmed]

theorem trim_eq_nil_iff : trim chars = [] ↔ AllBlank chars := by
  rw [trim_eq_iff_padded]
  constructor
  · rintro ⟨-, before, after, rfl, beforeBlank, afterBlank⟩ char member
    rw [List.append_nil] at member
    exact (List.mem_append.mp member).elim (beforeBlank char) (afterBlank char)
  · intro blank
    exact ⟨⟨nofun, nofun⟩, chars, [], by simp, blank, nofun⟩

theorem dropBlanks_eq_nil_iff : dropBlanks chars = [] ↔ AllBlank chars := by
  simp [dropBlanks, AllBlank]

end Text

namespace Proposition

/-- The text with the given parts before the opening parenthesis, between the two parentheses, and
after the closing one. -/
def assembled (head inside rest : List Char) : String :=
  String.ofList (head ++ '(' :: (inside ++ ')' :: rest))

/-- Once blanks are dropped, the arguments are what stands between the commas; where there is
nothing but blanks, there are none. -/
inductive ListedIn (inside : List Char) : (arguments : List String) → Prop
  | none (blank : Text.AllBlank inside) : ListedIn inside []
  | separated {arguments : List String} (visible : ¬ Text.AllBlank inside)
      (joined : [','].intercalate (arguments.map String.toList) = Text.dropBlanks inside)
      (unseparated : ∀ argument ∈ arguments, ',' ∉ argument.toList) : ListedIn inside arguments

/-- The text is the proposition in conventional notation: its name among blanks before the first
`(`, and its arguments between that and the next `)`. -/
inductive Spells : (text : String) → (proposition : Proposition) → Prop
  | intro {head inside rest : List Char} {name : String} {arguments : List String}
      (unopened : '(' ∉ head) (unclosed : ')' ∉ inside) (nonempty : name ≠ "")
      (named : Text.Padded name.toList head) (listed : ListedIn inside arguments) :
      Spells (assembled head inside rest) ⟨name, arguments⟩

/-- The text has a `(`, a visible character before the first one, and a `)` after it. -/
def InForm (text : String) : Prop :=
  ∃ head later, text.toList = head ++ '(' :: later ∧ '(' ∉ head ∧ ¬ Text.AllBlank head ∧ ')' ∈ later

theorem splitArguments_eq_iff_listedIn {inside : List Char} {arguments : List String} :
    splitArguments inside = arguments ↔ ListedIn inside arguments := by
  by_cases blank : Text.AllBlank inside
  · rw [splitArguments_of_dropBlanks_eq_nil (Text.dropBlanks_eq_nil_iff.mpr blank)]
    constructor
    · rintro rfl
      exact .none blank
    · rintro (_ | ⟨visible, -, -⟩)
      · rfl
      · exact absurd blank visible
  · rw [splitArguments_of_dropBlanks_ne_nil (mt Text.dropBlanks_eq_nil_iff.mp blank)]
    constructor
    · rintro rfl
      refine .separated blank ?_ fun argument member => ?_
      · simp [List.map_map, Function.comp_def, List.intercalate_splitOn]
      · obtain ⟨piece, isPiece, rfl⟩ := List.mem_map.mp member
        rw [String.toList_ofList]
        exact not_mem_of_mem_splitOn isPiece
    · rintro (isBlank | ⟨-, joined, unseparated⟩)
      · exact absurd isBlank blank
      · have nonempty : arguments.map String.toList ≠ [] := by
          rintro isNil
          rw [isNil] at joined
          exact blank (Text.dropBlanks_eq_nil_iff.mp joined.symm)
        rw [← joined, List.splitOn_intercalate ',' (by simpa using unseparated) nonempty,
          List.map_map]
        simp

/-- So many commas separate one argument more. -/
theorem length_of_listedIn {inside : List Char} {arguments : List String}
    (listed : ListedIn inside arguments) (visible : ¬ Text.AllBlank inside) :
    arguments.length = (Text.dropBlanks inside).count ',' + 1 := by
  rw [← splitArguments_eq_iff_listedIn,
    splitArguments_of_dropBlanks_ne_nil (mt Text.dropBlanks_eq_nil_iff.mp visible)] at listed
  rw [← listed, List.length_map, length_splitOn]

theorem toList_assembled (head inside rest : List Char) :
    (assembled head inside rest).toList = head ++ '(' :: (inside ++ ')' :: rest) :=
  String.toList_ofList

theorem ofText?_eq_some_iff_spells {text : String} {proposition : Proposition} :
    ofText? text = some proposition ↔ Spells text proposition := by
  rw [ofText?_eq_some_iff]
  constructor
  · rintro ⟨head, inside, isCut, nonempty, rfl⟩
    obtain ⟨unopened, unclosed, rest, textEq⟩ := cut?_eq_some_iff.mp isCut
    have assembledEq : text = assembled head inside rest := by
      rw [← String.toList_inj, textEq, toList_assembled]
    rw [assembledEq]
    refine .intro unopened unclosed ?_ ?_ (splitArguments_eq_iff_listedIn.mp rfl)
    · exact fun isEmpty => nonempty (by simpa using congrArg String.toList isEmpty)
    · rw [String.toList_ofList]
      exact Text.trim_eq_iff_padded.mp rfl
  · rintro @⟨head, inside, rest, name, arguments, unopened, unclosed, nonempty, named, listed⟩
    have trimEq := Text.trim_eq_iff_padded.mpr named
    refine ⟨head, inside, ?_, ?_, ?_⟩
    · rw [toList_assembled]
      exact cut?_append unopened unclosed rest
    · rw [trimEq]
      simpa using nonempty
    · rw [trimEq, String.ofList_toList, splitArguments_eq_iff_listedIn.mpr listed]

/-- A text spells some proposition exactly if it is in the form of the notation. -/
theorem exists_spells_iff_inForm {text : String} :
    (∃ proposition, Spells text proposition) ↔ InForm text := by
  constructor
  · rintro ⟨_, @⟨head, inside, rest, name, arguments, unopened, -, nonempty, named, -⟩⟩
    refine ⟨head, _, toList_assembled head inside rest, unopened, fun blank => ?_, by simp⟩
    have trimEq := Text.trim_eq_iff_padded.mpr named
    rw [Text.trim_eq_nil_iff.mpr blank] at trimEq
    exact nonempty (String.toList_eq_nil_iff.mp trimEq.symm)
  · rintro ⟨head, later, textEq, unopened, visible, closed⟩
    obtain ⟨inside, rest, rfl, unclosed⟩ := List.eq_append_cons_of_mem closed
    refine ⟨_, ofText?_eq_some_iff_spells.mp (ofText?_eq_some_iff.mpr ⟨head, inside, ?_, ?_, rfl⟩)⟩
    · rw [textEq]
      exact cut?_append unopened unclosed rest
    · exact mt Text.trim_eq_nil_iff.mp visible

/-- The second text is the first with one blank more before or after its name or among its
arguments, or with another rest. -/
inductive Retouched : (first second : String) → Prop
  | beforeName (head inside rest : List Char) (blank : Char) (unopened : '(' ∉ head)
      (unclosed : ')' ∉ inside) (isBlank : Text.isBlank blank = true) :
      Retouched (assembled head inside rest) (assembled (blank :: head) inside rest)
  | afterName (head inside rest : List Char) (blank : Char) (unopened : '(' ∉ head)
      (unclosed : ')' ∉ inside) (isBlank : Text.isBlank blank = true) :
      Retouched (assembled head inside rest) (assembled (head ++ [blank]) inside rest)
  | amongArguments (head left right rest : List Char) (blank : Char) (unopened : '(' ∉ head)
      (unclosed : ')' ∉ left ++ right) (isBlank : Text.isBlank blank = true) :
      Retouched (assembled head (left ++ right) rest) (assembled head (left ++ blank :: right) rest)
  | atEnd (head inside rest other : List Char) (unopened : '(' ∉ head) (unclosed : ')' ∉ inside) :
      Retouched (assembled head inside rest) (assembled head inside other)

theorem ofText?_assembled_eq {head inside rest otherHead otherInside otherRest : List Char}
    (unopened : '(' ∉ head) (unclosed : ')' ∉ inside) (otherUnopened : '(' ∉ otherHead)
    (otherUnclosed : ')' ∉ otherInside) (sameName : Text.trim head = Text.trim otherHead)
    (sameArguments : Text.dropBlanks inside = Text.dropBlanks otherInside) :
    ofText? (assembled head inside rest) = ofText? (assembled otherHead otherInside otherRest) := by
  rw [ofText?, ofText?, toList_assembled, toList_assembled, cut?_append unopened unclosed,
    cut?_append otherUnopened otherUnclosed]
  simp only [splitArguments, sameName, sameArguments]

theorem not_mem_of_isBlank {blank other : Char} {chars : List Char}
    (isBlank : Text.isBlank blank = true) (visible : Text.isBlank other = false)
    (free : other ∉ chars) : other ∉ blank :: chars := by
  rw [List.mem_cons, not_or]
  refine ⟨?_, free⟩
  rintro rfl
  rw [isBlank] at visible
  cases visible

theorem Retouched.ofText?_eq {first second : String} (retouched : Retouched first second) :
    ofText? first = ofText? second := by
  have openingVisible : Text.isBlank '(' = false := by decide
  have closingVisible : Text.isBlank ')' = false := by decide
  cases retouched with
  | beforeName head inside rest blank unopened unclosed isBlank =>
      have stillUnopened := not_mem_of_isBlank isBlank openingVisible unopened
      refine ofText?_assembled_eq unopened unclosed stillUnopened unclosed ?_ rfl
      have single : Text.AllBlank [blank] := List.forall_mem_singleton.mpr isBlank
      have trimEq := Text.trim_append_of_allBlank single head (List.forall_mem_nil _)
      rw [List.append_nil, List.singleton_append] at trimEq
      exact trimEq.symm
  | afterName head inside rest blank unopened unclosed isBlank =>
      have stillUnopened : '(' ∉ head ++ [blank] := by
        rw [List.mem_append, not_or]
        exact ⟨unopened, not_mem_of_isBlank isBlank openingVisible List.not_mem_nil⟩
      refine ofText?_assembled_eq unopened unclosed stillUnopened unclosed ?_ rfl
      have single : Text.AllBlank [blank] := List.forall_mem_singleton.mpr isBlank
      exact (Text.trim_append_of_allBlank (List.forall_mem_nil _) head single).symm
  | amongArguments head left right rest blank unopened unclosed isBlank =>
      have stillUnclosed : ')' ∉ left ++ blank :: right := by
        rw [List.mem_append, not_or] at unclosed ⊢
        exact ⟨unclosed.1, not_mem_of_isBlank isBlank closingVisible unclosed.2⟩
      refine ofText?_assembled_eq unopened unclosed unopened stillUnclosed rfl ?_
      have dropped : Text.dropBlanks [blank] = [] :=
        Text.dropBlanks_eq_nil_iff.mpr (List.forall_mem_singleton.mpr isBlank)
      rw [← List.singleton_append, Text.dropBlanks_append, Text.dropBlanks_append,
        Text.dropBlanks_append, dropped, List.nil_append]
  | atEnd head inside rest other unopened unclosed =>
      exact ofText?_assembled_eq unopened unclosed unopened unclosed rfl rfl

/-- However often a text is retouched, and retouches are undone, it is read as before. -/
theorem ofText?_eq_of_eqvGen {first second : String}
    (retouched : Relation.EqvGen Retouched first second) : ofText? first = ofText? second := by
  induction retouched with
  | rel _ _ step => exact step.ofText?_eq
  | refl _ => rfl
  | symm _ _ _ ih => exact ih.symm
  | trans _ _ _ _ _ earlier later => exact earlier.trans later

theorem exists_ofText_eq_ok_iff {text : String} :
    (∃ proposition, ofText text = .ok proposition) ↔ InForm text := by
  simp only [ofText_eq_ok_iff, ofText?_eq_some_iff_spells, exists_spells_iff_inForm]

/-- A text that does not have the form is refused, and the error quotes all of it. -/
theorem ofText_eq_error_iff {text : String} {error : MalformedProposition} :
    ofText text = .error error ↔ ¬ InForm text ∧ error = ⟨text⟩ := by
  rw [← exists_ofText_eq_ok_iff, ofText]
  cases ofText? text with
  | none => simp [eq_comm]
  | some proposition => simp

/-- A text is read exactly if it has a `(` with something visible before the first one and a `)`
after it, and then as the proposition that it spells; otherwise the error quotes the whole text.
The commas that are left without the blanks are one fewer than the arguments.  Adding and removing
blanks at either end of the name part or among the arguments, and replacing what follows the
closing parenthesis, changes nothing. -/
theorem ofText_exact (text : String) :
    ((∃ proposition, ofText text = .ok proposition) ↔ InForm text) ∧
      (∀ proposition, ofText text = .ok proposition ↔ Spells text proposition) ∧
      (∀ error, ofText text = .error error ↔ ¬ InForm text ∧ error = ⟨text⟩) ∧
      (∀ head inside rest proposition, text = assembled head inside rest → '(' ∉ head →
        ')' ∉ inside → ofText text = .ok proposition → ¬ Text.AllBlank inside →
        proposition.arguments.length = (Text.dropBlanks inside).count ',' + 1) ∧
      ∀ other, Relation.EqvGen Retouched text other → ∀ proposition,
        ofText text = .ok proposition → ofText other = .ok proposition := by
  refine ⟨exists_ofText_eq_ok_iff, fun proposition => ?_, fun error => ofText_eq_error_iff, ?_, ?_⟩
  · rw [ofText_eq_ok_iff, ofText?_eq_some_iff_spells]
  · rintro head inside rest proposition rfl unopened unclosed isRead visible
    obtain ⟨otherHead, otherInside, isCut, -, rfl⟩ :=
      ofText?_eq_some_iff.mp (ofText_eq_ok_iff.mp isRead)
    rw [toList_assembled, cut?_append unopened unclosed] at isCut
    cases isCut
    exact length_of_listedIn (splitArguments_eq_iff_listedIn.mp rfl) visible
  · intro other retouched proposition isRead
    rw [ofText_eq_ok_iff] at isRead ⊢
    rw [← ofText?_eq_of_eqvGen retouched, isRead]

/-- A blank less after a name of two words, a blank more before it and among the arguments, of which
one is empty and one has a parenthesis, and another rest. -/
theorem ofText_exact_retouched :
    let text := "on top (a,,(b)"
    let other := "\ton top(a,\u00A0,(b) and more)"
    let proposition : Proposition := ⟨"on top", ["a", "", "(b"]⟩
    Spells text proposition ∧ Relation.EqvGen Retouched text other ∧
      ofText text = .ok proposition ∧ ofText other = .ok proposition ∧
      proposition.arguments.length = (Text.dropBlanks "a,,(b".toList).count ',' + 1 := by
  intro text other proposition
  have isRead : ofText text = .ok proposition := ofText_eq_ok_iff.mpr (by decide)
  have textEq : text = assembled ("on top".toList ++ [' ']) ("a,".toList ++ ",(b".toList) [] := rfl
  have otherEq : other = assembled ('\t' :: "on top".toList)
      ("a,".toList ++ '\u00A0' :: ",(b".toList) " and more)".toList := rfl
  have shorter := Retouched.afterName "on top".toList ("a,".toList ++ ",(b".toList) [] ' '
    (by decide) (by decide) (by decide)
  have indented := Retouched.beforeName "on top".toList ("a,".toList ++ ",(b".toList) [] '\t'
    (by decide) (by decide) (by decide)
  have spaced := Retouched.amongArguments ('\t' :: "on top".toList) "a,".toList ",(b".toList []
    '\u00A0' (by decide) (by decide) (by decide)
  have continued := Retouched.atEnd ('\t' :: "on top".toList)
    ("a,".toList ++ '\u00A0' :: ",(b".toList) [] " and more)".toList (by decide) (by decide)
  have retouched : Relation.EqvGen Retouched text other := by
    rw [textEq, otherEq]
    exact .trans _ _ _ (.symm _ _ (.rel _ _ shorter)) (.trans _ _ _ (.rel _ _ indented)
      (.trans _ _ _ (.rel _ _ spaced) (.rel _ _ continued)))
  have visible : ¬ Text.AllBlank ("a,".toList ++ ",(b".toList) := fun blank =>
    absurd (blank 'a' (by decide)) (by decide)
  obtain ⟨-, spelled, -, separated, unchanged⟩ := ofText_exact text
  exact ⟨(spelled proposition).mp isRead, retouched, isRead,
    unchanged other retouched proposition isRead,
    separated _ _ _ proposition textEq (by decide) (by decide) isRead visible⟩

end Proposition

end PlanningProblem
