import PlanningProblem.Proofs.Description.Reload
import PlanningProblem.Proofs.Problem.Refusal

/-!
# Descriptions in any order

Building the problem that a description lists makes its calls in a fixed order.
Every history that adds the same objects and the same propositions, each at
least once, in whichever spelling and order, and sets the same goal, ends in the
same problem.  So entries of a description can be permuted and repeated, as long
as its propositions are well-formed; otherwise the first malformed one is
reported, whatever else the description holds.
-/

namespace PlanningProblem

namespace Proposition

def SameForm (text other : String) : Prop :=
  ∃ token, CanonicalForm text token ∧ CanonicalForm other token

variable {texts : List String} {text other token : String}

theorem SameForm.wellFormed (same : SameForm text other) : WellFormed text := by
  obtain ⟨token, canonical, -⟩ := same
  exact not_malformed_iff_wellFormed.mp fun malformed => malformed token canonical

theorem SameForm.canonicalForm_iff (same : SameForm text other) :
    CanonicalForm text token ↔ CanonicalForm other token := by
  obtain ⟨form, textForm, otherForm⟩ := same
  constructor
  · intro canonical
    rw [canonical.unique textForm]
    exact otherForm
  · intro canonical
    rw [canonical.unique otherForm]
    exact textForm

theorem accepted_iff_of_wellFormed (wellFormed : ∀ text ∈ texts, WellFormed text) :
    Accepted texts token ↔ ∃ text ∈ texts, CanonicalForm text token := by
  constructor
  · rintro ⟨before, text, later, rfl, -, canonical⟩
    exact ⟨text, by simp, canonical⟩
  · rintro ⟨text, member, canonical⟩
    obtain ⟨before, later, rfl⟩ := List.append_of_mem member
    refine ⟨before, text, later, rfl, fun earlier isBefore => ?_, canonical⟩
    exact not_malformed_iff_wellFormed.mpr (wellFormed earlier (List.mem_append_left _ isBefore))

end Proposition

namespace Description

open Problem Proposition

/-- The edits add what the description lists and nothing else, in any order and any number, but each
entry at least once; a proposition may be added in another spelling of the same form. -/
structure BuiltBy (description : Description) (history : List Edit) : Prop where
  domain_kept : ∀ edit ∈ history, edit.domain? = none
  objects_iff : ∀ object, object ∈ passedObjects history ↔ object ∈ description.objects
  texts_listed : ∀ edit ∈ history, ∀ text ∈ edit.texts, ∃ entry ∈ description.init,
    SameForm text entry
  texts_added : ∀ entry ∈ description.init, ∃ edit ∈ history, ∃ text ∈ edit.texts,
    SameForm entry text
  goal_listed : ∀ edit ∈ history, ∀ goal ∈ edit.goal?, description.goal = some goal
  goal_set : ∀ goal ∈ description.goal, ∃ edit ∈ history, edit.goal? = some goal

/-- The descriptions have the same entries, in any order and any number; where a proposition is
malformed, also in the same order. -/
structure Rearranges (other description : Description) : Prop where
  name_eq : other.name = description.name
  domain_eq : other.domain = description.domain
  objects_iff : ∀ object, object ∈ other.objects ↔ object ∈ description.objects
  init_eq_or_iff : other.init = description.init ∨
    (∀ text ∈ description.init, WellFormed text) ∧
      ∀ text, text ∈ other.init ↔ text ∈ description.init
  goal_eq : other.goal = description.goal

variable {description other : Description} {history : List Edit}

theorem toProblem_of_firstMalformed {before : List String} {text : String}
    (first : FirstMalformed description.init before text) :
    description.toProblem = .error ⟨text⟩ := by
  rw [toProblem, addPropositions_of_firstMalformed _ first]

theorem toProblem_of_wellFormed (wellFormed : ∀ text ∈ description.init, WellFormed text) :
    description.toProblem = .ok
      { name := description.name
        domain := description.domain
        objects := .ofList description.objects
        initialState := .ofList (acceptedTokens description.init)
        goal := description.goal.getD .trivial } := by
  rw [toProblem, foldl_withObject, addPropositions_of_wellFormed _ wellFormed]
  cases description.goal <;> rfl

theorem toProblem_eq_error_iff {error : MalformedProposition} :
    description.toProblem = .error error ↔
      ∃ before text, FirstMalformed description.init before text ∧ error = ⟨text⟩ := by
  constructor
  · intro refused
    have someMalformed : ¬ ∀ text ∈ description.init, WellFormed text := by
      intro wellFormed
      rw [toProblem_of_wellFormed wellFormed] at refused
      cases refused
    obtain ⟨before, text, first⟩ := exists_firstMalformed someMalformed
    rw [toProblem_of_firstMalformed first] at refused
    exact ⟨before, text, first, (Except.error.inj refused).symm⟩
  · rintro ⟨before, text, first, rfl⟩
    exact toProblem_of_firstMalformed first

namespace BuiltBy

theorem wellFormed (built : description.BuiltBy history) :
    ∀ text ∈ description.init, WellFormed text := by
  intro entry member
  obtain ⟨edit, -, text, -, same⟩ := built.texts_added entry member
  exact same.wellFormed

/-- What the edits add are the forms of the entries of the description. -/
theorem recorded_iff (built : description.BuiltBy history) {token : String} :
    Recorded history token ↔ Accepted description.init token := by
  have editWellFormed (edit : Edit) (isEdit : edit ∈ history) :
      ∀ text ∈ edit.texts, WellFormed text := by
    intro text member
    obtain ⟨entry, -, same⟩ := built.texts_listed edit isEdit text member
    exact same.wellFormed
  rw [accepted_iff_of_wellFormed built.wellFormed]
  constructor
  · rintro ⟨edit, isEdit, accepted⟩
    rw [accepted_iff_of_wellFormed (editWellFormed edit isEdit)] at accepted
    obtain ⟨text, member, canonical⟩ := accepted
    obtain ⟨entry, isEntry, same⟩ := built.texts_listed edit isEdit text member
    exact ⟨entry, isEntry, same.canonicalForm_iff.mp canonical⟩
  · rintro ⟨entry, isEntry, canonical⟩
    obtain ⟨edit, isEdit, text, member, same⟩ := built.texts_added entry isEntry
    refine ⟨edit, isEdit, (accepted_iff_of_wellFormed (editWellFormed edit isEdit)).mpr ?_⟩
    exact ⟨text, member, same.canonicalForm_iff.mp canonical⟩

theorem lastDomain_eq (built : description.BuiltBy history) :
    lastDomain description.domain history = description.domain := by
  have nothing : history.filterMap Edit.domain? = [] := by
    rw [List.filterMap_eq_nil_iff]
    exact built.domain_kept
  rw [lastDomain, nothing]
  rfl

theorem lastGoal_eq (built : description.BuiltBy history) :
    lastGoal history = description.goal.getD .trivial := by
  rw [lastGoal]
  cases last : (history.filterMap Edit.goal?).getLast? with
  | none =>
      rw [List.getLast?_eq_none_iff, List.filterMap_eq_nil_iff] at last
      cases goalEq : description.goal with
      | none => rfl
      | some goal =>
          obtain ⟨edit, isEdit, isSet⟩ := built.goal_set goal goalEq
          rw [last edit isEdit] at isSet
          cases isSet
  | some goal =>
      obtain ⟨edit, isEdit, isSet⟩ := List.mem_filterMap.mp (List.mem_of_getLast? last)
      rw [built.goal_listed edit isEdit goal isSet]

/-- Loading the description and making the edits give the same problem. -/
theorem toProblem_eq (built : description.BuiltBy history) :
    description.toProblem = .ok ((empty description.name description.domain).after history) := by
  have reflects := reflects_after_empty description.name description.domain history
  rw [toProblem_of_wellFormed built.wellFormed]
  refine congrArg Except.ok (eq_of_fields_eq reflects.name_eq.symm ?_ ?_ ?_ ?_)
  · rw [reflects.domain_eq, built.lastDomain_eq]
  · refine SortedSet.ext_mem fun object => ?_
    rw [SortedSet.mem_ofList, reflects.mem_objects, built.objects_iff]
  · refine SortedSet.ext_mem fun token => ?_
    rw [SortedSet.mem_ofList, reflects.mem_initialState, mem_acceptedTokens, built.recorded_iff]
  · rw [reflects.goal_eq, built.lastGoal_eq]

end BuiltBy

namespace Rearranges

theorem wellFormed (rearranges : other.Rearranges description)
    (wellFormed : ∀ text ∈ description.init, WellFormed text) :
    ∀ text ∈ other.init, WellFormed text := by
  intro text member
  rcases rearranges.init_eq_or_iff with initEq | ⟨-, same⟩
  · exact wellFormed text (initEq ▸ member)
  · exact wellFormed text ((same text).mp member)

theorem mem_init_iff (rearranges : other.Rearranges description) (text : String) :
    text ∈ other.init ↔ text ∈ description.init := by
  rcases rearranges.init_eq_or_iff with initEq | ⟨-, same⟩
  · rw [initEq]
  · exact same text

theorem toProblem_eq (rearranges : other.Rearranges description) :
    other.toProblem = description.toProblem := by
  by_cases wellFormed : ∀ text ∈ description.init, WellFormed text
  · have otherWellFormed := rearranges.wellFormed wellFormed
    rw [toProblem_of_wellFormed wellFormed, toProblem_of_wellFormed otherWellFormed]
    refine congrArg Except.ok (eq_of_fields_eq rearranges.name_eq rearranges.domain_eq ?_ ?_ ?_)
    · refine SortedSet.ext_mem fun object => ?_
      rw [SortedSet.mem_ofList, SortedSet.mem_ofList, rearranges.objects_iff]
    · refine SortedSet.ext_mem fun token => ?_
      rw [SortedSet.mem_ofList, SortedSet.mem_ofList, mem_acceptedTokens, mem_acceptedTokens,
        accepted_iff_of_wellFormed wellFormed, accepted_iff_of_wellFormed otherWellFormed]
      simp only [rearranges.mem_init_iff]
    · rw [rearranges.goal_eq]
  · obtain ⟨before, text, first⟩ := exists_firstMalformed wellFormed
    have initEq := rearranges.init_eq_or_iff.resolve_right fun same => wellFormed same.1
    rw [toProblem_of_firstMalformed first, toProblem_of_firstMalformed (initEq ▸ first)]

end Rearranges

/-- A description cannot be loaded exactly if one of its propositions is malformed, and the error
then quotes the first of these.  Otherwise every history that adds its objects and propositions and
sets its goal, in any order, in any spelling and as often as one likes, ends in the problem that is
loaded.  Permuted and repeated entries make no difference. -/
theorem toProblem_exact (description : Description) :
    ((∃ error, description.toProblem = .error error) ↔
        ∃ text ∈ description.init, ¬ WellFormed text) ∧
      (∀ error, description.toProblem = .error error ↔
        ∃ before text, FirstMalformed description.init before text ∧ error = ⟨text⟩) ∧
      (∀ history, description.BuiltBy history →
        description.toProblem =
          .ok ((empty description.name description.domain).after history)) ∧
      ∀ other, Rearranges other description → other.toProblem = description.toProblem := by
  refine ⟨?_, fun error => toProblem_eq_error_iff, fun history built => built.toProblem_eq,
    fun other rearranges => rearranges.toProblem_eq⟩
  constructor
  · rintro ⟨error, refused⟩
    obtain ⟨before, text, first, -⟩ := toProblem_eq_error_iff.mp refused
    obtain ⟨⟨later, initEq⟩, -, malformed⟩ := first
    exact ⟨text, by simp [initEq], malformed⟩
  · rintro ⟨text, member, malformed⟩
    obtain ⟨before, firstText, first⟩ :=
      exists_firstMalformed fun wellFormed => malformed (wellFormed text member)
    exact ⟨_, toProblem_of_firstMalformed first⟩

/-- The goal first, then a repeated object between propositions in other spellings; and the same
description with repeated entries in another order. -/
theorem toProblem_exact_interleaved :
    let goal : Formula := .atom "(on a b)"
    let description : Description :=
      ⟨"stack", "blocks", [⟨"b", "block"⟩, ⟨"a", ""⟩], ["clear(a)", "(on b a)"], some goal⟩
    let other : Description := { description with
      objects := [⟨"a", ""⟩, ⟨"b", "block"⟩, ⟨"a", ""⟩]
      init := ["(on b a)", "clear(a)", "(on b a)"] }
    let history : List Edit := [.setGoal goal, .addProposition "on( b, a )", .addObject ⟨"a", ""⟩,
      .addProposition "(clear a)", .addObject ⟨"b", "block"⟩, .addProposition "clear( a )",
      .addObject ⟨"a", ""⟩]
    description.BuiltBy history ∧
      description.toProblem = .ok ((empty "stack" "blocks").after history) ∧
      other.Rearranges description ∧ other.toProblem = description.toProblem := by
  intro goal description other history
  have clear : ∀ text ∈ ["clear(a)", "(clear a)", "clear( a )"],
      CanonicalForm text "(clear a)" := by
    simp only [List.forall_mem_cons, ← storedToken_eq_ok_iff]
    exact ⟨rfl, rfl, rfl, nofun⟩
  have on : ∀ text ∈ ["(on b a)", "on( b, a )"], CanonicalForm text "(on b a)" := by
    simp only [List.forall_mem_cons, ← storedToken_eq_ok_iff]
    exact ⟨rfl, rfl, nofun⟩
  have sameClear (text other : String) (isClear : text ∈ ["clear(a)", "(clear a)", "clear( a )"])
      (otherIsClear : other ∈ ["clear(a)", "(clear a)", "clear( a )"]) : SameForm text other :=
    ⟨_, clear text isClear, clear other otherIsClear⟩
  have sameOn (text other : String) (isOn : text ∈ ["(on b a)", "on( b, a )"])
      (otherIsOn : other ∈ ["(on b a)", "on( b, a )"]) : SameForm text other :=
    ⟨_, on text isOn, on other otherIsOn⟩
  have built : description.BuiltBy history := by
    refine ⟨by decide, fun object => ?_, ?_, ?_, by decide, ?_⟩
    · have passed : passedObjects history = [⟨"a", ""⟩, ⟨"b", "block"⟩, ⟨"a", ""⟩] := rfl
      simp [passed, description, or_comm]
    · simp only [history, List.forall_mem_cons, Edit.texts]
      exact ⟨nofun, ⟨⟨"(on b a)", by decide, sameOn _ _ (by decide) (by decide)⟩, nofun⟩, nofun,
        ⟨⟨"clear(a)", by decide, sameClear _ _ (by decide) (by decide)⟩, nofun⟩, nofun,
        ⟨⟨"clear(a)", by decide, sameClear _ _ (by decide) (by decide)⟩, nofun⟩, nofun, nofun⟩
    · simp only [description, List.forall_mem_cons]
      exact ⟨⟨.addProposition "(clear a)", by decide, "(clear a)", by decide,
          sameClear _ _ (by decide) (by decide)⟩,
        ⟨.addProposition "on( b, a )", by decide, "on( b, a )", by decide,
          sameOn _ _ (by decide) (by decide)⟩, nofun⟩
    · rintro _ ⟨⟩
      exact ⟨.setGoal goal, by decide, rfl⟩
  have wellFormed : ∀ text ∈ description.init, WellFormed text := built.wellFormed
  have rearranges : other.Rearranges description := by
    refine ⟨rfl, rfl, fun object => ?_, .inr ⟨wellFormed, fun text => ?_⟩, rfl⟩
    · simp only [other, description, List.mem_cons, List.not_mem_nil, or_false]
      tauto
    · simp only [other, description, List.mem_cons, List.not_mem_nil, or_false]
      tauto
  obtain ⟨-, -, byHand, rearranged⟩ := toProblem_exact description
  exact ⟨built, byHand history built, rearranges, rearranged other rearranges⟩

end Description

end PlanningProblem
