import PlanningProblem.Proofs.Description.Denotation
import PlanningProblem.Toml.Document
import PlanningProblem.Toml.Reader.Lemmas

/-!
# The keys of a document are distinct

A table under construction never gets a second entry of the same name: a name is
added only where there is none, and otherwise what it stands for is replaced.
So no mapping in the datum of a document, at any depth, has a key twice.
-/

namespace PlanningProblem

namespace Toml

/-- The table stands for a datum in which all keys are distinct. -/
def Entries.WellKeyed (entries : Entries) : Prop :=
  (Datum.mapping (entriesToData entries)).WellKeyed

theorem entriesToData_eq_map (entries : Entries) :
    entriesToData entries = entries.map fun entry => (entry.1, entry.2.toDatum) := by
  induction entries with
  | nil => rfl
  | cons entry rest ih => rw [entriesToData, ih, List.map_cons]

theorem Entries.wellKeyed_iff {entries : Entries} :
    entries.WellKeyed ↔
      (entries.map Prod.fst).Nodup ∧ ∀ entry ∈ entries, entry.2.toDatum.WellKeyed := by
  rw [WellKeyed, Datum.wellKeyed_mapping_iff, entriesToData_eq_map, List.map_map,
    List.forall_mem_map]
  rfl

theorem Node.wellKeyed_tables_iff {earlier : List Datum} {last : Entries} :
    (Node.tables earlier last).toDatum.WellKeyed ↔
      (∀ datum ∈ earlier, datum.WellKeyed) ∧ last.WellKeyed := by
  rw [Node.toDatum, Datum.wellKeyed_sequence_iff, List.forall_mem_append, List.forall_mem_singleton,
    Entries.WellKeyed]

namespace Entries

variable {entries changed : Entries} {name : String} {node : Node} {datum : Datum}

theorem wellKeyed_nil : WellKeyed [] :=
  wellKeyed_iff.mpr ⟨List.nodup_nil, nofun⟩

theorem WellKeyed.of_lookup (wellKeyed : entries.WellKeyed)
    (found : entries.lookup name = some node) : node.toDatum.WellKeyed :=
  (wellKeyed_iff.mp wellKeyed).2 (name, node) (mem_of_lookup found)

theorem WellKeyed.append (wellKeyed : entries.WellKeyed) (fresh : name ∉ entries.map Prod.fst)
    (nodeWellKeyed : node.toDatum.WellKeyed) : (entries.append name node).WellKeyed := by
  rw [wellKeyed_iff] at wellKeyed ⊢
  rw [Entries.append, List.map_append, List.forall_mem_append, List.forall_mem_singleton]
  refine ⟨List.nodup_append.mpr ⟨wellKeyed.1, List.pairwise_singleton _ _, ?_⟩, wellKeyed.2,
    nodeWellKeyed⟩
  rintro key isKey other isName rfl
  rw [List.map_singleton, List.mem_singleton] at isName
  subst isName
  exact fresh isKey

theorem WellKeyed.replace (wellKeyed : entries.WellKeyed)
    (nodeWellKeyed : node.toDatum.WellKeyed) : (entries.replace name node).WellKeyed := by
  have keysKept : (entries.replace name node).map Prod.fst = entries.map Prod.fst := by
    rw [Entries.replace, List.map_map]
    refine List.map_congr_left fun entry _ => ?_
    by_cases isName : entry.1 = name <;> simp [isName]
  rw [wellKeyed_iff] at wellKeyed ⊢
  rw [keysKept, Entries.replace, List.forall_mem_map]
  refine ⟨wellKeyed.1, fun entry member => ?_⟩
  split
  · exact nodeWellKeyed
  · exact wellKeyed.2 entry member

theorem WellKeyed.erase (wellKeyed : entries.WellKeyed) (name : String) :
    (entries.erase name).WellKeyed := by
  rw [wellKeyed_iff] at wellKeyed ⊢
  exact ⟨wellKeyed.1.sublist (List.filter_sublist.map _),
    fun entry member => wellKeyed.2 entry (List.mem_of_mem_filter member)⟩

theorem not_mem_keys_erase (entries : Entries) (name : String) :
    name ∉ (entries.erase name).map Prod.fst := by
  simp [erase]

theorem WellKeyed.define (wellKeyed : entries.WellKeyed) (datumWellKeyed : datum.WellKeyed)
    (defined : entries.define name datum = some changed) : changed.WellKeyed := by
  rw [Entries.define.eq_def] at defined
  split at defined
  · next missing =>
      cases defined
      exact wellKeyed.append (not_mem_keys_of_lookup missing) datumWellKeyed
  · cases defined

theorem WellKeyed.defineInside {origin : Origin} {path : List String}
    (wellKeyed : entries.WellKeyed) (datumWellKeyed : datum.WellKeyed)
    (defined : defineInside origin name datum path entries = some changed) :
    changed.WellKeyed := by
  induction path generalizing origin entries changed with
  | nil =>
      rw [Entries.defineInside] at defined
      split at defined
      · exact wellKeyed.define datumWellKeyed defined
      · cases defined
  | cons part path ih =>
      rw [Entries.defineInside] at defined
      split at defined
      · next missing =>
          obtain ⟨inner, innerDefined, same⟩ := Option.bind_eq_some_iff.mp defined
          cases same
          exact wellKeyed.append (not_mem_keys_of_lookup missing) (ih wellKeyed_nil innerDefined)
      · cases defined
      · next inner found =>
          obtain ⟨inner, innerDefined, same⟩ := Option.bind_eq_some_iff.mp defined
          cases same
          exact wellKeyed.replace (ih (wellKeyed.of_lookup found) innerDefined)
      · next earlier last found =>
          obtain ⟨last, lastDefined, same⟩ := Option.bind_eq_some_iff.mp defined
          cases same
          have tablesWellKeyed := Node.wellKeyed_tables_iff.mp (wellKeyed.of_lookup found)
          exact wellKeyed.replace (Node.wellKeyed_tables_iff.mpr
            ⟨tablesWellKeyed.1, ih tablesWellKeyed.2 lastDefined⟩)
      · cases defined

theorem WellKeyed.assign {key : Key} (wellKeyed : entries.WellKeyed)
    (datumWellKeyed : datum.WellKeyed) (assigned : entries.assign key datum = some changed) :
    changed.WellKeyed := by
  rw [Entries.assign.eq_def] at assigned
  split at assigned
  · exact wellKeyed.define datumWellKeyed assigned
  · exact wellKeyed.defineInside datumWellKeyed assigned

theorem WellKeyed.openTable (wellKeyed : entries.WellKeyed)
    (opened : entries.openTable name = some changed) : changed.WellKeyed := by
  rw [Entries.openTable.eq_def] at opened
  split at opened
  · next missing =>
      cases opened
      exact wellKeyed.append (not_mem_keys_of_lookup missing) wellKeyed_nil
  · next inner found =>
      cases opened
      have innerWellKeyed : WellKeyed inner := wellKeyed.of_lookup found
      exact (wellKeyed.erase name).append (not_mem_keys_erase entries name) innerWellKeyed
  · cases opened

theorem WellKeyed.openElement (wellKeyed : entries.WellKeyed)
    (opened : entries.openElement name = some changed) : changed.WellKeyed := by
  rw [Entries.openElement.eq_def] at opened
  split at opened
  · next missing =>
      cases opened
      exact wellKeyed.append (not_mem_keys_of_lookup missing)
        (Node.wellKeyed_tables_iff.mpr ⟨nofun, wellKeyed_nil⟩)
  · next earlier last found =>
      cases opened
      have tablesWellKeyed := Node.wellKeyed_tables_iff.mp (wellKeyed.of_lookup found)
      refine wellKeyed.replace (Node.wellKeyed_tables_iff.mpr ⟨?_, wellKeyed_nil⟩)
      rw [List.forall_mem_append, List.forall_mem_singleton]
      exact tablesWellKeyed
  · cases opened

theorem WellKeyed.alter {change : Entries → Option Entries} {path : List String}
    (changeWellKeyed : ∀ {entries changed : Entries},
      entries.WellKeyed → change entries = some changed → changed.WellKeyed)
    (wellKeyed : entries.WellKeyed) (altered : entries.alter change path = some changed) :
    changed.WellKeyed := by
  induction path generalizing entries changed with
  | nil => exact changeWellKeyed wellKeyed altered
  | cons part path ih =>
      rw [Entries.alter] at altered
      split at altered
      · next missing =>
          obtain ⟨inner, innerAltered, same⟩ := Option.bind_eq_some_iff.mp altered
          cases same
          exact wellKeyed.append (not_mem_keys_of_lookup missing) (ih wellKeyed_nil innerAltered)
      · next inner found =>
          obtain ⟨inner, innerAltered, same⟩ := Option.bind_eq_some_iff.mp altered
          cases same
          exact wellKeyed.replace (ih (wellKeyed.of_lookup found) innerAltered)
      · next earlier last found =>
          obtain ⟨last, lastAltered, same⟩ := Option.bind_eq_some_iff.mp altered
          cases same
          have tablesWellKeyed := Node.wellKeyed_tables_iff.mp (wellKeyed.of_lookup found)
          exact wellKeyed.replace (Node.wellKeyed_tables_iff.mpr
            ⟨tablesWellKeyed.1, ih tablesWellKeyed.2 lastAltered⟩)
      · cases altered

end Entries

theorem yields_integer : Yields integer Datum.WellKeyed := by
  refine .after fun value => ?_
  split
  · exact .pure trivial
  · exact fun _ _ _ => nofun

theorem yields_decimalFloat : Yields decimalFloat Datum.WellKeyed := by
  refine .after fun negative => .after fun whole => .after fun decimals => ?_
  dsimp only
  split
  · exact fun _ _ _ => nofun
  · exact .pure trivial

theorem yields_scalar : Yields scalar Datum.WellKeyed := by
  have specialWellKeyed : Yields specialFloat Datum.WellKeyed :=
    .after fun negative => .orElse (.after fun _ => .pure trivial) (.after fun _ => .pure trivial)
  have booleanWellKeyed : Yields boolean Datum.WellKeyed :=
    .orElse (.after fun _ => .pure trivial) (.after fun _ => .pure trivial)
  exact .orElse (.map fun _ => trivial) (.orElse (.after fun _ => .pure trivial)
    (.orElse (.orElse yields_decimalFloat specialWellKeyed)
      (.orElse yields_integer booleanWellKeyed)))

section Readers

variable {value : Reader Datum}

theorem yields_inlineTable (valuesWellKeyed : Yields value Datum.WellKeyed) :
    Yields (inlineTable value) Datum.WellKeyed := by
  have pairWellKeyed : Yields (do
      let key ← key
      char '='
      spaces
      let datum ← value
      spaces
      return (key, datum)) fun pair => pair.2.WellKeyed :=
    .after fun key => .after fun _ => .after fun _ =>
      .bind valuesWellKeyed fun datum isWellKeyed => .after fun _ => .pure isWellKeyed
  rw [inlineTable]
  refine .after fun _ => .bind (.sepBy pairWellKeyed) fun pairs pairsWellKeyed => ?_
  refine .after fun _ => .after fun _ => .bind (.foldlM Entries.wellKeyed_nil ?_) ?_
  · intro entries wellKeyed pair member
    exact .lift fun next => wellKeyed.assign (pairsWellKeyed pair member)
  · exact fun entries wellKeyed => .pure wellKeyed

theorem yields_array (valuesWellKeyed : Yields value Datum.WellKeyed) :
    Yields (array value) Datum.WellKeyed := by
  have elementWellKeyed : Yields (gap *> value <* gap) Datum.WellKeyed :=
    .bind (.after fun _ => valuesWellKeyed) fun datum isWellKeyed =>
      .after fun _ => .pure isWellKeyed
  rw [array]
  refine .after fun _ => .after fun _ => .bind (.sepBy elementWellKeyed) ?_
  intro elements allWellKeyed
  have finished : Yields (do
      gap
      char ']'
      return .sequence elements) Datum.WellKeyed :=
    .after fun _ => .after fun _ => .pure (Datum.wellKeyed_sequence_iff.mpr allWellKeyed)
  dsimp only
  split
  · exact finished
  · exact .after fun _ => finished

end Readers

theorem yields_value (room : Nat) : Yields (value room) Datum.WellKeyed := by
  induction room with
  | zero => exact yields_scalar
  | succ room ih => exact .orElse yields_scalar (.orElse (yields_array ih) (yields_inlineTable ih))

/-- What a statement says fits into a table with distinct keys. -/
def Statement.WellKeyed : Statement → Prop
  | .entry _ datum => datum.WellKeyed
  | _ => True

theorem yields_statements :
    Yields statements fun statements => ∀ statement ∈ statements, statement.WellKeyed := by
  have entryWellKeyed : Yields entry Statement.WellKeyed :=
    .after fun _ => .after fun _ => .after fun _ => .bind (yields_value _) fun _ isWellKeyed =>
      .pure isWellKeyed
  have statementWellKeyed : Yields statement Statement.WellKeyed :=
    .orElse (.after fun _ => .after fun _ => .after fun _ => .pure trivial)
      (.orElse (.after fun _ => .after fun _ => .after fun _ => .pure trivial) entryWellKeyed)
  have lineWellKeyed : Yields line fun found => ∀ statement ∈ found, statement.WellKeyed :=
    .after fun _ => .bind (.optional statementWellKeyed) fun _ eachWellKeyed =>
      .after fun _ => .after fun _ => .pure eachWellKeyed
  refine .after fun _ => .bind (.sepBy1 lineWellKeyed) fun lines linesWellKeyed =>
    .after fun _ => .pure fun statement member => ?_
  obtain ⟨found, isLine, isStatement⟩ := List.mem_filterMap.mp member
  exact linesWellKeyed found isLine statement isStatement

theorem Progress.wellKeyed_take {progress next : Progress} {statement : Statement}
    (wellKeyed : progress.entries.WellKeyed) (statementWellKeyed : statement.WellKeyed)
    (taken : progress.take statement = some next) : next.entries.WellKeyed := by
  cases statement with
  | entry key datum =>
      obtain ⟨entries, altered, same⟩ := Option.bind_eq_some_iff.mp taken
      cases same
      exact wellKeyed.alter (fun isWellKeyed => isWellKeyed.assign statementWellKeyed) altered
  | table key =>
      obtain ⟨entries, altered, same⟩ := Option.bind_eq_some_iff.mp taken
      cases same
      exact wellKeyed.alter Entries.WellKeyed.openTable altered
  | element key =>
      obtain ⟨entries, altered, same⟩ := Option.bind_eq_some_iff.mp taken
      cases same
      exact wellKeyed.alter Entries.WellKeyed.openElement altered

theorem Progress.wellKeyed_foldlM {progress final : Progress} {statements : List Statement}
    (wellKeyed : progress.entries.WellKeyed)
    (eachWellKeyed : ∀ statement ∈ statements, statement.WellKeyed)
    (taken : statements.foldlM take progress = some final) : final.entries.WellKeyed := by
  induction statements generalizing progress with
  | nil =>
      cases taken
      exact wellKeyed
  | cons statement rest ih =>
      rw [List.forall_mem_cons] at eachWellKeyed
      rw [List.foldlM_cons] at taken
      obtain ⟨next, first, others⟩ := Option.bind_eq_some_iff.mp taken
      exact ih (wellKeyed_take wellKeyed eachWellKeyed.1 first) eachWellKeyed.2 others

/-- In the datum of a document, no mapping has a key twice. -/
theorem wellKeyed_of_read? {document : String} {datum : Datum}
    (isRead : read? document = some datum) : datum.WellKeyed := by
  obtain ⟨⟨statements, rest⟩, taken, assembled⟩ := Option.bind_eq_some_iff.mp isRead
  obtain ⟨progress, allTaken, same⟩ := Option.bind_eq_some_iff.mp assembled
  cases same
  exact Progress.wellKeyed_foldlM Entries.wellKeyed_nil (yields_statements _ _ _ taken) allTaken

end Toml

end PlanningProblem
