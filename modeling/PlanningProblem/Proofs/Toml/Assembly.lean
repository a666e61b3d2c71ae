import PlanningProblem.Proofs.Toml.DistinctKeys

/-!
# Tables from statements

Entries with new names are added, in their order, to the table of the last
header.  This is stated once for the document itself and for the last of several
tables with the same header; with the step that begins the next of them it gives
what a run of such tables collects.
-/

namespace PlanningProblem

namespace Toml

/-- The statement of an entry whose key has one part. -/
def Statement.ofPair (pair : String × Datum) : Statement :=
  .entry ⟨[], pair.1⟩ pair.2

/-- The header of the next of several tables, and the entries of that table. -/
def elementStatements (name : String) (pairs : List (String × Datum)) : List Statement :=
  .element ⟨[], name⟩ :: pairs.map Statement.ofPair

namespace Entries

/-- A table that holds the given values. -/
def ofPairs (pairs : List (String × Datum)) : Entries :=
  pairs.map fun pair => (pair.1, .value pair.2)

theorem toData_ofPairs (pairs : List (String × Datum)) : entriesToData (ofPairs pairs) = pairs := by
  rw [entriesToData_eq_map, ofPairs, List.map_map]
  exact List.map_id pairs

theorem toData_append (entries : Entries) (name : String) (node : Node) :
    entriesToData (entries.append name node) = entriesToData entries ++ [(name, node.toDatum)] := by
  rw [entriesToData_eq_map, entriesToData_eq_map, append, List.map_append, List.map_singleton]

variable {entries : Entries} {name : String}

theorem lookup_append (fresh : name ∉ entries.map Prod.fst) (node : Node) :
    (entries.append name node).lookup name = some node := by
  rw [append, List.lookup_append, lookup_eq_none_of_not_mem_keys fresh, Option.none_or]
  simp

theorem replace_append (fresh : name ∉ entries.map Prod.fst) (node other : Node) :
    (entries.append name node).replace name other = entries.append name other := by
  have kept : ∀ entry ∈ entries, (if entry.1 = name then (name, other) else entry) = entry := by
    intro entry member
    have different : entry.1 ≠ name := fun same => fresh (same ▸ List.mem_map_of_mem member)
    rw [if_neg different]
  rw [append, replace, List.map_append, List.map_congr_left kept, List.map_id', append]
  simp

theorem define_of_fresh (fresh : name ∉ entries.map Prod.fst) (datum : Datum) :
    entries.define name datum = some (entries.append name (.value datum)) := by
  simp only [define, lookup_eq_none_of_not_mem_keys fresh]

end Entries

/-- To change the table at the path is to change the entries that the function embeds. -/
def Embeds (path : List String) (embed : Entries → Entries) : Prop :=
  ∀ (change : Entries → Option Entries) (entries : Entries),
    Entries.alter change path (embed entries) = (change entries).map embed

theorem embeds_root : Embeds [] id :=
  fun _ _ => (Option.map_id_apply).symm

section Statements

variable {root : Entries} {name : String}

theorem embeds_last (fresh : name ∉ root.map Prod.fst) (earlier : List Datum) :
    Embeds [name] fun last => root.append name (.tables earlier last) := by
  intro change last
  rw [Entries.alter]
  simp only [Entries.lookup_append fresh, Entries.alter, Entries.replace_append fresh]
  cases change last <;> rfl

theorem take_ofPair {path : List String} {embed : Entries → Entries} (embeds : Embeds path embed)
    {entries : Entries} {pair : String × Datum} (fresh : pair.1 ∉ entries.map Prod.fst) :
    Progress.take ⟨embed entries, path⟩ (.ofPair pair) =
      some ⟨embed (entries.append pair.1 (.value pair.2)), path⟩ := by
  have assigned : entries.assign ⟨[], pair.1⟩ pair.2 =
      some (entries.append pair.1 (.value pair.2)) :=
    Entries.define_of_fresh fresh pair.2
  rw [Statement.ofPair, Progress.take, embeds, assigned]
  rfl

/-- Entries with new names are added to the table of the last header in their order. -/
theorem foldlM_take_ofPair {path : List String} {embed : Entries → Entries}
    (embeds : Embeds path embed) {pairs : List (String × Datum)} {entries : Entries}
    (distinct : (entries.map Prod.fst ++ pairs.map Prod.fst).Nodup) :
    (pairs.map Statement.ofPair).foldlM Progress.take ⟨embed entries, path⟩ =
      some ⟨embed (entries ++ .ofPairs pairs), path⟩ := by
  induction pairs generalizing entries with
  | nil =>
      have noMore : entries ++ Entries.ofPairs [] = entries := List.append_nil entries
      rw [noMore]
      rfl
  | cons pair pairs ih =>
      have fresh : pair.1 ∉ entries.map Prod.fst := fun isKey =>
        (List.nodup_append.mp distinct).2.2 pair.1 isKey pair.1 List.mem_cons_self rfl
      have others : ((entries.append pair.1 (.value pair.2)).map Prod.fst ++
          pairs.map Prod.fst).Nodup := by
        simpa [Entries.append] using distinct
      rw [List.map_cons, List.foldlM_cons, take_ofPair embeds fresh]
      refine (ih others).trans ?_
      simp [Entries.append, Entries.ofPairs]

theorem take_element_first (fresh : name ∉ root.map Prod.fst) (focus : List String) :
    Progress.take ⟨root, focus⟩ (.element ⟨[], name⟩) =
      some ⟨root.append name (.tables [] []), [name]⟩ := by
  have opened : root.openElement name = some (root.append name (.tables [] [])) := by
    simp only [Entries.openElement, lookup_eq_none_of_not_mem_keys fresh]
  rw [Progress.take, Entries.alter, opened]
  rfl

theorem take_element_next (fresh : name ∉ root.map Prod.fst) (earlier : List Datum)
    (last : Entries) (focus : List String) :
    Progress.take ⟨root.append name (.tables earlier last), focus⟩ (.element ⟨[], name⟩) =
      some ⟨root.append name
        (.tables (earlier ++ [.mapping (entriesToData last)]) []), [name]⟩ := by
  have opened : (root.append name (.tables earlier last)).openElement name =
      some (root.append name (.tables (earlier ++ [.mapping (entriesToData last)]) [])) := by
    simp only [Entries.openElement, Entries.lookup_append fresh, Entries.replace_append fresh]
  rw [Progress.take, Entries.alter, opened]
  rfl

/-- The entries after a header are those of the table that it begins. -/
theorem foldlM_take_last (fresh : name ∉ root.map Prod.fst) (earlier : List Datum)
    {pairs : List (String × Datum)} (distinct : (pairs.map Prod.fst).Nodup) :
    (pairs.map Statement.ofPair).foldlM Progress.take
        ⟨root.append name (.tables earlier []), [name]⟩ =
      some ⟨root.append name (.tables earlier (Entries.ofPairs pairs)), [name]⟩ := by
  have noneBefore : (([] : Entries).map Prod.fst ++ pairs.map Prod.fst).Nodup := distinct
  exact foldlM_take_ofPair (embeds_last fresh earlier) noneBefore

/-- All tables that began before become elements, and so does every further one. -/
theorem exists_foldlM_take_elements (fresh : name ∉ root.map Prod.fst)
    {tables : List (List (String × Datum))}
    (distinct : ∀ pairs ∈ tables, (pairs.map Prod.fst).Nodup)
    (earlier : List Datum) (last : List (String × Datum)) :
    ∃ final, (tables.flatMap (elementStatements name)).foldlM Progress.take
        ⟨root.append name (.tables earlier (Entries.ofPairs last)), [name]⟩ = some final ∧
      entriesToData final.entries =
        entriesToData root ++ [(name, .sequence (earlier ++ (last :: tables).map .mapping))] := by
  induction tables generalizing earlier last with
  | nil =>
      refine ⟨_, rfl, ?_⟩
      rw [Entries.toData_append, Node.toDatum, Entries.toData_ofPairs, List.map_singleton]
  | cons pairs tables ih =>
      rw [List.forall_mem_cons] at distinct
      obtain ⟨final, taken, isData⟩ := ih distinct.2 (earlier ++ [.mapping last]) pairs
      refine ⟨final, ?_, ?_⟩
      · simp only [List.flatMap_cons, List.foldlM_append, elementStatements, List.foldlM_cons,
          take_element_next fresh, foldlM_take_last fresh _ distinct.1, Entries.toData_ofPairs,
          Option.bind_eq_bind, Option.bind_some, taken]
      · rw [isData, List.append_assoc, List.map_cons, List.map_cons, List.map_cons,
          List.singleton_append]

/-- What several tables with the same header contribute to the document. -/
def elementsEntry (name : String) : List (List (String × Datum)) → List (String × Datum)
  | [] => []
  | tables => [(name, .sequence (tables.map .mapping))]

/-- A document of entries and of tables with a common header holds these entries, and the tables
under the name of the header. -/
theorem assemble_tables {pairs : List (String × Datum)} {tables : List (List (String × Datum))}
    (distinct : (pairs.map Prod.fst).Nodup) (fresh : name ∉ pairs.map Prod.fst)
    (tablesDistinct : ∀ pairs ∈ tables, (pairs.map Prod.fst).Nodup) :
    assemble (pairs.map Statement.ofPair ++ tables.flatMap (elementStatements name)) =
      some (.mapping (pairs ++ elementsEntry name tables)) := by
  have rootTaken : (pairs.map Statement.ofPair).foldlM Progress.take {} =
      some ⟨Entries.ofPairs pairs, []⟩ := by
    have noneBefore : (([] : Entries).map Prod.fst ++ pairs.map Prod.fst).Nodup := distinct
    exact foldlM_take_ofPair embeds_root noneBefore
  have rootFresh : name ∉ (Entries.ofPairs pairs).map Prod.fst := by
    rw [Entries.ofPairs, List.map_map]
    exact fresh
  simp only [assemble, List.foldlM_append, rootTaken, Option.bind_eq_bind, Option.bind_some]
  cases tables with
  | nil =>
      rw [elementsEntry, List.append_nil]
      exact congrArg (fun entries => some (Datum.mapping entries)) (Entries.toData_ofPairs pairs)
  | cons first others =>
      rw [List.forall_mem_cons] at tablesDistinct
      obtain ⟨final, taken, isData⟩ :=
        exists_foldlM_take_elements rootFresh tablesDistinct.2 [] first
      simp only [List.flatMap_cons, List.foldlM_append, elementStatements, List.foldlM_cons,
        take_element_first rootFresh, foldlM_take_last rootFresh _ tablesDistinct.1,
        Option.bind_eq_bind, Option.bind_some, taken, isData, Entries.toData_ofPairs,
        List.nil_append, elementsEntry]
      rfl

end Statements

end Toml

end PlanningProblem
