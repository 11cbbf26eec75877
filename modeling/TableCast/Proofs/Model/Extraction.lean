import TableCast.Proofs.Model.AssemblyPasses
import TableCast.Proofs.Name.SortedNames

/-!
# From a table to its entity

Which table an entity of an assembly was made from, and what it took over from it.

**Results.**
* `map_name_tablesByName`: an assembly takes its tables by name, one for each name.
* `extract_ok`: a table that gets its columns gives an entity with all of them.
* `assemble_ok`, `exists_linkedFrom`: every entity of a finished assembly was extracted from a
  table of the run and linked among the entities of the run.
-/

namespace TableCast
namespace Model

open Name Schema Fallible

/-- The table that is kept under a name: of several with that name the last. -/
def keptTable? (tables : List Table) (name : String) : Option Table :=
  tables.reverse.find? (·.name == name)

namespace Assembler

section Tables

variable {tables : List Table} {table : Table}

theorem name_of_keptTable? {name : String} (h : keptTable? tables name = some table) :
    table.name = name := by
  simpa using List.find?_some h

theorem mem_of_keptTable? {name : String} (h : keptTable? tables name = some table) :
    table ∈ tables :=
  List.mem_reverse.mp (List.mem_of_find?_eq_some h)

/-- There is a table for every name that occurs. -/
theorem keptTable?_isSome {name : String} (h : name ∈ tables.map (·.name)) :
    ∃ table, keptTable? tables name = some table := by
  obtain ⟨table, htable, hname⟩ := List.mem_map.mp h
  apply Option.isSome_iff_exists.mp
  rw [keptTable?, List.find?_isSome]
  exact ⟨table, List.mem_reverse.mpr htable, beq_iff_eq.mpr hname⟩

theorem mem_tablesByName :
    table ∈ tablesByName tables ↔ keptTable? tables table.name = some table := by
  rw [tablesByName, List.mem_filterMap]
  constructor
  · rintro ⟨name, -, hfind⟩
    have hname : table.name = name := by simpa using List.find?_some hfind
    rw [hname]
    exact hfind
  · intro h
    refine ⟨table.name, ?_, h⟩
    exact Scope.mem_sortedDistinct.mpr (List.mem_map_of_mem (mem_of_keptTable? h))

theorem mem_of_mem_tablesByName (h : table ∈ tablesByName tables) : table ∈ tables :=
  mem_of_keptTable? (mem_tablesByName.mp h)

/-- An assembly takes its tables by name, one for each name. -/
theorem map_name_tablesByName (tables : List Table) :
    (tablesByName tables).map (·.name) = Scope.sortedDistinct (tables.map (·.name)) := by
  have hall : ∀ names : List String, (∀ name ∈ names, name ∈ tables.map (·.name)) →
      (names.filterMap (keptTable? tables)).map (·.name) = names := by
    intro names
    induction names with
    | nil => exact fun _ => rfl
    | cons name names ih =>
        intro hnames
        obtain ⟨table, htable⟩ := keptTable?_isSome (hnames name (List.mem_cons_self ..))
        rw [List.filterMap_cons_some htable, List.map_cons, name_of_keptTable? htable,
          ih fun other hother => hnames other (List.mem_cons_of_mem _ hother)]
  exact hall _ fun name hname => Scope.mem_sortedDistinct.mp hname

theorem nodup_map_name_tablesByName (tables : List Table) :
    ((tablesByName tables).map (·.name)).Nodup := by
  rw [map_name_tablesByName]
  exact Scope.nodup_sortedDistinct _

/-- Among tables with distinct names, the one with the name of a member is the member. -/
theorem tableNamed?_of_mem
    (hnodup : (tables.map (·.name)).Nodup) (h : table ∈ tables) :
    tableNamed? tables table.name = some table := by
  cases hfind : tableNamed? tables table.name with
  | none =>
      have := List.find?_eq_none.mp hfind table h
      simp at this
  | some other =>
      have hother : other ∈ tables := List.mem_of_find?_eq_some hfind
      have hname : other.name = table.name := by simpa using List.find?_some hfind
      rw [List.inj_on_of_nodup_map hnodup hother h hname]

/-- The table that a run has under a name is the one that is kept under it. -/
theorem tableNamed?_tablesByName (tables : List Table) (name : String) :
    tableNamed? (tablesByName tables) name = keptTable? tables name := by
  cases hkept : keptTable? tables name with
  | none =>
      refine List.find?_eq_none.mpr fun table htable hname => ?_
      rw [mem_tablesByName, beq_iff_eq.mp hname, hkept] at htable
      cases htable
  | some table =>
      have hname := name_of_keptTable? hkept
      rw [← hname] at hkept ⊢
      exact tableNamed?_of_mem (nodup_map_name_tablesByName tables) (mem_tablesByName.mpr hkept)

theorem keptTable?_singleton {name : String} (h : name = table.name) :
    keptTable? [table] name = some table :=
  List.find?_cons_of_pos (beq_iff_eq.mpr h.symm)

theorem tablesByName_singleton (table : Table) : tablesByName [table] = [table] := by
  simp [tablesByName, Scope.sortedDistinct, List.eraseDups_cons]

end Tables

section Columns

variable {a : Assembler} {typeNames : List (String × String)} {tables : List Table}
variable {table : Table} {entity : Entity}

/-- A table that gets its columns has valid foreign keys, and its entity has all columns and
enum types and no association yet. -/
theorem extract_ok
    (h : (a.extract typeNames tables table).2 = .ok entity) :
    validateKeys table tables = .ok () ∧
    ∃ enums columns,
      a.tableEnums typeNames table = .ok enums ∧
      (a.describeColumns table enums (a.fieldNames table) table.columns).2 = .ok columns ∧
      entity = {
        name := table.name
        typeName := (lookup? typeNames table.name).getD ""
        columns := columns
        companion := if a.generateRepository then
            some (Normalizer.repositoryName ((lookup? typeNames table.name).getD ""))
          else none
        primaryKey := table.primaryKey
        indexes := secondaryIndexes table
        enums := enums
        state := .columnsExtracted } := by
  rw [extract] at h
  cases hvalid : validateKeys table tables with
  | error e =>
      rw [hvalid] at h
      cases h
  | ok _ =>
      cases henums : a.tableEnums typeNames table with
      | error e =>
          rw [hvalid, henums] at h
          cases h
      | ok enums =>
          rw [hvalid, henums] at h
          dsimp only at h
          rcases hcolumns : a.describeColumns table enums (a.fieldNames table) table.columns with
            ⟨warnings, e | columns⟩
          · rw [hcolumns] at h
            cases e <;> cases h
          · rw [hcolumns] at h
            injection h with h
            exact ⟨rfl, enums, columns, rfl, by rw [hcolumns], h.symm⟩

/-- The columns are described one after the other. -/
theorem describeColumns_ok
    {enums : List EnumType} {fieldNames : List (String × String)} :
    ∀ {raw : List Schema.Column} {columns : List Column},
      (a.describeColumns table enums fieldNames raw).2 = .ok columns →
      List.Forall₂ (fun c d => (a.describeColumn table enums fieldNames c).2 = .ok d) raw columns
  | [], columns, h => by
      injection h with h
      rw [← h]
      exact List.Forall₂.nil
  | c :: raw, columns, h => by
      rw [describeColumns] at h
      rcases hc : a.describeColumn table enums fieldNames c with ⟨warnings, e | d⟩
      · rw [hc] at h
        cases h
      · rw [hc] at h
        obtain ⟨rest, hrest, rfl⟩ := map_eq_ok.mp h
        exact List.Forall₂.cons (by rw [hc]) (describeColumns_ok hrest)

theorem name_of_extract (h : (a.extract typeNames tables table).2 = .ok entity) :
    entity.name = table.name := by
  obtain ⟨-, enums, columns, -, -, rfl⟩ := extract_ok h
  rfl

theorem mem_extracted :
    entity ∈ a.extracted typeNames tables ↔
      ∃ table ∈ tables, (a.extract typeNames tables table).2 = .ok entity := by
  rw [extracted, List.mem_filterMap]
  refine exists_congr fun table => and_congr_right fun _ => ?_
  cases (a.extract typeNames tables table).2 with
  | error e => simp [Except.toOption]
  | ok other => simp [Except.toOption]

/-- The table of the run that an entity was made from. -/
theorem sourceTable_of_extract
    (htable : table ∈ tablesByName tables)
    (h : (a.extract typeNames (tablesByName tables) table).2 = .ok entity) :
    sourceTable (tablesByName tables) entity = table := by
  rw [sourceTable, name_of_extract h,
    tableNamed?_of_mem (nodup_map_name_tablesByName tables) htable]
  rfl

/-- The tables that get their columns keep their order. -/
theorem map_name_extracted_sublist (typeNames : List (String × String)) (tables : List Table) :
    ((a.extracted typeNames tables).map (·.name)).Sublist (tables.map (·.name)) := by
  have hall : ∀ rest : List Table,
      ((rest.filterMap fun table => (a.extract typeNames tables table).2.toOption).map
        (·.name)).Sublist (rest.map (·.name)) := by
    intro rest
    induction rest with
    | nil => exact List.Sublist.refl _
    | cons table rest ih =>
        rw [List.filterMap_cons, List.map_cons]
        cases hextract : (a.extract typeNames tables table).2 with
        | error e => exact ih.cons _
        | ok entity =>
            rw [← name_of_extract hextract]
            exact ih.cons_cons _
  exact hall tables

theorem nodup_map_name_extracted (typeNames : List (String × String)) (tables : List Table) :
    ((a.extracted typeNames (tablesByName tables)).map (·.name)).Nodup :=
  (nodup_map_name_tablesByName tables).sublist (map_name_extracted_sublist typeNames _)

end Columns

section Entities

variable {a : Assembler} {names : List String} {tables : List Table}
variable {failures : List (String × String)} {result : Assembly}

/-- How a linked entity came about: a table of the run got its columns and was linked among the
entities of the run. -/
structure LinkedFrom (a : Assembler) (typeNames : List (String × String)) (tables : List Table)
    (table : Table) (source : Entity) (linked : Entity × List Diagnostic) : Prop where
  /-- The table is one of the run. -/
  table_mem : table ∈ tables
  /-- The table got its columns. -/
  extract : (a.extract typeNames tables table).2 = .ok source
  /-- Its foreign keys were linked. -/
  link : link a.normalizer source table (a.extracted typeNames tables) tables =
    .ok (linked.1.associations, linked.2)
  /-- Nothing else changed. -/
  entity : linked.1 =
    { source with associations := linked.1.associations, state := .associationsLinked }

section Linked

variable {typeNames : List (String × String)} {table : Table} {source : Entity}
variable {pair : Entity × List Diagnostic}

/-- Linking and closing an entity change its associations only. -/
theorem LinkedFrom.closed (h : LinkedFrom a typeNames tables table source pair) :
    pair.1.closed = { source with associations := pair.1.associations, state := .finalized } := by
  rw [h.entity]
  rfl

theorem LinkedFrom.name (h : LinkedFrom a typeNames tables table source pair) :
    pair.1.closed.name = table.name := by
  rw [h.closed]
  show source.name = table.name
  exact name_of_extract h.extract

/-- The columns and the enum types of an entity are what its table was given. -/
theorem LinkedFrom.parts (h : LinkedFrom a typeNames tables table source pair) :
    a.tableEnums typeNames table = .ok pair.1.closed.enums ∧
    (a.describeColumns table pair.1.closed.enums (a.fieldNames table) table.columns).2 =
      .ok pair.1.closed.columns ∧
    source.fieldNames = pair.1.closed.fieldNames := by
  obtain ⟨-, enums, columns, henums, hcolumns, hsource⟩ := extract_ok h.extract
  rw [h.closed, hsource]
  exact ⟨henums, hcolumns, rfl⟩

end Linked

/-- The entities of an assembly, once they are linked and closed, are named as before. -/
theorem map_ref_linked
    {typeNames : List (String × String)} {extracted : List Entity}
    {linked : List (Entity × List Diagnostic)}
    (h : List.Forall₂ (fun source pair => ∃ table, LinkedFrom a typeNames tables table source pair)
      extracted linked) :
    (linked.map (·.1.closed)).map Entity.ref = extracted.map Entity.ref := by
  induction h with
  | nil => rfl
  | cons hfirst _ ih =>
      obtain ⟨table, hfirst⟩ := hfirst
      rw [List.map_cons, List.map_cons, List.map_cons, ih, hfirst.entity]
      rfl

/-- Entities that are linked among each other come from the tables of the run. -/
theorem linkedFrom_of_mapM
    {typeNames : List (String × String)} {linked : List (Entity × List Diagnostic)}
    (h : (a.extracted typeNames (tablesByName tables)).mapM
        (a.linkEntity (tablesByName tables) (a.extracted typeNames (tablesByName tables))) =
      .ok linked) :
    List.Forall₂
      (fun source pair => ∃ table,
        LinkedFrom a typeNames (tablesByName tables) table source pair)
      (a.extracted typeNames (tablesByName tables)) linked := by
  rw [mapM_eq_ok] at h
  refine ((List.forall₂_and_left _ _).mpr ⟨fun source hsource => hsource, h⟩).imp ?_
  rintro source pair ⟨hsource, hpair⟩
  obtain ⟨table, htable, hextract⟩ := mem_extracted.mp hsource
  obtain ⟨associations, hlink, hentity⟩ := linkEntity_ok hpair
  rw [sourceTable_of_extract htable hextract] at hlink
  refine ⟨table, htable, hextract, ?_, ?_⟩
  · rw [hentity]
    exact hlink
  · rw [hentity]

/-- A finished assembly consists of the entities that were extracted and linked, closed, and of
what was noted about them. -/
theorem assemble_ok
    (h : a.assemble names tables failures = .ok result) :
    ∃ (candidates : List (String × String)) (linked : List (Entity × List Diagnostic))
        (missing : List String),
      a.typeCandidates (tablesByName tables) = .ok candidates ∧
      List.Forall₂
        (fun source pair => ∃ table,
          LinkedFrom a (runTypeNames candidates) (tablesByName tables) table source pair)
        (a.extracted (runTypeNames candidates) (tablesByName tables)) linked ∧
      result.entities = linked.map (·.1.closed) ∧
      result.diagnostics =
        (tablesByName tables).flatMap
            (a.extractionNotes (runTypeNames candidates) (tablesByName tables)) ++
          linked.flatMap (·.2) ++ missing.map missingNote := by
  rcases a.assemble_cases names tables failures with
    ⟨stop, -, hstop⟩ | ⟨candidates, linked, result', missing, hcandidates, hpasses, hresult,
      hentities, hnotes⟩
  · rw [h] at hstop
    cases hstop
  · rw [h] at hresult
    obtain rfl := Except.ok.inj hresult
    rw [passes_eq hcandidates] at hpasses
    exact ⟨candidates, linked, missing, hcandidates, linkedFrom_of_mapM hpasses, hentities, hnotes⟩

/-- Every entity of a finished assembly was extracted from a table of the run and linked. -/
theorem exists_linkedFrom
    (h : a.assemble names tables failures = .ok result) :
    ∃ candidates, a.typeCandidates (tablesByName tables) = .ok candidates ∧
      ∀ e ∈ result.entities, ∃ table source pair,
        LinkedFrom a (runTypeNames candidates) (tablesByName tables) table source pair ∧
          e = pair.1.closed := by
  obtain ⟨candidates, linked, -, hcandidates, hlinked, hentities, -⟩ := assemble_ok h
  refine ⟨candidates, hcandidates, fun e he => ?_⟩
  rw [hentities] at he
  obtain ⟨pair, hpair, rfl⟩ := List.mem_map.mp he
  obtain ⟨source, -, table, hfrom⟩ := exists_of_mem_right hlinked hpair
  exact ⟨table, source, pair, hfrom, rfl⟩

end Entities
end Assembler
end Model
end TableCast
