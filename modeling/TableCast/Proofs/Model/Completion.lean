import TableCast.Proofs.Model.Extraction
import TableCast.Proofs.Model.LinkSteps

/-!
# Assemblies that come to an end

A table gets its columns only when its foreign keys are valid, so linking cannot refuse them
afterwards.  What can still stop a run is a foreign key without source columns, or a table name
that has no number.

**Results.**
* `link_finishes_iff`, `assemble_finishes_iff`: what a table needs to be linked, and an assembly
  to finish.
* `link_total`, `assemble_total`: both succeed when all foreign keys have source columns and type
  names need no number.
* `exists_entity`: a table that gets its columns has an entity.
* `exists_entity_of_lone`: so a table is assembled on its own.
-/

namespace TableCast
namespace Model

open Name Schema Fallible

/-- Type names that need no number can always be made. -/
theorem typeName_total
    {n : Normalizer} (h : n.singularize = false) (table : String) :
    ∃ typeName, n.typeName table = .ok typeName :=
  ⟨n.unreserve (upperCamel table), by rw [Normalizer.typeName, h]; rfl⟩

/-- Associations can be named after the foreign keys of a table: each has a source column, and the
table that it references has a type name, even when that table is not part of the run. -/
def Nameable (n : Normalizer) (t : Table) : Prop :=
  ∀ key ∈ t.foreignKeys,
    key.sourceColumns ≠ [] ∧ ∃ typeName, n.typeName key.targetTable = .ok typeName

section Linking

variable {n : Normalizer} {owner : Entity} {entities : List Entity} {tables : List Table}
variable {key : ForeignKey}

theorem candidateNames_total
    (h : key.sourceColumns ≠ []) (ownerType targetType : String) (isSelf : Bool) :
    ∃ candidates, candidateNames n key ownerType targetType isSelf = .ok candidates := by
  obtain ⟨first, rest, hsources⟩ := List.exists_cons_of_ne_nil h
  rw [candidateNames, hsources]
  exact ⟨_, rfl⟩

/-- What a foreign key needs so that it can be linked. -/
@[mk_iff] structure Linkable (n : Normalizer) (owner : Entity) (entities : List Entity)
    (tables : List Table) (key : ForeignKey) : Prop where
  sources : key.sourceColumns ≠ []
  valid : ∃ columns,
    targetColumns key owner.name (tableNamed? tables key.targetTable) = .ok columns
  /-- There is a type name to name the association after. -/
  assumed : ∃ assumed, assumedTypeName n key (keyTarget owner entities key) = .ok assumed

/-- Whether a foreign key can be linked does not depend on those before it. -/
theorem linkKey_finishes_iff (state : Linking) :
    (∃ next, linkKey n owner entities tables state key = .ok next) ↔
      Linkable n owner entities tables key := by
  simp only [linkKey, bind_eq_ok, mapError_eq_ok, pure_eq_ok]
  constructor
  · rintro ⟨-, columns, hcolumns, assumed, hassumed, candidates, hcandidates, -⟩
    refine ⟨fun hnone => ?_, ⟨columns, hcolumns⟩, ⟨assumed, hassumed⟩⟩
    rw [candidateNames, hnone] at hcandidates
    cases hcandidates
  · rintro ⟨hsources, ⟨columns, hcolumns⟩, assumed, hassumed⟩
    obtain ⟨candidates, hcandidates⟩ := candidateNames_total (n := n) hsources owner.typeName
      assumed (key.targetTable == owner.name)
    exact ⟨_, columns, hcolumns, assumed, hassumed, candidates, hcandidates, rfl⟩

/-- A table can be linked exactly when each of its foreign keys can. -/
theorem link_finishes_iff {table : Table} :
    (∃ result, link n owner table entities tables = .ok result) ↔
      ∀ key ∈ table.foreignKeys, Linkable n owner entities tables key := by
  constructor
  · rintro ⟨result, h⟩
    obtain ⟨done, hfold, -⟩ := bind_eq_ok.mp h
    have hall : ∀ key ∈ table.foreignKeys.mergeSort keyLe,
        Linkable n owner entities tables key := by
      refine foldlM_ok_induction
        (motive := fun before _ => ∀ key ∈ before, Linkable n owner entities tables key)
        (fun key hkey => absurd hkey List.not_mem_nil) ?_ hfold
      intro before key state next _ hbefore hnext
      rw [List.forall_mem_append, List.forall_mem_singleton]
      exact ⟨hbefore, (linkKey_finishes_iff state).mp ⟨next, mapError_eq_ok.mp hnext⟩⟩
    exact fun key hkey => hall key (List.mem_mergeSort.mpr hkey)
  · intro hall
    have hstep : ∀ key ∈ table.foreignKeys.mergeSort keyLe, ∀ state, ∃ next,
        (linkKey n owner entities tables state key).mapError (fun e =>
          ({ error := e, diagnostics := state.diagnostics } : LinkStop)) = .ok next := by
      intro key hkey state
      obtain ⟨next, hnext⟩ :=
        (linkKey_finishes_iff state).mpr (hall key (List.mem_mergeSort.mp hkey))
      exact ⟨next, mapError_eq_ok.mpr hnext⟩
    obtain ⟨done, hdone⟩ := foldlM_total hstep { scope := { taken := owner.fieldNames.eraseDups } }
    exact ⟨(done.associations, done.diagnostics), bind_eq_ok.mpr ⟨done, hdone, rfl⟩⟩

theorem assumedTypeName_total {typeName : String} (h : n.typeName key.targetTable = .ok typeName) :
    ∃ assumed, assumedTypeName n key (keyTarget owner entities key) = .ok assumed := by
  cases keyTarget owner entities key with
  | some target => exact ⟨target.typeName, rfl⟩
  | none => exact ⟨typeName, by rw [assumedTypeName, h]; rfl⟩

theorem targetColumns_of_validateKeys
    {table : Table} (h : validateKeys table tables = .ok ()) (hkey : key ∈ table.foreignKeys) :
    ∃ columns,
      targetColumns key table.name (tableNamed? tables key.targetTable) = .ok columns := by
  have hchecked := forM_eq_ok.mp h key hkey
  obtain ⟨columns, hcolumns, -⟩ := bind_eq_ok.mp hchecked
  exact ⟨columns, hcolumns⟩

/-- A table with valid foreign keys, all with source columns, can be linked. -/
theorem link_total
    {table : Table} (hname : owner.name = table.name)
    (hnames : ∀ table, ∃ typeName, n.typeName table = .ok typeName)
    (hsources : ∀ key ∈ table.foreignKeys, key.sourceColumns ≠ [])
    (hvalid : validateKeys table tables = .ok ()) :
    ∃ result, link n owner table entities tables = .ok result := by
  refine link_finishes_iff.mpr fun key hkey => ?_
  obtain ⟨typeName, htype⟩ := hnames key.targetTable
  exact ⟨hsources key hkey, hname ▸ targetColumns_of_validateKeys hvalid hkey,
    assumedTypeName_total htype⟩

end Linking

namespace Assembler

section Run

variable {a : Assembler} {names : List String} {tables : List Table}
variable {failures : List (String × String)} {result : Assembly}

/-- Types get their names exactly when every table has a type name. -/
theorem typeCandidates_finishes_iff :
    (∃ candidates, a.typeCandidates tables = .ok candidates) ↔
      ∀ table ∈ tables, ∃ typeName, a.normalizer.typeName table.name = .ok typeName := by
  constructor
  · rintro ⟨candidates, h⟩ table htable
    obtain ⟨perTable, hperTable, -⟩ := bind_eq_ok.mp h
    obtain ⟨pairs, -, hpairs⟩ := exists_of_mem_left (mapM_eq_ok.mp hperTable) htable
    obtain ⟨typeName, htype, -⟩ := bind_eq_ok.mp hpairs
    exact ⟨typeName, htype⟩
  · intro hnames
    have hstep : ∀ table ∈ tables, ∃ pairs, (do
        let typeName ← a.normalizer.typeName table.name
        return (table.name, typeName) ::
          (if a.emitEnums then enumTypeCandidates a.normalizer table else []) :
        Except Plural.NumberError (List (String × String))) = .ok pairs := by
      intro table htable
      obtain ⟨typeName, htype⟩ := hnames table htable
      exact ⟨_, bind_eq_ok.mpr ⟨typeName, htype, rfl⟩⟩
    obtain ⟨perTable, hperTable⟩ := mapM_total hstep
    exact ⟨perTable.flatten, bind_eq_ok.mpr ⟨perTable, hperTable, rfl⟩⟩

/-- Linking finds a name for an association exactly when the key references its own table or one
that has a type name: every table of the run has one. -/
theorem assumedTypeName_finishes_iff
    {candidates typeNames : List (String × String)} {owner : Entity} {key : ForeignKey}
    (h : a.typeCandidates tables = .ok candidates) (howner : owner.name ∈ tables.map (·.name)) :
    (∃ assumed, assumedTypeName a.normalizer key
        (keyTarget owner (a.extracted typeNames tables) key) = .ok assumed) ↔
      ∃ typeName, a.normalizer.typeName key.targetTable = .ok typeName := by
  have hread : key.targetTable ∈ tables.map (·.name) →
      ∃ typeName, a.normalizer.typeName key.targetTable = .ok typeName := by
    intro hmem
    obtain ⟨table, htable, hname⟩ := List.mem_map.mp hmem
    exact hname ▸ typeCandidates_finishes_iff.mp ⟨candidates, h⟩ table htable
  refine ⟨?_, fun ⟨typeName, htype⟩ => assumedTypeName_total htype⟩
  rintro ⟨assumed, hassumed⟩
  rw [keyTarget] at hassumed
  split_ifs at hassumed with hself
  · exact hread (beq_iff_eq.mp hself ▸ howner)
  · cases hfind : (a.extracted typeNames tables).find? (·.name == key.targetTable) with
    | none =>
        rw [hfind] at hassumed
        exact ⟨assumed, mapError_eq_ok.mp hassumed⟩
    | some entity =>
        have hname : entity.name = key.targetTable := by simpa using List.find?_some hfind
        obtain ⟨table, htable, hextract⟩ := mem_extracted.mp (List.mem_of_find?_eq_some hfind)
        exact hread (List.mem_map.mpr ⟨table, htable, (name_of_extract hextract).symm.trans hname⟩)

/-- A table that gets its columns has valid foreign keys, so it can be linked exactly when they can
be named. -/
theorem link_extracted_finishes_iff
    {candidates typeNames : List (String × String)} {table : Table} {entity : Entity}
    (h : a.typeCandidates tables = .ok candidates) (htable : table ∈ tables)
    (hextract : (a.extract typeNames tables table).2 = .ok entity) :
    (∃ result, link a.normalizer entity table (a.extracted typeNames tables) tables =
        .ok result) ↔ Nameable a.normalizer table := by
  have hname := name_of_extract hextract
  have hmem : entity.name ∈ tables.map (·.name) := hname ▸ List.mem_map_of_mem htable
  rw [link_finishes_iff]
  refine forall₂_congr fun key hkey => ?_
  have hvalid := targetColumns_of_validateKeys (extract_ok hextract).1 hkey
  rw [linkable_iff, assumedTypeName_finishes_iff h hmem, hname, and_iff_right hvalid]

/-- An assembly finishes exactly when its types get their names and the foreign keys of every
table that gets its columns can be named. -/
theorem assemble_finishes_iff {names : List String} {failures : List (String × String)} :
    (∃ result, a.assemble names tables failures = .ok result) ↔
      ∃ candidates, a.typeCandidates (tablesByName tables) = .ok candidates ∧
        ∀ table ∈ tablesByName tables, ∀ entity,
          (a.extract (runTypeNames candidates) (tablesByName tables) table).2 = .ok entity →
          Nameable a.normalizer table := by
  constructor
  · rintro ⟨result, h⟩
    obtain ⟨candidates, linked, -, hcandidates, hlinked, -, -⟩ := assemble_ok h
    refine ⟨candidates, hcandidates, fun table htable entity hextract => ?_⟩
    obtain ⟨pair, -, t, hfrom⟩ :=
      exists_of_mem_left hlinked (mem_extracted.mpr ⟨table, htable, hextract⟩)
    have hsame : t = table := by
      rw [← sourceTable_of_extract hfrom.table_mem hfrom.extract,
        sourceTable_of_extract htable hextract]
    exact (link_extracted_finishes_iff hcandidates htable hextract).mp ⟨_, hsame ▸ hfrom.link⟩
  · rintro ⟨candidates, hcandidates, hkeys⟩
    have hlinked : ∀ entity ∈ a.extracted (runTypeNames candidates) (tablesByName tables),
        ∃ linked, a.linkEntity (tablesByName tables)
          (a.extracted (runTypeNames candidates) (tablesByName tables)) entity = .ok linked := by
      intro entity hentity
      obtain ⟨table, htable, hextract⟩ := mem_extracted.mp hentity
      obtain ⟨⟨associations, warnings⟩, hlink⟩ :=
        (link_extracted_finishes_iff hcandidates htable hextract).mpr
          (hkeys table htable entity hextract)
      exact ⟨_, by rw [linkEntity, sourceTable_of_extract htable hextract, hlink]⟩
    obtain ⟨linked, hpasses⟩ := mapM_total hlinked
    rw [← passes_eq hcandidates] at hpasses
    rcases a.assemble_cases names tables failures with
      ⟨stop, hstop, -⟩ | ⟨-, -, result, -, -, -, hresult, -⟩
    · rw [hpasses] at hstop
      cases hstop
    · exact ⟨result, hresult⟩

/-- An assembly finishes when type names need no number and every foreign key has source
columns. -/
theorem assemble_total
    (hnames : ∀ table, ∃ typeName, a.normalizer.typeName table = .ok typeName)
    (hsources : ∀ table ∈ tables, ∀ key ∈ table.foreignKeys, key.sourceColumns ≠ [])
    (names : List String) (failures : List (String × String)) :
    ∃ result, a.assemble names tables failures = .ok result := by
  obtain ⟨candidates, hcandidates⟩ :=
    typeCandidates_finishes_iff.mpr fun table _ => hnames table.name
  refine assemble_finishes_iff.mpr ⟨candidates, hcandidates, fun table htable _ _ key hkey => ?_⟩
  have hmem := mem_of_mem_tablesByName htable
  exact ⟨hsources table hmem key hkey, hnames key.targetTable⟩

/-- A table that gets its columns has an entity. -/
theorem exists_entity
    {table : Table}
    (h : a.assemble names tables failures = .ok result)
    (hkept : keptTable? tables table.name = some table)
    (hextract : ∀ typeNames, ∃ entity,
      (a.extract typeNames (tablesByName tables) table).2 = .ok entity) :
    ∃ entity ∈ result.entities, entity.name = table.name := by
  obtain ⟨candidates, linked, -, -, hlinked, hentities, -⟩ := assemble_ok h
  obtain ⟨source, hsource⟩ := hextract (runTypeNames candidates)
  have hmem : source.ref ∈ (linked.map (·.1.closed)).map Entity.ref := by
    rw [map_ref_linked hlinked]
    exact List.mem_map_of_mem (mem_extracted.mpr ⟨table, mem_tablesByName.mpr hkept, hsource⟩)
  obtain ⟨entity, hentity, href⟩ := List.mem_map.mp hmem
  refine ⟨entity, hentities ▸ hentity, ?_⟩
  exact (congrArg EntityRef.table href).trans (name_of_extract hsource)

/-- A table that gets its columns on its own is assembled on its own. -/
theorem exists_entity_of_lone
    {table : Table} (hnames : ∀ name, ∃ typeName, a.normalizer.typeName name = .ok typeName)
    (hsources : ∀ key ∈ table.foreignKeys, key.sourceColumns ≠ [])
    (hextract : ∀ typeNames, ∃ entity, (a.extract typeNames [table] table).2 = .ok entity) :
    ∃ result, a.assemble [table.name] [table] [] = .ok result ∧
      ∃ e ∈ result.entities, e.name = table.name := by
  obtain ⟨result, h⟩ := assemble_total hnames (List.forall_mem_singleton.mpr hsources)
    [table.name] []
  rw [← tablesByName_singleton] at hextract
  exact ⟨result, h, exists_entity h (keptTable?_singleton rfl) hextract⟩

end Run

section Sample

/-- A table whose rows reference each other and the rows of another table. -/
def staff : Table :=
  { name := "staff"
    columns := [
      { name := "id", nativeType := "int" },
      { name := "boss_id", nativeType := "int" },
      { name := "office_id", nativeType := "int" }]
    foreignKeys := [
      { name := "seat"
        sourceColumns := ["office_id"]
        targetTable := "office"
        targetColumns := ["id"] },
      { name := "boss"
        sourceColumns := ["boss_id"]
        targetTable := "staff"
        targetColumns := ["id"] }] }

/-- An assembler that emits no enum types. -/
def withoutEnums : Assembler := { dialect := .sqlite, normalizer := {}, emitEnums := false }

/-- The table is assembled on its own, without the other one. -/
theorem staff_assembled :
    ∃ result, withoutEnums.assemble ["staff"] [staff] [] = .ok result ∧
      ∃ e ∈ result.entities, e.name = "staff" :=
  exists_entity_of_lone (typeName_total rfl) (by decide) fun _ => ⟨_, rfl⟩

end Sample
end Assembler
end Model
end TableCast
