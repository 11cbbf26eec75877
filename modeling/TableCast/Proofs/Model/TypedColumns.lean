import TableCast.Proofs.Model.MemberNames
import TableCast.Proofs.Model.TypeNames

/-!
# Typed columns

The semantic type of a column comes from one of three sources: its enum type, the value list that is
declared for it, or the table of native types.  Only a column that has neither an enum type nor a
declared list can be of an unknown type, and only then is a warning given.

**Sources.**  `columnTyping` is the typing that a column of a table gets; `typing_of_describeColumn`
says what the described column and the warnings about it take over from it.

**Results.**
* `enumerated_typeColumn_iff`, `opaque_typeColumn_iff`: what the semantic type tells.
* `consistent_of_describeColumn`: the parts of a column fit together.
* `perm_enums_of_described`: the enum types of a table are those of its columns.
* `typeWarnings_of_described`: the warnings about the type of a column, over a whole assembly.
* `columns_consistent`: the columns of an entity, its enum types and the warnings about it.
-/

namespace TableCast
namespace Model

open Name Schema Fallible Reordering

/-- How a column of a table is typed. -/
def columnTyping (a : Assembler) (table : Table) (enums : List EnumType) (raw : Schema.Column) :
    ColumnTyping :=
  typeColumn (a.types.map a.dialect raw.nativeType) (enums.find? (·.column == raw.name))
    (declaredList? table raw.name)

/-- The parts of a column of an entity fit together. -/
structure Column.Consistent (e : Entity) (c : Column) : Prop where
  /-- It is of an enumerated type when it has an enum type. -/
  enumerated : c.semantic = .enumerated ↔ c.enum.isSome = true
  /-- Its enum type is one of the entity, made for it. -/
  enum : ∀ t, c.enum = some t → t ∈ e.enums ∧ t.table = e.name ∧ t.column = c.name
  /-- It is primary when the primary key has it. -/
  primary : c.isPrimary = true ↔ c.name ∈ e.primaryKey
  /-- A primary column always holds a value. -/
  required : c.isPrimary = true → c.nullable = false
  /-- It has an enum type or value constants, not both. -/
  constants : c.valueConstants ≠ [] → c.enum = none

section Typing

variable {mapping : TypeMapping} {enum : Option EnumType} {declared : Option ValueList}

theorem enumerated_typeColumn_iff :
    (typeColumn mapping enum declared).semantic = .enumerated ↔ enum.isSome = true := by
  cases enum with
  | some t => simp [typeColumn]
  | none =>
      cases declared with
      | some values => simp [typeColumn]
      | none =>
          rw [typeColumn]
          split_ifs with h
          · simp
          · simpa using h

theorem enum_of_constants_typeColumn
    (h : (typeColumn mapping enum declared).constants ≠ []) : enum = none := by
  cases enum with
  | some t => exact absurd rfl h
  | none => rfl

/-- A type is opaque when the native type is unknown, unless the table of types says so itself. -/
theorem opaque_typeColumn_iff (h : mapping.semantic = .opaqueText ↔ mapping.fallback = true) :
    (typeColumn mapping enum declared).semantic = .opaqueText ↔
      (typeColumn mapping enum declared).fallback = true := by
  cases enum with
  | some t => simp [typeColumn]
  | none =>
      cases declared with
      | some values => simp [typeColumn]
      | none =>
          rw [typeColumn]
          split_ifs
          · simp
          · exact h

/-- A table of types without opaque entries maps to the opaque type what it does not know. -/
theorem opaque_map_iff {types : TypeTable} (h : ∀ entry ∈ types, entry.2 ≠ .opaqueText)
    (dialect : Dialect) (native : String) :
    (types.map dialect native).semantic = .opaqueText ↔
      (types.map dialect native).fallback = true := by
  rw [TypeTable.map]
  split_ifs
  · simp
  · cases hfind : types.find? dialect (nativeBase native) with
    | none => simp
    | some semantic =>
        obtain ⟨entry, hentry, rfl⟩ := Option.map_eq_some_iff.mp hfind
        have hmem := List.mem_reverse.mp (List.mem_of_find?_eq_some hentry)
        simpa using h entry hmem

theorem not_opaque_builtinTypes : ∀ entry ∈ builtinTypes, entry.2 ≠ .opaqueText := by
  decide

end Typing

section Columns

variable {a : Assembler} {table : Table} {enums : List EnumType}
variable {fieldNames : List (String × String)} {raw : Schema.Column} {c : Column}

/-- What a described column and the warnings about it take over from its typing. -/
theorem typing_of_describeColumn
    (h : (a.describeColumn table enums fieldNames raw).2 = .ok c) :
    c.semantic = (columnTyping a table enums raw).semantic ∧
    c.valueConstants = (columnTyping a table enums raw).constants ∧
    c.enum = enums.find? (·.column == raw.name) ∧
    (a.describeColumn table enums fieldNames raw).1 =
      if (columnTyping a table enums raw).fallback then [fallbackWarning table.name raw]
      else [] := by
  obtain ⟨value, -, rfl⟩ := map_eq_ok.mp h
  exact ⟨rfl, rfl, rfl, rfl⟩

/-- The column that an enum type of a table is found for is its own. -/
theorem column_of_find? {t : EnumType} {name : String}
    (h : enums.find? (·.column == name) = some t) : t ∈ enums ∧ t.column = name :=
  ⟨List.mem_of_find?_eq_some h, by simpa using List.find?_some h⟩

theorem consistent_of_describeColumn {e : Entity}
    (henums : ∀ t ∈ e.enums, t.table = e.name) (hkey : e.primaryKey = table.primaryKey)
    (h : (a.describeColumn table e.enums fieldNames raw).2 = .ok c) : c.Consistent e := by
  obtain ⟨hsemantic, hconstants, henum, -⟩ := typing_of_describeColumn h
  obtain ⟨hdescribes, -⟩ := describes_of_describeColumn h
  refine ⟨?_, ?_, ?_, ?_, ?_⟩
  · rw [hsemantic, henum]
    exact enumerated_typeColumn_iff
  · intro t ht
    obtain ⟨hmem, hcolumn⟩ := column_of_find? (henum.symm.trans ht)
    exact ⟨hmem, henums t hmem, hcolumn.trans hdescribes.name.symm⟩
  · rw [hdescribes.isPrimary, hdescribes.name, hkey, List.contains_iff_mem]
  · intro hprimary
    rw [hdescribes.nullable, hprimary]
    exact Bool.and_false _
  · intro hne
    rw [hconstants] at hne
    rw [henum]
    exact enum_of_constants_typeColumn hne

/-- The warnings about a column, when the table of types has no opaque entries. -/
theorem subject_of_describeColumn (htypes : ∀ entry ∈ a.types, entry.2 ≠ .opaqueText)
    (h : (a.describeColumn table enums fieldNames raw).2 = .ok c) :
    (a.describeColumn table enums fieldNames raw).1.map Diagnostic.subject =
      if c.semantic = .opaqueText then
        [(some table.name, .warning, fallbackCode, some c.name)] else [] := by
  obtain ⟨hsemantic, -, -, hwarnings⟩ := typing_of_describeColumn h
  have hunknown : c.semantic = .opaqueText ↔ (columnTyping a table enums raw).fallback = true := by
    rw [hsemantic]
    exact opaque_typeColumn_iff (opaque_map_iff htypes a.dialect raw.nativeType)
  rw [hwarnings, (describes_of_describeColumn h).1.name]
  simp only [hunknown]
  split_ifs
  · rfl
  · rfl

/-- The enum types of a table are those of its columns, when each of them has a column. -/
theorem perm_enums_of_described
    {columns : List Column} (hnames : (table.columns.map (·.name)).Nodup)
    (hdistinct : (enums.map (·.column)).Nodup)
    (hdeclared : ∀ t ∈ enums, ∃ raw ∈ table.columns, raw.name = t.column)
    (h : List.Forall₂ (fun raw c => (a.describeColumn table enums fieldNames raw).2 = .ok c)
      table.columns columns) :
    enums.Perm (columns.filterMap (·.enum)) := by
  have hown : ∀ c ∈ columns, ∀ t, c.enum = some t → t ∈ enums ∧ t.column = c.name := by
    intro c hc t ht
    obtain ⟨raw, -, hdescribed⟩ := exists_of_mem_right h hc
    rw [(typing_of_describeColumn hdescribed).2.2.1] at ht
    rw [(describes_of_describeColumn hdescribed).1.name]
    exact column_of_find? ht
  have hcolumns : ((columns.filterMap (·.enum)).map (·.column)).Sublist (columns.map (·.name)) := by
    clear h
    induction columns with
    | nil => exact List.Sublist.refl _
    | cons c columns ih =>
        obtain ⟨hc, hrest⟩ := List.forall_mem_cons.mp hown
        rw [List.filterMap_cons, List.map_cons]
        cases henum : c.enum with
        | none => exact (ih hrest).cons _
        | some t =>
            rw [List.map_cons, (hc t henum).2]
            exact (ih hrest).cons_cons _
  have hnodup : (columns.filterMap (·.enum)).Nodup :=
    ((map_name_of_described h ▸ hnames).sublist hcolumns).of_map _
  refine (List.perm_ext_iff_of_nodup (hdistinct.of_map _) hnodup).mpr fun t => ?_
  rw [List.mem_filterMap]
  constructor
  · intro ht
    obtain ⟨raw, hraw, hname⟩ := hdeclared t ht
    obtain ⟨c, hc, hdescribed⟩ := exists_of_mem_left h hraw
    refine ⟨c, hc, ?_⟩
    rw [(typing_of_describeColumn hdescribed).2.2.1]
    cases hfind : enums.find? (·.column == raw.name) with
    | none =>
        have hnone := List.find?_eq_none.mp hfind t ht
        simp [hname] at hnone
    | some other =>
        obtain ⟨hother, hcolumn⟩ := column_of_find? hfind
        rw [List.inj_on_of_nodup_map hdistinct hother ht (hcolumn.trans hname)]
  · rintro ⟨c, hc, ht⟩
    exact (hown c hc t ht).1

end Columns

section Assemblies

variable {a : Assembler} {names : List String} {tables : List Table}
variable {failures : List (String × String)} {result : Assembly} {e : Entity} {c : Column}

/-- The warnings of an assembly about the type of a column. -/
def Assembly.typeWarnings (r : Assembly) (table column : String) : List Diagnostic :=
  r.diagnostics.filter fun d =>
    (d.code == fallbackCode && d.artifact == some column) && d.table == some table

/-- The notes about types of columns that are noted under the name of an entity are those of its
table. -/
theorem notes_of_linkedFrom
    {typeNames : List (String × String)} {table : Table} {source : Entity}
    {pair : Entity × List Diagnostic}
    (h : Assembler.LinkedFrom a typeNames (Assembler.tablesByName tables) table source pair) :
    ((Assembler.tablesByName tables).flatMap
        (a.extractionNotes typeNames (Assembler.tablesByName tables))).filter
      (·.table == some table.name) =
    table.columns.flatMap fun raw =>
      (a.describeColumn table pair.1.closed.enums (a.fieldNames table) raw).1 := by
  have henums : pair.1.closed.enums = source.enums := by rw [h.closed]
  rw [henums, ← Assembler.extractionNotes_of_extract h.extract]
  refine filter_flatMap_of_owner h.table_mem
    (Assembler.nodup_map_name_tablesByName tables) ?_ ?_
  · intro d hd
    rw [Assembler.table_of_extractionNotes hd, beq_self_eq_true]
  · intro other _ hne d hd
    rw [Assembler.table_of_extractionNotes hd]
    exact beq_eq_false_iff_ne.mpr fun heq => hne (Option.some.inj heq)

/-- The warnings about the type of a column are those that are given when it is described. -/
theorem typeWarnings_of_described
    (h : a.assemble names tables failures = .ok result)
    (hcolumns : ∀ table ∈ tables, (table.columns.map (·.name)).Nodup)
    (he : e ∈ result.entities) {table : Table} (hkept : keptTable? tables e.name = some table)
    {raw : Schema.Column} (hraw : raw ∈ table.columns) :
    result.typeWarnings e.name raw.name =
      (a.describeColumn table e.enums (a.fieldNames table) raw).1 := by
  obtain ⟨candidates, linked, missing, -, hlinked, hentities, hnotes⟩ := Assembler.assemble_ok h
  obtain ⟨pair, hpair, rfl⟩ := List.mem_map.mp (hentities ▸ he)
  obtain ⟨source, -, own, hfrom⟩ := exists_of_mem_right hlinked hpair
  have hname := hfrom.name
  rw [hname, Assembler.mem_tablesByName.mp hfrom.table_mem] at hkept
  obtain rfl := Option.some.inj hkept
  -- Of all that is noted, only the first pass knows types of columns.
  have hother : ∀ d ∈ linked.flatMap (·.2) ++ missing.map Assembler.missingNote,
      d.code ≠ fallbackCode := by
    intro d hd
    rcases List.mem_append.mp hd with hd | hd
    · rw [(warning_of_linked hlinked hd).2]
      decide
    · obtain ⟨name, -, rfl⟩ := List.mem_map.mp hd
      exact code_ofFault_ne_fallback _ _ _
  have hnone : (linked.flatMap (·.2) ++ missing.map Assembler.missingNote).filter
      (fun d => (d.code == fallbackCode && d.artifact == some raw.name) &&
        d.table == some own.name) = [] := by
    refine List.filter_eq_nil_iff.mpr fun d hd => ?_
    simp [hother d hd]
  rw [Assembly.typeWarnings, hnotes, hname, List.append_assoc, List.filter_append, hnone,
    List.append_nil, ← List.filter_filter, notes_of_linkedFrom hfrom]
  refine filter_flatMap_of_owner hraw
    (hcolumns own (Assembler.mem_of_mem_tablesByName hfrom.table_mem)) ?_ ?_
  · intro d hd
    rw [Assembler.warning_describeColumn hd]
    simp [fallbackWarning]
  · intro other _ hne d hd
    rw [Assembler.warning_describeColumn hd]
    simp [fallbackWarning, hne]

/-- The enum types of an entity are made for it. -/
theorem table_of_enum
    (h : a.assemble names tables failures = .ok result) (he : e ∈ result.entities)
    {t : EnumType} (ht : t ∈ e.enums) : t.table = e.name := by
  obtain ⟨table, typeNames, hkept, ⟨-, hbuilt⟩ | ⟨-, hnil⟩⟩ := builtFrom_of_mem h he
  · obtain ⟨values, -, hof⟩ := hbuilt.sound t ht
    rw [hof.table, Assembler.name_of_keptTable? hkept]
  · rw [hnil] at ht
    exact absurd ht List.not_mem_nil

/-- Every enum type of an entity is for a column of its table. -/
theorem exists_column_of_enum
    (h : a.assemble names tables failures = .ok result) (he : e ∈ result.entities)
    {table : Table} (hkept : keptTable? tables e.name = some table)
    {t : EnumType} (ht : t ∈ e.enums) : ∃ raw ∈ table.columns, raw.name = t.column := by
  obtain ⟨own, typeNames, hown, ⟨-, hbuilt⟩ | ⟨-, hnil⟩⟩ := builtFrom_of_mem h he
  · obtain rfl := Option.some.inj (hkept.symm.trans hown)
    obtain ⟨values, hvalues, hof⟩ := hbuilt.sound t ht
    rw [consideredLists, List.mem_mergeSort] at hvalues
    have hdeclared := (Bool.and_eq_true_iff.mp (List.mem_filter.mp hvalues).2).1
    obtain ⟨raw, hraw, hname⟩ := List.any_eq_true.mp hdeclared
    exact ⟨raw, hraw, (beq_iff_eq.mp hname).trans hof.column.symm⟩
  · rw [hnil] at ht
    exact absurd ht List.not_mem_nil

/-- The enum types of an entity are in the order of their columns. -/
theorem enums_sorted
    (h : a.assemble names tables failures = .ok result) (he : e ∈ result.entities) :
    e.enums.Pairwise (·.column < ·.column) := by
  obtain ⟨candidates, -, hall⟩ := Assembler.exists_linkedFrom h
  obtain ⟨table, source, pair, hfrom, rfl⟩ := hall e he
  obtain ⟨henums, -, -⟩ := hfrom.parts
  rw [Assembler.tableEnums] at henums
  split_ifs at henums
  · exact enumTypes_sorted henums
  · rw [← Except.ok.inj henums]
    exact List.Pairwise.nil

/-- The columns of an entity are those of its table described, and the primary key is that of its
table. -/
theorem exists_described_columns
    (h : a.assemble names tables failures = .ok result) (he : e ∈ result.entities) :
    ∃ table, keptTable? tables e.name = some table ∧ e.primaryKey = table.primaryKey ∧
      List.Forall₂
        (fun raw c => (a.describeColumn table e.enums (a.fieldNames table) raw).2 = .ok c)
        table.columns e.columns := by
  obtain ⟨candidates, -, hall⟩ := Assembler.exists_linkedFrom h
  obtain ⟨table, source, pair, hfrom, rfl⟩ := hall e he
  obtain ⟨-, hdescribed, -⟩ := hfrom.parts
  refine ⟨table, hfrom.name ▸ Assembler.mem_tablesByName.mp hfrom.table_mem, ?_,
    Assembler.describeColumns_ok hdescribed⟩
  obtain ⟨-, enums, columns, -, -, hsource⟩ := Assembler.extract_ok hfrom.extract
  rw [hfrom.closed, hsource]

/-- **Typed columns.**  The parts of every column of an entity fit together; the enum types of the
entity are those of its columns, by column; and with the built-in table of types a column is of the
opaque type exactly when the assembly warns about its type, which it does once. -/
theorem columns_consistent
    (h : a.assemble names tables failures = .ok result)
    (hcolumns : ∀ table ∈ tables, (table.columns.map (·.name)).Nodup)
    (he : e ∈ result.entities) :
    (∃ table, keptTable? tables e.name = some table ∧ e.primaryKey = table.primaryKey ∧
      e.columns.map (·.name) = table.columns.map (·.name)) ∧
    (∀ c ∈ e.columns, c.Consistent e) ∧
    e.enums.Perm (e.columns.filterMap (·.enum)) ∧
    e.enums.Pairwise (·.column < ·.column) ∧
    (a.types = builtinTypes → ∀ c ∈ e.columns,
      (result.typeWarnings e.name c.name).map Diagnostic.subject =
        if c.semantic = .opaqueText then
          [(some e.name, .warning, fallbackCode, some c.name)] else []) := by
  obtain ⟨table, hkept, hkey, hdescribed⟩ := exists_described_columns h he
  have hnames := hcolumns table (Assembler.mem_of_keptTable? hkept)
  refine ⟨⟨table, hkept, hkey, map_name_of_described hdescribed⟩, ?_, ?_, enums_sorted h he, ?_⟩
  · intro c hc
    obtain ⟨raw, -, hraw⟩ := exists_of_mem_right hdescribed hc
    exact consistent_of_describeColumn (fun t ht => table_of_enum h he ht) hkey hraw
  · exact perm_enums_of_described hnames (nodup_enumColumns h he)
      (fun t ht => exists_column_of_enum h he hkept ht) hdescribed
  · intro htypes c hc
    obtain ⟨raw, hraw, hcolumn⟩ := exists_of_mem_right hdescribed hc
    rw [(describes_of_describeColumn hcolumn).1.name,
      typeWarnings_of_described h hcolumns he hkept hraw,
      subject_of_describeColumn (htypes ▸ not_opaque_builtinTypes) hcolumn,
      Assembler.name_of_keptTable? hkept, (describes_of_describeColumn hcolumn).1.name]

end Assemblies

section Sample

/-- A table with a key, a column with a value list and a column of an unknown type. -/
def plots : Table :=
  { name := "plots"
    columns := [
      { name := "id", nativeType := "int" },
      { name := "use", nativeType := "text" },
      { name := "area", nativeType := "hectares" }]
    indexes := [{ name := "pk", columns := ["id"], primary := true }]
    valueLists := [{ column := "use", values := ["x"] }] }

theorem considered_plots : consideredLists plots = [{ column := "use", values := ["x"] }] := by
  simp [consideredLists, plots, isDeclaredColumn]

/-- The columns of a table whose types come from all three sources. -/
theorem columns_of_plots :
    ∃ result, forPython.assemble ["plots"] [plots] [] = .ok result ∧
      ∃ e ∈ result.entities,
        e.columns.map (·.name) = ["id", "use", "area"] ∧ e.primaryKey = ["id"] ∧
        (∀ c ∈ e.columns, c.Consistent e) ∧
        e.enums.Perm (e.columns.filterMap (·.enum)) ∧
        e.enums.Pairwise (·.column < ·.column) ∧
        ∀ c ∈ e.columns, (result.typeWarnings "plots" c.name).map Diagnostic.subject =
          if c.semantic = .opaqueText then
            [(some "plots", .warning, fallbackCode, some c.name)] else [] := by
  have hextract : ∀ typeNames, ∃ entity,
      (forPython.extract typeNames [plots] plots).2 = .ok entity := by
    intro typeNames
    rw [Assembler.extract, Assembler.tableEnums, enumTypes, considered_plots]
    exact ⟨_, rfl⟩
  obtain ⟨result, h, e, he, hname⟩ := Assembler.exists_entity_of_lone (a := forPython)
    (typeName_total rfl) (fun _ hkey => absurd hkey List.not_mem_nil) hextract
  obtain ⟨⟨table, hkept, hkey, hcolumns⟩, hconsistent, hperm, hsorted, hwarnings⟩ :=
    columns_consistent h (by decide) he
  rw [hname] at hkept hwarnings
  obtain rfl : plots = table := Option.some.inj hkept
  exact ⟨result, h, e, he, hcolumns, hkey, hconsistent, hperm, hsorted, hwarnings rfl⟩

end Sample

end Model
end TableCast
