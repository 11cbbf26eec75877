import TableCast.Proofs.Model.Completion
import TableCast.Proofs.Name.BatchNames

/-!
# The members of an entity

The members of an entity are the fields of its columns and its associations.  Field names are
given out in one batch, and association names are claimed one by one in a scope that starts
with the field names, so no two members share a name.  No column and no foreign key of the
table is dropped on the way.

**Results.**
* `describes_of_describeColumn`: a described column keeps what the catalog says.
* `nodup_fieldNames`: columns with different names have different field names.
* `lookup?_fieldNames_of_preferred`: and those that they prefer, when these are different.
* `nodup_members_of_linkedFrom`: so all members of an entity have different names.
* `members_distinct_and_complete`: the members of an entity have distinct names, its columns
  are those of its table, and its associations are the foreign keys of its table in order.
-/

namespace TableCast
namespace Model

open Name Schema Fallible Reordering

/-- What a described column keeps of a column of a table. -/
structure Describes (table : Table) (raw : Schema.Column) (c : Column) : Prop where
  name : c.name = raw.name
  nativeType : c.nativeType = raw.nativeType
  /-- It belongs to the primary key when the table says so. -/
  isPrimary : c.isPrimary = table.primaryKey.contains raw.name
  /-- It may hold no value when the catalog says so and it is not part of the primary key. -/
  nullable : c.nullable = (raw.nullable && !c.isPrimary)
  /-- It belongs to a foreign key when one of the table has it among its source columns. -/
  isForeignKey : c.isForeignKey = table.foreignKeys.any (·.sourceColumns.contains raw.name)
  length : c.length = raw.length
  precision : c.precision = raw.precision
  scale : c.scale = raw.scale
  autoIncrement : c.autoIncrement = raw.autoIncrement

/-- What an association keeps of a foreign key, in a run over the given tables. -/
structure StandsFor (tables : List Table) (key : ForeignKey) (l : Association) : Prop where
  targetTable : l.targetTable = key.targetTable
  /-- The source columns in order, as far as referenced columns are known for them. -/
  sources : l.sourceColumns <+: key.sourceColumns
  /-- All source columns, when the referenced table was read. -/
  complete : (keptTable? tables key.targetTable).isSome → l.sourceColumns = key.sourceColumns
  onDelete : l.onDelete = key.onDelete
  onUpdate : l.onUpdate = key.onUpdate
  constraint : l.constraint = if key.name = "" then none else some key.name

section Fields

variable {a : Assembler} {table : Table} {enums : List EnumType}
variable {fieldNames : List (String × String)} {raw : Schema.Column} {c : Column}

theorem describes_of_describeColumn
    (h : (a.describeColumn table enums fieldNames raw).2 = .ok c) :
    Describes table raw c ∧ c.fieldName = (lookup? fieldNames raw.name).getD "" := by
  obtain ⟨value, -, rfl⟩ := map_eq_ok.mp h
  exact ⟨⟨rfl, rfl, rfl, rfl, rfl, rfl, rfl, rfl, rfl⟩, rfl⟩

/-- The columns that are described keep their names. -/
theorem map_name_of_described
    {raws : List Schema.Column} {columns : List Column}
    (h : List.Forall₂ (fun raw c => (a.describeColumn table enums fieldNames raw).2 = .ok c) raws
      columns) :
    columns.map (·.name) = raws.map (·.name) := by
  rw [List.map_eq_flatMap, List.map_eq_flatMap]
  refine (flatMap_of_forall₂ h fun raw _ c hc => ?_).symm
  rw [(describes_of_describeColumn hc).1.name]

/-- Columns with different names have different field names. -/
theorem nodup_fieldNames
    {columns : List Column}
    (hnames : (table.columns.map (·.name)).Nodup)
    (h : List.Forall₂ (fun raw c => (a.describeColumn table enums (a.fieldNames table) raw).2 =
      .ok c) table.columns columns) :
    (columns.map (·.fieldName)).Nodup := by
  have hfields : columns.map (·.fieldName) =
      (table.columns.map (·.name)).map fun name =>
        (lookup? (a.fieldNames table) name).getD "" := by
    rw [List.map_map]
    clear hnames
    generalize table.columns = raws at h ⊢
    induction h with
    | nil => rfl
    | cons hfirst _ ih =>
        rw [List.map_cons, List.map_cons, ih, (describes_of_describeColumn hfirst).2]
        rfl
  rw [hfields]
  refine Scope.nodup_map_assigned {} hnames fun name hname => ?_
  obtain ⟨raw, hraw, rfl⟩ := List.mem_map.mp hname
  exact List.mem_map.mpr
    ⟨(raw.name, a.normalizer.fieldName raw.name), List.mem_map_of_mem hraw, rfl⟩

/-- Columns whose preferred field names are distinct get them. -/
theorem lookup?_fieldNames_of_preferred
    (h : (table.columns.map fun c => a.normalizer.fieldName c.name).Nodup)
    (hraw : raw ∈ table.columns) :
    lookup? (a.fieldNames table) raw.name = some (a.normalizer.fieldName raw.name) := by
  have hraws : (table.columns.map (·.name)).map (fun name => (name, a.normalizer.fieldName name)) =
      table.columns.map fun c => (c.name, a.normalizer.fieldName c.name) := List.map_map
  rw [Assembler.fieldNames, ← hraws]
  refine Scope.lookup?_assign_of_preferred ?_ (List.mem_map_of_mem hraw)
  intro name hname other hother heq
  obtain ⟨c, hc, rfl⟩ := List.mem_map.mp hname
  obtain ⟨d, hd, rfl⟩ := List.mem_map.mp hother
  rw [List.inj_on_of_nodup_map h hc hd heq]

end Fields

section Members

variable {a : Assembler} {names : List String} {tables : List Table}
variable {failures : List (String × String)} {result : Assembly} {e : Entity}

/-- An association that comes from a foreign key stands for it. -/
theorem standsFor_of_ofKey
    {owner : Entity} {entities : List Entity} {key : ForeignKey} {l : Association}
    (h : OfKey owner entities (Assembler.tablesByName tables) key l) :
    StandsFor tables key l where
  targetTable := h.targetTable
  sources := h.sources
  complete := by
    intro hread
    obtain ⟨target, htarget⟩ := Option.isSome_iff_exists.mp hread
    exact h.sources_of_read ((Assembler.tableNamed?_tablesByName tables _).trans htarget)
  onDelete := h.onDelete
  onUpdate := h.onUpdate
  constraint := h.constraint

/-- The members of an entity have distinct names when the columns of its table have. -/
theorem nodup_members_of_linkedFrom
    {typeNames : List (String × String)} {table : Table} {source : Entity}
    {pair : Entity × List Diagnostic}
    (h : Assembler.LinkedFrom a typeNames tables table source pair)
    (hcolumns : (table.columns.map (·.name)).Nodup) :
    (pair.1.closed.fieldNames ++ pair.1.closed.associations.map (·.name)).Nodup := by
  obtain ⟨-, hdescribed, hfields⟩ := h.parts
  obtain ⟨-, hnodup, -⟩ := link_ok h.link
  have hdistinct : pair.1.closed.fieldNames.Nodup :=
    nodup_fieldNames hcolumns (Assembler.describeColumns_ok hdescribed)
  rwa [hfields, eraseDups_of_nodup hdistinct] at hnodup

/-- The members of every entity have distinct names, its columns are those of its table in
order, and its associations are the foreign keys of its table, ordered by source columns and
name. -/
theorem members_distinct_and_complete
    (h : a.assemble names tables failures = .ok result)
    (hcolumns : ∀ table ∈ tables, (table.columns.map (·.name)).Nodup)
    (he : e ∈ result.entities) :
    (e.fieldNames ++ e.associations.map (·.name)).Nodup ∧
    ∃ table, keptTable? tables e.name = some table ∧
      List.Forall₂ (Describes table) table.columns e.columns ∧
      ∃ keys, keys.Perm table.foreignKeys ∧
        keys.Pairwise (fun k l =>
          toLex (k.sourceColumns, k.name) ≤ toLex (l.sourceColumns, l.name)) ∧
        List.Forall₂ (StandsFor tables) keys e.associations := by
  obtain ⟨candidates, -, hall⟩ := Assembler.exists_linkedFrom h
  obtain ⟨table, source, pair, hfrom, rfl⟩ := hall e he
  obtain ⟨-, hdescribed, -⟩ := hfrom.parts
  have hcolumnwise := Assembler.describeColumns_ok hdescribed
  have hkept := Assembler.mem_tablesByName.mp hfrom.table_mem
  obtain ⟨hkeys, -, -⟩ := link_ok hfrom.link
  refine ⟨?_, table, hfrom.name ▸ hkept, ?_, table.foreignKeys.mergeSort keyLe,
    List.mergeSort_perm _ _, ?_, ?_⟩
  · exact nodup_members_of_linkedFrom hfrom (hcolumns table (Assembler.mem_of_keptTable? hkept))
  · exact hcolumnwise.imp fun raw c hc => (describes_of_describeColumn hc).1
  · exact (List.pairwise_mergeSort keyLe_trans keyLe_total _).imp keyLe_eq_true_iff.mp
  · exact hkeys.imp fun key l hl => standsFor_of_ofKey hl

/-- The members of a table that references itself and a table that was not read. -/
theorem members_of_staff :
    ∃ result, Assembler.withoutEnums.assemble ["staff"] [Assembler.staff] [] = .ok result ∧
      ∃ e ∈ result.entities,
        (e.fieldNames ++ e.associations.map (·.name)).Nodup ∧
        List.Forall₂ (Describes Assembler.staff) Assembler.staff.columns e.columns ∧
        ∃ keys, keys.Perm Assembler.staff.foreignKeys ∧
          keys.Pairwise (fun k l =>
            toLex (k.sourceColumns, k.name) ≤ toLex (l.sourceColumns, l.name)) ∧
          List.Forall₂ (StandsFor [Assembler.staff]) keys e.associations := by
  obtain ⟨result, h, e, he, hname⟩ := Assembler.staff_assembled
  have hcolumns : ∀ table ∈ [Assembler.staff], (table.columns.map (·.name)).Nodup := by decide
  obtain ⟨hnodup, table, hkept, hdescribed, hkeys⟩ := members_distinct_and_complete h hcolumns he
  rw [hname] at hkept
  obtain rfl : Assembler.staff = table := Option.some.inj hkept
  exact ⟨result, h, e, he, hnodup, hdescribed, hkeys⟩

end Members
end Model
end TableCast
