import TableCast.Document.Record
import TableCast.Schema.Facts
import TableCast.Schema.NativeType

/-!
# Facts as records

The facts about a table written as records and read from them.

- `Column.document`, `ForeignKey.document`, `Index.document`, `ValueList.document`,
  `Table.document`: the records.
- `Column.ofDocument`, `ForeignKey.ofDocument`, `Index.ofDocument`, `ValueList.ofDocument`,
  `Table.ofDocument`: the facts that records state.
-/

namespace TableCast
namespace Schema

open Document

/-- A column as a record. -/
def Column.document (c : Column) : Document :=
  record [("name", .str c.name), ("native_type", .str c.nativeType), ("nullable", .bool c.nullable),
    ("default", optionalText c.default), ("length", optionalInteger c.length),
    ("precision", optionalInteger c.precision), ("scale", optionalInteger c.scale),
    ("auto_increment", .bool c.autoIncrement), ("comment", optionalText c.comment),
    ("ordinal", .int c.ordinal)]

/-- A foreign key as a record. -/
def ForeignKey.document (k : ForeignKey) : Document :=
  record [("name", .str k.name), ("source_columns", texts k.sourceColumns),
    ("target_table", .str k.targetTable), ("target_columns", texts k.targetColumns),
    ("on_delete", .str k.onDelete), ("on_update", .str k.onUpdate)]

/-- An index as a record. -/
def Index.document (i : Index) : Document :=
  record [("name", .str i.name), ("columns", texts i.columns), ("unique", .bool i.unique),
    ("primary", .bool i.primary)]

/-- A closed value list as a record. -/
def ValueList.document (v : ValueList) : Document :=
  record [("column", .str v.column), ("values", texts v.values), ("multiple", .bool v.multiple)]

/-- Everything about a table as a record. -/
def Table.document (t : Table) : Document :=
  record [("name", .str t.name), ("columns", .list (t.columns.map Column.document)),
    ("foreign_keys", .list (t.foreignKeys.map ForeignKey.document)),
    ("indexes", .list (t.indexes.map Index.document)),
    ("enums", .list (t.valueLists.map ValueList.document)),
    ("primary_key", texts t.primaryKey)]

/-- The column that a record states; without a position it stands at the given one, counted
from zero. -/
def Column.ofDocument (position : Nat) (d : Document) : Column :=
  { name := d.textAt "name"
    nativeType := d.textAt "native_type"
    nullable := d.truthAt "nullable" true
    default := d.textAt? "default"
    length := d.integerAt? "length"
    precision := d.integerAt? "precision"
    scale := d.integerAt? "scale"
    autoIncrement := d.truthAt "auto_increment"
    comment := d.textAt? "comment"
    ordinal := (d.integerAt? "ordinal").getD (position + 1) }

/-- The foreign key that a record states. -/
def ForeignKey.ofDocument (d : Document) : ForeignKey :=
  { name := d.textAt "name"
    sourceColumns := d.textsAt "source_columns"
    targetTable := d.textAt "target_table"
    targetColumns := d.textsAt "target_columns"
    onDelete := d.textAt "on_delete" "NO ACTION"
    onUpdate := d.textAt "on_update" "NO ACTION" }

/-- The index that a record states. -/
def Index.ofDocument (d : Document) : Index :=
  { name := d.textAt "name"
    columns := d.textsAt "columns"
    unique := d.truthAt "unique"
    primary := d.truthAt "primary" }

/-- The closed value list that a record states. -/
def ValueList.ofDocument (d : Document) : ValueList :=
  { column := d.textAt "column"
    values := d.textsAt "values"
    multiple := d.truthAt "multiple" }

/-- The index of the primary key that a record states by its columns alone. -/
def keyIndexes (name : String) (columns : List String) : List Index :=
  if columns.isEmpty then []
  else [{ name := name ++ "_pkey", columns := columns, unique := true, primary := true }]

/-- Everything that a record states about a table. -/
def Table.ofDocument (d : Document) : Table :=
  let name := d.textAt "name"
  { name := name
    columns := (d.get "columns").items.mapIdx Column.ofDocument
    foreignKeys := (d.get "foreign_keys").items.map ForeignKey.ofDocument
    indexes := keyIndexes name (d.textsAt "pk") ++ (d.get "indexes").items.map Index.ofDocument
    valueLists := (d.get "enums").items.map ValueList.ofDocument }

/-- The row of a type table that a document lists. -/
def typeRow? (d : Document) : Option ((Dialect × String) × SemanticType) :=
  match d.items with
  | [.str dialect, .str native, .str semantic] => do
    let dialect ← Dialect.ofName? dialect
    let semantic ← SemanticType.ofName? semantic
    return ((dialect, native), semantic)
  | _ => none

/-- The type table that a document lists. -/
def TypeTable.ofDocument (d : Document) : TypeTable := d.items.filterMap typeRow?

end Schema
end TableCast
