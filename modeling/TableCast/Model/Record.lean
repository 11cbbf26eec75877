import TableCast.Document.Record
import TableCast.Model.Diagnostic
import TableCast.Model.Entity
import TableCast.Number.Real

/-!
# Entities as records

Entities and their parts written as records, for reports.

- `valueRecord`: a default value under the name of its type.
- `Column.document`, `Association.document`, `EnumType.document`, `Entity.document`: the parts
  of an entity, and the whole.
- `Diagnostic.document`: a note about a table.
-/

namespace TableCast
namespace Model

open Document

/-- A value under the name of its type. -/
def valueRecord : Schema.Value → Document
  | .bool b => record [("bool", .bool b)]
  | .int n => record [("int", .str (toString n))]
  | .float x => record [("float", .str (Number.text x))]
  | .text s => record [("str", .str s)]

/-- The value under the name of its type. -/
def valueOfRecord? (d : Document) : Option Schema.Value :=
  match d.textEntries with
  | [("bool", .bool b)] => some (.bool b)
  | [("int", .str s)] => (Number.readInteger s.toList).toOption.map .int
  | [("float", .str s)] => (Number.readReal? s.toList).map .float
  | [("str", .str s)] => some (.text s)
  | _ => none

/-- An enum type as a record. -/
def EnumType.document (e : EnumType) : Document :=
  record [("type_name", .str e.typeName), ("cases", textPairs e.cases), ("table", .str e.table),
    ("column", .str e.column), ("multiple", .bool e.multiple)]

/-- A column as a record. -/
def Column.document (c : Column) : Document :=
  record [("name", .str c.name), ("field_name", .str c.fieldName),
    ("semantic_type", .str c.semantic.name), ("native_type", .str c.nativeType),
    ("nullable", .bool c.nullable), ("is_primary", .bool c.isPrimary),
    ("default", optional valueRecord c.default),
    ("enum", optionalText (c.enum.map (·.typeName))), ("length", optionalInteger c.length),
    ("precision", optionalInteger c.precision), ("scale", optionalInteger c.scale),
    ("auto_increment", .bool c.autoIncrement), ("is_foreign_key", .bool c.isForeignKey),
    ("comment", optionalText c.comment), ("value_constants", textPairs c.valueConstants)]

/-- The enum type that a record states. -/
def EnumType.ofDocument (d : Document) : Except EnumTypeError EnumType :=
  EnumType.make {
    typeName := d.textAt "type_name"
    cases := (d.get "cases").itemPairs
    table := d.textAt "table" "t"
    column := d.textAt "column" "c"
    multiple := d.truthAt "multiple" }

/-- The column that a record states, or what is wrong with it. -/
def Column.ofDocument (d : Document) : Except String Column := do
  let enum ← match d.get "enum" with
    | .null => .ok none
    | e => ((EnumType.ofDocument e).map some).mapError (·.message)
  let name := d.textAt "name" "value"
  Column.make {
    name := name
    fieldName := d.textAt "field_name" name
    semantic := (Schema.SemanticType.ofName? (d.textAt "semantic_type" "text")).getD .text
    nativeType := d.textAt "native_type" "text"
    nullable := d.truthAt "nullable"
    isPrimary := d.truthAt "is_primary"
    default := valueOfRecord? (d.get "default")
    enum := enum
    length := d.integerAt? "length"
    precision := d.integerAt? "precision"
    scale := d.integerAt? "scale"
    autoIncrement := d.truthAt "auto_increment"
    isForeignKey := d.truthAt "is_foreign_key"
    comment := d.textAt? "comment"
    valueConstants := (d.get "value_constants").itemPairs }

/-- An association as a record. -/
def Association.document (a : Association) : Document :=
  record [("name", .str a.name),
    ("pairs", .list (a.columnPairs.map fun (s, t) => .list [.str s, optionalText t])),
    ("sources", texts a.sourceColumns), ("targets", .list (a.targetColumns.map optionalText)),
    ("target_table", .str a.targetTable), ("target_type", optionalText a.targetType),
    ("on_delete", .str a.onDelete), ("on_update", .str a.onUpdate), ("nullable", .bool a.nullable),
    ("self", .bool a.isSelf), ("unresolved", .bool a.unresolved),
    ("composite", .bool a.isComposite), ("constraint", optionalText a.constraint)]

/-- An index as a record. -/
def Index.record (i : Index) : Document :=
  .list [.str i.name, texts i.columns, .bool i.unique]

/-- An entity as a record. -/
def Entity.document (e : Entity) : Document :=
  Document.record [("name", .str e.name), ("type_name", .str e.typeName),
    ("companion", optionalText e.companion), ("state", .str e.state.name),
    ("primary_key", texts e.primaryKey), ("columns", .list (e.columns.map Column.document)),
    ("associations", .list (e.associations.map Association.document)),
    ("indexes", .list (e.indexes.map Index.record)),
    ("enums", .list (e.enums.map EnumType.document))]

/-- A note about a table as a record. -/
def Diagnostic.document (d : Diagnostic) : Document :=
  record [("table_name", optionalText d.table), ("severity", .str d.severity.name),
    ("code", .str d.code), ("message", .str d.message), ("artifact", optionalText d.artifact)]

end Model
end TableCast
