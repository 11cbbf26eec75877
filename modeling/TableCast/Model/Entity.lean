import TableCast.Schema.Default
import TableCast.Model.EnumType

/-!
# Entities

A table described in the vocabulary of the generated code.  An entity is filled while it
passes through the states of assembly; once it is finalized it cannot be changed.

- `Column`, `Index`, `EntityRef`, `Association`, `Entity`.
- `Column.make`: a primary key column cannot be nullable.
- `Entity.change`, `Entity.finalize`: changes, refused once finalized.
-/

namespace TableCast
namespace Model

open Text Schema

/-- The states that a table passes through during assembly. -/
inductive AssemblyState where
  | pending
  | columnsExtracted
  | associationsLinked
  | finalized
deriving Repr, DecidableEq, Inhabited

/-- The name of a state. -/
def AssemblyState.name : AssemblyState → String
  | .pending => "pending"
  | .columnsExtracted => "columns_extracted"
  | .associationsLinked => "associations_linked"
  | .finalized => "finalized"

/-- A column with its field name and semantic type. -/
structure Column where
  /-- The name in the database. -/
  name : String
  /-- The name in the generated code. -/
  fieldName : String
  semantic : SemanticType
  nativeType : String
  nullable : Bool
  isPrimary : Bool := false
  default : Option Value := none
  enum : Option EnumType := none
  length : Option Int := none
  precision : Option Int := none
  scale : Option Int := none
  autoIncrement : Bool := false
  isForeignKey : Bool := false
  comment : Option String := none
  /-- Constant name and value of a closed value list without an enum type. -/
  valueConstants : List (String × String) := []
deriving Repr, Inhabited

/-- The message about a nullable column of a primary key. -/
def nullableKeyMessage (name : String) : String :=
  "Primary key column '" ++ name ++ "' cannot be nullable"

/-- The column, unless it is a nullable part of the primary key. -/
def Column.make (c : Column) : Except String Column :=
  if c.isPrimary && c.nullable then .error (nullableKeyMessage c.name) else .ok c

/-- An index that is not the primary one. -/
structure Index where
  name : String
  columns : List String
  unique : Bool := false
deriving Repr, DecidableEq, Inhabited

/-- A reference to the entity of a table of the same run.  A run keeps one entity for each
table name, so the name tells which entity is meant. -/
structure EntityRef where
  /-- The name under which the run keeps the entity. -/
  table : String
  typeName : String
deriving Repr, DecidableEq, Inhabited

/-- A many-to-one link that a foreign key gives. -/
structure Association where
  name : String
  /-- Referencing and referenced column; the latter is missing when the foreign key leaves
  it implicit and the target is not known. -/
  columnPairs : List (String × Option String)
  targetTable : String
  /-- The entity of the referenced table, missing when it is not part of the run. -/
  target : Option EntityRef := none
  onDelete : String := "NO ACTION"
  onUpdate : String := "NO ACTION"
  nullable : Bool := true
  isSelf : Bool := false
  /-- Whether the referenced table is not part of the run. -/
  unresolved : Bool := false
  constraint : Option String := none
deriving Repr, DecidableEq, Inhabited

namespace Association

/-- The type name of the referenced table, missing when it is not part of the run. -/
def targetType (a : Association) : Option String := a.target.map (·.typeName)

/-- Whether more than one column is linked. -/
def isComposite (a : Association) : Bool := a.columnPairs.length > 1

/-- The referencing columns. -/
def sourceColumns (a : Association) : List String := a.columnPairs.map (·.1)

/-- The referenced columns. -/
def targetColumns (a : Association) : List (Option String) := a.columnPairs.map (·.2)

end Association

/-- A table in the vocabulary of the generated code. -/
structure Entity where
  name : String
  typeName : String
  columns : List Column := []
  associations : List Association := []
  /-- The name of the repository. -/
  companion : Option String := none
  primaryKey : List String := []
  indexes : List Index := []
  enums : List EnumType := []
  state : AssemblyState := .pending
deriving Repr, Inhabited

/-- The attempt to change an entity that is finalized. -/
structure FinalizedChange where
  table : String
  part : String
deriving Repr, DecidableEq, Inhabited

/-- The message about a refused change. -/
def FinalizedChange.message (e : FinalizedChange) : String :=
  "TableDescriptor '" ++ e.table ++ "' is finalized; cannot set '" ++ e.part ++ "'"

namespace Entity

/-- The reference to an entity. -/
def ref (e : Entity) : EntityRef := { table := e.name, typeName := e.typeName }

/-- Whether the entity can no longer be changed. -/
def isFinalized (e : Entity) : Bool := e.state == .finalized

/-- The entity with one part changed, unless it is finalized. -/
def change (e : Entity) (part : String) (f : Entity → Entity) :
    Except FinalizedChange Entity :=
  if e.isFinalized then .error { table := e.name, part := part } else .ok (f e)

/-- The entity made read-only; a second time is a change. -/
def finalize (e : Entity) : Except FinalizedChange Entity :=
  e.change "columns" fun e => { e with state := .finalized }

/-- The field names of the columns. -/
def fieldNames (e : Entity) : List String := e.columns.map (·.fieldName)

/-- The columns of the primary key. -/
def primaryKeyColumns (e : Entity) : List Column := e.columns.filter (·.isPrimary)

/-- The column with the given name. -/
def column? (e : Entity) (name : String) : Option Column :=
  e.columns.find? (·.name == name)

/-- A short description of the entity. -/
def describe (e : Entity) : String :=
  "TableDescriptor(name=" ++ Quoted.text e.name ++ ", type_name=" ++ Quoted.text e.typeName ++
    ", state=" ++ e.state.name ++ ")"

end Entity
end Model
end TableCast
