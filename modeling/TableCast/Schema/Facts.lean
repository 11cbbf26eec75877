/-!
# Facts about a schema

What a database catalog says about its tables, in the vocabulary of the database:
native names and native types.

- `Dialect`: the engines whose catalogs are understood.
- `Column`, `ForeignKey`, `Index`, `ValueList`, `Table`.
- `Table.primaryKey`: the columns of the primary index.
-/

namespace TableCast
namespace Schema

/-- The relational engines whose catalogs are understood. -/
inductive Dialect where
  | mysql
  | postgresql
  | sqlite
deriving Repr, DecidableEq, Inhabited

/-- The name of an engine. -/
def Dialect.name : Dialect → String
  | .mysql => "mysql"
  | .postgresql => "postgresql"
  | .sqlite => "sqlite"

/-- The engine with the given name. -/
def Dialect.ofName? : String → Option Dialect
  | "mysql" => some .mysql
  | "postgresql" => some .postgresql
  | "sqlite" => some .sqlite
  | _ => none

/-- The engines as connections are configured with them. -/
def engines : List String :=
  ["django.db.backends.postgresql", "django.db.backends.sqlite3", "django.db.backends.mysql"]

/-- A column as the catalog describes it. -/
structure Column where
  name : String
  nativeType : String
  nullable : Bool := true
  default : Option String := none
  length : Option Int := none
  precision : Option Int := none
  scale : Option Int := none
  autoIncrement : Bool := false
  comment : Option String := none
  ordinal : Int := 0
deriving Repr, DecidableEq, Inhabited

/-- A foreign key over all of its columns.  Without target columns it references the
primary key of its target. -/
structure ForeignKey where
  name : String
  sourceColumns : List String
  targetTable : String
  targetColumns : List String
  onDelete : String := "NO ACTION"
  onUpdate : String := "NO ACTION"
deriving Repr, DecidableEq, Inhabited

/-- An index. -/
structure Index where
  name : String
  columns : List String
  unique : Bool := false
  primary : Bool := false
deriving Repr, DecidableEq, Inhabited

/-- A column whose declaration restricts its values to a closed list. -/
structure ValueList where
  column : String
  /-- The allowed values, in order of declaration. -/
  values : List String
  /-- Whether the column holds any combination of the values. -/
  multiple : Bool := false
deriving Repr, DecidableEq, Inhabited

/-- Everything the catalog says about one table. -/
structure Table where
  name : String
  columns : List Column
  foreignKeys : List ForeignKey := []
  indexes : List Index := []
  valueLists : List ValueList := []
deriving Repr, DecidableEq, Inhabited

/-- The order of columns: by position, then by name. -/
def columnLe (a b : Column) : Bool :=
  a.ordinal < b.ordinal || (a.ordinal == b.ordinal && decide (a.name ≤ b.name))

/-- The table that facts in any order of the columns describe. -/
def Table.ofFacts (name : String) (columns : List Column) (foreignKeys : List ForeignKey)
    (indexes : List Index) (valueLists : List ValueList) : Table :=
  { name := name
    columns := columns.mergeSort columnLe
    foreignKeys := foreignKeys
    indexes := indexes
    valueLists := valueLists }

/-- The columns of the primary key: those of the first primary index. -/
def Table.primaryKey (t : Table) : List String :=
  match t.indexes.find? (·.primary) with
  | some index => index.columns
  | none => []

end Schema
end TableCast
