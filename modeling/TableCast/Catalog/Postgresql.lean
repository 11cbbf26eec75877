import TableCast.Schema.KeyRow
import TableCast.Text.Pieces

/-!
# The catalog of PostgreSQL

What the rows of PostgreSQL's catalog say about a table.  Closed value lists are types of
their own, whose labels the catalog lists one by one.

- `ColumnRow`, `LabelRow`: the rows.
- `columns`, `valueLists`: the facts that they state.
-/

namespace TableCast
namespace Catalog
namespace Postgresql

open Schema Text

/-- A row about a column. -/
structure ColumnRow where
  name : String
  /-- The type in the words of the standard. -/
  dataType : String
  /-- The name of the type itself. -/
  typeName : String
  /-- Whether the column may hold no value, in words. -/
  isNullable : Option String
  default : Option String
  length : Option Int
  precision : Option Int
  scale : Option Int
  /-- Whether the database numbers the column, in words. -/
  isIdentity : Option String
  /-- The position of the column, from one. -/
  position : Int
  comment : Option String
deriving Repr, DecidableEq, Inhabited

/-- A row about a label of a type. -/
structure LabelRow where
  column : String
  label : String
deriving Repr, DecidableEq, Inhabited

/-- The native type of a column. -/
def ColumnRow.nativeType (row : ColumnRow) : String :=
  if row.dataType == "USER-DEFINED" then row.typeName
  else if row.dataType == "ARRAY" then "array"
  else row.dataType

/-- Whether precision and scale belong to the declaration of a type. -/
def isDecimalType (native : String) : Bool :=
  native == "numeric" || native == "decimal"

/-- The column of a row. -/
def columnOf (row : ColumnRow) : Column :=
  let native := row.nativeType
  { name := row.name
    nativeType := native
    nullable := row.isNullable == some "YES"
    default := row.default
    length := row.length
    precision := if isDecimalType native then row.precision else none
    scale := if isDecimalType native then row.scale else none
    autoIncrement := row.isIdentity == some "YES" || startsWith (row.default.getD "") "nextval("
    comment := row.comment
    ordinal := row.position }

/-- The columns of a table. -/
def columns (rows : List ColumnRow) : List Column := rows.map columnOf

/-- The value lists with one more label. -/
def insertLabel (row : LabelRow) : List ValueList → List ValueList
  | [] => [{ column := row.column, values := [row.label] }]
  | list :: rest =>
    if list.column == row.column then { list with values := list.values ++ [row.label] } :: rest
    else list :: insertLabel row rest

/-- The closed value lists of a table. -/
def valueLists (rows : List LabelRow) : List ValueList :=
  rows.foldl (fun lists row => insertLabel row lists) []

end Postgresql
end Catalog
end TableCast
