import TableCast.Log.Entry
import TableCast.Schema.KeyRow
import TableCast.Text.LetterCase
import TableCast.Text.QuotedList

/-!
# The catalog of MySQL

What the rows of MySQL's catalog say about a table.  Closed value lists stand in the types of
columns.  Literal defaults are listed without quotes.

- `ColumnRow`, `ListRow`: the rows.
- `defaultExpression`: a default in the form that all dialects share.
- `columns`, `valueLists`: the facts that the rows state.
-/

namespace TableCast
namespace Catalog
namespace Mysql

open Schema Text

/-- A row about a column. -/
structure ColumnRow where
  name : String
  columnType : String
  dataType : String
  /-- Whether the column may hold no value, in words. -/
  isNullable : Option String
  default : Option String
  length : Option Int
  precision : Option Int
  scale : Option Int
  /-- Further properties, in words. -/
  extra : Option String
  comment : Option String
  /-- The position of the column, from one. -/
  position : Int
deriving Repr, DecidableEq, Inhabited

/-- A row about a column with a closed value list. -/
structure ListRow where
  name : String
  columnType : String
  dataType : String
deriving Repr, DecidableEq, Inhabited

/-- Whether a text stands between single quotes. -/
def isQuoted (cs : List Char) : Bool :=
  cs.length ≥ 2 && cs.head? == some '\'' && cs.getLast? == some '\''

/-- A default as an expression: literals are put between quotes. -/
def defaultExpression (default : Option String) (extra : String) : Option String :=
  match default with
  | none => none
  | some text =>
    if text == "NULL" then none
    else if contains extra "default_generated" || startsWith (upper text) "CURRENT_TIMESTAMP" then
      some text
    else if isQuoted text.toList then some text
    else some (quoteLiteral text)

/-- Whether a type is a closed value list. -/
def isListType (dataType : String) : Bool := dataType == "enum" || dataType == "set"

/-- Whether precision and scale belong to the declaration of a type. -/
def isDecimalType (dataType : String) : Bool := dataType == "decimal" || dataType == "numeric"

/-- The column of a row. -/
def columnOf (row : ColumnRow) : Column :=
  let extra := lower (row.extra.getD "")
  { name := row.name
    nativeType := row.columnType
    nullable := row.isNullable == some "YES"
    default := defaultExpression row.default extra
    length := if isListType row.dataType then none else row.length
    precision := if isDecimalType row.dataType then row.precision else none
    scale := if isDecimalType row.dataType then row.scale else none
    autoIncrement := contains extra "auto_increment"
    comment := row.comment.filter (!·.isEmpty)
    ordinal := row.position }

/-- The columns of a table. -/
def columns (rows : List ColumnRow) : List Column := rows.map columnOf

/-- The text from behind the first opening parenthesis up to the last closing one. -/
def argumentText? (cs : List Char) : Option (List Char) :=
  match cs.dropWhile (· != '(') with
  | [] => none
  | _ :: rest =>
    if rest.contains ')' then some ((rest.reverse.dropWhile (· != ')')).tail.reverse) else none

/-- The closed value list of a row, if its type has one. -/
def valueListOf? (row : ListRow) : Except ListError (Option ValueList) :=
  match argumentText? row.columnType.toList with
  | none => .ok none
  | some text => do
    let values ← readQuotedList (String.ofList text)
    return some { column := row.name, values := values, multiple := row.dataType == "set" }

/-- The closed value lists of a table; rows without a list are left out. -/
def valueLists (rows : List ListRow) : Except ListError (List ValueList) :=
  rows.foldr (fun row rest => do
    let list ← valueListOf? row
    let lists ← rest
    return list.toList ++ lists) (.ok [])

/-- The warnings about rows without a list, up to the first row whose list cannot be read. -/
def valueListsLog (table : String) : List ListRow → List Log.Entry
  | [] => []
  | row :: rest =>
    match valueListOf? row with
    | .error _ => []
    | .ok (some _) => valueListsLog table rest
    | .ok none =>
      Log.warning ("Cannot parse value list of " ++ table ++ "." ++ row.name ++ ": " ++
        row.columnType) :: valueListsLog table rest

end Mysql
end Catalog
end TableCast
