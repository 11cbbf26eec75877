import TableCast.Schema.KeyRow
import TableCast.Schema.TypeArguments
import TableCast.Text.QuotedList

/-!
# The catalog of SQLite

What the rows of SQLite's catalog say about a table.  Closed value lists stand in the text of
the table's declaration, as checks that a column is in a list.

- `ColumnRow`, `ForeignKeyRow`: the rows.
- `columns`, `primaryKey`, `foreignKeys`, `valueLists`: the facts that they state.
-/

namespace TableCast
namespace Catalog
namespace Sqlite

open Schema Text

/-- A row about a column. -/
structure ColumnRow where
  /-- The position of the column, from zero. -/
  position : Int
  name : String
  declaredType : Option String
  notNull : Bool
  default : Option String
  /-- The position of the column in the primary key, from one; zero outside of it. -/
  keyPosition : Int
deriving Repr, DecidableEq, Inhabited

/-- A row about a pair of columns of a foreign key. -/
structure ForeignKeyRow where
  id : Int
  /-- The position of the pair in the foreign key. -/
  position : Int
  targetTable : String
  source : String
  target : Option String
  onUpdate : Option String
  onDelete : Option String
deriving Repr, DecidableEq, Inhabited

/-- Whether the column belongs to the primary key. -/
def ColumnRow.isKey (row : ColumnRow) : Bool := row.keyPosition != 0

/-- The column of a row.  A lone key column that is declared as an integer is numbered by
the database. -/
def columnOf (loneKey : Bool) (row : ColumnRow) : Except Number.IntegerError Column := do
  let native := row.declaredType.getD ""
  let arguments ← typeArguments native
  return {
    name := row.name
    nativeType := native
    nullable := !row.notNull && !row.isKey
    default := row.default
    length := arguments.length
    precision := arguments.precision
    scale := arguments.scale
    autoIncrement := row.isKey && loneKey && upper (trimmed native) == "INTEGER"
    ordinal := row.position }

/-- The columns of a table. -/
def columns (rows : List ColumnRow) : Except Number.IntegerError (List Column) :=
  rows.mapM (columnOf ((rows.filter (·.isKey)).length == 1))

/-- The order of the columns of a key: by position, then by name. -/
def ColumnRow.keyLe (a b : ColumnRow) : Bool :=
  a.keyPosition < b.keyPosition || (a.keyPosition == b.keyPosition && !(b.name < a.name))

/-- The columns of the primary key, in key order. -/
def primaryKey (rows : List ColumnRow) : List String :=
  ((rows.filter (·.isKey)).mergeSort ColumnRow.keyLe).map (·.name)

/-- The order of the rows of foreign keys: by number, then by position. -/
def ForeignKeyRow.le (a b : ForeignKeyRow) : Bool :=
  a.id < b.id || (a.id == b.id && a.position ≤ b.position)

/-- The row in the form that all dialects share; constraints are named by their number. -/
def ForeignKeyRow.toKeyRow (table : String) (row : ForeignKeyRow) : KeyRow :=
  { name := some (table ++ "_fk_" ++ toString row.id)
    source := row.source
    targetTable := row.targetTable
    target := row.target
    onDelete := row.onDelete
    onUpdate := row.onUpdate }

/-- The foreign keys of a table. -/
def foreignKeys (table : String) (rows : List ForeignKeyRow) : List ForeignKey :=
  groupKeys ((rows.mergeSort ForeignKeyRow.le).map (ForeignKeyRow.toKeyRow table))

/-- The text behind a word given in lower case, whatever its letter case in the text. -/
def afterWord? : List Char → List Char → Option (List Char)
  | [], cs => some cs
  | w :: ws, c :: cs => if equalIgnoringCase w c then afterWord? ws cs else none
  | _ :: _, [] => none

/-- The text behind blanks and then one given character. -/
def afterChar? (sign : Char) (cs : List Char) : Option (List Char) :=
  match trimLeftBy isBlank cs with
  | c :: rest => if c == sign then some rest else none
  | [] => none

/-- The text without one character of a class at its start. -/
def dropOne (p : Char → Bool) : List Char → List Char
  | c :: cs => if p c then cs else c :: cs
  | [] => []

/-- The name at the start of a text, possibly between quotes or brackets, and the rest. -/
def quotedName? (cs : List Char) : Option (List Char × List Char) :=
  let opened := dropOne (fun c => c == '"' || c == '\x60' || c == '[') (trimLeftBy isBlank cs)
  let name := opened.takeWhile isWordChar
  let rest := opened.dropWhile isWordChar
  if name.isEmpty then none
  else some (name, dropOne (fun c => c == '"' || c == '\x60' || c == ']') rest)

/-- The text without the blanks at its start, of which there has to be one. -/
def afterBlanks? : List Char → Option (List Char)
  | c :: cs => if isBlank c then some (trimLeftBy isBlank cs) else none
  | [] => none

/-- The text up to a closing parenthesis that is not between quotes, and the rest. -/
def listText? (inQuotes : Bool) (seen : List Char) : List Char → Option (List Char × List Char)
  | [] => none
  | c :: cs =>
    if c == '\'' then listText? (!inQuotes) (c :: seen) cs
    else if c == ')' && !inQuotes then some (seen.reverse, cs)
    else listText? inQuotes (c :: seen) cs

/-- A check at the start of a text that a column is in a list: the column, the text of the
list and the rest. -/
def checkAt? (cs : List Char) : Option (List Char × List Char × List Char) := do
  let cs ← afterWord? "check".toList cs
  let cs ← afterChar? '(' cs
  let (column, cs) ← quotedName? cs
  let cs ← afterBlanks? cs
  let cs ← afterWord? "in".toList cs
  let cs ← afterChar? '(' cs
  let (values, cs) ← listText? false [] cs
  let rest ← afterChar? ')' cs
  return (column, values, rest)

/-- The checks of a declaration: each with its column and the text of its list.  The next
`skip` characters belong to a check that was read. -/
def checksFrom : Nat → List Char → List (List Char × List Char)
  | _, [] => []
  | skip + 1, _ :: cs => checksFrom skip cs
  | 0, c :: cs =>
    match checkAt? (c :: cs) with
    | some (column, values, rest) =>
      (column, values) :: checksFrom (cs.length - rest.length) cs
    | none => checksFrom 0 cs

/-- The closed value lists of a declaration. -/
def valueLists (declaration : String) : Except ListError (List ValueList) :=
  (checksFrom 0 declaration.toList).mapM fun (column, values) => do
    let values ← readQuotedList (String.ofList values)
    return { column := String.ofList column, values := values }

end Sqlite
end Catalog
end TableCast
