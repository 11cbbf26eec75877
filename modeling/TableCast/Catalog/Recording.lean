import TableCast.Catalog.Mysql
import TableCast.Catalog.Postgresql
import TableCast.Catalog.Sqlite
import TableCast.Document.Record

/-!
# Recorded databases

A database as far as a reader sees it: how it answers when it is connected to and when its
catalog is queried.

- `Rows`: the catalog rows of a table.
- `RecordedTable`, `Recording`: a table, and a whole database.
- `Recording.ofDocument`: the recording that a document describes.
-/

namespace TableCast
namespace Catalog

open Schema

/-- What is asked about a table. -/
inductive Topic where
  | columns
  | foreignKeys
  | valueLists
  | declaration
  | constraints
  | primaryKey
deriving Repr, DecidableEq, Inhabited

/-- The name of a topic in a recording. -/
def Topic.name : Topic → String
  | .columns => "columns"
  | .foreignKeys => "foreign_keys"
  | .valueLists => "enums"
  | .declaration => "sql"
  | .constraints => "constraints"
  | .primaryKey => "pk"

/-- All topics. -/
def Topic.all : List Topic :=
  [.columns, .foreignKeys, .valueLists, .declaration, .constraints, .primaryKey]

/-- The catalog rows of a table, in the form of its engine. -/
inductive Rows where
  | sqlite (columns : List Sqlite.ColumnRow) (foreignKeys : List Sqlite.ForeignKeyRow)
      (declaration : Option String)
  | postgresql (columns : List Postgresql.ColumnRow) (foreignKeys : List KeyRow)
      (labels : List Postgresql.LabelRow)
  | mysql (columns : List Mysql.ColumnRow) (foreignKeys : List KeyRow)
      (lists : List Mysql.ListRow)
deriving Repr, DecidableEq, Inhabited

/-- A constraint or an index as the general introspection tells it. -/
structure Constraint where
  name : String
  /-- The columns; an expression counts as a column without a name. -/
  columns : List (Option String) := []
  primaryKey : Bool := false
  unique : Bool := false
  index : Bool := false
  foreignKey : Bool := false
deriving Repr, DecidableEq, Inhabited

/-- What a database answers about one table. -/
structure RecordedTable where
  name : String
  rows : Rows
  constraints : List Constraint := []
  primaryKey : List String := []
  /-- The messages of the queries that fail. -/
  failures : List (Topic × String) := []
deriving Repr, DecidableEq, Inhabited

/-- The message of the failing query about a topic. -/
def RecordedTable.failure? (t : RecordedTable) (topic : Topic) : Option String :=
  (t.failures.find? (·.1 == topic)).map (·.2)

/-- How a database fails to be connected to. -/
inductive ConnectFailure where
  | refused (message : String)
  | other (message : String)
  | interrupted
deriving Repr, DecidableEq, Inhabited

/-- An item in the list of tables and views. -/
structure Item where
  name : String
  isTable : Bool := true
deriving Repr, DecidableEq, Inhabited

/-- A recorded database. -/
structure Recording where
  vendor : String := "sqlite"
  engine : String := "recorded"
  name : String := "shop"
  connection : String := "default"
  connectFailure : Option ConnectFailure := none
  items : List Item := []
  listFailure : Option String := none
  tables : List RecordedTable := []
deriving Repr, DecidableEq, Inhabited

/-- The catalog of an engine without any rows. -/
def Rows.empty : Dialect → Rows
  | .sqlite => .sqlite [] [] none
  | .postgresql => .postgresql [] [] []
  | .mysql => .mysql [] [] []

/-- What is known about a table; of an unknown one there are no rows. -/
def Recording.table (db : Recording) (dialect : Dialect) (name : String) : RecordedTable :=
  (db.tables.find? (·.name == name)).getD { name := name, rows := .empty dialect }

/-! ## Recordings as documents -/

/-- The text in a cell. -/
def cellText (row : List Document) (i : Nat) : Option String :=
  (row[i]?).bind Document.text?

/-- The integer in a cell; a truth value counts as zero or one. -/
def cellInt (row : List Document) (i : Nat) : Option Int :=
  match row[i]? with
  | some (.int n) => some n
  | some (.bool b) => some (if b then 1 else 0)
  | _ => none

/-- Whether a cell holds a true value. -/
def cellTruth (row : List Document) (i : Nat) : Bool :=
  ((row[i]?).map Document.isTrue).getD false

/-- A row about a column in the order of SQLite's query. -/
def Sqlite.ColumnRow.ofCells (row : List Document) : Sqlite.ColumnRow :=
  { position := (cellInt row 0).getD 0
    name := (cellText row 1).getD ""
    declaredType := cellText row 2
    notNull := cellTruth row 3
    default := cellText row 4
    keyPosition := (cellInt row 5).getD 0 }

/-- A row about a foreign key in the order of SQLite's query. -/
def Sqlite.ForeignKeyRow.ofCells (row : List Document) : Sqlite.ForeignKeyRow :=
  { id := (cellInt row 0).getD 0
    position := (cellInt row 1).getD 0
    targetTable := (cellText row 2).getD ""
    source := (cellText row 3).getD ""
    target := cellText row 4
    onUpdate := cellText row 5
    onDelete := cellText row 6 }

/-- A row about a foreign key in the order that the other engines share. -/
def keyRowOfCells (row : List Document) : KeyRow :=
  { name := cellText row 0
    source := (cellText row 1).getD ""
    targetTable := (cellText row 2).getD ""
    target := cellText row 3
    onDelete := cellText row 4
    onUpdate := cellText row 5 }

/-- A row about a column in the order of PostgreSQL's query. -/
def Postgresql.ColumnRow.ofCells (row : List Document) : Postgresql.ColumnRow :=
  { name := (cellText row 0).getD ""
    dataType := (cellText row 1).getD ""
    typeName := (cellText row 2).getD ""
    isNullable := cellText row 3
    default := cellText row 4
    length := cellInt row 5
    precision := cellInt row 6
    scale := cellInt row 7
    isIdentity := cellText row 8
    position := (cellInt row 9).getD 0
    comment := cellText row 10 }

/-- A row about a label in the order of PostgreSQL's query. -/
def Postgresql.LabelRow.ofCells (row : List Document) : Postgresql.LabelRow :=
  { column := (cellText row 0).getD "", label := (cellText row 1).getD "" }

/-- A row about a column in the order of MySQL's query. -/
def Mysql.ColumnRow.ofCells (row : List Document) : Mysql.ColumnRow :=
  { name := (cellText row 0).getD ""
    columnType := (cellText row 1).getD ""
    dataType := (cellText row 2).getD ""
    isNullable := cellText row 3
    default := cellText row 4
    length := cellInt row 5
    precision := cellInt row 6
    scale := cellInt row 7
    extra := cellText row 8
    comment := cellText row 9
    position := (cellInt row 10).getD 0 }

/-- A row about a closed value list in the order of MySQL's query. -/
def Mysql.ListRow.ofCells (row : List Document) : Mysql.ListRow :=
  { name := (cellText row 0).getD ""
    columnType := (cellText row 1).getD ""
    dataType := (cellText row 2).getD "" }

/-- The catalog rows that a document lists for a table. -/
def Rows.ofDocument (dialect : Dialect) (d : Document) : Rows :=
  let columns := (d.get "columns").items.map Document.items
  let keys := (d.get "foreign_keys").items.map Document.items
  let lists := (d.get "enums").items.map Document.items
  match dialect with
  | .sqlite => .sqlite (columns.map Sqlite.ColumnRow.ofCells)
      (keys.map Sqlite.ForeignKeyRow.ofCells) (d.textAt? "sql")
  | .postgresql => .postgresql (columns.map Postgresql.ColumnRow.ofCells)
      (keys.map keyRowOfCells) (lists.map Postgresql.LabelRow.ofCells)
  | .mysql => .mysql (columns.map Mysql.ColumnRow.ofCells)
      (keys.map keyRowOfCells) (lists.map Mysql.ListRow.ofCells)

/-- The constraint that a document describes. -/
def Constraint.ofDocument (name : String) (d : Document) : Constraint :=
  { name := name
    columns := (d.get "columns").items.map Document.text?
    primaryKey := (d.get "primary_key").isTrue
    unique := (d.get "unique").isTrue
    index := (d.get "index").isTrue
    foreignKey := (d.get "foreign_key").isTrue }

/-- The table that a document describes. -/
def RecordedTable.ofDocument (dialect : Dialect) (name : String) (d : Document) :
    RecordedTable :=
  { name := name
    rows := Rows.ofDocument dialect d
    constraints := (d.get "constraints").textEntries.map fun (key, c) => Constraint.ofDocument key c
    primaryKey := d.textsAt "pk"
    failures := Topic.all.filterMap fun topic =>
      ((d.get "errors").textAt? topic.name).map (topic, ·) }

/-- The failure to connect that a document describes. -/
def ConnectFailure.ofDocument? (d : Document) : Option ConnectFailure :=
  match d.itemTexts with
  | [] => none
  | kind :: rest =>
    let message := rest.head?.getD ""
    if kind == "DatabaseError" || kind == "ImproperlyConfigured" then some (.refused message)
    else if kind == "KeyboardInterrupt" then some .interrupted
    else some (.other message)

/-- The item of a list of tables and views that a document describes. -/
def Item.ofDocument (d : Document) : Item :=
  match d.itemTexts with
  | [] => { name := "", isTable := false }
  | name :: rest => { name := name, isTable := (rest.head?.getD "t") == "t" }

/-- The dialect of an engine by the name of its vendor. -/
def Recording.dialect? (db : Recording) : Option Dialect := Dialect.ofName? db.vendor

/-- The recording that a document describes. -/
def Recording.ofDocument (d : Document) : Recording :=
  let vendor := d.textAt "vendor" "sqlite"
  let entries := (d.get "tables").textEntries
  { vendor := vendor
    engine := d.textAt "engine" "recorded"
    name := d.textAt "name" "shop"
    connection := d.textAt "alias" "default"
    connectFailure := ConnectFailure.ofDocument? (d.get "connect_error")
    items := match d.get? "items" with
      | some (.list items) => items.map Item.ofDocument
      | _ => entries.map fun (name, _) => { name := name }
    listFailure := d.textAt? "list_error"
    tables := match Dialect.ofName? vendor with
      | some dialect => entries.map fun (name, t) => RecordedTable.ofDocument dialect name t
      | none => [] }

end Catalog
end TableCast
