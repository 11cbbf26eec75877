import TableCast.Catalog.Query
import TableCast.Catalog.Recording
import TableCast.Catalog.Selection
import TableCast.Fault

/-!
# Readers of catalogs

A reader holds a connection to a database between `opened` and `closed`, and reads the facts
about its tables.

- `Reader`: what a reader remembers.
- `Reader.opened`, `Reader.closed`: the ends of a connection.
- `Reader.tableNames`, `Reader.columns`, `Reader.foreignKeys`, `Reader.valueLists`,
  `Reader.indexes`: the facts.
- `Reader.table`: everything about one table.
-/

namespace TableCast
namespace Catalog

open Schema Text

/-- A reader of the catalog behind one alias. -/
structure Reader where
  connection : String := "default"
  connected : Bool := false
  dialect : Option Dialect := none
  closings : Nat := 0
deriving Repr, DecidableEq, Inhabited

/-- The fault of reading without a connection. -/
def notOpenFault : Fault :=
  { kind := .databaseConnection, message := "Schema reader is not open. Call open() first." }

/-- The fault of a query that fails. -/
def readFault (what table message : String) : Fault :=
  Fault.note {
    kind := .schemaRead
    message := "Could not read " ++ what ++ " of table '" ++ table ++ "': " ++ message }
    "table" table

/-- The fault of a table without columns. -/
def noColumnsFault (table : String) : Fault :=
  Fault.note {
    kind := .schemaRead
    message := "Table '" ++ table ++
      "' has no columns; it was probably dropped during the run" } "table" table

/-- The name of the primary index that a catalog tells only by its columns. -/
def primaryIndexName : String := "__primary__"

/-- A primary index by its columns. -/
def primaryIndex (columns : List String) : Index :=
  { name := primaryIndexName, columns := columns, unique := true, primary := true }

/-- The index that a constraint comes with. -/
def Constraint.index? (c : Constraint) : Option Index :=
  let columns := c.columns.filterMap fun column => column.filter (!·.isEmpty)
  if columns.isEmpty then none
  else if c.primaryKey then
    some { name := c.name, columns := columns, unique := true, primary := true }
  else if (c.unique || c.index) && !(c.foreignKey && !c.index) then
    some { name := c.name, columns := columns, unique := c.unique }
  else none

/-- The indexes that constraints come with, sorted by name. -/
def constraintIndexes (constraints : List Constraint) : List Index :=
  (constraints.mergeSort fun a b => decide (a.name ≤ b.name)).filterMap Constraint.index?

/-- The answer to a query that a kind of catalog may not have. -/
def provided {α : Type} (query : Option (String → Query)) (answer : Except Problem α) :
    Except Problem α :=
  if query.isSome then answer else .error .notProvided

namespace Reader

/-- The reader with a connection to its database. -/
def opened (r : Reader) (db : Recording) : Except Problem Reader :=
  if r.connection != db.connection then
    .error (.fault {
      kind := .databaseConnection
      message := "No database configured under alias '" ++ r.connection ++ "': The connection '" ++
        r.connection ++ "' doesn't exist." })
  else match db.dialect? with
    | none => .error (.fault {
        kind := .configuration
        message := "Database vendor '" ++ db.vendor ++ "' is not supported"
        suggestions := ["Use one of: " ++ joinWith ", " engines] })
    | some dialect =>
      match db.connectFailure with
      | some (.refused message) => .error (.fault (Fault.note {
          kind := .databaseConnection
          message := "Could not connect to database '" ++ db.name ++ "': " ++ message }
          "engine" db.engine))
      | some (.other message) => .error (.unforeseen message)
      | some .interrupted => .error .interrupted
      | none => .ok { r with connected := true, dialect := some dialect }

/-- What is said when a connection is made. -/
def openedLog (db : Recording) (dialect : Dialect) : List Log.Entry :=
  [Log.info ("Connected to " ++ dialect.name ++ " database '" ++ db.name ++ "'.")]

/-- The reader without a connection. -/
def closed (r : Reader) : Reader :=
  { r with connected := false, closings := if r.connected then r.closings + 1 else r.closings }

/-- The names of the tables of a database, views left out. -/
def listedTables (db : Recording) : List String :=
  (db.items.filter (·.isTable)).map (·.name)

/-- The names of the selected tables. -/
def tableNames (r : Reader) (db : Recording) (selection : Selection) :
    Except Problem (List String) :=
  if !r.connected then .error (.fault notOpenFault)
  else match db.listFailure with
    | some message => .error (.fault {
        kind := .databaseConnection, message := "Could not list tables: " ++ message })
    | none => .ok (selection.select (listedTables db))

/-- What is said when the tables are listed. -/
def tableNamesLog (db : Recording) (selection : Selection) : List Log.Entry :=
  let names := listedTables db
  Log.info (s!"Found {db.items.length} database items (tables/views).") :: selection.log names ++
    (if (selection.select names).isEmpty then
      [Log.warning "No tables selected for introspection after filtering."] else [])

/-- The answer to a query about a table. -/
def ask {α : Type} (r : Reader) (db : Recording) (table what : String) (topic : Topic)
    (answer : RecordedTable → Except Problem α) : Except Problem α :=
  match r.connected, r.dialect with
  | true, some dialect =>
    let recorded := db.table dialect table
    match recorded.failure? topic with
    | some message => .error (.fault (readFault what table message))
    | none => answer recorded
  | _, _ => .error (.fault notOpenFault)

/-- A reader that was never connected has no catalog to ask. -/
def askCatalog {α : Type} (r : Reader) (db : Recording) (table what query : String)
    (topic : Dialect → Topic) (answer : RecordedTable → Except Problem α) : Except Problem α :=
  match r.dialect with
  | none => .error (.absent ("'NoneType' object has no attribute '" ++ query ++ "'"))
  | some dialect => r.ask db table what (topic dialect) answer

/-- The problem of a number that is too long. -/
def numberProblem : Number.IntegerError → Problem
  | .tooLong digits => .badValue (Number.tooLongMessage digits)
  | .malformed => .badValue ""

/-- The problem of a list of literals that cannot be read. -/
def listProblem (e : ListError) : Problem := .badList e.message

/-- The columns that catalog rows state. -/
def columnsOf : Rows → Except Problem (List Column)
  | .sqlite columns _ _ => (Sqlite.columns columns).mapError numberProblem
  | .postgresql columns _ _ => .ok (Postgresql.columns columns)
  | .mysql columns _ _ => .ok (Mysql.columns columns)

/-- The foreign keys that catalog rows state about a table. -/
def foreignKeysOf (table : String) : Rows → List ForeignKey
  | .sqlite _ keys _ => Sqlite.foreignKeys table keys
  | .postgresql _ keys _ => groupKeys keys
  | .mysql _ keys _ => groupKeys keys

/-- The closed value lists that catalog rows state. -/
def valueListsOf : Rows → Except Problem (List ValueList)
  | .sqlite _ _ declaration => (Sqlite.valueLists (declaration.getD "")).mapError listProblem
  | .postgresql _ _ labels => .ok (Postgresql.valueLists labels)
  | .mysql _ _ lists => (Mysql.valueLists lists).mapError listProblem

/-- What is said when closed value lists are read. -/
def valueListsLog (table : String) : Rows → List Log.Entry
  | .mysql _ _ lists => Mysql.valueListsLog table lists
  | _ => []

/-- The primary key that catalog rows state, where a catalog tells it. -/
def primaryKeyOf : Rows → List String
  | .sqlite columns _ _ => Sqlite.primaryKey columns
  | _ => []

/-- Where the closed value lists of an engine stand. -/
def valueListTopic : Dialect → Topic
  | .sqlite => .declaration
  | _ => .valueLists

/-- The columns of a table, of which there has to be one. -/
def columns (r : Reader) (db : Recording) (table : String) : Except Problem (List Column) := do
  let columns ← r.askCatalog db table "columns" "columns" (fun _ => .columns)
    fun t => columnsOf t.rows
  if columns.isEmpty then .error (.fault (noColumnsFault table)) else return columns

/-- The foreign keys of a table. -/
def foreignKeys (r : Reader) (db : Recording) (table : String) :
    Except Problem (List ForeignKey) :=
  r.askCatalog db table "foreign keys" "foreign_keys" (fun _ => .foreignKeys)
    fun t => .ok (foreignKeysOf table t.rows)

/-- The closed value lists of a table. -/
def valueLists (r : Reader) (db : Recording) (table : String) :
    Except Problem (List ValueList) :=
  r.askCatalog db table "enumerated declarations" "enum_columns" valueListTopic
    fun t => valueListsOf t.rows

/-- The topic under which a catalog tells the primary key. -/
def catalogKeyTopic : Dialect → Option Topic
  | .sqlite => some .columns
  | _ => none

/-- The primary key as the catalog of the engine tells it. -/
def catalogKey (r : Reader) (db : Recording) (table : String) : Except Problem (List String) :=
  match r.dialect.bind catalogKeyTopic with
  | some topic => r.ask db table "primary key" topic fun t => .ok (primaryKeyOf t.rows)
  | none => .ok []

/-- The indexes of a table, that of the primary key included. -/
def indexes (r : Reader) (db : Recording) (table : String) : Except Problem (List Index) := do
  let constraints ← r.ask db table "constraints" .constraints fun t => .ok t.constraints
  let indexes := constraintIndexes constraints
  let key ← r.catalogKey db table
  if !key.isEmpty then return primaryIndex key :: indexes.filter (!·.primary)
  else if indexes.any (·.primary) then return indexes
  else
    let key ← r.ask db table "primary key" .primaryKey fun t => .ok t.primaryKey
    if key.isEmpty then return indexes else return primaryIndex key :: indexes

/-- Everything about a table. -/
def table (r : Reader) (db : Recording) (name : String) : Except Problem Table := do
  let columns ← r.columns db name
  let foreignKeys ← r.foreignKeys db name
  let indexes ← r.indexes db name
  let valueLists ← r.valueLists db name
  return Table.ofFacts name columns foreignKeys indexes valueLists

/-- What is said when everything about a table is read: the value lists are read last. -/
def tableLog (r : Reader) (db : Recording) (name : String) : List Log.Entry :=
  match r.columns db name, r.foreignKeys db name, r.indexes db name, r.dialect with
  | .ok _, .ok _, .ok _, some dialect =>
    let recorded := db.table dialect name
    if (recorded.failure? (valueListTopic dialect)).isSome then []
    else valueListsLog name recorded.rows
  | _, _, _, _ => []

end Reader
end Catalog
end TableCast
