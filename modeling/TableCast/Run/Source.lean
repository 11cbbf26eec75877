import TableCast.Catalog.Reader
import TableCast.Settings.Framework

/-!
# Sources of tables

A run reads its tables from a source: it connects, asks for the names of the selected tables,
and reads one table after the other.

- `Source`: what can be asked.
- `Source.ofTables`: tables in memory.
- `Source.ofReader`: the tables of a database, read through its catalog.
-/

namespace TableCast
namespace Run

open Schema Catalog

/-- What a run can ask about tables, with what is said when the question is answered. -/
structure Source where
  connect : Except Problem Dialect
  names : Selection → Except Problem (List String)
  table : String → Except Problem Table
  connectLog : List Log.Entry := []
  namesLog : Selection → List Log.Entry := fun _ => []
  tableLog : String → List Log.Entry := fun _ => []

namespace Source

/-- The source that nothing can be read from. -/
def failing (problem : Problem) : Source :=
  { connect := .error problem
    names := fun _ => .error problem
    table := fun _ => .error problem }

/-- The tables of a database behind an alias. -/
def ofReader (db : Recording) (connection : String) : Source :=
  match Reader.opened { connection := connection } db with
  | .error problem => failing problem
  | .ok reader =>
    { connect := match reader.dialect with
        | some dialect => .ok dialect
        | none => .error (.fault notOpenFault)
      names := reader.tableNames db
      table := reader.table db
      connectLog := match reader.dialect with
        | some dialect => Reader.openedLog db dialect
        | none => []
      namesLog := Reader.tableNamesLog db
      tableLog := reader.tableLog db }

/-- The fault of a table that is listed and cannot be read. -/
def goneFault (name : String) : Fault :=
  Fault.note { kind := .schemaRead, message := "Table '" ++ name ++ "' disappeared" } "table" name

/-- Tables in memory, of which some cannot be read, and names that are listed without a table.
Names and rows come in the given order, or all of them backwards. -/
def ofTables (dialect : Dialect) (tables : List Table) (failing missing : List String)
    (backwards : Bool) : Source :=
  let turned {α : Type} (xs : List α) : List α := if backwards then xs.reverse else xs
  { connect := .ok dialect
    names := fun selection =>
      .ok (turned (selection.select (tables.map (·.name) ++ missing)))
    table := fun name =>
      match (failing ++ missing).contains name, tables.reverse.find? (·.name == name) with
      | false, some t => .ok (Table.ofFacts name (turned t.columns) (turned t.foreignKeys)
          (turned t.indexes) (turned t.valueLists))
      | _, _ => .error (.fault (goneFault name)) }

end Source
end Run
end TableCast
