import TableCast.Model.Association

/-!
# Assembly

The facts about all tables of a run turned into entities: type names are assigned for the
whole run at once, then every table gets its columns, then associations are linked across
all tables, then the entities are made read-only.  An error that concerns one table
excludes that table only.

- `Assembler`: what assembly depends on besides the tables.
- `Assembly`: entities, failures and diagnostics.
- `Assembler.assemble`: the assembly of a run.
-/

namespace TableCast
namespace Model

open Text Name Schema Number

/-- What assembly depends on besides the tables. -/
structure Assembler where
  dialect : Dialect
  normalizer : Normalizer
  types : TypeTable := builtinTypes
  /-- Whether columns with a closed value list get an enum type. -/
  emitEnums : Bool := true
  generateRepository : Bool := true

/-- What came out of the assembly of a run. -/
structure Assembly where
  /-- The entities, by table name. -/
  entities : List Entity := []
  failures : List (String × String) := []
  diagnostics : List Diagnostic := []
  log : List Log.Entry := []
deriving Inhabited

/-- Why a table is excluded. -/
inductive TableError where
  | key (e : KeyError)
  | collision (e : EnumCollision)
  | default (table : String) (state : AssemblyState) (digits : Nat)
  /-- The table never got its columns. -/
  | unfinished (table : String) (state : AssemblyState)
deriving Repr, DecidableEq, Inhabited

/-- The fault about the assembly of a table. -/
def extractionFault (message table : String) (state : AssemblyState) : Fault :=
  let base : Fault := { kind := .metadataExtraction, message := message }
  (base.note "table" table).note "state" state.name

/-- The report of the exclusion of a table. -/
def TableError.fault : TableError → Fault
  | .key e => e.fault
  | .collision e => e.fault
  | .default table state digits =>
    extractionFault ("Could not extract columns of '" ++ table ++ "': " ++ tooLongMessage digits)
      table state
  | .unfinished table state =>
    extractionFault ("Table '" ++ table ++ "' never left the " ++ state.name ++ " state")
      table state

/-- Why a whole run cannot be assembled. -/
inductive AssemblyError where
  /-- A table name has no number. -/
  | number (e : Plural.NumberError)
  | noSourceColumn
  /-- A foreign key is refused although it was accepted before. -/
  | key (e : KeyError)
  | finalized (e : FinalizedChange)
deriving Repr, DecidableEq, Inhabited

/-- The problem that ends an assembly. -/
def AssemblyError.problem : AssemblyError → Problem
  | .number e => e.problem
  | .noSourceColumn => .badPosition "tuple index out of range"
  | .key e => .fault e.fault
  | .finalized e => .badType e.message

/-- The problem of a table whose associations cannot be named. -/
def AssemblyError.ofLink : LinkError → AssemblyError
  | .key e => .key e
  | .number e => .number e
  | .noSourceColumn => .noSourceColumn

/-- Why an assembly stopped, with what was logged up to then. -/
structure AssemblyStop where
  error : AssemblyError
  log : List Log.Entry := []
deriving Repr, DecidableEq, Inhabited

/-- An entry put into a map by name, in the place of an earlier one. -/
def putFailure (name reason : String) (failures : List (String × String)) :
    List (String × String) :=
  Scope.setName name reason failures

/-- The code of the warning about an unknown native type. -/
def fallbackCode : String := "type_fallback"

/-- The warning about a native type that the type table does not know. -/
def fallbackWarning (table : String) (column : Schema.Column) : Diagnostic :=
  { table := some table
    severity := .warning
    code := fallbackCode
    message := "Unknown native type '" ++ column.nativeType ++ "' for column '" ++ table ++ "." ++
      column.name ++ "'; mapped to opaque text"
    artifact := some column.name }

/-- The last value list declared for a column. -/
def declaredList? (table : Table) (column : String) : Option ValueList :=
  table.valueLists.reverse.find? (·.column == column)

/-- How a column is typed: its semantic type, the constants of its values, and whether
its native type is unknown. -/
structure ColumnTyping where
  semantic : SemanticType
  /-- Constant name and value of a closed value list without an enum type. -/
  constants : List (String × String) := []
  fallback : Bool := false

/-- The typing of a column with the given mapping, enum type and value list. -/
def typeColumn (mapping : TypeMapping) (enum : Option EnumType) (declared : Option ValueList) :
    ColumnTyping :=
  match enum, declared with
  | some _, _ => { semantic := .enumerated }
  | none, some values =>
    { semantic := .text
      constants := if values.values.isEmpty then [] else valueConstants values }
  | none, none =>
    if mapping.semantic == .enumerated then { semantic := .text }
    else { semantic := mapping.semantic, fallback := mapping.fallback }

/-- The comment of a column, with its possible values behind it. -/
def columnComment (column : Schema.Column) (declared : Option ValueList) : Option String :=
  match declared with
  | some values =>
    if values.values.isEmpty then column.comment else some (describeValues values column.comment)
  | none => column.comment

namespace Assembler

/-- One column described, with the warning about an unknown native type. -/
def describeColumn (a : Assembler) (table : Table) (enums : List EnumType)
    (fieldNames : List (String × String)) (column : Schema.Column) :
    List Diagnostic × Except IntegerError Column :=
  let enum := enums.find? (·.column == column.name)
  let declared := declaredList? table column.name
  let typing := typeColumn (a.types.map a.dialect column.nativeType) enum declared
  let isPrimary := table.primaryKey.contains column.name
  let warnings := if typing.fallback then [fallbackWarning table.name column] else []
  (warnings, (staticDefault column.default typing.semantic).map fun default => {
    name := column.name
    fieldName := (lookup? fieldNames column.name).getD ""
    semantic := typing.semantic
    nativeType := column.nativeType
    nullable := column.nullable && !isPrimary
    isPrimary := isPrimary
    default := default
    enum := enum
    length := column.length
    precision := column.precision
    scale := column.scale
    autoIncrement := column.autoIncrement
    isForeignKey := table.foreignKeys.any (·.sourceColumns.contains column.name)
    comment := columnComment column declared
    valueConstants := typing.constants })

/-- The columns described one after the other, with the warnings up to the first column
whose default cannot be read. -/
def describeColumns (a : Assembler) (table : Table) (enums : List EnumType)
    (fieldNames : List (String × String)) :
    List Schema.Column → List Diagnostic × Except IntegerError (List Column)
  | [] => ([], .ok [])
  | column :: rest =>
    match a.describeColumn table enums fieldNames column with
    | (warnings, .error e) => (warnings, .error e)
    | (warnings, .ok described) =>
      let (more, columns) := a.describeColumns table enums fieldNames rest
      (warnings ++ more, columns.map (described :: ·))

/-- The field name of every column of a table. -/
def fieldNames (a : Assembler) (table : Table) : List (String × String) :=
  (Scope.assign {} (table.columns.map fun c => (c.name, a.normalizer.fieldName c.name))).1

/-- The indexes of a table besides the primary one, by name. -/
def secondaryIndexes (table : Table) : List Index :=
  let sorted := table.indexes.mergeSort (fun a b => decide (a.name ≤ b.name))
  (sorted.filter fun index => !index.primary && index.columns != table.primaryKey).map fun index =>
    { name := index.name, columns := index.columns, unique := index.unique }

/-- The enum types of a table, none when they are not emitted. -/
def tableEnums (a : Assembler) (typeNames : List (String × String)) (table : Table) :
    Except EnumCollision (List EnumType) :=
  if a.emitEnums then enumTypes a.normalizer typeNames table else .ok []

/-- The entity of a table with its columns, with the warnings about them. -/
def extract (a : Assembler) (typeNames : List (String × String)) (tables : List Table)
    (table : Table) : List Diagnostic × Except TableError Entity :=
  match validateKeys table tables with
  | .error e => ([], .error (.key e))
  | .ok () => match a.tableEnums typeNames table with
    | .error e => ([], .error (.collision e))
    | .ok enums =>
      let (warnings, columns) := a.describeColumns table enums (a.fieldNames table) table.columns
      let typeName := (lookup? typeNames table.name).getD ""
      (warnings, match columns with
        | .error (.tooLong digits) => .error (.default table.name .pending digits)
        | .error .malformed => .error (.unfinished table.name .pending)
        | .ok columns => .ok {
            name := table.name
            typeName := typeName
            columns := columns
            companion := if a.generateRepository then some (Normalizer.repositoryName typeName)
              else none
            primaryKey := table.primaryKey
            indexes := secondaryIndexes table
            enums := enums
            state := .columnsExtracted })

/-- Raw key and preferred name of every type of a run. -/
def typeCandidates (a : Assembler) (tables : List Table) :
    Except Plural.NumberError (List (String × String)) := do
  let perTable ← tables.mapM fun table => do
    let typeName ← a.normalizer.typeName table.name
    return (table.name, typeName) ::
      (if a.emitEnums then enumTypeCandidates a.normalizer table else [])
  return perTable.flatten

/-- An assembly with one table excluded. -/
def excludeTable (assembly : Assembly) (name : String) (e : TableError) : Assembly :=
  { assembly with
    failures := putFailure name e.fault.message assembly.failures
    diagnostics := assembly.diagnostics ++ [Diagnostic.ofFault (some name) e.fault none]
    log := assembly.log ++
      [Log.error ("Excluding table '" ++ name ++ "': " ++ e.fault.message)] }

/-- The log entries about warnings. -/
def warningsLog (warnings : List Diagnostic) : List Log.Entry :=
  warnings.map fun d => Log.warning d.message

/-- One table given its columns. -/
def extractInto (a : Assembler) (typeNames : List (String × String)) (tables : List Table)
    (assembly : Assembly) (table : Table) : Assembly :=
  let (warnings, outcome) := a.extract typeNames tables table
  let ignored := match validateKeys table tables with
    | .error _ => []
    | .ok () => if a.emitEnums then ignoredListsLog table else []
  let noted := { assembly with
    diagnostics := assembly.diagnostics ++ warnings
    log := assembly.log ++ ignored ++ warningsLog warnings }
  match outcome with
  | .error e => excludeTable noted table.name e
  | .ok entity => { noted with entities := noted.entities ++ [entity] }

/-- One entity given its associations. -/
def linkInto (a : Assembler) (tables : List Table) (entities : List Entity) (assembly : Assembly)
    (entity : Entity) : Except AssemblyStop Assembly := do
  let table := (tableNamed? tables entity.name).getD { name := entity.name, columns := [] }
  let (associations, warnings) ← (link a.normalizer entity table entities tables).mapError
    fun stop => {
      error := AssemblyError.ofLink stop.error
      log := assembly.log ++ warningsLog stop.diagnostics }
  return { assembly with
    entities := assembly.entities ++
      [{ entity with associations := associations, state := .associationsLinked }]
    diagnostics := assembly.diagnostics ++ warnings
    log := assembly.log ++ warningsLog warnings }

/-- What is logged about a finished entity. -/
def mappedEntry (entity : Entity) : Log.Entry :=
  Log.info ("Mapped table '" ++ entity.name ++ "' to '" ++ entity.typeName ++ "' (" ++
    toString entity.columns.length ++ " columns, " ++ toString entity.associations.length ++
    " associations)")

/-- The tables by name, of two with one name the later one. -/
def tablesByName (tables : List Table) : List Table :=
  let names := Scope.sortedDistinct (tables.map (·.name))
  names.filterMap fun name => tables.reverse.find? (·.name == name)

/-- What is logged while types are named, up to the first table without a type name. -/
def typeCandidatesLog (a : Assembler) (tables : List Table) : List Log.Entry :=
  if a.emitEnums then
    (tables.takeWhile fun t => (a.normalizer.typeName t.name).isOk).flatMap ignoredListsLog
  else []

/-- The assembly of the tables that were read, with the selected names and the failures of
the tables that could not be read. -/
def assemble (a : Assembler) (names : List String) (tables : List Table)
    (readFailures : List (String × String)) : Except AssemblyStop Assembly := do
  let tables := tablesByName tables
  let log := a.typeCandidatesLog tables
  let candidates ← (a.typeCandidates tables).mapError fun e => { error := .number e, log := log }
  let typeNames := (Scope.assign {} candidates).1
  let start : Assembly := {
    failures := readFailures.foldl (fun all (name, reason) => putFailure name reason all) []
    log := log }
  let extracted := tables.foldl (a.extractInto typeNames tables) start
  let linked ← extracted.entities.foldlM (a.linkInto tables extracted.entities)
    { extracted with entities := [] }
  let finished ← linked.entities.mapM fun e => e.finalize.mapError fun change =>
    { error := .finalized change, log := linked.log }
  let done := { linked with
    entities := finished
    log := linked.log ++ finished.map mappedEntry }
  let missing := (Scope.sortedDistinct names).filter fun name =>
    !(done.entities.any (·.name == name)) && !(done.failures.any (·.1 == name))
  return missing.foldl (fun all name => excludeTable all name (.unfinished name .pending)) done

end Assembler

/-- The entity of a table. -/
def Assembly.entity? (assembly : Assembly) (name : String) : Option Entity :=
  assembly.entities.find? (·.name == name)

end Model
end TableCast
