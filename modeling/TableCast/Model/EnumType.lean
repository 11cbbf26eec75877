import TableCast.Schema.Facts
import TableCast.Name.Normalizer
import TableCast.Name.Scope
import TableCast.Log.Entry

/-!
# Enum types

Every column with a closed value list gets an enum type of its own.  Its cases keep the
order of declaration and have distinct names.

- `EnumType`, `EnumType.make`: an enum type and the checks on its cases.
- `EnumType.caseNameFor?`, `rawValueFor?`: the look-ups in both directions.
- `consideredLists`: the value lists of a table that give an enum type.
- `enumTypes`: the enum types of a table, by column.
- `describeValues`, `valueConstants`: a value list without an enum type.
-/

namespace TableCast
namespace Model

open Text Name Schema

/-- The generated type of a column with a closed value list. -/
structure EnumType where
  typeName : String
  /-- Value and case name, in order of declaration. -/
  cases : List (String × String)
  table : String
  column : String
  /-- Whether the column holds any combination of the values. -/
  multiple : Bool := false
deriving Repr, DecidableEq, Inhabited

/-- Why cases do not make an enum type. -/
inductive EnumTypeError where
  | noCase (typeName : String)
  | duplicateCases (typeName : String) (names : List String)
deriving Repr, DecidableEq, Inhabited

/-- The message about cases that do not make an enum type. -/
def EnumTypeError.message : EnumTypeError → String
  | .noCase typeName => "Enum " ++ typeName ++ " must declare at least one case"
  | .duplicateCases typeName names =>
    "Enum " ++ typeName ++ " has duplicate case names: " ++ Quoted.list names

namespace EnumType

/-- The declared values. -/
def rawValues (e : EnumType) : List String := e.cases.map (·.1)

/-- The names of the cases. -/
def caseNames (e : EnumType) : List String := e.cases.map (·.2)

/-- The enum type, when it has cases and their names are distinct. -/
def make (e : EnumType) : Except EnumTypeError EnumType :=
  if e.cases.isEmpty then .error (.noCase e.typeName)
  else if e.caseNames.eraseDups.length != e.caseNames.length then
    .error (.duplicateCases e.typeName e.caseNames)
  else .ok e

/-- The case name of a value: that of its first case. -/
def caseNameFor? (e : EnumType) (value : String) : Option String :=
  (e.cases.find? (·.1 == value)).map (·.2)

/-- The value of a case name. -/
def rawValueFor? (e : EnumType) (caseName : String) : Option String :=
  (e.cases.find? (·.2 == caseName)).map (·.1)

end EnumType

/-- The key of an enum type among the type names of a run. -/
def enumScopeKey (table column : String) : String :=
  table ++ "." ++ column

/-- The comment that lists the possible values, behind an existing comment. -/
def describeValues (values : ValueList) (comment : Option String) : String :=
  let label := if values.multiple then "Possible SET values" else "Possible values"
  let listed := joinWith ", " (values.values.map fun v => "'" ++ v ++ "'")
  let text := label ++ ": " ++ listed
  match comment with
  | none => text
  | some comment => if comment.isEmpty then text else comment ++ " - " ++ text

/-- Constant name and value for the values of a column without an enum type. -/
def valueConstants (values : ValueList) : List (String × String) :=
  let batch := values.values.map fun v => (v, enumCase (values.column ++ "_" ++ v))
  let names := (Scope.assign {} batch).1
  values.values.eraseDups.map fun v => ((lookup? names v).getD "", v)

/-- Whether a value list belongs to a column of the table. -/
def isDeclaredColumn (table : Table) (values : ValueList) : Bool :=
  table.columns.any (·.name == values.column)

/-- The value lists of a table that give an enum type, by column: the column exists and
there are values. -/
def consideredLists (table : Table) : List ValueList :=
  (table.valueLists.filter fun v => isDeclaredColumn table v && !v.values.isEmpty).mergeSort
    (fun a b => decide (a.column ≤ b.column))

/-- What is logged about the value lists that give no enum type. -/
def ignoredListsLog (table : Table) : List Log.Entry :=
  table.valueLists.filterMap fun v =>
    if !isDeclaredColumn table v then
      some (Log.warning ("Ignoring enumerated declaration for unknown column " ++ table.name ++
        "." ++ v.column))
    else if v.values.isEmpty then
      some (Log.warning ("Enumerated column " ++ table.name ++ "." ++ v.column ++
        " declares no values"))
    else none

/-- Scope key and preferred type name of each enum type of a table. -/
def enumTypeCandidates (n : Normalizer) (table : Table) : List (String × String) :=
  (consideredLists table).map fun v =>
    (enumScopeKey table.name v.column, n.enumTypeName table.name v.column)

/-- The type name given to the enum of a column, else the preferred one. -/
def enumTypeNameFor (n : Normalizer) (typeNames : List (String × String)) (table column : String) :
    String :=
  match lookup? typeNames (enumScopeKey table column) with
  | some name => if name.isEmpty then n.enumTypeName table column else name
  | none => n.enumTypeName table column

/-- The enum type of one value list. -/
def enumTypeOf (n : Normalizer) (typeNames : List (String × String)) (table : Table)
    (values : ValueList) : Except EnumCollision EnumType := do
  let cases ← n.enumCases values.values (some table.name) (some values.column)
  return {
    typeName := enumTypeNameFor n typeNames table.name values.column
    cases := cases
    table := table.name
    column := values.column
    multiple := values.multiple }

/-- An enum type put into a list by column, in the place of an earlier one. -/
def putEnum (e : EnumType) : List EnumType → List EnumType
  | [] => [e]
  | d :: rest => if d.column == e.column then e :: rest else d :: putEnum e rest

/-- The enum types of a table, one for each column with a considered value list, by
column.  Two values of one column with the same case name refuse the whole table. -/
def enumTypes (n : Normalizer) (typeNames : List (String × String)) (table : Table) :
    Except EnumCollision (List EnumType) :=
  (consideredLists table).foldlM (fun built v => do
    let e ← enumTypeOf n typeNames table v
    return putEnum e built) []

end Model
end TableCast
