import TableCast.Model.Entity
import TableCast.Model.Diagnostic

/-!
# Associations from foreign keys

Each foreign key gives one many-to-one association on the table that owns it.  The
referenced columns are checked against the keys of the target; the names of associations
share a scope with the fields of the table.

- `targetColumns`: the referenced columns of a foreign key, or why it is refused.
- `candidateNames`: the names that an association may take.
- `link`: the associations of a table, with a warning for each unresolved one.
-/

namespace TableCast
namespace Model

open Text Name Schema

/-- Why a foreign key is refused. -/
inductive KeyError where
  /-- There are fewer source columns than columns in the key of the target. -/
  | fewerColumns (key : ForeignKey) (source target : String) (targetKey : List String)
  | countMismatch (key : ForeignKey) (source : String) (targets : Nat)
  /-- Only a part of the key of the target is referenced, and it is not unique. -/
  | partOfKey (key : ForeignKey) (source target : String) (targetKey : List String)
deriving Repr, DecidableEq, Inhabited

/-- How a message names a foreign key: by its name, else by the given text. -/
def keyLabel (key : ForeignKey) (otherwise : String) : String :=
  if key.name.isEmpty then otherwise else key.name

/-- The fault about a reference to a part of a key. -/
def partialKeyFault (key : ForeignKey) (source target : String) (targetKey : List String)
    (message : String) : Fault :=
  let base : Fault := { kind := .partialKey, message := message }
  (((base.note "source_table" source).note "target_table" target).note
    "source_columns" (joinWith ", " key.sourceColumns)).note
    "target_key" (joinWith ", " targetKey)

/-- The report of a refused foreign key. -/
def KeyError.fault : KeyError → Fault
  | .fewerColumns key source target targetKey =>
    partialKeyFault key source target targetKey
      ("Foreign key " ++ keyLabel key (Quoted.tuple key.sourceColumns) ++ " on '" ++ source ++
        "' references " ++ toString key.sourceColumns.length ++ " of the " ++
        toString targetKey.length ++ " key columns of '" ++ target ++ "'")
  | .countMismatch key source targets =>
    let base : Fault := {
      kind := .schemaRead
      message := "Foreign key " ++ keyLabel key (Quoted.tuple key.sourceColumns) ++ " on '" ++
        source ++ "' has " ++ toString key.sourceColumns.length ++ " source columns but " ++
        toString targets ++ " target columns" }
    base.note "table" source
  | .partOfKey key source target targetKey =>
    partialKeyFault key source target targetKey
      ("Foreign key " ++ keyLabel key (Quoted.list key.sourceColumns) ++ " on '" ++ source ++
        "' references only part of the primary key of '" ++ target ++ "'")

/-- Whether every member of the first list is in the second. -/
def isSubset (xs ys : List String) : Bool :=
  xs.all ys.contains

/-- Whether two lists have the same members. -/
def sameMembers (xs ys : List String) : Bool :=
  isSubset xs ys && isSubset ys xs

/-- The referenced columns of a foreign key, checked against the keys of the target when
it was read.  Without declared target columns the primary key is meant. -/
def targetColumns (key : ForeignKey) (source : String) (target : Option Table) :
    Except KeyError (List String) :=
  match target with
  | none => .ok key.targetColumns
  | some target =>
    let primary := target.primaryKey
    let columns := if key.targetColumns.isEmpty then primary else key.targetColumns
    if columns.length != key.sourceColumns.length then
      if key.sourceColumns.length < primary.length then
        .error (.fewerColumns key source target.name primary)
      else .error (.countMismatch key source columns.length)
    else if !primary.isEmpty && isSubset columns primary && !isSubset primary columns &&
        !target.indexes.any (fun index => index.unique && sameMembers index.columns columns) then
      .error (.partOfKey key source target.name primary)
    else .ok columns

/-- The table with the given name. -/
def tableNamed? (tables : List Table) (name : String) : Option Table :=
  tables.find? (·.name == name)

/-- Checks every foreign key of a table against the tables that were read. -/
def validateKeys (table : Table) (tables : List Table) : Except KeyError Unit :=
  table.foreignKeys.forM fun key => do
    let _ ← targetColumns key table.name (tableNamed? tables key.targetTable)
    return ()

/-- Why the associations of a table cannot be named. -/
inductive LinkError where
  | key (e : KeyError)
  | number (e : Plural.NumberError)
  | noSourceColumn
deriving Repr, DecidableEq, Inhabited

/-- Lexicographic order of lists of names. -/
def namesLe : List String → List String → Bool
  | [], _ => true
  | _ :: _, [] => false
  | x :: xs, y :: ys => x < y || (x == y && namesLe xs ys)

/-- The order of foreign keys: by source columns, then by name. -/
def keyLe (a b : ForeignKey) : Bool :=
  if a.sourceColumns == b.sourceColumns then decide (a.name ≤ b.name)
  else namesLe a.sourceColumns b.sourceColumns

/-- The names that a reference of a table to itself must not take. -/
def forbiddenSelfNames (n : Normalizer) (ownerType : String) : List String :=
  [n.instanceName ownerType, "self", "this"]

/-- The names that an association may take, best first: the key column without its ending,
the instance name of the target, the key column with the target behind it. -/
def candidateNames (n : Normalizer) (key : ForeignKey) (ownerType targetType : String)
    (isSelf : Bool) : Except LinkError (List String) :=
  match key.sourceColumns with
  | [] => .error .noSourceColumn
  | first :: rest =>
    let stem := if rest.isEmpty then stem? first else none
    let instanceOf := n.instanceName targetType
    let field := String.ofList (trimRightBy (· == '_') (n.fieldName first).toList)
    let names := (stem.map n.fieldName).toList ++ [instanceOf, field ++ upperCamel targetType]
    let names := if isSelf then names.map fun name =>
        if (forbiddenSelfNames n ownerType).contains name then "parent" ++ upperCamel name else name
      else names
    .ok names.eraseDups

/-- Source and target columns side by side. -/
def pairColumns (sources targets : List String) : List (String × Option String) :=
  if targets.isEmpty then sources.map (·, none) else sources.zip (targets.map some)

/-- The code of the warning about an unresolved association. -/
def unresolvedCode : String := "unresolved_association"

/-- What the warning about an unresolved association says. -/
def unresolvedMessage (owner name : String) (key : ForeignKey) (wasRead implicit : Bool) : String :=
  "Association '" ++ name ++ "' on '" ++ owner ++ "' references table '" ++ key.targetTable ++
    "', which " ++ (if wasRead then "failed assembly" else "is not part of this run") ++
    (if implicit then
      "; the referenced columns are implicit (its primary key) and stay unknown" else "")

/-- The entity that a foreign key references: the owner itself, else the entity of the
referenced table if it is part of the run. -/
def keyTarget (owner : Entity) (entities : List Entity) (key : ForeignKey) : Option EntityRef :=
  if key.targetTable == owner.name then some owner.ref
  else (entities.find? (·.name == key.targetTable)).map (·.ref)

/-- The type name that an association is named after: that of its target, else the one that
the referenced table would get. -/
def assumedTypeName (n : Normalizer) (key : ForeignKey) : Option EntityRef → Except LinkError String
  | some target => .ok target.typeName
  | none => (n.typeName key.targetTable).mapError .number

/-- The association that a foreign key gives its owner under a name. -/
def associationOf (owner : Entity) (key : ForeignKey) (target : Option EntityRef)
    (columns : List String) (name : String) : Association :=
  { name := name
    columnPairs := pairColumns key.sourceColumns columns
    targetTable := key.targetTable
    target := target
    onDelete := key.onDelete
    onUpdate := key.onUpdate
    nullable := key.sourceColumns.any fun c =>
      owner.columns.any fun column => column.name == c && column.nullable
    isSelf := key.targetTable == owner.name
    unresolved := target.isNone
    constraint := if key.name.isEmpty then none else some key.name }

/-- The warning about an association, if it is unresolved. -/
def unresolvedWarnings (owner : String) (key : ForeignKey) (wasRead implicit : Bool)
    (association : Association) : List Diagnostic :=
  if association.unresolved then [{
    table := some owner
    severity := .warning
    code := unresolvedCode
    message := unresolvedMessage owner association.name key wasRead implicit
    artifact := some association.name }]
  else []

/-- The state of linking one table: the scope of its members, the associations so far and
the warnings. -/
structure Linking where
  scope : Scope
  associations : List Association := []
  diagnostics : List Diagnostic := []

/-- One foreign key turned into an association of its owner. -/
def linkKey (n : Normalizer) (owner : Entity) (entities : List Entity) (tables : List Table)
    (state : Linking) (key : ForeignKey) : Except LinkError Linking := do
  let read := tableNamed? tables key.targetTable
  let columns ← (targetColumns key owner.name read).mapError .key
  let target := keyTarget owner entities key
  let assumedType ← assumedTypeName n key target
  let candidates ← candidateNames n key owner.typeName assumedType (key.targetTable == owner.name)
  let (name, scope) := (state.scope.claim? candidates).getD ("", state.scope)
  let association := associationOf owner key target columns name
  let warnings := unresolvedWarnings owner.name key read.isSome columns.isEmpty association
  return {
    scope := scope
    associations := state.associations ++ [association]
    diagnostics := state.diagnostics ++ warnings }

/-- Why the linking of a table stopped, with the warnings up to then. -/
structure LinkStop where
  error : LinkError
  diagnostics : List Diagnostic := []
deriving Repr, DecidableEq, Inhabited

/-- The associations of a table and the warnings about unresolved ones.  Foreign keys are
taken in a fixed order, so names do not depend on the order of the catalog. -/
def link (n : Normalizer) (owner : Entity) (table : Table) (entities : List Entity)
    (tables : List Table) : Except LinkStop (List Association × List Diagnostic) := do
  let start : Linking := { scope := { taken := owner.fieldNames.eraseDups } }
  let done ← (table.foreignKeys.mergeSort keyLe).foldlM (fun state key =>
    (linkKey n owner entities tables state key).mapError
      fun e => { error := e, diagnostics := state.diagnostics }) start
  return (done.associations, done.diagnostics)

end Model
end TableCast
