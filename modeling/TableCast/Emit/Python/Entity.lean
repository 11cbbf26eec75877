import TableCast.Emit.Artifact
import TableCast.Emit.Linked
import TableCast.Emit.Python.Value
import TableCast.Name.Words

/-!
# Python entities

The module of an entity: a data class with a field for every column and for every
association.

- `Import`: the import of a generated type.
- `enumImports`, `entityImports`: the generated types that an entity refers to.
- `entityText`: the text of the module.
-/

namespace TableCast
namespace Emit
namespace Python

open Model Text

/-- The import of a generated type from its module. -/
structure Import where
  moduleName : String
  typeName : String
deriving Repr, DecidableEq, Inhabited

/-- The import of a type from the module of its own in a package. -/
def Import.ofType (package typeName : String) : Import :=
  { moduleName := package ++ "." ++ Name.snake typeName, typeName := typeName }

/-- An import as a statement. -/
def Import.statement (i : Import) : String :=
  "from " ++ i.moduleName ++ " import " ++ i.typeName

/-- The first line of every generated module. -/
def banner (source : String) : String :=
  "# Generated by schema-codegen from " ++ source ++ ". Do not edit by hand."

/-- Expressions in parentheses, a comma behind each. -/
def commaTuple (items : List String) : String :=
  "(" ++ String.join (items.map (· ++ ", ")) ++ ")"

/-- A truth value as an expression. -/
def boolText (b : Bool) : String := if b then "True" else "False"

/-- The enums that an entity imports. -/
def enumImports (context : RenderContext) (e : Entity) : List Import :=
  if context.emitEnums then e.enums.map fun t => Import.ofType (context.moduleOf .enum) t.typeName
  else []

/-- The entities that an entity imports for its annotations. -/
def entityImports (context : RenderContext) (e : Entity) : List Import :=
  (referencedTypes e).map (Import.ofType (context.moduleOf .entity))

/-- The types of the date and time module that annotations use. -/
def temporalTypes (e : Entity) : List String :=
  ["date", "datetime", "time"].filter (e.columns.map typeOf).contains

/-- The typing names that an entity imports. -/
def typingNames (e : Entity) : List String :=
  let any := (e.columns.map typeOf).contains "Any" || e.associations.any (·.unresolved)
  let sets := e.columns.any fun c => (c.enum.map (·.multiple)).getD false
  (if (referencedTypes e).isEmpty then [] else ["TYPE_CHECKING"]) ++
    (if any then ["Any"] else []) ++ ["ClassVar", "Dict"] ++
    (if sets then ["FrozenSet"] else []) ++ ["Optional", "Tuple"]

/-- The lines in front of the class. -/
def entityHead (context : RenderContext) (e : Entity) : List String :=
  let temporal := temporalTypes e
  let enums := enumImports context e
  let linked := entityImports context e
  [banner ("table " ++ Quoted.text e.name),
    "\"\"\"Entity for table ``" ++ e.name ++ "``.\"\"\"",
    "from __future__ import annotations",
    "",
    "from dataclasses import dataclass, field"] ++
  (if temporal.isEmpty then [] else ["from datetime import " ++ joinWith ", " temporal]) ++
  ["from typing import " ++ joinWith ", " (typingNames e)] ++
  (if enums.isEmpty then [] else "" :: enums.map Import.statement) ++
  (if linked.isEmpty then []
    else "" :: "if TYPE_CHECKING:" :: linked.map fun i => "    " ++ i.statement) ++
  ["", ""]

/-- One index in the map of indexes. -/
def indexLine (i : Model.Index) : String :=
  "        " ++ Quoted.text i.name ++ ": (" ++ commaTuple (i.columns.map Quoted.text) ++ ", " ++
    boolText i.unique ++ "),"

/-- The lines about the table as a whole. -/
def tableLines (e : Entity) : List String :=
  ["@dataclass(kw_only=True)",
    "class " ++ e.typeName ++ ":",
    "    \"\"\"Maps table ``" ++ e.name ++ "``.\"\"\"",
    "",
    "    __table_name__: ClassVar[str] = " ++ Quoted.text e.name,
    "    __primary_key__: ClassVar[Tuple[str, ...]] = " ++
      commaTuple (e.primaryKey.map Quoted.text),
    "    __indexes__: ClassVar[Dict[str, Tuple[Tuple[str, ...], bool]]] = \x7b"] ++
  e.indexes.map indexLine ++ ["    \x7d"]

/-- The lines of the value constants of a column. -/
def constantLines (c : Column) : List String :=
  if c.valueConstants.isEmpty then []
  else "" :: c.valueConstants.map fun (constant, value) =>
    "    " ++ constant ++ ": ClassVar[str] = " ++ Quoted.text value

/-- Whether the value of a column may be missing. -/
def isOptional (c : Column) : Bool := c.nullable || c.autoIncrement

/-- The comment line of a column. -/
def commentLine (comment : String) : String :=
  "    # " ++ replaced comment "\n" " "

/-- The line with the default of a field, when it has one. -/
def defaultLines (c : Column) : List String :=
  match default? c with
  | some value =>
    if (c.enum.map (·.multiple)).getD false then
      ["        default_factory=lambda: " ++ value ++ ","]
    else ["        default=" ++ value ++ ","]
  | none => if isOptional c then ["        default=None,"] else []

/-- The lines with the declaration of a column in the database. -/
def metadataLines (c : Column) : List String :=
  ["            \"column\": " ++ Quoted.text c.name ++ ",",
    "            \"native_type\": " ++ Quoted.text c.nativeType ++ ","] ++
  (if c.isPrimary then ["            \"primary_key\": True,"] else []) ++
  (if c.autoIncrement then ["            \"auto_increment\": True,"] else []) ++
  (match c.length with
    | some length => ["            \"length\": " ++ toString length ++ ","]
    | none => []) ++
  (match c.precision with
    | some precision => [
        "            \"precision\": " ++ toString precision ++ ",",
        "            \"scale\": " ++ toString (c.scale.getD 0) ++ ","]
    | none => [])

/-- The comment lines of a column. -/
def commentLines (c : Column) : List String :=
  match c.comment with
  | some comment => if comment.isEmpty then [] else [commentLine comment]
  | none => []

/-- The lines of the field of a column. -/
def columnLines (c : Column) : List String :=
  let annotation := if isOptional c then "Optional[" ++ typeOf c ++ "]" else typeOf c
  [""] ++ commentLines c ++ ["    " ++ c.fieldName ++ ": " ++ annotation ++ " = field("] ++
    defaultLines c ++ ["        metadata=\x7b"] ++ metadataLines c ++
    ["        \x7d,", "    )"]

/-- A pair of linked columns as an expression. -/
def pairText (pair : String × Option String) : String :=
  "(" ++ Quoted.text pair.1 ++ ", " ++ (pair.2.map Quoted.text).getD "None" ++ ")"

/-- The lines of the field of an association. -/
def associationLines (a : Association) : List String :=
  let head := match a.targetType with
    | none => [
        "    # References table " ++ Quoted.text a.targetTable ++ ", which was not generated",
        "    " ++ a.name ++ ": Any = field("]
    | some target => ["    " ++ a.name ++ ": Optional[" ++ target ++ "] = field("]
  [""] ++ head ++
  ["        default=None,",
    "        repr=False,",
    "        compare=False,",
    "        metadata=\x7b",
    "            \"target_table\": " ++ Quoted.text a.targetTable ++ ",",
    "            \"columns\": " ++ commaTuple (a.columnPairs.map pairText) ++ ",",
    "            \"nullable\": " ++ boolText a.nullable ++ ",",
    "            \"on_delete\": " ++ Quoted.text a.onDelete ++ ",",
    "            \"on_update\": " ++ Quoted.text a.onUpdate ++ ",",
    "        \x7d,",
    "    )"]

/-- The lines of the module of an entity. -/
def entityLines (context : RenderContext) (e : Entity) : List String :=
  entityHead context e ++ tableLines e ++ e.columns.flatMap constantLines ++
    e.columns.flatMap columnLines ++ e.associations.flatMap associationLines

/-- The text of the module of an entity. -/
def entityText (context : RenderContext) (e : Entity) : String :=
  unlines (entityLines context e)

end Python
end Emit
end TableCast
