import TableCast.Emit.Artifact
import TableCast.Emit.Linked
import TableCast.Emit.Doctrine.Value

/-!
# Doctrine entities

The class of an entity: a property with accessors for every column that no association
owns and for every association whose target is part of the run.

- `declaredColumns`: the columns that get a property.
- `accessorName`: the name of an accessor without its verb.
- `entityText`: the text of the file.
-/

namespace TableCast
namespace Emit
namespace Doctrine

open Model Text

/-- A dotted module as a namespace. -/
def namespaceOf (moduleName : String) : String :=
  replaced moduleName "." "\\"

/-- The lines in front of the declarations of a file. -/
def fileHead (moduleName : String) : List String :=
  ["<?php", "", "declare(strict_types=1);", "", "namespace " ++ namespaceOf moduleName ++ ";", ""]

/-- The name of an accessor behind its verb: the member with its first letter in upper
case. -/
def accessorName (member : String) : String :=
  match member.toList with
  | [] => ""
  | c :: cs => String.ofList (upperChars [c] ++ cs)

/-- The columns that get a property of their own. -/
def declaredColumns (e : Entity) : List Column :=
  e.columns.filter fun c => !isMappedByAssociation e c

/-- The lines that import enums and the repository. -/
def useLines (context : RenderContext) (e : Entity) : List String :=
  (if context.emitEnums then e.enums.map fun t =>
      "use " ++ namespaceOf (context.moduleOf .enum) ++ "\\" ++ t.typeName ++ ";"
    else []) ++
  (if context.generateRepository then
    ["use " ++ namespaceOf (context.moduleOf .repository) ++ "\\" ++ e.companion.getD "" ++ ";"]
    else []) ++
  ["use Doctrine\\DBAL\\Types\\Types;", "use Doctrine\\ORM\\Mapping as ORM;", ""]

/-- The line of an index. -/
def indexLine (i : Model.Index) : String :=
  "#[ORM\\" ++ (if i.unique then "UniqueConstraint" else "Index") ++ "(name: " ++
    singleQuoted i.name ++ ", columns: [" ++ joinWith ", " (i.columns.map singleQuoted) ++ "])]"

/-- The lines of the class up to its opening brace. -/
def classHead (context : RenderContext) (e : Entity) : List String :=
  ["/**",
    " * Entity for table " ++ e.name ++ ".",
    " *",
    " * Generated by schema-codegen. Do not edit by hand.",
    " */",
    if context.generateRepository then
      "#[ORM\\Entity(repositoryClass: " ++ e.companion.getD "" ++ "::class)]"
    else "#[ORM\\Entity]",
    "#[ORM\\Table(name: " ++ singleQuoted e.name ++ ")]"] ++
  e.indexes.map indexLine ++ ["class " ++ e.typeName, "\x7b"]

/-- The lines of the value constants of a column. -/
def constantLines (c : Column) : List String :=
  if c.valueConstants.isEmpty then []
  else (c.valueConstants.map fun (constant, value) =>
    "    public const " ++ constant ++ " = " ++ singleQuoted value ++ ";") ++ [""]

/-- The options of the column mapping, in order. -/
def mappingOptions (c : Column) : List String :=
  ["name: " ++ singleQuoted c.name, "type: Types::" ++ storedType c] ++
  (match c.enum with
    | some e => if e.multiple then [] else ["enumType: " ++ e.typeName ++ "::class"]
    | none => []) ++
  (match c.length with
    | some length => if storedType c == "STRING" then ["length: " ++ toString length] else []
    | none => []) ++
  (match c.precision with
    | some precision =>
      ["precision: " ++ toString precision, "scale: " ++ toString (c.scale.getD 0)]
    | none => []) ++
  (if c.nullable then ["nullable: true"] else []) ++
  (match c.comment with
    | some comment => if comment.isEmpty then []
      else ["options: ['comment' => " ++ singleQuoted comment ++ "]"]
    | none => [])

/-- The lines of the property of a column. -/
def propertyLines (c : Column) : List String :=
  (if c.isPrimary then
    "    #[ORM\\Id]" :: (if c.autoIncrement then ["    #[ORM\\GeneratedValue]"] else [])
    else []) ++
  ["    #[ORM\\Column(" ++ joinWith ", " (mappingOptions c) ++ ")]",
    "    private " ++ propertyType c ++ " $" ++ c.fieldName ++
      (match default? c with
        | some value => " = " ++ value
        | none => "") ++ ";",
    ""]

/-- The line of one pair of linked columns. -/
def joinLine (a : Association) (pair : String × Option String) : String :=
  "    #[ORM\\JoinColumn(name: " ++ singleQuoted pair.1 ++ ", referencedColumnName: " ++
    singleQuoted (pair.2.getD "None") ++ ", nullable: " ++
    (if a.nullable then "true" else "false") ++
    (if a.onDelete == "CASCADE" || a.onDelete == "SET NULL" then
      ", onDelete: " ++ singleQuoted a.onDelete else "") ++ ")]"

/-- The lines of the property of an association. -/
def associationLines (a : Association) : List String :=
  let target := a.targetType.getD "None"
  ["    #[ORM\\ManyToOne(targetEntity: " ++ target ++ "::class)]"] ++
  a.columnPairs.map (joinLine a) ++
  ["    private ?" ++ target ++ " $" ++ a.name ++ " = null;", ""]

/-- The lines of the reading accessor of a member. -/
def getterLines (member type : String) : List String :=
  ["    public function get" ++ accessorName member ++ "(): " ++ type,
    "    \x7b",
    "        return $this->" ++ member ++ ";",
    "    \x7d",
    ""]

/-- The lines of the writing accessor of a member. -/
def setterLines (member type : String) : List String :=
  ["    public function set" ++ accessorName member ++ "(" ++ type ++ " $" ++ member ++ "): static",
    "    \x7b",
    "        $this->" ++ member ++ " = $" ++ member ++ ";",
    "",
    "        return $this;",
    "    \x7d",
    ""]

/-- Whether a column can be set: the database numbers a generated key by itself. -/
def isSettable (c : Column) : Bool := !(c.isPrimary && c.autoIncrement)

/-- The lines of the accessors of a column. -/
def columnAccessors (c : Column) : List String :=
  getterLines c.fieldName (propertyType c) ++
    if isSettable c then setterLines c.fieldName (propertyType c) else []

/-- The lines of the accessors of an association. -/
def associationAccessors (a : Association) : List String :=
  let type := "?" ++ a.targetType.getD "None"
  getterLines a.name type ++ setterLines a.name type

/-- The lines of the file of an entity. -/
def entityLines (context : RenderContext) (e : Entity) : List String :=
  fileHead (context.moduleOf .entity) ++ useLines context e ++ classHead context e ++
    e.columns.flatMap constantLines ++ (declaredColumns e).flatMap propertyLines ++
    (linkedAssociations e).flatMap associationLines ++
    (declaredColumns e).flatMap columnAccessors ++
    (linkedAssociations e).flatMap associationAccessors ++ ["\x7d"]

/-- The text of the file of an entity. -/
def entityText (context : RenderContext) (e : Entity) : String :=
  unlines (entityLines context e)

end Doctrine
end Emit
end TableCast
