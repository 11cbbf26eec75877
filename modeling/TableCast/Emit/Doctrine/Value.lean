import TableCast.Model.Entity
import TableCast.Text.LetterCase
import TableCast.Text.Pieces

/-!
# PHP types and values

How the type and the static default of a column are written in PHP, and which type
Doctrine stores it as.

- `singleQuoted`: a string literal.
- `storedType`: the Doctrine type of a column.
- `propertyType`: the PHP type of a property.
- `default?`: the static default of a property.
-/

namespace TableCast
namespace Emit
namespace Doctrine

open Model Text
open Schema (SemanticType Value)

/-- How a character is written inside single quotes. -/
def escapeQuoted (c : Char) : List Char :=
  if c == '\\' || c == '\'' then ['\\', c] else [c]

/-- A text as a string literal in single quotes. -/
def singleQuotedChars (cs : List Char) : List Char :=
  '\'' :: cs.flatMap escapeQuoted ++ ['\'']

/-- A text as a string literal in single quotes. -/
def singleQuoted (s : String) : String :=
  String.ofList (singleQuotedChars s.toList)

/-- The Doctrine type of a semantic type and its PHP type. -/
def plainTypes : SemanticType → String × String
  | .integer => ("INTEGER", "int")
  | .float => ("FLOAT", "float")
  | .decimalText => ("DECIMAL", "string")
  | .boolean => ("BOOLEAN", "bool")
  | .date => ("DATE_MUTABLE", "\\DateTimeInterface")
  | .datetime => ("DATETIME_MUTABLE", "\\DateTimeInterface")
  | .time => ("TIME_MUTABLE", "\\DateTimeInterface")
  | .text => ("STRING", "string")
  | .uuid => ("GUID", "string")
  | .binary => ("BLOB", "mixed")
  | .structured => ("JSON", "array")
  | .enumerated => ("STRING", "string")
  | .opaqueText => ("STRING", "string")

/-- The Doctrine type of a column. -/
def storedType (c : Column) : String :=
  match c.enum with
  | some e => if e.multiple then "SIMPLE_ARRAY" else "STRING"
  | none =>
    let native := lower c.nativeType
    if c.semantic == .integer && Text.contains native "bigint" then "BIGINT"
    else if c.semantic == .integer && Text.contains native "smallint" then "SMALLINT"
    else if c.semantic == .text && c.length.isNone then "TEXT"
    else (plainTypes c.semantic).1

/-- Whether a property may hold no value. -/
def isOptional (c : Column) : Bool := c.nullable || c.autoIncrement

/-- The PHP type of the property of a column. -/
def propertyType (c : Column) : String :=
  let type := match c.enum with
    | some e => if e.multiple then "array" else e.typeName
    | none => (plainTypes c.semantic).2
  if type == "mixed" then type else if isOptional c then "?" ++ type else type

/-- A case of an enum as an expression. -/
def enumCase (e : EnumType) (caseName : String) : String :=
  e.typeName ++ "::" ++ caseName

/-- The static default for a value, when it is a usable one. -/
def valueDefault? (c : Column) (value : Value) : Option String :=
  match c.enum with
  | some e =>
    if e.multiple then
      let members := (splitOn value.plain ',').filter e.rawValues.contains
      some ("[" ++ joinWith ", " (members.map singleQuoted) ++ "]")
    else match value with
      | .text s => (e.caseNameFor? s).map (enumCase e)
      | _ => none
  | none => some (match value with
    | .bool b => if b then "true" else "false"
    | .text s => singleQuoted s
    | number => number.plain)

/-- The static default of a property as an expression, when it has one. -/
def default? (c : Column) : Option String :=
  match c.default with
  | none => if isOptional c then some "null" else none
  | some value =>
    if c.semantic.isTemporal then if isOptional c then some "null" else none
    else if c.semantic == .structured then none
    else valueDefault? c value

end Doctrine
end Emit
end TableCast
