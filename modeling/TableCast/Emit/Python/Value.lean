import TableCast.Model.Entity
import TableCast.Text.Quoted

/-!
# Python types and values

How the type and the static default of a column are written in Python.

- `typeOf`: the annotation of a column.
- `literal`: a static value.
- `default?`: the static default of a column.
-/

namespace TableCast
namespace Emit
namespace Python

open Model Text
open Schema (SemanticType Value)

/-- The annotation of a semantic type. -/
def plainType : SemanticType → String
  | .integer => "int"
  | .float => "float"
  | .decimalText => "str"
  | .boolean => "bool"
  | .date => "date"
  | .datetime => "datetime"
  | .time => "time"
  | .text => "str"
  | .uuid => "str"
  | .binary => "bytes"
  | .structured => "Any"
  | .enumerated => "str"
  | .opaqueText => "str"

/-- The annotation of a column, whether or not a value may be missing. -/
def typeOf (c : Column) : String :=
  match c.enum with
  | some e => if e.multiple then "FrozenSet[" ++ e.typeName ++ "]" else e.typeName
  | none => plainType c.semantic

/-- A static value as an expression. -/
def literal : Value → String
  | .text s => Quoted.text s
  | v => v.plain

/-- A member of an enum as an expression. -/
def member (e : EnumType) (caseName : String) : String :=
  e.typeName ++ "." ++ caseName

/-- The declared values in a comma-separated list. -/
def declaredMembers (e : EnumType) (listed : String) : List String :=
  (splitOn listed ',').filter e.rawValues.contains

/-- The static default of a column as an expression, when it has a usable one. -/
def default? (c : Column) : Option String :=
  match c.default with
  | none => none
  | some value =>
    if c.semantic.isTemporal || c.semantic == .structured then none
    else match c.enum with
      | none => some (literal value)
      | some e =>
        if e.multiple then
          let members := (declaredMembers e value.plain).filterMap e.caseNameFor?
          if members.isEmpty then none
          else some ("frozenset(\x7b" ++ joinWith ", " (members.map (member e)) ++ "\x7d)")
        else match value with
          | .text s => (e.caseNameFor? s).map (member e)
          | _ => none

end Python
end Emit
end TableCast
