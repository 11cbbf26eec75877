import TableCast.Emit.Python.Entity

/-!
# Python enums

The module of an enum: a class with a member for every declared value.
-/

namespace TableCast
namespace Emit
namespace Python

open Model Text

/-- The lines of the module of an enum. -/
def enumLines (e : EnumType) : List String :=
  [banner (Quoted.text (e.table ++ "." ++ e.column)),
    "\"\"\"Values allowed in ``" ++ e.table ++ "." ++ e.column ++ "``.\"\"\"",
    "import enum",
    "",
    "",
    "class " ++ e.typeName ++ "(str, enum.Enum):"] ++
  (if e.multiple then
    ["    \"\"\"Members of a SET column; a field holds any combination of them.\"\"\"", ""]
    else []) ++
  e.cases.map fun (value, caseName) => "    " ++ caseName ++ " = " ++ Quoted.text value

/-- The text of the module of an enum. -/
def enumText (e : EnumType) : String := unlines (enumLines e)

end Python
end Emit
end TableCast
