import TableCast.Emit.Doctrine.Entity

/-!
# Doctrine enums

The enum with a case for every declared value of a column.
-/

namespace TableCast
namespace Emit
namespace Doctrine

open Model Text

/-- The lines of the file of an enum. -/
def enumLines (context : RenderContext) (e : EnumType) : List String :=
  fileHead (context.moduleOf .enum) ++
  ["/**", " * Values allowed in " ++ e.table ++ "." ++ e.column ++ "."] ++
  (if e.multiple then
    [" *", " * The column is a SET: it stores any combination of these cases."] else []) ++
  [" *",
    " * Generated by schema-codegen. Do not edit by hand.",
    " */",
    "enum " ++ e.typeName ++ ": string",
    "\x7b"] ++
  (e.cases.map fun (value, caseName) =>
    "    case " ++ caseName ++ " = " ++ singleQuoted value ++ ";") ++
  ["",
    "    /**",
    "     * @return string[]",
    "     */",
    "    public static function values(): array",
    "    \x7b",
    "        return array_column(self::cases(), 'value');",
    "    \x7d",
    "\x7d"]

/-- The text of the file of an enum. -/
def enumText (context : RenderContext) (e : EnumType) : String :=
  unlines (enumLines context e)

end Doctrine
end Emit
end TableCast
