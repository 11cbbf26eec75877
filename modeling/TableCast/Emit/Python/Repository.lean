import TableCast.Emit.Python.Entity
import TableCast.Name.Plural

/-!
# Python repositories

The module of a repository: a class with the queries for one entity.
-/

namespace TableCast
namespace Emit
namespace Python

open Model Text

/-- The entity that a repository imports. -/
def repositoryImport (context : RenderContext) (e : Entity) : Import :=
  Import.ofType (context.moduleOf .entity) e.typeName

/-- The parameter for one column of the primary key. -/
def keyParameter (c : Column) : String :=
  c.fieldName ++ ": " ++ typeOf c ++ ", "

/-- The lines of the query by primary key, when there is one. -/
def findLines (e : Entity) : List String :=
  if e.primaryKeyColumns.isEmpty then []
  else [
    "    def find(self, " ++ String.join (e.primaryKeyColumns.map keyParameter) ++
      ") -> Optional[" ++ e.typeName ++ "]:",
    "        \"\"\"Fetch one " ++ e.typeName ++ " by primary key.\"\"\"",
    "        raise NotImplementedError",
    ""]

/-- The lines of the module of a repository, given the plural of the type name. -/
def repositoryLines (context : RenderContext) (e : Entity) (name plural : String) : List String :=
  [banner ("table " ++ Quoted.text e.name),
    "\"\"\"Data access stub for ``" ++ e.typeName ++ "``.\"\"\"",
    "from __future__ import annotations",
    "",
    "from typing import Any, Dict, List, Optional, Sequence",
    "",
    (repositoryImport context e).statement,
    "",
    "",
    "class " ++ name ++ ":",
    "    \"\"\"",
    "    Query surface for ``" ++ e.name ++ "`` rows.",
    "",
    "    The methods only describe the shape of the API; wire them to the",
    "    persistence layer of your application.",
    "    \"\"\"",
    "",
    "    entity = " ++ e.typeName,
    "",
    "    def __init__(self, session: Any):",
    "        self.session = session",
    ""] ++
  findLines e ++
  ["    def find_all(self) -> List[" ++ e.typeName ++ "]:",
    "        \"\"\"Fetch every " ++ e.typeName ++ ".\"\"\"",
    "        raise NotImplementedError",
    "",
    "    def find_by(",
    "        self,",
    "        criteria: Dict[str, Any],",
    "        order_by: Optional[Sequence[str]] = None,",
    "        limit: Optional[int] = None,",
    "        offset: Optional[int] = None,",
    "    ) -> List[" ++ e.typeName ++ "]:",
    "        \"\"\"Fetch the " ++ plural ++ " matching ``criteria``.\"\"\"",
    "        raise NotImplementedError",
    "",
    "    def find_one_by(self, criteria: Dict[str, Any]) -> Optional[" ++ e.typeName ++ "]:",
    "        \"\"\"Fetch the first " ++ e.typeName ++ " matching ``criteria``.\"\"\"",
    "        raise NotImplementedError"]

/-- The text of the module of a repository. -/
def repositoryText (context : RenderContext) (e : Entity) (name : String) :
    Except Name.Plural.NumberError String := do
  let plural ← Name.Plural.pluralOrEmpty e.typeName context.inflector
  return unlines (repositoryLines context e name plural)

end Python
end Emit
end TableCast
