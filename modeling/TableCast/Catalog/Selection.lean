import TableCast.Log.Entry
import TableCast.Text.Glob
import TableCast.Text.LetterCase

/-!
# Selecting tables

Which of the tables of a database are generated.  Tables of the engine itself never are;
lists of names and patterns include and exclude others.

- `Selection`: the names and patterns.
- `Selection.admits`: whether a table is selected.
- `Selection.select`: the selected names, sorted.
-/

namespace TableCast
namespace Catalog

open Text

/-- How the names of tables that belong to an engine start. -/
def systemStarts : List String :=
  ["sqlite_", "pg_", "information_schema", "performance_schema"]

/-- Whether a table belongs to the engine rather than to an application. -/
def isSystemTable (name : String) : Bool :=
  systemStarts.any (startsWith (lower name))

/-- Names and patterns that select tables. -/
structure Selection where
  /-- What is included; nothing stands for everything. -/
  included : List String := []
  excluded : List String := []
deriving Repr, DecidableEq, Inhabited

namespace Selection

/-- Whether a table is excluded by name. -/
def isExcluded (s : Selection) (name : String) : Bool :=
  !isSystemTable name && matchesAny name s.excluded

/-- Whether a table is selected. -/
def admits (s : Selection) (name : String) : Bool :=
  !isSystemTable name && !matchesAny name s.excluded &&
    (s.included.isEmpty || matchesAny name s.included)

/-- The names of the selected tables, sorted. -/
def select (s : Selection) (names : List String) : List String :=
  (names.filter s.admits).mergeSort fun a b => decide (a ≤ b)

/-- What is said about the selection: each table that is excluded by name. -/
def log (s : Selection) (names : List String) : List Log.Entry :=
  (names.filter s.isExcluded).map fun name => Log.info ("Excluding table: " ++ name)

end Selection
end Catalog
end TableCast
