import TableCast.Name.Words
import TableCast.Name.Plural
import TableCast.Text.Quoted
import TableCast.Fault

/-!
# From schema names to code names

A normalizer turns schema names into the identifiers of one template set: it knows
the reserved words of the target language and whether table names are made singular.

- `Normalizer.typeName`, `fieldName`, `instanceName`, `enumTypeName`, `repositoryName`.
- `Normalizer.enumCases`: the cases of an enum, or the collision of two values.
- `reservedWords?`: the built-in lists of reserved words.
-/

namespace TableCast
namespace Name

open Text

/-- The keywords of Python. -/
def pythonKeywords : List String :=
  ["False", "None", "True", "and", "as", "assert", "async", "await", "break", "class",
    "continue", "def", "del", "elif", "else", "except", "finally", "for", "from", "global", "if",
    "import", "in", "is", "lambda", "nonlocal", "not", "or", "pass", "raise", "return", "try",
    "while", "with", "yield"]

/-- The words that generated Python code cannot use as names. -/
def pythonReserved : List String :=
  pythonKeywords ++ ["self", "cls", "field", "dataclass"]

/-- The words that generated PHP code cannot use as names. -/
def phpReserved : List String :=
  ["abstract", "and", "array", "as", "break", "callable", "case", "catch", "class", "clone",
    "const", "continue", "declare", "default", "do", "echo", "else", "elseif", "empty",
    "enddeclare", "endfor", "endforeach", "endif", "endswitch", "endwhile", "enum", "eval",
    "exit", "extends", "final", "finally", "fn", "for", "foreach", "function", "global", "goto",
    "if", "implements", "include", "instanceof", "insteadof", "interface", "isset", "list",
    "match", "namespace", "new", "or", "print", "private", "protected", "public", "readonly",
    "require", "return", "static", "switch", "this", "throw", "trait", "try", "unset", "use",
    "var", "while", "xor", "yield", "int", "float", "bool", "string", "true", "false", "null",
    "void", "iterable", "object", "mixed", "never"]

/-- The built-in list of reserved words with the given name. -/
def reservedWords? : String → Option (List String)
  | "python" => some pythonReserved
  | "php" => some phpReserved
  | _ => none

/-- The names of the built-in lists of reserved words. -/
def reservedListNames : List String := ["php", "python"]

/-- How schema names become code names. -/
structure Normalizer where
  reserved : List String := []
  ignoreCase : Bool := false
  /-- Whether the last word of a table name is made singular. -/
  singularize : Bool := false
  inflector : Plural.Inflector := Plural.english
deriving Inhabited

/-- Two values of an enum with the same case name. -/
structure EnumCollision where
  caseName : String
  first : String
  second : String
  table : Option String
  column : Option String
deriving Repr, DecidableEq, Inhabited

/-- The report of a collision. -/
def EnumCollision.fault (e : EnumCollision) : Fault :=
  let message := "Enum values " ++ Quoted.text e.first ++ " and " ++ Quoted.text e.second ++
    " both normalize to case '" ++ e.caseName ++ "'"
  let base : Fault := { kind := .enumCollision, message := message }
  (((base.note? "table" e.table).note? "column" e.column).note "case_name" e.caseName).note
    "values" (Quoted.text e.first ++ ", " ++ Quoted.text e.second)

namespace Normalizer

/-- Whether a name is a reserved word. -/
def isReserved (n : Normalizer) (name : String) : Bool :=
  if n.ignoreCase then (n.reserved.map lower).contains (lower name)
  else n.reserved.contains name

/-- The name, with an underscore behind it when it is reserved. -/
def unreserve (n : Normalizer) (name : String) : String :=
  if n.isReserved name then name ++ "_" else name

/-- The type name of a table. -/
def typeName (n : Normalizer) (table : String) : Except Plural.NumberError String := do
  let source ← if n.singularize then Plural.singularizeLast table n.inflector else .ok table
  return n.unreserve (upperCamel source)

/-- The field name of a column. -/
def fieldName (n : Normalizer) (column : String) : String :=
  n.unreserve (lowerCamel column)

/-- The name of an instance of a type. -/
def instanceName (n : Normalizer) (typeName : String) : String :=
  n.unreserve (lowerCamel typeName)

/-- The type name of the enum of a column. -/
def enumTypeName (n : Normalizer) (table column : String) : String :=
  n.unreserve (upperCamel (table ++ "_" ++ column) ++ "Enum")

/-- The name of the repository of a type. -/
def repositoryName (typeName : String) : String :=
  typeName ++ "Repository"

/-- The case name of an enum value. -/
def caseName (n : Normalizer) (value : String) : String :=
  n.unreserve (enumCase value)

/-- The cases of an enum after those already built, value and case name in order of
declaration. -/
def casesAfter (n : Normalizer) (table column : Option String) (built : List (String × String)) :
    List String → Except EnumCollision (List (String × String))
  | [] => .ok built
  | value :: values =>
    let name := n.caseName value
    match built.find? (·.2 == name) with
    | some (first, _) => .error {
        caseName := name, first := first, second := value, table := table, column := column }
    | none => n.casesAfter table column (built ++ [(value, name)]) values

/-- The cases of an enum, value and case name in order of declaration.  Two values never
share a case. -/
def enumCases (n : Normalizer) (values : List String) (table column : Option String) :
    Except EnumCollision (List (String × String)) :=
  n.casesAfter table column [] values

end Normalizer
end Name
end TableCast
