import TableCast.Schema.Facts
import TableCast.Text.LetterCase
import TableCast.Text.Pieces

/-!
# Native and semantic types

The native type of a column is reduced to a base name, which a table keyed by dialect
and base name maps to a semantic type.  A type that the table does not know is opaque.

- `SemanticType`: the engine-agnostic value categories.
- `nativeBase`: the base name of a native type.
- `TypeTable`, `builtinTypes`: the table.
- `TypeTable.map`: the mapping of a native type.
-/

namespace TableCast
namespace Schema

open Text

/-- The engine-agnostic value categories that native types map to. -/
inductive SemanticType where
  | integer
  | float
  | decimalText
  | boolean
  | date
  | datetime
  | time
  | text
  | uuid
  | binary
  | structured
  | enumerated
  | opaqueText
deriving Repr, DecidableEq, Inhabited

namespace SemanticType

/-- All categories. -/
def all : List SemanticType :=
  [.integer, .float, .decimalText, .boolean, .date, .datetime, .time, .text, .uuid, .binary,
    .structured, .enumerated, .opaqueText]

/-- The name of a category. -/
def name : SemanticType → String
  | .integer => "integer"
  | .float => "float"
  | .decimalText => "decimal_string"
  | .boolean => "boolean"
  | .date => "date"
  | .datetime => "datetime"
  | .time => "time"
  | .text => "text"
  | .uuid => "uuid"
  | .binary => "binary"
  | .structured => "structured"
  | .enumerated => "enumerated"
  | .opaqueText => "opaque"

/-- The category with the given name. -/
def ofName? (s : String) : Option SemanticType :=
  all.find? (·.name == s)

/-- Whether the values are points in time. -/
def isTemporal : SemanticType → Bool
  | .date | .datetime | .time => true
  | _ => false

/-- Whether the values are held as text. -/
def isTextual : SemanticType → Bool
  | .text | .uuid | .opaqueText | .decimalText => true
  | _ => false

end SemanticType

/-- The native types of MySQL. -/
def mysqlTypes : List (String × SemanticType) :=
  [("tinyint", .integer), ("smallint", .integer), ("mediumint", .integer), ("int", .integer),
    ("integer", .integer), ("bigint", .integer), ("year", .integer), ("float", .float),
    ("double", .float), ("double precision", .float), ("real", .float),
    ("decimal", .decimalText), ("numeric", .decimalText), ("dec", .decimalText),
    ("fixed", .decimalText), ("bool", .boolean), ("boolean", .boolean), ("bit", .boolean),
    ("date", .date), ("datetime", .datetime), ("timestamp", .datetime), ("time", .time),
    ("char", .text), ("varchar", .text), ("tinytext", .text), ("text", .text),
    ("mediumtext", .text), ("longtext", .text), ("binary", .binary), ("varbinary", .binary),
    ("tinyblob", .binary), ("blob", .binary), ("mediumblob", .binary), ("longblob", .binary),
    ("json", .structured), ("enum", .enumerated), ("set", .enumerated)]

/-- The native types of PostgreSQL. -/
def postgresqlTypes : List (String × SemanticType) :=
  [("smallint", .integer), ("integer", .integer), ("bigint", .integer), ("int2", .integer),
    ("int4", .integer), ("int8", .integer), ("smallserial", .integer), ("serial", .integer),
    ("bigserial", .integer), ("real", .float), ("double precision", .float), ("float4", .float),
    ("float8", .float), ("numeric", .decimalText), ("decimal", .decimalText),
    ("money", .decimalText), ("boolean", .boolean), ("bool", .boolean), ("date", .date),
    ("timestamp", .datetime), ("timestamp without time zone", .datetime),
    ("timestamp with time zone", .datetime), ("timestamptz", .datetime), ("time", .time),
    ("time without time zone", .time), ("time with time zone", .time), ("timetz", .time),
    ("character varying", .text), ("varchar", .text), ("character", .text), ("char", .text),
    ("bpchar", .text), ("text", .text), ("citext", .text), ("name", .text), ("uuid", .uuid),
    ("bytea", .binary), ("json", .structured), ("jsonb", .structured), ("array", .structured)]

/-- The native types of SQLite. -/
def sqliteTypes : List (String × SemanticType) :=
  [("integer", .integer), ("int", .integer), ("tinyint", .integer), ("smallint", .integer),
    ("mediumint", .integer), ("bigint", .integer), ("unsigned big int", .integer),
    ("int2", .integer), ("int8", .integer), ("real", .float), ("double", .float),
    ("double precision", .float), ("float", .float), ("numeric", .decimalText),
    ("decimal", .decimalText), ("boolean", .boolean), ("bool", .boolean), ("date", .date),
    ("datetime", .datetime), ("timestamp", .datetime), ("time", .time), ("text", .text),
    ("varchar", .text), ("varying character", .text), ("nvarchar", .text), ("char", .text),
    ("character", .text), ("nchar", .text), ("native character", .text), ("clob", .text),
    ("uuid", .uuid), ("blob", .binary), ("json", .structured)]


/-- A table of semantic types, keyed by dialect and base name; a later entry replaces an
earlier one. -/
abbrev TypeTable := List ((Dialect × String) × SemanticType)

/-- The built-in table. -/
def builtinTypes : TypeTable :=
  (mysqlTypes.map fun (native, semantic) => ((Dialect.mysql, native), semantic)) ++
    (postgresqlTypes.map fun (native, semantic) => ((Dialect.postgresql, native), semantic)) ++
    (sqliteTypes.map fun (native, semantic) => ((Dialect.sqlite, native), semantic))

/-- The words that modify a native type. -/
def typeModifiers : List (List Char) :=
  ["unsigned".toList, "signed".toList, "zerofill".toList]

/-- Whether a word is the given lower case word, whatever its letter case. -/
def isWordIgnoringCase : List Char → List Char → Bool
  | [], [] => true
  | w :: ws, c :: cs => equalIgnoringCase w c && isWordIgnoringCase ws cs
  | _, _ => false

/-- The text with every modifier that stands as a word of its own replaced by a blank.
The first argument is the word being read, last character first. -/
def dropModifiers (word : List Char) : List Char → List Char
  | [] => closeWord word
  | c :: cs =>
    if isWordChar c then dropModifiers (c :: word) cs
    else closeWord word ++ c :: dropModifiers [] cs
where
  /-- The word that has been read, or a blank for a modifier. -/
  closeWord (word : List Char) : List Char :=
    let w := word.reverse
    if typeModifiers.any (isWordIgnoringCase · w) then [' '] else w

/-- The text with everything from the first opening to the last closing parenthesis
replaced by a blank. -/
def dropArguments (cs : List Char) : List Char :=
  let before := cs.takeWhile (· != '(')
  let rest := cs.dropWhile (· != '(')
  let after := (rest.reverse.takeWhile (· != ')')).reverse
  if rest.contains ')' then before ++ ' ' :: after else cs

/-- Words joined by single blanks. -/
def joinBlank : List (List Char) → List Char
  | [] => []
  | [w] => w
  | w :: v :: ws => w ++ ' ' :: joinBlank (v :: ws)

/-- The base name of a native type: in lower case, without modifiers and arguments.  All
array types have one base name. -/
def nativeBaseChars (native : List Char) : List Char :=
  let text := lowerChars (trimBlanks native)
  if "[]".toList.isSuffixOf text || text == "array".toList then "array".toList
  else joinBlank (blankWords (dropArguments (dropModifiers [] text)))

/-- The base name of a native type. -/
def nativeBase (native : String) : String :=
  String.ofList (nativeBaseChars native.toList)

/-- Whether a native type spells a boolean as a number of one bit or digit. -/
def isOneDigit (native : List Char) : Bool :=
  let text := lowerChars (trimBlanks native)
  ["tinyint".toList, "bit".toList].any fun word =>
    word.isPrefixOf text &&
      match trimLeftBy isBlank (text.drop word.length) with
      | '(' :: rest => match trimLeftBy isBlank rest with
        | '1' :: rest => match trimLeftBy isBlank rest with
          | [')'] => true
          | _ => false
        | _ => false
      | _ => false

/-- What a native type maps to. -/
structure TypeMapping where
  semantic : SemanticType
  /-- The base name that was looked up. -/
  base : String
  /-- Whether the table does not know the type. -/
  fallback : Bool := false
deriving Repr, DecidableEq, Inhabited

/-- The entry for a dialect and a base name. -/
def TypeTable.find? (table : TypeTable) (dialect : Dialect) (base : String) :
    Option SemanticType :=
  (table.reverse.find? (·.1 == (dialect, base))).map (·.2)

/-- The mapping of a native type. -/
def TypeTable.map (table : TypeTable) (dialect : Dialect) (native : String) : TypeMapping :=
  let base := nativeBase native
  if dialect == .mysql && isOneDigit native.toList then { semantic := .boolean, base := base }
  else match table.find? dialect base with
    | some semantic => { semantic := semantic, base := base }
    | none => { semantic := .opaqueText, base := base, fallback := true }

end Schema
end TableCast
