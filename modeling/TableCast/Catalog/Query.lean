import TableCast.Schema.Facts
import TableCast.Text.Pieces

/-!
# Catalog queries

The queries that ask the catalog of an engine about a table.  They only read.

- `Query`: a statement and its parameters.
- `Queries`: the queries that a kind of catalog has.
- `Queries.ofDialect`: the queries of each engine.
-/

namespace TableCast
namespace Catalog

open Schema Text

/-- A statement and its parameters. -/
structure Query where
  statement : String
  /-- The values of its placeholders, if it has any. -/
  parameters : Option (List String) := none
deriving Repr, DecidableEq, Inhabited

/-- The queries of a kind of catalog, each by the name of a table.  A catalog that has no
query of a kind cannot tell those facts. -/
structure Queries where
  columns : Option (String → Query) := none
  foreignKeys : Option (String → Query) := none
  valueLists : Option (String → Query) := none
  /-- About the primary key, where the general introspection does not tell it. -/
  primaryKey : Option (String → Query) := none

/-- A query with the name of a table as its only parameter. -/
def aboutTable (lines : List String) (table : String) : Query :=
  { statement := joinWith " " lines, parameters := some [table] }

/-- An identifier between quotes. -/
def quotedIdentifier (name : String) : String := "\"" ++ name ++ "\""

/-- A pragma of SQLite about a table. -/
def pragma (name table : String) : Query :=
  { statement := "PRAGMA " ++ name ++ "(" ++ quotedIdentifier table ++ ")" }

namespace Queries

/-- A catalog that has no queries. -/
def empty : Queries := {}

/-- The queries of SQLite. -/
def sqlite : Queries :=
  { columns := some (pragma "table_info")
    foreignKeys := some (pragma "foreign_key_list")
    valueLists := some (aboutTable
      ["SELECT sql FROM sqlite_master WHERE type = 'table' AND name = %s"])
    primaryKey := some (pragma "table_info") }

/-- The queries of PostgreSQL. -/
def postgresql : Queries :=
  { columns := some (aboutTable [
      "SELECT c.column_name, c.data_type, c.udt_name, c.is_nullable, c.column_default,",
      "c.character_maximum_length, c.numeric_precision, c.numeric_scale,",
      "c.is_identity, c.ordinal_position, pg_catalog.col_description(a.attrelid, a.attnum)",
      "FROM information_schema.columns c",
      "JOIN pg_catalog.pg_namespace ns ON ns.nspname = c.table_schema",
      "JOIN pg_catalog.pg_class cls ON cls.relname = c.table_name AND cls.relnamespace = ns.oid",
      "JOIN pg_catalog.pg_attribute a ON a.attrelid = cls.oid AND a.attname = c.column_name",
      "WHERE c.table_schema = current_schema() AND c.table_name = %s",
      "ORDER BY c.ordinal_position"])
    foreignKeys := some (aboutTable [
      "SELECT con.conname, src.attname, ref.relname, tgt.attname, con.confdeltype, con.confupdtype",
      "FROM pg_catalog.pg_constraint con",
      "JOIN pg_catalog.pg_class cls ON cls.oid = con.conrelid",
      "JOIN pg_catalog.pg_namespace ns ON ns.oid = cls.relnamespace",
      "JOIN pg_catalog.pg_class ref ON ref.oid = con.confrelid",
      "CROSS JOIN LATERAL unnest(con.conkey, con.confkey) WITH ORDINALITY",
      "AS k(src_num, tgt_num, position)",
      "JOIN pg_catalog.pg_attribute src ON src.attrelid = con.conrelid AND src.attnum = k.src_num",
      "JOIN pg_catalog.pg_attribute tgt ON tgt.attrelid = con.confrelid AND tgt.attnum = k.tgt_num",
      "WHERE con.contype = 'f' AND cls.relname = %s AND ns.nspname = current_schema()",
      "ORDER BY con.conname, k.position"])
    valueLists := some (aboutTable [
      "SELECT c.column_name, e.enumlabel",
      "FROM information_schema.columns c",
      "JOIN pg_catalog.pg_namespace tn ON tn.nspname = c.udt_schema",
      "JOIN pg_catalog.pg_type t ON t.typname = c.udt_name AND t.typnamespace = tn.oid",
      "JOIN pg_catalog.pg_enum e ON e.enumtypid = t.oid",
      "WHERE c.table_schema = current_schema() AND c.table_name = %s",
      "ORDER BY c.column_name, e.enumsortorder"]) }

/-- The queries of MySQL. -/
def mysql : Queries :=
  { columns := some (aboutTable [
      "SELECT COLUMN_NAME, COLUMN_TYPE, DATA_TYPE, IS_NULLABLE, COLUMN_DEFAULT,",
      "CHARACTER_MAXIMUM_LENGTH, NUMERIC_PRECISION, NUMERIC_SCALE,",
      "EXTRA, COLUMN_COMMENT, ORDINAL_POSITION",
      "FROM information_schema.COLUMNS",
      "WHERE TABLE_SCHEMA = DATABASE() AND TABLE_NAME = %s",
      "ORDER BY ORDINAL_POSITION"])
    foreignKeys := some (aboutTable [
      "SELECT k.CONSTRAINT_NAME, k.COLUMN_NAME, k.REFERENCED_TABLE_NAME, k.REFERENCED_COLUMN_NAME,",
      "r.DELETE_RULE, r.UPDATE_RULE",
      "FROM information_schema.KEY_COLUMN_USAGE k",
      "JOIN information_schema.REFERENTIAL_CONSTRAINTS r",
      "ON r.CONSTRAINT_SCHEMA = k.CONSTRAINT_SCHEMA",
      "AND r.CONSTRAINT_NAME = k.CONSTRAINT_NAME",
      "AND r.TABLE_NAME = k.TABLE_NAME",
      "WHERE k.TABLE_SCHEMA = DATABASE() AND k.TABLE_NAME = %s",
      "AND k.REFERENCED_TABLE_NAME IS NOT NULL",
      "ORDER BY k.CONSTRAINT_NAME, k.ORDINAL_POSITION"])
    valueLists := some (aboutTable [
      "SELECT COLUMN_NAME, COLUMN_TYPE, DATA_TYPE",
      "FROM information_schema.COLUMNS",
      "WHERE TABLE_SCHEMA = DATABASE() AND TABLE_NAME = %s AND DATA_TYPE IN ('enum', 'set')",
      "ORDER BY ORDINAL_POSITION"]) }

/-- The queries of an engine. -/
def ofDialect : Dialect → Queries
  | .mysql => mysql
  | .postgresql => postgresql
  | .sqlite => sqlite

end Queries
end Catalog
end TableCast
