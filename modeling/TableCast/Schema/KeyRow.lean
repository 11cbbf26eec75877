import TableCast.Schema.Action
import TableCast.Schema.Facts

/-!
# Rows of foreign keys

A catalog lists a foreign key as one row for each pair of columns.  The rows of one
constraint make one foreign key.

- `KeyRow`: one row.
- `groupKeys`: the foreign keys of the rows, in the order of their first rows.
-/

namespace TableCast
namespace Schema

/-- One pair of columns of a foreign key. -/
structure KeyRow where
  name : Option String
  source : String
  targetTable : String
  target : Option String
  /-- The action on deletion, as the catalog spells it. -/
  onDelete : Option String
  /-- The action on update, as the catalog spells it. -/
  onUpdate : Option String
deriving Repr, DecidableEq, Inhabited

/-- The foreign key that a row starts. -/
def KeyRow.firstKey (row : KeyRow) : ForeignKey :=
  { name := row.name.getD ""
    sourceColumns := [row.source]
    targetTable := row.targetTable
    targetColumns := row.target.toList
    onDelete := canonicalAction row.onDelete
    onUpdate := canonicalAction row.onUpdate }

/-- A foreign key with the columns of one more row. -/
def ForeignKey.addRow (key : ForeignKey) (row : KeyRow) : ForeignKey :=
  { key with
    sourceColumns := key.sourceColumns ++ [row.source]
    targetColumns := key.targetColumns ++ row.target.toList }

/-- The foreign keys by constraint, with one more row. -/
def insertRow (row : KeyRow) :
    List (Option String × ForeignKey) → List (Option String × ForeignKey)
  | [] => [(row.name, row.firstKey)]
  | (name, key) :: rest =>
    if name == row.name then (name, key.addRow row) :: rest
    else (name, key) :: insertRow row rest

/-- The foreign keys of rows by constraint, in the order of their first rows. -/
def keysByName (rows : List KeyRow) : List (Option String × ForeignKey) :=
  rows.foldl (fun keys row => insertRow row keys) []

/-- The foreign keys of rows, in the order of their first rows. -/
def groupKeys (rows : List KeyRow) : List ForeignKey :=
  (keysByName rows).map (·.2)

end Schema
end TableCast
