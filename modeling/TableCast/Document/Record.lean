import TableCast.Document.Value

/-!
# Records

A record is a mapping whose keys are names.  Records are made field by field, and a field is
read by name with a value for the case that it is missing.

- `Document.record`, `Document.texts`, `Document.optional`: documents from their parts.
- `Document.textAt`, `Document.truthAt`, `Document.integerAt?`, `Document.textsAt`: the fields
  of a record.
-/

namespace TableCast
namespace Document

/-- The record with the given fields. -/
def record (fields : List (String × Document)) : Document :=
  .map (fields.map fun (name, value) => (.str name, value))

/-- The sequence of texts. -/
def texts (items : List String) : Document := .list (items.map .str)

/-- A value that may be missing. -/
def optional {α : Type} (write : α → Document) : Option α → Document
  | some value => write value
  | none => .null

/-- A text that may be missing. -/
def optionalText : Option String → Document := optional .str

/-- An integer that may be missing. -/
def optionalInteger : Option Int → Document := optional .int

/-- The sequence of pairs of texts. -/
def textPairs (pairs : List (String × String)) : Document :=
  .list (pairs.map fun (a, b) => .list [.str a, .str b])

/-- The texts of a sequence. -/
def itemTexts (d : Document) : List String := d.items.filterMap text?

/-- The pairs of texts of a sequence. -/
def itemPairs (d : Document) : List (String × String) :=
  d.items.filterMap fun item => match item.items with
    | [.str a, .str b] => some (a, b)
    | _ => none

/-- The text of a field. -/
def textAt? (d : Document) (name : String) : Option String := (d.get? name).bind text?

/-- The text of a field, or another one. -/
def textAt (d : Document) (name : String) (other : String := "") : String :=
  (d.textAt? name).getD other

/-- The truth value of a field, or another one. -/
def truthAt (d : Document) (name : String) (other : Bool := false) : Bool :=
  ((d.get? name).bind bool?).getD other

/-- The integer of a field. -/
def integerAt? (d : Document) (name : String) : Option Int := (d.get? name).bind int?

/-- The texts of a field. -/
def textsAt (d : Document) (name : String) : List String := (d.get name).itemTexts

/-- The entries of a mapping with another value under a name. -/
def putEntry (name : String) (value : Document) :
    List (Document × Document) → List (Document × Document)
  | [] => [(.str name, value)]
  | (key, old) :: rest =>
    if key.isText name then (key, value) :: rest else (key, old) :: putEntry name value rest

mutual

/-- The document with another text in the place of each text that is no key. -/
def mapTexts (f : String → String) : Document → Document
  | .str s => .str (f s)
  | .list items => .list (mapItemTexts f items)
  | .map entries => .map (mapEntryTexts f entries)
  | other => other

/-- The items with another text in the place of each text. -/
def mapItemTexts (f : String → String) : List Document → List Document
  | [] => []
  | item :: items => mapTexts f item :: mapItemTexts f items

/-- The entries with another text in the place of each text that is no key. -/
def mapEntryTexts (f : String → String) :
    List (Document × Document) → List (Document × Document)
  | [] => []
  | (key, value) :: entries => (key, mapTexts f value) :: mapEntryTexts f entries

end

end Document
end TableCast
