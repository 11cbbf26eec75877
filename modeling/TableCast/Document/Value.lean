import TableCast.Document.Calendar
import TableCast.Number.Floating
import TableCast.Text.Pieces
import TableCast.Text.Quoted

/-!
# Documents

The values that a configuration document holds: scalars, sequences and mappings that keep
the order of their entries.

- `Document`: the values.
- `Document.typeName`: the name of the type of a value in messages.
- `Document.get?`: the entry of a mapping under a text.
- `Document.isTrue`: whether a value counts as true.
-/

namespace TableCast

open Text

/-- A value of a document. -/
inductive Document where
  | null
  | bool (b : Bool)
  | int (n : Int)
  | float (x : Float)
  | str (s : String)
  | date (d : Day)
  | timestamp (m : Moment)
  /-- Bytes, written as text. -/
  | bytes (text : String)
  | list (items : List Document)
  | set (items : List Document)
  /-- A mapping, in the order of its entries. -/
  | map (entries : List (Document × Document))
deriving Repr, Inhabited

namespace Document

/-- The name of the type of a value in messages. -/
def typeName : Document → String
  | .null => "NoneType"
  | .bool _ => "bool"
  | .int _ => "int"
  | .float _ => "float"
  | .str _ => "str"
  | .date _ => "date"
  | .timestamp _ => "datetime"
  | .bytes _ => "bytes"
  | .list _ => "list"
  | .set _ => "set"
  | .map _ => "dict"

/-- The text of a scalar that is a text. -/
def text? : Document → Option String
  | .str s => some s
  | _ => none

/-- The integer of a scalar that is one. -/
def int? : Document → Option Int
  | .int n => some n
  | _ => none

/-- The truth value of a scalar that is one. -/
def bool? : Document → Option Bool
  | .bool b => some b
  | _ => none

/-- The items of a sequence. -/
def items : Document → List Document
  | .list items => items
  | _ => []

/-- The entries of a mapping. -/
def entries : Document → List (Document × Document)
  | .map entries => entries
  | _ => []

/-- Whether the value is the given text. -/
def isText (key : String) : Document → Bool
  | .str s => s == key
  | _ => false

/-- The entry of a mapping under a text; of two the later one counts. -/
def get? (d : Document) (key : String) : Option Document :=
  (d.entries.reverse.find? (fun entry => entry.1.isText key)).map (·.2)

/-- The entry of a mapping under a text, nothing when there is none. -/
def get (d : Document) (key : String) : Document :=
  (d.get? key).getD .null

/-- The entries of a mapping whose keys are texts. -/
def textEntries (d : Document) : List (String × Document) :=
  d.entries.filterMap fun (key, value) => key.text?.map (·, value)

/-- Whether a value counts as true. -/
def isTrue : Document → Bool
  | .null => false
  | .bool b => b
  | .int n => n != 0
  | .float x => x != 0
  | .str s => !s.isEmpty
  | .date _ | .timestamp _ => true
  | .bytes s => !s.isEmpty
  | .list items => !items.isEmpty
  | .set items => !items.isEmpty
  | .map entries => !entries.isEmpty

mutual

/-- The text of a value as it is written inside a sequence. -/
def shown : Document → String
  | .null => "None"
  | .bool true => "True"
  | .bool false => "False"
  | .int n => toString n
  | .float x => Number.text x
  | .str s => Quoted.text s
  | .date d => d.shown
  | .timestamp m => m.shown
  | .bytes s => "b" ++ Quoted.text s
  | .list items => "[" ++ joinWith ", " (shownAll items) ++ "]"
  | .set items => "\x7b" ++ joinWith ", " (shownAll items) ++ "\x7d"
  | .map entries => "\x7b" ++ joinWith ", " (shownEntries entries) ++ "\x7d"

/-- The texts of several values. -/
def shownAll : List Document → List String
  | [] => []
  | d :: ds => shown d :: shownAll ds

/-- The texts of the entries of a mapping. -/
def shownEntries : List (Document × Document) → List String
  | [] => []
  | (k, v) :: rest => (shown k ++ ": " ++ shown v) :: shownEntries rest

end

/-- The text of a value on its own. -/
def plain : Document → String
  | .str s => s
  | .date d => d.text
  | .timestamp m => m.text
  | d => shown d

end Document
end TableCast
