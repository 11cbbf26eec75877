import TableCast.Document.Yaml.Scalar
import TableCast.Text.Quoted

/-!
# Writing YAML

A document as YAML lines: one line for each scalar, sequences and mappings indented below the
key that they belong to.  A text is written plain where that is read back as the same text, and
between double quotes elsewhere.

- `Yaml.scalarText`: a scalar.
- `Yaml.lines`: the lines of a document.
- `Yaml.write`: the text of a document.
-/

namespace TableCast
namespace Yaml

open Text

/-- The characters that a plain text may hold besides letters and digits. -/
def quietMarks : List Char := ['_', '.', '/', '-', '(', ')', ';', ' ', '\'']

/-- Whether a text can be written plain. -/
def isQuiet (text : String) : Bool :=
  let cs := text.toList
  let inner := cs.all fun c => isAsciiLetter c || isAsciiDigit c || quietMarks.contains c
  let start := (cs.head?.map fun c => isAsciiLetter c || c == '_').getD false
  inner && start && cs.getLast? != some ' ' && kindOfPlain? text == some .str

/-- A text as a scalar. -/
def textScalar (text : String) : String :=
  if isQuiet text then text
  else "\"" ++ String.ofList (text.toList.flatMap (Quoted.escape '"')) ++ "\""

/-- A number as a scalar: infinities and no number start with a point, and a coefficient always
has one. -/
def realScalar (x : Float) : String :=
  let text := Number.text x
  if x.isNaN then ".nan"
  else if x.isInf then (if x < 0 then "-.inf" else ".inf")
  else match text.splitOn "e" with
    | [coefficient, exponent] =>
      if coefficient.contains '.' then text else coefficient ++ ".0e" ++ exponent
    | _ => text

/-- A scalar, or an empty collection. -/
def scalarText : Document → String
  | .null => "null"
  | .bool true => "true"
  | .bool false => "false"
  | .int n => toString n
  | .float x => realScalar x
  | .str s => textScalar s
  | .date d => d.text
  | .timestamp m => m.text
  | .bytes s => textScalar s
  | .list _ => "[]"
  | .set _ => "[]"
  | .map _ => "\x7b\x7d"

/-- Lines one step further in. -/
def indented (lines : List String) : List String := lines.map ("  " ++ ·)

/-- The lines of an item of a sequence. -/
def itemLines : List String → List String
  | [] => []
  | first :: rest => ("- " ++ first) :: indented rest

mutual

/-- The lines of a document. -/
def lines : Document → List String
  | .list (item :: items) => itemLines (lines item) ++ listLines items
  | .map ((key, value) :: entries) => entryLines key value ++ mapLines entries
  | scalar => [scalarText scalar]

/-- The lines of the items of a sequence. -/
def listLines : List Document → List String
  | [] => []
  | item :: items => itemLines (lines item) ++ listLines items

/-- The lines of the entries of a mapping. -/
def mapLines : List (Document × Document) → List String
  | [] => []
  | (key, value) :: entries => entryLines key value ++ mapLines entries

/-- The lines of an entry of a mapping. -/
def entryLines (key : Document) : Document → List String
  | .list (item :: items) => (scalarText key ++ ":") :: (itemLines (lines item) ++ listLines items)
  | .map ((k, v) :: entries) =>
    (scalarText key ++ ":") :: indented (entryLines k v ++ mapLines entries)
  | scalar => [scalarText key ++ ": " ++ scalarText scalar]

end

/-- The text of a document. -/
def write (d : Document) : String := String.join ((lines d).map (· ++ "\n"))

end Yaml
end TableCast
