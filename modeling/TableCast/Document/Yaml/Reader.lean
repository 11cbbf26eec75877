import TableCast.Document.Yaml.Token

/-!
# Reading a YAML text

A place in a YAML text with what is open there: block collections by their columns, flow
collections by their nesting, and the places where keys may have started.

- `Reader`: the place.
- `Reader.step`, `Reader.lineEnd?`, `Reader.skipGap`: moving on.
- `Reader.savePlace`, `Reader.dropPlace`: the places of keys.
- `Reader.open?`, `Reader.unwind`: block collections.
-/

namespace TableCast
namespace Yaml

/-- A place where a key may have started. -/
structure KeyPlace where
  level : Nat
  /-- How many tokens stand in front of the key. -/
  tokenCount : Nat
  /-- Whether something else than a key cannot stand here. -/
  required : Bool
  offset : Nat
  line : Nat
  column : Nat
deriving Repr, Inhabited

/-- A place in the text and what is open there. -/
structure Reader where
  rest : List Char
  offset : Nat := 0
  line : Nat := 0
  column : Nat := 0
  tokens : Array Token := #[]
  level : Nat := 0
  /-- The column of the innermost block collection, -1 outside of all. -/
  indent : Int := -1
  /-- The columns of the outer block collections. -/
  indents : List Int := []
  allowKey : Bool := true
  /-- The places where keys may have started, at most one for each nesting. -/
  places : List KeyPlace := []
deriving Inhabited

/-- Whether a character ends a line. -/
def isLineEnd (c : Char) : Bool :=
  c == '\n' || c == '\r' || c == '\x85' || c == '\u2028' || c == '\u2029'

/-- Whether nothing, a blank or a line end comes next. -/
def isGap : Option Char → Bool
  | none => true
  | some c => c == ' ' || c == '\t' || isLineEnd c

namespace Reader

/-- The character at a distance. -/
def peek (r : Reader) (n : Nat := 0) : Option Char := r.rest[n]?

/-- The reader behind the next character. -/
def step (r : Reader) : Reader :=
  match r.rest with
  | [] => r
  | c :: cs =>
    if c == '\n' || c == '\x85' || c == '\u2028' || c == '\u2029' ||
        (c == '\r' && cs.head? != some '\n') then
      { r with rest := cs, offset := r.offset + 1, line := r.line + 1, column := 0 }
    else if c == '\ufeff' then { r with rest := cs, offset := r.offset + 1 }
    else { r with rest := cs, offset := r.offset + 1, column := r.column + 1 }

/-- The reader behind the next `n` characters. -/
def steps : Nat → Reader → Reader
  | 0, r => r
  | n + 1, r => steps n r.step

/-- The reader behind all next characters of a class. -/
def skipWhile (p : Char → Bool) (r : Reader) : Reader :=
  r.steps (r.rest.takeWhile p).length

/-- A line end, as it counts in a text, and the reader behind it. -/
def lineEnd? (r : Reader) : Option (Char × Reader) :=
  match r.rest with
  | '\r' :: '\n' :: _ => some ('\n', r.steps 2)
  | '\u2028' :: _ => some ('\u2028', r.step)
  | '\u2029' :: _ => some ('\u2029', r.step)
  | c :: _ => if isLineEnd c then some ('\n', r.step) else none
  | [] => none

/-- Whether a mark of three characters comes next, with a gap behind it. -/
def atMark (mark : String) (r : Reader) : Bool :=
  mark.toList.isPrefixOf r.rest && isGap (r.peek 3)

/-- Whether the start or the end of a document comes next. -/
def atDocumentMark (r : Reader) : Bool :=
  r.atMark "---" || r.atMark "..."

/-- The reader with one more token. -/
def push (t : Token) (r : Reader) : Reader := { r with tokens := r.tokens.push t }

/-- The place where a key of the current nesting may have started. -/
def place? (r : Reader) : Option KeyPlace := r.places.find? (·.level == r.level)

/-- The reader without the place for a key of the current nesting; a required key must
have been found. -/
def dropPlace (r : Reader) : Except Fault Reader :=
  match r.place? with
  | some place =>
    if place.required then .error .missingColon
    else .ok { r with places := r.places.filter (·.level != r.level) }
  | none => .ok r

/-- The reader that remembers that a key may start here. -/
def savePlace (r : Reader) : Except Fault Reader :=
  if r.allowKey then do
    let required := r.level == 0 && r.indent == r.column
    let r ← r.dropPlace
    return { r with places := {
      level := r.level, tokenCount := r.tokens.size, required := required
      offset := r.offset, line := r.line, column := r.column } :: r.places }
  else .ok r

/-- The reader without the places that can be no keys any more: a key stands on one line
and is short. -/
def dropStale (r : Reader) : Except Fault Reader :=
  let stale (p : KeyPlace) : Bool := p.line != r.line || r.offset - p.offset > 1024
  if r.places.any fun p => stale p && p.required then .error .missingColon
  else .ok { r with places := r.places.filter (!stale ·) }

/-- Closes the block collections to the right of a column. -/
def unwindFrom (column : Int) : List Int → Reader → Reader
  | [], r => r
  | outer :: indents, r =>
    if r.indent > column then
      unwindFrom column indents { r.push .blockEnd with indent := outer, indents := indents }
    else r

/-- Closes the block collections to the right of a column. -/
def unwind (column : Int) (r : Reader) : Reader :=
  if r.level != 0 then r else unwindFrom column r.indents r

/-- Opens a block collection at a column, unless it is open already. -/
def open? (column : Nat) (r : Reader) : Option Reader :=
  if r.indent < column then
    some { r with indents := r.indent :: r.indents, indent := column }
  else none

/-- The reader behind blanks, comments and line ends. -/
def skipGap : Nat → Reader → Reader
  | 0, r => r
  | fuel + 1, r =>
    let r := r.skipWhile (· == ' ')
    let r := if r.peek == some '#' then r.skipWhile (!isLineEnd ·) else r
    match r.lineEnd? with
    | some (_, r) => skipGap fuel (if r.level == 0 then { r with allowKey := true } else r)
    | none => r

end Reader

end Yaml
end TableCast
