import TableCast.Layout.Line
import TableCast.Layout.Token

/-!
# Writing leaves from tokens

The state in which tokens are read and leaves are written, and its basic steps.

- `Scribe`: the tokens that are left and the lines that are written.
- `Scribing`: a step, which fails where the text is not well formed.
- `leaf`, `mark`, `keyword`, `opening`, `closing`: one token written as a leaf.
- `Shape`, `settle`: what an expression is, and the brackets around it that are not
  needed.
- `asks`: which release of the language a text needs.
-/

namespace TableCast
namespace Layout

/-- The tokens that are left and the lines that are written. -/
structure Scribe where
  tokens : List Token := []
  /-- The leaves of the line that is being written. -/
  leaves : Array Leaf := #[]
  /-- The blank lines before the line that is being written. -/
  blanks : Nat := 0
  /-- Whether a page ends in them. -/
  newPage : Bool := false
  /-- The line of the text that the last token comes from. -/
  row : Nat := 0
  /-- Whether a blank comes before the next leaf. -/
  gap : Bool := false
  /-- How strongly the line holds together before the next leaf. -/
  break? : Option Nat := none
  /-- How many brackets are open. -/
  level : Nat := 0
  /-- How many pairs of brackets there are so far. -/
  pairs : Nat := 0
  /-- How many blocks are open. -/
  depth : Nat := 0
  /-- Whether the element of a subscript has an operation in it. -/
  busy : Bool := false
  /-- The least release of the language, after its third, that the text so far needs. -/
  release : Nat := 0
  /-- The release that the whole text is known to need. -/
  least : Nat := 0
  lines : List Line := []
deriving Inhabited

/-- A step that reads tokens and writes leaves, or fails. -/
abbrev Scribing := StateT Scribe Option

/-- What an expression is, where that decides over the brackets around it. -/
inductive Shape where
  /-- A word, a mark or a literal. -/
  | single
  /-- A number that has to be told from a point after it. -/
  | number
  /-- A literal of several lines. -/
  | longLiteral
  /-- A list, a set, a mapping, or several adjacent literals. -/
  | display
  /-- An operand with calls, subscripts or attributes. -/
  | primary
  /-- A power of an operand that has none of them. -/
  | power
  /-- Operands with the given operator between the outermost ones. -/
  | operation (sign : String)
  /-- A sequence without elements. -/
  | nothing
  /-- So many elements with commas, and whether one of them is spread out or given a
  name. -/
  | tuple (count : Nat) (spreads names : Bool)
  | brackets (inner : Shape)
  /-- What a function yields. -/
  | yielding
  /-- A value that is given a name. -/
  | binding
  /-- A sequence that is spread out. -/
  | spread
  /-- An element with the loops that it is taken from. -/
  | generator
  /-- A choice between two values. -/
  | choice
  | other
deriving Inhabited

/-- Whether an expression is what a function yields, in brackets or not. -/
def Shape.yields : Shape → Bool
  | .yielding => true
  | .brackets inner => inner.yields
  | _ => false

/-- Which expressions keep the brackets around them. -/
structure Keeping where
  /-- Whether sequences do. -/
  tuples : Bool := true
  /-- Whether sequences of one element do, when others do not. -/
  ones : Bool := true
  /-- Whether sequences with an element that is spread out do, when others do not. -/
  spreads : Bool := true
  /-- Whether values that are given a name do. -/
  bindings : Bool := true
  /-- Whether what a function yields does. -/
  yields : Bool := true
deriving Inhabited

/-- Whether the brackets around an expression say nothing. -/
def Keeping.drops (keeping : Keeping) : Shape → Bool
  | .tuple count spreads names =>
    !keeping.tuples && !names && !(keeping.ones && count == 1) && !(keeping.spreads && spreads)
  | .binding => !keeping.bindings
  | .yielding => !keeping.yields
  | .brackets inner => !(keeping.yields && inner.yields)
  | .nothing | .generator => false
  | _ => true

namespace Scribe

/-- The next token. -/
def peek : Scribing Token := do
  match (← get).tokens with
  | t :: _ => pure t
  | [] => failure

/-- Whether the next token is the given word or mark. -/
def next (text : String) : Scribing Bool := do
  let t ← peek
  return (t.kind == .name || t.kind == .mark) && t.text == text

/-- Whether the next token is one of the given words and marks. -/
def nextIn (texts : List String) : Scribing Bool := do
  let t ← peek
  return (t.kind == .name || t.kind == .mark) && texts.contains t.text

/-- Whether the token after the next one is one of the given words and marks. -/
def secondIn (texts : List String) : Scribing Bool := do
  match (← get).tokens with
  | _ :: t :: _ => return (t.kind == .name || t.kind == .mark) && texts.contains t.text
  | _ => return false

/-- Whether the next token is of the given kind. -/
def nextKind (kind : TokenKind) : Scribing Bool := do
  return (← peek).kind == kind

/-- Drops the next token. -/
def skip : Scribing Unit := do
  match (← get).tokens with
  | _ :: rest => modify fun s => { s with tokens := rest }
  | [] => failure

/-- Notes that the text needs the given release of the language. -/
def asks (release : Nat) : Scribing Unit :=
  modify fun s => { s with release := max s.release release }

/-- Asks for a blank before the next leaf. -/
def space : Scribing Unit :=
  modify fun s => { s with gap := true }

/-- Asks for no blank before the next leaf. -/
def tight : Scribing Unit :=
  modify fun s => { s with gap := false }

/-- Says how strongly the line holds together before the next leaf. -/
def hold (strength : Option Nat) : Scribing Unit :=
  modify fun s => { s with break? := strength }

/-- Notes that the element of a subscript has an operation in it. -/
def stir : Scribing Unit :=
  modify fun s => { s with busy := true }

/-- The comment attached to the last leaf; brackets that are not written and hold one
leaf leave it to that leaf, unless it gives a type. -/
def attach (leaves : Array Leaf) (remark : String) : Array Leaf :=
  let last := leaves.size - 1
  let target := match leaves[last]?, leaves[last - 2]? with
    | some closed, some opened =>
      if closed.isHidden && closed.kind == .closing && opened.kind == .opening &&
        opened.pair == closed.pair && !isTypeRemark remark then last - 1 else last
    | _, _ => last
  leaves.modify target fun l => { l with remarks := l.remarks ++ [remark] }

/-- The leaves with the comments before the next token. -/
def withRemarks (level : Nat) (leaves : Array Leaf) (remarks : List Remark) : Array Leaf :=
  remarks.foldl (fun leaves remark =>
    if remark.alone || leaves.isEmpty then
      leaves.push { kind := .remark, text := remark.text, level }
    else attach leaves remark.text) leaves

/-- Writes a leaf. -/
def write (l : Leaf) : Scribing Unit :=
  modify fun s => { s with
    leaves := s.leaves.push
      { l with spaced := s.gap, level := s.level, break? := s.break?, row := s.row }
    gap := false
    break? := none }

/-- Takes the next token, with the comments before it and the blank lines of the line
that it starts. -/
def take : Scribing Token := do
  let t ← peek
  skip
  modify fun s => { s with
    leaves := withRemarks s.level s.leaves t.remarks
    blanks := if s.leaves.isEmpty then t.blanks else s.blanks
    newPage := if s.leaves.isEmpty then t.newPage else s.newPage
    row := t.row }
  return t

/-- Writes the next token as a leaf of the given kind. -/
def leaf (kind : LeafKind) : Scribing Unit := do
  let t ← take
  write { kind, text := t.text }

/-- Writes the next token when it is the given mark, and fails otherwise. -/
def mark (text : String) : Scribing Unit := do
  if !(← next text) then failure
  leaf .mark

/-- Writes the next token when it is the given word, with blanks around it. -/
def keyword (text : String) : Scribing Unit := do
  if !(← next text) then failure
  leaf .word
  space

/-- Writes a mark or word between two operands. -/
def infixed (kind : LeafKind) (strength : Option Nat) : Scribing Unit := do
  space
  hold strength
  leaf kind
  space

/-- Writes a comma. -/
def comma : Scribing Unit := do
  tight
  mark ","
  space

/-- Writes an opening bracket, and gives the number of its pair. -/
def opening (text : String) (group : Group) : Scribing Nat := do
  if !(← next text) then failure
  let t ← take
  let pair := (← get).pairs + 1
  write { kind := .opening, text := t.text, pair, group }
  modify fun s => { s with level := s.level + 1, pairs := pair }
  return pair

/-- Writes the closing bracket of a pair. -/
def closing (text : String) (pair : Nat) (group : Group) : Scribing Unit := do
  if !(← next text) then failure
  tight
  hold none
  let t ← take
  modify fun s => { s with level := s.level - 1 }
  write { kind := .closing, text := t.text, pair, group }

/-- How many leaves the line has so far. -/
def here : Scribing Nat := do
  return (← get).leaves.size

/-- Raises the level of the leaves that follow. -/
def deeper : Scribing Unit :=
  modify fun s => { s with level := s.level + 1 }

/-- Lowers the level of the leaves that follow. -/
def shallower : Scribing Unit :=
  modify fun s => { s with level := s.level - 1 }

/-- Puts a pair of brackets around the leaves from the given place on. -/
def wrap (start : Nat) (written : Bool) (group : Group) : Scribing Unit := do
  let s ← get
  match s.leaves[start]? with
  | none => pure ()
  | some first =>
    let pair := s.pairs + 1
    let opened : Leaf := {
      kind := .opening, text := if written then "(" else "", spaced := first.spaced
      level := s.level, break? := first.break?, pair, group }
    let closed : Leaf := {
      kind := .closing, text := if written then ")" else "", level := s.level, pair, group }
    let inner := (s.leaves.extract start s.leaves.size).modify 0 fun l =>
      { l with spaced := false, break? := none }
    let inner := inner.map fun l => { l with level := l.level + 1 }
    set { s with
      leaves := (s.leaves.extract 0 start).push opened ++ inner.push closed
      pairs := pair }

/-- The leaves without a pair of brackets directly inside the pair between two places,
as often as there is one that says nothing. -/
def unnest (keeping : Keeping) : Shape → Nat → Nat → Array Leaf → Array Leaf
  | .brackets inner, first, last, leaves =>
    match leaves[first + 1]?, leaves[last - 1]? with
    | some opened, some closed =>
      if keeping.drops inner && opened.kind == .opening && closed.kind == .closing &&
          opened.pair == closed.pair then
        let leaves := attachAll closed.remarks (last - 2) leaves
        let leaves := attachAll opened.remarks first leaves
        let leaves := leaves.eraseIdxIfInBounds (last - 1)
        let leaves := leaves.eraseIdxIfInBounds (first + 1)
        unnest keeping inner first (last - 2) leaves
      else leaves
    | _, _ => leaves
  | _, _, _, leaves => leaves
where
  /-- The comments of a leaf that goes away, given to another. -/
  attachAll (remarks : List String) (target : Nat) (leaves : Array Leaf) : Array Leaf :=
    leaves.modify target fun l => { l with remarks := l.remarks ++ remarks }

/-- Without the brackets directly inside the ones around the leaves from the given place
on, where they say nothing. -/
def flatten (start : Nat) (keeping : Keeping) (inner : Shape) : Scribing Unit :=
  modify fun s => { s with leaves := unnest keeping inner start (s.leaves.size - 1) s.leaves }

/-- The brackets around the leaves from the given place on, not written any more. -/
def hide (start : Nat) (keeping : Keeping) (inner : Shape) : Scribing Unit := do
  modify fun s =>
    let blank := fun (l : Leaf) => { l with text := "" }
    { s with leaves := (s.leaves.modify start blank).modify (s.leaves.size - 1) blank }
  flatten start keeping inner

/-- The brackets around the leaves from the given place on, not written any more where
they say nothing. -/
def loosen (start : Nat) (keeping : Keeping) (inner : Shape) : Scribing Unit :=
  if keeping.drops inner then hide start keeping inner else pure ()

/-- Brackets around the expression that starts at the given place, so that the line can
be broken in it: its own where they say nothing else, written ones around a tuple of one,
and none around a literal of several lines. -/
def settle (start : Nat) (keeping : Keeping) : Shape → Scribing Unit
  | .brackets inner => loosen start keeping inner
  | .tuple 1 _ _ => wrap start true .atom
  | .longLiteral => pure ()
  | _ => wrap start false .atom

/-- Ends the line that is being written. -/
def endLine : Scribing Unit :=
  modify fun s =>
    if s.leaves.isEmpty then { s with gap := false, break? := none }
    else { s with
      lines := { depth := s.depth, leaves := s.leaves.toList, blanks := s.blanks,
                 newPage := s.newPage } :: s.lines
      leaves := #[]
      blanks := 0
      newPage := false
      gap := false
      break? := none }

end Scribe
end Layout
end TableCast
