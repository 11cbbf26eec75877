import TableCast.Text.Ranges
import TableCast.Text.Table.Width
import TableCast.Layout.Literal
import TableCast.Layout.Remark

/-!
# Lines

A line of a formatted text as a sequence of leaves that know how they are spaced, how
they are bracketed and where the line may be broken.

- `Leaf`, `LeafKind`, `Group`: a word or mark of a line.
- `Line`, `Line.text`: a line and its text.
- `Line.fits`: whether the text stays within the limit.
- `Line.keepsLong`: whether a literal of several lines may stay among other leaves.
- `Line.breaks`, `Line.magicComma`: where a line may be broken, and whether it must be.
-/

namespace TableCast
namespace Layout

open Text

/-- What a pair of brackets holds. -/
inductive Group where
  | atom
  | call
  | parameters
  | subscript
  | imports
  | other
deriving DecidableEq, Repr, Inhabited

/-- What a leaf is. -/
inductive LeafKind where
  | word
  | number
  | literal
  | mark
  | opening
  | closing
  | remark
deriving DecidableEq, Repr, Inhabited

/-- What a star spreads a sequence over. -/
inductive Spreading where
  | nothing
  | arguments
  | parameters
deriving DecidableEq, Repr, Inhabited

/-- A word or mark of a line. -/
structure Leaf where
  kind : LeafKind
  /-- Its text; brackets that are not written have none. -/
  text : String
  spaced : Bool := false
  level : Nat := 0
  /-- How strongly a line holds together before it, or nothing where no break may be. -/
  break? : Option Nat := none
  /-- The number of the pair of brackets that it belongs to. -/
  pair : Nat := 0
  /-- What that pair holds. -/
  group : Group := .other
  spreading : Spreading := .nothing
  /-- Whether it documents a block. -/
  documents : Bool := false
  /-- Whether it is a value in a choice or part of the value of an entry. -/
  framed : Bool := false
  /-- The line of the text that it comes from, or zero when it comes from none. -/
  row : Nat := 0
  remarks : List String := []
deriving Repr, Inhabited

namespace Leaf

/-- Whether the leaf is the given mark. -/
def isMark (l : Leaf) (text : String) : Bool :=
  l.kind == .mark && l.text == text

/-- Whether the leaf is the given word. -/
def isWord (l : Leaf) (text : String) : Bool :=
  l.kind == .word && l.text == text

/-- Whether the leaf is a comma. -/
def isComma (l : Leaf) : Bool :=
  l.isMark ","

/-- Whether the leaf is a bracket. -/
def isBracket (l : Leaf) : Bool :=
  l.kind == .opening || l.kind == .closing

/-- Whether the leaf is a bracket that is not written. -/
def isHidden (l : Leaf) : Bool :=
  l.isBracket && l.text.isEmpty

/-- Whether the leaf is a round bracket, written or not. -/
def isRound (l : Leaf) : Bool :=
  l.isBracket && (l.text.isEmpty || l.text == "(" || l.text == ")")

/-- Whether the leaf is a literal that goes over several lines. -/
def isLong (l : Leaf) : Bool :=
  l.kind == .literal && isLongLiteral l.text

/-- The text of the leaf with the blank before it. -/
def spacedText (l : Leaf) : String :=
  (if l.spaced then " " else "") ++ l.text

/-- The width of the leaf with its comments. -/
def width (l : Leaf) : Nat :=
  l.remarks.foldl (fun n remark => n + remark.length) l.spacedText.length

/-- A bracket that was not written, written. -/
def shown (l : Leaf) : Leaf :=
  if !l.isHidden then l
  else if l.kind == .opening then { l with text := "(" } else { l with text := ")" }

end Leaf

/-- How strongly a line holds together after a comma. -/
def commaStrength : Nat := 18

/-- How strongly a line holds together before a point. -/
def pointStrength : Nat := 1

/-- Which part of another line a line is. -/
inductive Part where
  | whole
  | head
  | tail
deriving DecidableEq, Repr, Inhabited

/-- A line before its text is written. -/
structure Line where
  /-- How many blocks are open around it. -/
  depth : Nat := 0
  leaves : List Leaf := []
  /-- The number of blank lines before it. -/
  blanks : Nat := 0
  /-- Whether a page ends in them. -/
  newPage : Bool := false
  inside : Bool := false
  part : Part := .whole
  /-- Whether it has to be broken at its commas. -/
  mustSplit : Bool := false
deriving Repr, Inhabited

/-- The cells that a character takes on a screen, one for a character that takes none. -/
def cells (c : Char) : Nat :=
  if c.toNat < 128 then 1
  else if Ranges.contains Table.wide c.toNat then 2
  else 1

/-- The cells that a text takes on a screen. -/
def textWidth (text : String) : Nat :=
  text.toList.foldl (fun n c => n + cells c) 0

namespace Line

/-- The leaves as text, the first without a blank before it. -/
def leavesText : List Leaf → String
  | [] => ""
  | first :: rest => rest.foldl (fun text l => text ++ l.spacedText) first.text

/-- The comments of the leaves. -/
def remarksText (leaves : List Leaf) : String :=
  (leaves.flatMap (·.remarks)).foldl (fun text remark => text ++ "  " ++ remark) ""

/-- The text of a line. -/
def text (line : Line) : String :=
  copies (4 * line.depth) ' ' ++ leavesText line.leaves ++ remarksText line.leaves

/-- Whether the line is a comment on its own. -/
def isRemark (line : Line) : Bool :=
  match line.leaves with
  | [l] => l.kind == .remark
  | _ => false

/-- Whether the line holds a comment that needs a line of its own. -/
def hasRemark (line : Line) : Bool :=
  line.leaves.any (·.kind == .remark)

/-- Whether the line holds a literal that goes over several lines. -/
def hasLong (line : Line) : Bool :=
  line.leaves.any (·.isLong)

/-- The number of brackets that are open around the leaves that none of the brackets
of the line encloses. -/
def level (line : Line) : Nat :=
  ((line.leaves.map (·.level)).min?).getD 0

/-- What is known of the literals of several lines in the leaves seen so far. -/
structure LongScan where
  /-- The commas at each level, the innermost first. -/
  commas : List Nat := []
  /-- The level of the literal. -/
  long? : Option Nat := none
  /-- The level that was reached after the brackets around the literal. -/
  left? : Option Nat := none
  /-- Whether the literal is in the element that is being read. -/
  inElement : Bool := false
deriving Inhabited

namespace LongScan

/-- The commas with one more at the given level. -/
def addComma (scan : LongScan) (level : Nat) : LongScan :=
  { scan with commas := scan.commas.modify (scan.commas.length - 1 - level) (· + 1) }

/-- The scan at a leaf of the given level, or nothing when the literal was between
brackets with a comma. -/
def enter (scan : LongScan) (level : Nat) : Option LongScan :=
  match scan.left?, scan.commas with
  | none, commas =>
    if commas.length < level + 1 then some { scan with commas := 0 :: commas }
    else if level + 1 < commas.length then
      let scan' := { scan with commas := commas.drop 1 }
      if scan.long? == some (level + 1) then
        if commas.head? == some 0 then some { scan' with left? := some level } else none
      else some scan'
    else some scan
  | some _, _ => some scan

/-- The scan after a leaf; `inside` tells whether the line stands in brackets and `last`
whether the leaf ends it.  Nothing when the literal has to be moved to a line of its
own. -/
def next (inside last : Bool) (base : Nat) (scan : LongScan) (l : Leaf) : Option LongScan := do
  let level := l.level - base
  let scan ← scan.enter level
  let counted := (inside || level > 0) && !(last && (scan.inElement || l.row == 0))
  let within := match scan.left? with
    | some left => level ≤ left
    | none => true
  let scan := if l.isComma && within && counted then scan.addComma level else scan
  let scan := if l.isComma && (scan.long?.getD 0) ≥ level then { scan with inElement := false }
    else scan
  let scan := { scan with left? := scan.left?.map (min level) }
  if l.isLong then
    if l.framed || scan.long?.isSome then none
    else return { scan with long? := some level, inElement := true }
  else return scan

/-- The scan after some leaves. -/
def run (inside : Bool) (base : Nat) : LongScan → List Leaf → Option LongScan
  | scan, [] => some scan
  | scan, l :: rest => do run inside base (← scan.next inside rest.isEmpty base l) rest

end LongScan

/-- Whether a literal of several lines may stay where it is: it is the only one, and no
comma stands beside it or around it. -/
def keepsLong (line : Line) : Bool :=
  match LongScan.run line.inside line.level {} line.leaves with
  | some scan => scan.long?.isNone || scan.commas.all (· == 0)
  | none => false

/-- Whether the text of the line stays within the given width. -/
def fitsIn (limit : Nat) (line : Line) : Bool :=
  let text := line.text
  if line.hasRemark then false
  else if text.toList.contains '\n' then
    let lines := splitOn text '\n'
    textWidth (lines.headD "") ≤ limit && textWidth (lines.getLast?.getD "") ≤ limit &&
      line.keepsLong
  else textWidth text ≤ limit

/-- Whether the text of the line stays within the limit. -/
def fits (line : Line) : Bool :=
  line.fitsIn lineLimit

/-- Whether the line starts with one of the given words. -/
def startsWithWord (line : Line) (words : List String) : Bool :=
  match line.leaves with
  | [] => false
  | l :: _ => l.kind == .word && words.contains l.text

/-- Whether the line imports names. -/
def isImport (line : Line) : Bool :=
  line.startsWithWord ["import", "from"]

/-- Whether the line starts a class. -/
def isClass (line : Line) : Bool :=
  line.startsWithWord ["class"]

/-- Whether the line starts a function. -/
def isDefinition (line : Line) : Bool :=
  match line.leaves with
  | [] => false
  | first :: rest =>
    first.isWord "def" || (first.isWord "async" && (rest.head?.map (·.isWord "def")).getD false)

/-- Whether the line opens contexts. -/
def isContext (line : Line) : Bool :=
  match line.leaves with
  | [] => false
  | first :: rest =>
    first.isWord "with" || (first.isWord "async" && (rest.head?.map (·.isWord "with")).getD false)

/-- Whether the line decorates a function or class. -/
def isDecorator (line : Line) : Bool :=
  (line.leaves.head?.map (·.isMark "@")).getD false

/-- Whether the line opens a block. -/
def opensBlock (line : Line) : Bool :=
  (line.leaves.getLast?.map (·.isMark ":")).getD false

/-- Whether the line is a function without a body. -/
def isStub (line : Line) : Bool :=
  line.isDefinition &&
    match line.leaves.reverse with
    | dots :: colon :: _ => dots.isMark "..." && colon.isMark ":"
    | _ => false

/-- Whether the line documents a block. -/
def isDocumentation (line : Line) : Bool :=
  match line.leaves with
  | [l] => l.documents
  | _ => false

/-- Where the line may be broken: for every leaf how strongly the line holds together
after it. -/
def breaks (line : Line) : List (Option Nat) :=
  let base := line.level
  let strengths := line.leaves.map fun l =>
    if l.level == base && line.part == .whole then l.break? else none
  let commas := line.leaves.map fun l =>
    if l.isComma && l.level == base && line.part == .whole then some commaStrength else none
  (commas.zip (strengths.drop 1 ++ [none])).map fun (behind, before) =>
    match behind, before with
    | some a, some b => some (max a b)
    | some a, none => some a
    | none, b => b

/-- The leaves between a bracket and the one that closes it, by the number of the
pair. -/
def between (pair : Nat) (leaves : List Leaf) : List Leaf :=
  let isEnd := fun (l : Leaf) => l.isBracket && l.pair == pair
  ((leaves.dropWhile (fun l => !isEnd l)).drop 1).takeWhile (fun l => !isEnd l)

/-- Whether the line has both brackets of a pair. -/
def hasPair (pair : Nat) (leaves : List Leaf) : Bool :=
  (leaves.filter fun l => l.isBracket && l.pair == pair).length == 2

/-- Whether brackets hold a sequence of at most one element. -/
def holdsOne (closing : Leaf) (leaves : List Leaf) : Bool :=
  let commas := ((between closing.pair leaves).filter fun l =>
    l.isComma && l.level == closing.level + 1).length
  commas == 0 || (commas == 1 && closing.group != .call && closing.group != .parameters)

/-- Whether a comma before this closing bracket asks for one element on each line. -/
def isMagic (line : Line) (closing : Leaf) : Bool :=
  if closing.text == "\x7d" then true
  else if closing.text == "]" then
    !(closing.group == .subscript && holdsOne closing line.leaves)
  else line.isImport || (hasPair closing.pair line.leaves && !holdsOne closing line.leaves)

/-- The closing brackets that follow a comma, searched from the left. -/
def closedCommas : List Leaf → List Leaf
  | first :: second :: rest =>
    if first.isComma && second.kind == .closing then second :: closedCommas (second :: rest)
    else closedCommas (second :: rest)
  | _ => []

/-- Whether a comma of the line asks for one element on each line. -/
def magicComma (line : Line) : Bool :=
  match line.part with
  | .tail => false
  | .whole => (closedCommas line.leaves).any fun l => line.isMagic l
  | .head => (closedCommas line.leaves).any fun l =>
      hasPair l.pair line.leaves && line.isMagic l

/-- Whether the line comes from one line of the text and turns the type checker off for
it. -/
def holdsIgnore (line : Line) : Bool :=
  let rows := line.leaves.filterMap fun l => if l.row == 0 then none else some l.row
  rows.head? == rows.getLast? &&
    (line.leaves.reverse.take 2).any fun l => l.remarks.any isTypeIgnore

/-- The comments of the line that give types, each with whether it may move to the end of
the line and whether another comment comes before it. -/
def typeRemarks (line : Line) : List (String × Bool × Bool) :=
  let final := match line.leaves.reverse with
    | last :: _ :: _ =>
      if last.isComma || (last.kind == .closing && last.text.isEmpty) then 2 else 1
    | _ => 1
  let count := line.leaves.length
  let entries := (line.leaves.zipIdx).flatMap fun (l, i) =>
    l.remarks.map fun remark => (remark, decide (count ≤ i + final))
  (entries.zipIdx).filterMap fun ((remark, free), i) =>
    if isTypeRemark remark then some (remark, free, decide (0 < i)) else none

/-- Whether a comment of the line that gives a type would not give it any more on a
single line. -/
def holdsTypes (line : Line) : Bool :=
  line.typeRemarks.any fun (remark, free, late) => late || (!isTypeIgnore remark && !free)

/-- Whether a comment follows one of several adjacent literals. -/
def splitsLiteral : List Leaf → Bool
  | first :: second :: rest =>
    (first.kind == .literal && second.kind == .literal &&
        !(first.remarks.isEmpty && second.remarks.isEmpty)) || splitsLiteral (second :: rest)
  | _ => false

end Line

end Layout
end TableCast
