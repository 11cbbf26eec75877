import TableCast.Layout.Line

/-!
# Blank lines

How many blank lines stand between the lines of a text.

- `Paragraph`: a line with the blank lines around it.
- `paragraphs`: the lines of a text with the blank lines around them.

Functions and classes stand apart from what surrounds them, by two lines at the outermost
depth and by one elsewhere; comments and decorators before them belong to them.
-/

namespace TableCast
namespace Layout

/-- A line with the blank lines around it. -/
structure Paragraph where
  line : Line
  /-- The blank lines before it. -/
  before : Nat := 0
  /-- The blank lines after it. -/
  after : Nat := 0
deriving Inhabited

/-- The lines that are placed. -/
structure Placing where
  placed : Array Paragraph := #[]
  /-- The functions and classes that are open, the innermost first. -/
  openings : List Line := []
  /-- Where the comments begin that lead up to the next line. -/
  leading : Option Nat := none
deriving Inhabited

namespace Placing

/-- The words of lines that open a block of their own after a function. -/
def freshBlocks : List String :=
  ["with", "try", "for", "while", "if", "match"]

/-- The blank lines at the end of a function or class, before a line that follows it. -/
def afterOpening (opened line : Line) : Nat :=
  if line.depth > 0 then 1
  else if opened.depth > 0 && line.opensBlock && !line.startsWithWord freshBlocks then 1
  else 2

/-- Whether the comments from the given place on may be moved away from what is before
them. -/
def movable (p : Placing) (place : Nat) : Bool :=
  match p.placed[place]? with
  | none => false
  | some comment =>
    comment.before ≤ 1 && place != 0 &&
      match p.placed[place - 1]? with
      | none => false
      | some block => !block.line.isClass && !block.line.opensBlock

/-- The blank lines before a function, class or decorator that follows a line, and the
place of the comments that they belong before instead. -/
def beforeOpening (p : Placing) (previous line : Line) (before : Nat) (wanted : Bool) :
    Nat × Option Nat :=
  let apart := if line.depth > 0 then 1 else 2
  if previous.isDecorator then (0, none)
  else if previous.depth < line.depth && (previous.isClass || previous.isDefinition) then
    (if wanted then 1 else 0, none)
  else if previous.isRemark && previous.depth == line.depth && before == 0 then
    match p.leading with
    | some place => if p.movable place then (apart, some place) else (0, none)
    | none => (0, none)
  else if previous.isStub && (line.isDefinition || line.isDecorator) && !wanted then (0, none)
  else (apart, none)

/-- The blank lines before and after a line that is no function, class or decorator and
that follows another line. -/
def beforeOther (previous line : Line) (before : Nat) : Nat × Nat :=
  if previous.isImport && !line.isImport && line.depth == previous.depth then
    (if line.depth == 0 && !line.isRemark then 1 else max before 1, 0)
  else if previous.isClass && line.isDocumentation then (0, 1)
  else if previous.opensBlock && line.isDocumentation &&
      (previous.isDefinition || previous.isClass) then (0, 0)
  else (before, 0)

/-- The lines with more blank lines before the one at the given place. -/
def moveBefore (p : Placing) (place apart : Nat) : Placing :=
  let after := match p.placed[place - 1]? with
    | some block => block.after
    | none => 0
  { p with placed := p.placed.modify place fun block =>
      { block with before := max block.before apart - after } }

/-- The lines with one more line. -/
def put (p : Placing) (line : Line) : Placing :=
  let wanted := min line.blanks (if line.depth == 0 then 2 else 1)
  let closed := p.openings.takeWhile fun opened => opened.depth ≥ line.depth
  let openings := p.openings.drop closed.length
  let opens := line.isDecorator || line.isDefinition || line.isClass
  let openings :=
    if opens && !line.isDecorator then line :: openings else openings
  match p.placed.back? with
  | none =>
    { placed := #[{ line }], openings, leading := if line.isRemark then some 0 else none }
  | some last =>
    let previous := last.line
    let before := match closed.getLast? with
      | some opened => afterOpening opened line
      | none => wanted
    let (p, before, after) :=
      if opens then
        match p.beforeOpening previous line before (wanted != 0) with
        | (apart, some place) => (p.moveBefore place apart, 0, 0)
        | (apart, none) => (p, apart, 0)
      else
        let (before, after) := beforeOther previous line before
        (p, before, after)
    let before := before - last.after
    let before :=
      if previous.depth == 0 && previous.isDocumentation &&
        !(line.isClass || line.isDefinition) then 1 else before
    let place := p.placed.size
    let leading :=
      if line.isRemark then
        if !previous.isDecorator && (p.leading.isNone || before != 0) then some place
        else p.leading
      else if !line.isDecorator || before != 0 then none
      else p.leading
    { placed := p.placed.push { line, before, after }, openings, leading }

end Placing

/-- The lines of a text with the blank lines around them. -/
def paragraphs (lines : List Line) : List Paragraph :=
  (lines.foldl Placing.put {}).placed.toList

end Layout
end TableCast
