import TableCast.Layout.Line

/-!
# Breaking lines

A line that is too long, or that asks for it, broken into several lines.

- `hugPowers`: powers of simple operands without blanks around their sign.
- `splitAtLast`: a line broken at its last brackets, or at brackets before them.
- `splitAtFirst`: the first line of a function broken at its parameters.
- `splitAtBreaks`: a line inside brackets broken where it holds together least.
- `Line.split`: the lines that a line is broken into, each within the limit if it can be.
-/

namespace TableCast
namespace Layout

/-- A line broken at a pair of brackets. -/
structure Halves where
  head : Line
  body : Line
  tail : Line
  opened : Leaf
  closed : Leaf
deriving Inhabited

/-! ### Powers -/

/-- Whether the leaf can be raised to a power without blanks. -/
def isSimpleOperand (l : Leaf) : Bool :=
  l.kind == .word || l.kind == .number

/-- Whether an operand that ends with these leaves, the last first, is no attribute of a
call, a subscript or another expression in brackets. -/
def isSimpleBehind : List Leaf → Bool
  | operand :: dot :: before :: _ =>
    !(operand.kind == .word && dot.isMark "." && before.kind == .closing &&
      before.text != "\x7d")
  | _ => true

/-- Whether an operand that starts with these leaves is a name with its attributes. -/
def isSimpleAhead : List Leaf → Bool
  | [] => true
  | l :: rest =>
    if l.kind == .opening && l.text != "\x7b" then false
    else if (l.kind == .word && l.text != "for") || l.isMark "." then isSimpleAhead rest
    else true

/-- Whether the leaves start with a simple operand, a sign before it allowed. -/
def startsSimple : List Leaf → Bool
  | sign :: operand :: rest =>
    if isSimpleOperand sign then isSimpleAhead (sign :: operand :: rest)
    else (sign.isMark "+" || sign.isMark "-" || sign.isMark "~") && isSimpleOperand operand &&
      isSimpleAhead (operand :: rest)
  | [operand] => isSimpleOperand operand
  | [] => false

/-- The leaves with powers of simple operands written without blanks; the leaves before
them come with the last first. -/
def hugPowers : Bool → List Leaf → List Leaf → List Leaf
  | _, _, [] => []
  | hugged, before, l :: rest =>
    let hugs := l.isMark "**" && startsSimple rest && isSimpleBehind before &&
      (before.head?.map fun b => isSimpleOperand b && b.text != "lambda").getD false
    let written := if hugged || hugs then { l with spaced := false } else l
    written :: hugPowers hugs (l :: before) rest

/-! ### Brackets -/

/-- Whether a comma stands between two brackets, other than in the type of a
parameter. -/
def hasComma (opened : Leaf) (leaves : List Leaf) : Bool :=
  let step := fun (state : Bool × Bool) (l : Leaf) =>
    let (found, typing) := state
    let outer := l.level == opened.level + 1
    if outer && l.isMark ":" then (found, true)
    else if outer && (l.isMark "=" || l.isComma) then (found || l.isComma, false)
    else (found || (l.isComma && !typing), typing)
  (leaves.foldl step (false, false)).1

/-- The line of the leaves between two brackets, with a comma at its end where the line
that is broken asks for one. -/
def bodyLine (line : Line) (opened : Leaf) (leaves : List Leaf) : Line :=
  let wantsComma := line.isImport ||
    (line.isDefinition && opened.group == .parameters && !hasComma opened leaves)
  let written := (leaves.reverse.dropWhile (·.kind == .remark))
  let remarks := leaves.drop written.length
  let leaves := match written with
    | last :: _ =>
      if wantsComma && !last.isComma then
        written.reverse ++ { kind := .mark, text := ",", level := last.level } :: remarks
      else leaves
    | [] => leaves
  let body : Line := { depth := line.depth + 1, leaves, inside := true }
  let trailing := (leaves.getLast?.map (·.isComma)).getD false
  let breaks := body.breaks.take (leaves.length - if trailing then 1 else 0)
  { body with
    mustSplit := (breaks.filterMap id).max? == some commaStrength &&
      (trailing || opened.group == .atom || opened.group == .imports) }

/-- The parts of a line that is broken at a pair of brackets. -/
def halves (line : Line) (head body tail : List Leaf) (opened closed : Leaf) : Halves :=
  { head := { depth := line.depth, leaves := head, blanks := line.blanks, part := .head }
    body := bodyLine line opened body
    tail := { depth := line.depth, leaves := tail, part := .tail }
    opened, closed }

/-- The leaves from the end of a line up to the last closing bracket that is not left
out and encloses something; the leaves before it come with the latest first. -/
def lastBrackets (omitted : List Nat) :
    List Leaf → List Leaf → Option (List Leaf × List Leaf × List Leaf)
  | [], _ => none
  | l :: before, tail =>
    if l.kind == .closing && !omitted.contains l.pair then
      let body := before.takeWhile fun b => !(b.kind == .opening && b.pair == l.pair)
      let head := before.drop body.length
      if body.isEmpty then lastBrackets omitted before (l :: tail)
      else if head.isEmpty then none
      else some (head.reverse, body.reverse, l :: tail)
    else lastBrackets omitted before (l :: tail)

/-- The line broken at its last brackets that are not left out. -/
def splitAtLast (line : Line) (omitted : List Nat) : Option Halves := do
  let (head, body, tail) ← lastBrackets omitted line.leaves.reverse []
  let opened ← head.getLast?
  let closed ← tail.head?
  return halves line head body tail opened closed

/-- The line broken at its first brackets that enclose something and have the given
signs. -/
def firstBrackets (isOpening : Leaf → Bool) :
    List Leaf → List Leaf → Option (List Leaf × List Leaf × List Leaf)
  | [], _ => none
  | l :: after, head =>
    if l.kind == .opening && isOpening l then
      let body := after.takeWhile fun b => !(b.kind == .closing && b.pair == l.pair)
      let tail := after.drop body.length
      if body.isEmpty then firstBrackets isOpening after (l :: head)
      else if tail.isEmpty then none
      else some ((l :: head).reverse, body, tail)
    else firstBrackets isOpening after (l :: head)

/-- The lines of a line broken at brackets, which are written from then on. -/
def Halves.lines (h : Halves) : List Line :=
  let write := fun (l : Leaf) => if l.isBracket && l.pair == h.opened.pair then l.shown else l
  let shown := fun (part : Line) => { part with leaves := part.leaves.map write }
  [shown h.head, h.body, shown h.tail].filter fun part => !part.leaves.isEmpty

/-- The first line of a function broken at its parameters. -/
def splitAtFirst (line : Line) : Option (List Line) := do
  let found := (firstBrackets Leaf.isRound line.leaves []).orElse fun _ =>
    firstBrackets (fun l => l.text == "[") line.leaves []
  let (head, body, tail) ← found
  let opened ← head.getLast?
  let closed ← tail.head?
  return (halves line head body tail opened closed).lines

/-! ### Brackets that can be left out -/

/-- The leaves with their widths, up to the first that goes over several lines. -/
def widths : List Leaf → List (Leaf × Nat)
  | [] => []
  | l :: rest => if l.text.toList.contains '\n' then [] else (l, l.width) :: widths rest

/-- Whether the brackets at the start of the line leave room for what follows them. -/
def roomAfterOpening (line : Line) (first : Leaf) : Bool :=
  let measured := widths line.leaves
  let step := fun (state : Nat × Bool × Bool) (entry : Leaf × Nat) =>
    let (length, counting, stopped) := state
    if stopped then state
    else
      let (l, width) := entry
      let counting := counting || (l.kind == .closing && l.pair == first.pair)
      if counting then
        let length := length + width
        if length > lineLimit then (length, counting, true)
        else (length, l.kind != .opening, false)
      else (length, counting, false)
  let (_, _, stopped) := measured.foldl step (4 * line.depth, false, false)
  !stopped && measured.length == line.leaves.length

/-- Whether the line up to the brackets at its end fits, or has other brackets to be
broken at. -/
def roomBeforeClosing (last : Leaf) : Nat → Bool → List (Leaf × Nat) → Bool
  | _, _, [] => false
  | length, others, (l, width) :: rest =>
    let length := length + width
    if l.kind == .opening && l.pair == last.pair then others || length ≤ lineLimit
    else roomBeforeClosing last length (others || l.kind == .opening) rest

/-- Whether a comment of the line stands outside of its written brackets. -/
def hasOuterRemark (line : Line) : Bool :=
  let step := fun (state : List Nat × Bool) (l : Leaf) =>
    let (around, found) := state
    if l.kind == .remark then (around, found || around.isEmpty)
    else if l.kind == .opening && !l.text.isEmpty then (l.pair :: around, found)
    else if l.kind == .closing then (around.filter (· != l.pair), found)
    else (around, found)
  (line.leaves.foldl step ([], false)).2

/-- Whether the brackets around the body, which are not written, can be left out. -/
def canLeaveOut (h : Halves) : Bool :=
  if hasOuterRemark h.body then false
  else
    let strengths := h.body.breaks.filterMap id
    match strengths.max? with
    | none => true
    | some top =>
      if (strengths.filter (· == top)).length > 1 then false
      else if top == commaStrength && h.head.isContext then false
      else if top == pointStrength then true
      else
        let leaves := h.body.leaves
        match leaves, leaves.reverse with
        | first :: second :: _, last :: before :: _ =>
          if first.kind == .opening && second.kind != .closing &&
              roomAfterOpening h.body first then true
          else if h.body.magicComma || (last.kind == .closing &&
              (last.text == "]" → last.group != .subscript)) then
            if before.kind == .opening then false
            else if first.isLong then true
            else roomBeforeClosing last (4 * h.body.depth) false (widths leaves)
          else false
        | _, _ => false

/-- Whether it is not certain that the line cannot be broken. -/
def canBreak (line : Line) : Bool :=
  match line.leaves with
  | first :: second :: _ => !(first.kind == .literal && second.isMark ".")
  | _ => false

/-- How many values the line assigns. -/
def assignmentCount (line : Line) : Nat :=
  (line.leaves.filter (·.isMark "=")).length

/-- Whether a bracket is closed after the last assignment of the line. -/
def closesAfterAssignment (line : Line) : Bool :=
  (line.leaves.reverse.takeWhile fun l => !l.isMark "=").any (·.kind == .closing)

/-- Whether to break inside the brackets that are left out rather than at them. -/
def prefersInner (inner outer : Halves) : Bool :=
  let leaves := outer.head.leaves.reverse
  let afterAssignment := ((leaves.drop 1).head?.map (·.isMark "=")).getD false
  let bracketed := (leaves.drop 1).any (·.isBracket)
  if inner.head.holdsIgnore || inner.body.holdsIgnore || inner.tail.holdsIgnore then true
  else if !(afterAssignment && bracketed && outer.head.fitsIn (lineLimit - 1) &&
      !outer.head.magicComma) then true
  else
    let outerCount := assignmentCount outer.head
    if outerCount > 1 && outerCount > assignmentCount inner.head then false
    else closesAfterAssignment inner.head ||
      (assignmentCount inner.head > 0 && inner.head.fits)

/-- The lines of a line broken at brackets; brackets that are not written are left out
if the line can be broken inside them. -/
def splitOuter : Nat → Line → Bool → List Nat → Halves → Option (List Line)
  | 0, _, _, _, h => some h.lines
  | fuel + 1, line, forced, omitted, h =>
    if !forced && h.opened.isHidden && h.closed.isHidden && !line.isImport && canLeaveOut h then
      let omitted := h.closed.pair :: omitted
      let inner : Option (Option (List Line)) := match splitAtLast line omitted with
        | none => some none
        | some inner =>
          if prefersInner inner h then
            match splitOuter fuel line forced omitted inner with
            | none => some none
            | some lines => some (some lines)
          else none
      match inner with
      | some (some lines) => some lines
      | some none =>
        if assignmentCount line > 1 then some h.lines
        else if !(canBreak h.body || h.body.fits) then none
        else if h.head.hasLong || h.tail.hasLong then none
        else some h.lines
      | none => some h.lines
    else some h.lines

/-- The sets of brackets at the end of the line that may be left out. -/
structure Leaving where
  /-- The width of the leaves seen so far. -/
  length : Nat
  /-- The brackets that are left out. -/
  omitted : List Nat := []
  /-- The brackets inside the ones seen last. -/
  inner : List Nat := []
  /-- The pair that is still open; one that opens with a comment stays open. -/
  waiting : Option Nat := none
  /-- The pair that was closed last. -/
  closed : Option Nat := none

/-- The sets of brackets that may be left out, in the order in which they are tried. -/
def leavings (line : Line) : Leaving → List (Leaf × Nat) → List (List Nat)
  | _, [] => []
  | state, (l, width) :: rest =>
    let state := { state with length := state.length + width }
    if state.length > lineLimit then []
    else match state.waiting with
      | some pair =>
        if l.kind == .opening && l.pair == pair && l.remarks.isEmpty then
          leavings line { state with waiting := none } rest
        else if l.kind == .closing then
          leavings line { state with inner := l.pair :: state.inner } rest
        else leavings line state rest
      | none =>
        if l.kind != .closing then leavings line state rest
        else
          let before := (rest.head?.map (·.1)).getD default
          if !rest.isEmpty && before.kind == .opening then
            leavings line { state with inner := l.pair :: state.inner } rest
          else
            let (state, found) := match state.closed with
              | some pair =>
                let omitted := pair :: state.inner ++ state.omitted
                ({ state with omitted, inner := [] }, [omitted])
              | none => (state, [])
            if !rest.isEmpty && before.isComma &&
                !(l.isRound && Line.holdsOne l line.leaves) then found
            else if l.text.isEmpty then found ++ leavings line state rest
            else found ++ leavings line
              { state with waiting := some l.pair, closed := some l.pair } rest

/-- The line broken at brackets, at the last ones that let its first part fit. -/
def splitAtBrackets (line : Line) (forced : Bool) : Option (List Line) :=
  let trial := fun omitted => (splitAtLast line omitted).bind
    (splitOuter (line.leaves.length + 1) line forced omitted)
  let sets := leavings line { length := 4 * line.depth } (widths line.leaves.reverse)
  let sets := if line.magicComma then sets else [] :: sets
  let rec search : List (List Nat) → Option (List Line)
    | [] => trial []
    | omitted :: rest =>
      match trial omitted with
      | none => none
      | some lines =>
        if (lines.head?.map (·.fits)).getD false then some lines else search rest
  search sets

/-! ### Breaks inside brackets -/

/-- A line inside the same brackets. -/
def sibling (line : Line) (leaves : List Leaf) : Line :=
  { depth := line.depth, leaves, inside := line.inside }

/-- The leaves of a line in rows: a new row after every break of the given strength,
and comments in rows of their own. -/
def rows (strength : Option Nat) (base : Nat) :
    List Leaf → List (Leaf × Option Nat) → List (List Leaf)
  | row, [] => if row.isEmpty then [] else [row.reverse]
  | row, (l, after) :: rest =>
    let alone := l.level == base && (l.kind == .remark || row.map (·.kind) == [LeafKind.remark])
    let (done, row) := if alone && !row.isEmpty then ([row.reverse], [l]) else ([], l :: row)
    if strength.isSome && after == strength then
      done ++ row.reverse :: rows strength base [] rest
    else done ++ rows strength base row rest

/-- Whether a comma may follow a sequence that is spread out, in a text for the given
release of the language. -/
def mayFollow (release : Nat) : Spreading → Bool
  | .nothing => true
  | .arguments => release ≥ 5
  | .parameters => release ≥ 6

/-- The line broken at its weakest places, with a comma after the last element, before the
comments that come after it. -/
def splitAtBreaks (line : Line) (release : Nat) : Option (List Line) := do
  let breaks := line.breaks
  let strengths := (breaks.take (line.leaves.length - 1)).filterMap id
  let top ← strengths.max?
  if top == pointStrength && (strengths.filter (· == top)).length == 1 then none
  let base := line.level
  let safe := line.leaves.all fun l => l.level != base || mayFollow release l.spreading
  let remarks := (line.leaves.reverse.takeWhile (·.kind == .remark)).reverse
  let written := line.leaves.take (line.leaves.length - remarks.length)
  let last ← written.getLast?
  let comma : Leaf := { kind := .mark, text := ",", level := base }
  let more := if safe && top == commaStrength && !last.isComma then [(comma, none)] else []
  let entries := written.zip breaks ++ more ++ remarks.map fun l => (l, none)
  return (rows (some top) base [] entries).map (sibling line)

/-- The line broken at the comments in it. -/
def splitAtRemarks (line : Line) : Option (List Line) :=
  if !line.hasRemark then none
  else some ((rows none line.level [] (line.leaves.map fun l => (l, none))).map (sibling line))

/-! ### Lines -/

/-- Whether the line can stay as it is. -/
def Line.stays (line : Line) : Bool :=
  !line.mustSplit && !line.magicComma && !line.holdsTypes && (line.fits || line.holdsIgnore) &&
    !(line.inside && line.hasRemark) && !splitsLiteral line.leaves

/-- The leaves of the type that a function gives. -/
def givenLeaves : Bool → List Leaf → List Leaf
  | _, [] => []
  | given, l :: rest =>
    if l.isMark ":" then givenLeaves false rest
    else if given then l :: givenLeaves true rest
    else givenLeaves (l.isMark "->") rest

/-- Whether the type that a function gives has brackets with a comma at their end, so that
the line is broken there rather than at its parameters. -/
def givesMagic (line : Line) : Bool :=
  { line with leaves := givenLeaves false line.leaves, part := .head }.magicComma

/-- The pairs of brackets of a line that are not written. -/
def hiddenPairs (line : Line) : List Nat :=
  if line.part == .tail then []
  else (line.leaves.filter fun l => l.kind == .closing && l.isHidden &&
    Line.hasPair l.pair line.leaves).map (·.pair)

/-- Whether one of the given pairs of brackets is written in the lines. -/
def writesPair (pairs : List Nat) (lines : List Line) : Bool :=
  lines.any fun line => line.leaves.any fun l =>
    l.isBracket && !l.text.isEmpty && pairs.contains l.pair

/-- The lines that a line is broken into.  `release` is the release of the language that
the text is for, and `forced` tells that brackets have to be written. -/
def Line.splitUp (release : Nat) : Nat → Bool → Line → List Line
  | 0, _, line => [line]
  | fuel + 1, forced, line =>
    if line.isRemark || line.stays then [line]
    else
      let accept := fun (lines : List Line) =>
        if lines.any fun part => part.text == line.text then none
        else some (lines.flatMap (Line.splitUp release fuel forced))
      let atBrackets := fun (_ : Unit) => do
        let result ← (splitAtBrackets line forced).bind accept
        let hidden := hiddenPairs line
        let first := result.headD default
        if hidden.isEmpty || forced || line.hasLong || first.holdsTypes || first.holdsIgnore ||
            first.fits || writesPair hidden result then
          return result
        else
          let second := do
            let lines ← splitAtBrackets line true
            if lines.any fun part => part.text == line.text then none
            else some (lines.flatMap (Line.splitUp release fuel true))
          match second with
          | some lines => if lines.all (·.fits) then return lines else return result
          | none => return result
      let result :=
        if line.isDefinition && !line.inside && !givesMagic line then
          (splitAtFirst line).bind accept
        else if line.inside then
          ((splitAtBreaks line release).bind accept).orElse fun _ =>
            ((splitAtRemarks line).bind accept).orElse atBrackets
        else atBrackets ()
      result.getD [line]

/-- The lines that a line is broken into, each within the limit if it can be. -/
def Line.split (release : Nat) (line : Line) : List Line :=
  let line := { line with leaves := hugPowers false [] line.leaves }
  Line.splitUp release (2 * line.leaves.length + 8) false line

end Layout
end TableCast
