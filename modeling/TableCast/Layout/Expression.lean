import TableCast.Layout.Scribe

/-!
# Expressions

Expressions read from tokens and written as leaves.

- `reserved`: the words that are no names.
- `operators`: the operators between two operands, by how strongly they bind.
- `named`, `term`, `valuesFrom`, `targets`: the expressions that statements are made of.

Every reader takes a bound on how deep it may go; a text of `n` tokens never goes
deeper than a multiple of `n`.
-/

namespace TableCast
namespace Layout

open Text Scribe

/-- The words that are no names. -/
def reserved : List String :=
  ["and", "as", "assert", "async", "await", "break", "class", "continue", "def", "del", "elif",
    "else", "except", "finally", "for", "from", "global", "if", "import", "in", "is", "lambda",
    "nonlocal", "not", "or", "pass", "raise", "return", "try", "while", "with", "yield"]

/-- An operator between two operands. -/
structure Operator where
  /-- How strongly it binds its operands. -/
  binding : Nat
  /-- How strongly a line holds together before it. -/
  strength : Nat

/-- The operators between two operands. -/
def operators : List (String × Operator) :=
  [("or", ⟨1, 14⟩), ("and", ⟨2, 14⟩), ("<", ⟨4, 10⟩), (">", ⟨4, 10⟩), ("==", ⟨4, 10⟩),
    (">=", ⟨4, 10⟩), ("<=", ⟨4, 10⟩), ("!=", ⟨4, 10⟩), ("<>", ⟨4, 10⟩), ("in", ⟨4, 10⟩),
    ("is", ⟨4, 10⟩), ("not", ⟨4, 10⟩), ("|", ⟨5, 9⟩), ("^", ⟨6, 8⟩), ("&", ⟨7, 7⟩),
    ("<<", ⟨8, 6⟩), (">>", ⟨8, 6⟩), ("+", ⟨9, 5⟩), ("-", ⟨9, 5⟩), ("*", ⟨10, 4⟩), ("/", ⟨10, 4⟩),
    ("//", ⟨10, 4⟩), ("%", ⟨10, 4⟩), ("@", ⟨10, 4⟩)]

/-- How strongly the operands of a negation are bound. -/
def negationBinding : Nat := 3

/-- How strongly the targets of an assignment in a loop are bound. -/
def targetBinding : Nat := 5

/-- How strongly a line holds together before a loop or condition in an element. -/
def loopStrength : Nat := 20

/-- How strongly a line holds together before a choice between two values. -/
def choiceStrength : Nat := 16

/-- How strongly a line holds together between two adjacent literals. -/
def literalStrength : Nat := 12

/-- How strongly a line holds together before a power. -/
def powerStrength : Nat := 2

/-- Whether an expression can start with the token. -/
def Token.startsOperand (t : Token) : Bool :=
  match t.kind with
  | .literal | .number | .verbatim => true
  | .name => !reserved.contains t.text || ["lambda", "not", "await"].contains t.text
  | .mark => ["(", "[", "\x7b", "+", "-", "~", "...", "*", "\x60"].contains t.text
  | _ => false

/-- Whether a loop inside an element comes next. -/
def startsLoop : Scribing Bool := do
  return (← next "for") || ((← next "async") && (← secondIn ["for"]))

/-- Writes a name. -/
def name : Scribing Unit := do
  let t ← peek
  if t.kind != .name || reserved.contains t.text then failure
  leaf .word

/-- Writes a number in its usual form; one in base ten has to be told from a point after
it. -/
def number : Scribing Shape := do
  let t ← take
  let text := numberForm t.text
  if text.toList.contains '_' then asks 6
  write { kind := .number, text }
  return if text.toList.any fun c => "xobj".toList.contains c then .single else .number

/-- Writes a star before a sequence that is spread out. -/
def spread (text : String) (spreading : Spreading) : Scribing Unit := do
  if !(← next text) then failure
  let t ← take
  write { kind := .mark, text := t.text, spreading }
  tight

/-- The marks of a slice with blanks around them, when an operation stands in it. -/
def spaceSlice (start : Nat) (colons : List Nat) (leaves : Array Leaf) : Array Leaf :=
  colons.foldl (fun leaves i =>
    let leaves := leaves.modify i fun l =>
      { l with spaced := if i == start then l.spaced else !colons.contains (i - 1) }
    leaves.modify (i + 1) fun l => { l with spaced := !colons.contains (i + 1) }) leaves

/-- Writes the operator before the second operand. -/
def operator (strength : Nat) : Scribing Unit := do
  let t ← peek
  let kind : LeafKind := if t.kind == .name then .word else .mark
  infixed kind (some strength)
  if t.text == "not" then
    if !(← next "in") then failure
    leaf .word
    space
  else if t.text == "is" && (← next "not") then
    leaf .word
    space

/-- The operator that comes next, with its text. -/
def nextOperator : Scribing (Option (String × Operator)) := do
  let t ← peek
  if t.kind != .name && t.kind != .mark then return none
  if t.text == "not" && !(← secondIn ["in"]) then return none
  return operators.find? (·.1 == t.text)

/-- Puts brackets that are not written around a choice. -/
def enclose (start : Nat) : Shape → Scribing Shape
  | .choice => do
    wrap start false .other
    return .other
  | shape => return shape

/-- Whether an expression is a sequence that is spread out. -/
def isSpread : Shape → Bool
  | .spread => true
  | _ => false

/-- Whether an expression is a value that is given a name. -/
def isBinding : Shape → Bool
  | .binding => true
  | _ => false

/-- Notes what a function needs that gives several values and spreads one of them out. -/
def flow : Shape → Scribing Unit
  | .tuple _ true _ => asks 8
  | _ => pure ()

/-- Notes that a literal of several lines at the given place is a value in a choice. -/
def frame (start : Nat) : Shape → Scribing Unit
  | .longLiteral =>
    modify fun s => { s with leaves := s.leaves.modify start fun l => { l with framed := true } }
  | _ => pure ()

/-- Notes that the literals of several lines from the given place on are part of the value
of an entry, unless brackets of their own are around them or one is all of it. -/
def frameEntry (start : Nat) : Shape → Scribing Unit
  | .longLiteral => pure ()
  | shape => modify fun s =>
    let level := s.level + match shape with
      | .brackets _ => 1
      | _ => 0
    let places := (List.range (s.leaves.size - start)).map (· + start)
    { s with leaves := places.foldl (fun leaves i =>
        leaves.modify i fun l => { l with framed := l.framed || l.level == level }) s.leaves }

/-- The brackets around what is waited for, not written any more around a single leaf or
around an operand with calls, subscripts and attributes. -/
def settleAwaited (start : Nat) (shape : Shape) : Scribing Unit := do
  let keeping : Keeping := { tuples := false, ones := false, bindings := false }
  let rec core : Shape → Shape
    | .brackets inner => if keeping.drops inner then core inner else .brackets inner
    | shape => shape
  match shape with
  | .brackets inner =>
    if keeping.drops inner then
      match core inner with
      | .single | .number | .longLiteral | .primary => hide start keeping inner
      | _ => flatten start keeping inner
  | _ => pure ()

/-- The brackets around the only element of a list, not written any more, and brackets
that are not written around other elements that may need them. -/
def settleOnly (start : Nat) : Shape → Scribing Unit
  | .brackets inner => loosen start { bindings := false } inner
  | .display => wrap start false .atom
  | .operation "|" => wrap start false .atom
  | .choice => wrap start false .other
  | _ => pure ()

mutual

/-- A value, a choice between two values, or a function without a name. -/
def condition : Nat → Scribing Shape
  | 0 => failure
  | fuel + 1 => do
    if ← next "lambda" then
      leaf .word
      deeper
      if !(← next ":") then
        space
        lambdaParameters fuel
      shallower
      tight
      mark ":"
      space
      let _ ← term fuel
      stir
      return .other
    else
      let start ← here
      let shape ← operation fuel 1
      if ← next "if" then
        frame start shape
        infixed .word (some choiceStrength)
        let second ← here
        frame second (← operation fuel 1)
        if !(← next "else") then failure
        infixed .word (some choiceStrength)
        let third ← here
        frame third (← term fuel)
        stir
        return .choice
      else return shape

/-- The parameters of a function without a name. -/
def lambdaParameters : Nat → Scribing Unit
  | 0 => failure
  | fuel + 1 => do
    if ← next "*" then
      spread "*" .nothing
      if !(← nextIn [",", ":"]) then name
    else if ← next "**" then
      spread "**" .nothing
      name
    else if ← next "/" then
      asks 8
      mark "/"
    else
      parameterName fuel
      if ← next "=" then
        mark "="
        let _ ← term fuel
    if ← next "," then
      comma
      if !(← next ":") then lambdaParameters fuel

/-- The name of a parameter, or names in brackets that a sequence is assigned to. -/
def parameterName : Nat → Scribing Unit
  | 0 => failure
  | fuel + 1 => do
    if ← next "(" then
      let pair ← opening "(" .other
      parameterNames fuel
      closing ")" pair .other
    else name

/-- Names that a sequence is assigned to. -/
def parameterNames : Nat → Scribing Unit
  | 0 => failure
  | fuel + 1 => do
    parameterName fuel
    if ← next "," then
      comma
      if !(← next ")") then parameterNames fuel

/-- A value, with brackets that are not written around a choice. -/
def term : Nat → Scribing Shape
  | 0 => failure
  | fuel + 1 => do
    let start ← here
    enclose start (← condition fuel)

/-- A value that may be given a name. -/
def named : Nat → Scribing Shape
  | 0 => failure
  | fuel + 1 => do
    let start ← here
    let shape ← aliased fuel
    if ← next ":=" then
      asks 8
      infixed .mark none
      let _ ← enclose start shape
      let _ ← term fuel
      stir
      return .binding
    else return shape

/-- A value that may be known by another name. -/
def aliased : Nat → Scribing Shape
  | 0 => failure
  | fuel + 1 => do
    let start ← here
    let shape ← condition fuel
    if ← next "as" then
      let _ ← enclose start shape
      infixed .word none
      let _ ← term fuel
      return .other
    else return shape

/-- A sequence that is spread out. -/
def spreadOut : Nat → Scribing Shape
  | 0 => failure
  | fuel + 1 => do
    mark "*"
    tight
    let _ ← operation fuel targetBinding
    stir
    return .spread

/-- A value that may be given a name, or a sequence that is spread out. -/
def element : Nat → Scribing Shape
  | 0 => failure
  | fuel + 1 => do
    if ← next "*" then spreadOut fuel else named fuel

/-- A value without a name, or a sequence that is spread out. -/
def value : Nat → Scribing Shape
  | 0 => failure
  | fuel + 1 => do
    if ← next "*" then spreadOut fuel else condition fuel

/-- Values with commas between them; `count` of them came before. -/
def valuesFrom : Nat → Nat → Bool → Scribing Shape
  | 0, _, _ => failure
  | fuel + 1, count, spreads => do
    let start ← here
    let shape ← value fuel
    let spreads := match shape with
      | .spread => true
      | _ => spreads
    if ← next "," then
      let _ ← enclose start shape
      comma
      if (← peek).startsOperand then valuesFrom fuel (count + 1) spreads
      else return .tuple (count + 1) spreads false
    else if count == 0 then return shape
    else
      let _ ← enclose start shape
      return .tuple (count + 1) spreads false

/-- Operands and the operators between them that bind at least as strongly as given. -/
def operation : Nat → Nat → Scribing Shape
  | 0, _ => failure
  | fuel + 1, binding => do
    if ← next "not" then
      if negationBinding < binding then failure
      leaf .word
      space
      let _ ← operation fuel negationBinding
      stir
      climb fuel binding .other
    else
      climb fuel binding (← signed fuel)

/-- The operators after an operand, with their second operands. -/
def climb : Nat → Nat → Shape → Scribing Shape
  | 0, _, _ => failure
  | fuel + 1, binding, shape => do
    match ← nextOperator with
    | some (sign, op) =>
      if op.binding < binding then return shape
      operator op.strength
      let _ ← operation fuel (op.binding + 1)
      stir
      climb fuel binding (.operation sign)
    | none => return shape

/-- An operand with its signs; a power after a sign is put into brackets. -/
def signed : Nat → Scribing Shape
  | 0 => failure
  | fuel + 1 => do
    if ← nextIn ["+", "-", "~"] then
      leaf .mark
      tight
      let start ← here
      match ← signed fuel with
      | .power => wrap start true .atom
      | _ => pure ()
      return .other
    else power fuel

/-- An operand with what it is raised to. -/
def power : Nat → Scribing Shape
  | 0 => failure
  | fuel + 1 => do
    let awaits ← next "await"
    if awaits then
      leaf .word
      space
      stir
    let start ← here
    let shape ← atom fuel
    if awaits then settleAwaited start shape
    let single ← trailers fuel start shape true
    if ← next "**" then
      infixed .mark (some powerStrength)
      let _ ← signed fuel
      stir
      return if single && !awaits then .power else .other
    else if awaits then return .other
    else return if single then shape else .primary

/-- The calls, subscripts and attributes after an operand; tells whether there are
none. -/
def trailers : Nat → Nat → Shape → Bool → Scribing Bool
  | 0, _, _, _ => failure
  | fuel + 1, start, shape, single => do
    if ← next "(" then
      tight
      let pair ← opening "(" .call
      if !(← next ")") then arguments fuel 0 false
      closing ")" pair .call
      stir
      trailers fuel start .other false
    else if ← next "[" then
      tight
      let pair ← opening "[" .subscript
      subscripts fuel
      closing "]" pair .subscript
      stir
      trailers fuel start .other false
    else if ← next "." then
      match shape with
      | .number => wrap start true .atom
      | _ => pure ()
      tight
      let s ← get
      let follows := (s.leaves.back?.map (·.kind == .closing)).getD false
      hold (if follows then some pointStrength else none)
      mark "."
      name
      stir
      trailers fuel start .other false
    else return single

/-- The arguments of a call, `count` of which came before; `spreads` tells whether one of
these is spread out. -/
def arguments : Nat → Nat → Bool → Scribing Unit
  | 0, _, _ => failure
  | fuel + 1, count, spreads => do
    let start ← here
    let mut shape := Shape.other
    let mut spreads := spreads
    if ← nextIn ["*", "**"] then
      spread (← peek).text .arguments
      let _ ← term fuel
      spreads := true
    else
      shape ← named fuel
      if ← next "=" then
        mark "="
        let value ← here
        let _ ← enclose value (← aliased fuel)
        shape := .other
      else if ← startsLoop then
        shape ← enclose start shape
        loops fuel false
    if ← next "," then
      let _ ← enclose start shape
      comma
      if ← next ")" then
        if spreads then asks 5
      else arguments fuel (count + 1) spreads
    else if count != 0 then
      let _ ← enclose start shape

/-- The elements of a subscript. -/
def subscripts : Nat → Scribing Unit
  | 0 => failure
  | fuel + 1 => do
    let outer := (← get).busy
    modify fun s => { s with busy := false }
    let start ← here
    if ← next "*" then
      asks 11
      let _ ← spreadOut fuel
    else
      if !(← next ":") then
        let shape ← named fuel
        let _ ← enclose start shape
      let colons ← bounds fuel 2
      if (← get).busy then
        modify fun s => { s with leaves := spaceSlice start colons s.leaves }
    modify fun s => { s with busy := s.busy || outer }
    if ← next "," then
      comma
      if !(← next "]") then subscripts fuel

/-- The marks of a slice with the bounds after them; gives their places. -/
def bounds : Nat → Nat → Scribing (List Nat)
  | 0, _ => failure
  | _ + 1, 0 => return []
  | fuel + 1, left + 1 => do
    if ← next ":" then
      let place ← here
      if place == 0 then failure
      mark ":"
      tight
      if !(← nextIn [":", ",", "]"]) then
        let _ ← term fuel
      return place :: (← bounds fuel left)
    else return []

/-- A number, name, literal or bracketed expression. -/
def atom : Nat → Scribing Shape
  | 0 => failure
  | fuel + 1 => do
    let t ← peek
    match t.kind with
    | .number => number
    | .name =>
      name
      return .single
    | .literal =>
      let text ← literal fuel
      if ← nextKind .literal then
        moreLiterals fuel
        return .display
      else return if isLongLiteral text then .longLiteral else .single
    | .verbatim =>
      leaf .remark
      return .other
    | .mark =>
      if t.text == "(" then
        let pair ← opening "(" .atom
        let shape ← (do
          if ← next ")" then return .nothing
          else if ← next "yield" then yielded fuel
          else sequence fuel)
        closing ")" pair .atom
        return .brackets shape
      else if t.text == "[" then
        let pair ← opening "[" .atom
        if !(← next "]") then
          let start ← here
          settleOnly start (← sequence fuel)
        closing "]" pair .atom
        return .display
      else if t.text == "\x7b" then
        let pair ← opening "\x7b" .atom
        if !(← next "\x7d") then entries fuel
        closing "\x7d" pair .atom
        return .display
      else if t.text == "\x60" then
        leaf .mark
        space
        quoted fuel
        space
        if !(← next "\x60") then failure
        leaf .mark
        return .other
      else if t.text == "..." then
        leaf .mark
        return .display
      else failure
    | _ => failure

/-- Values between quotes that ask for their text. -/
def quoted : Nat → Scribing Unit
  | 0 => failure
  | fuel + 1 => do
    let _ ← term fuel
    if ← next "," then
      comma
      quoted fuel

/-- Writes a literal in its usual form, and gives it. -/
def literal : Nat → Scribing String
  | 0 => failure
  | fuel + 1 => do
    let t ← take
    template fuel t.text
    let text := quotedForm t.text
    write { kind := .literal, text }
    return text

/-- Makes sure that a literal is well formed if it is a template. -/
def template : Nat → String → Scribing Unit
  | 0, _ => failure
  | fuel + 1, text => do
    let letters := (Quotation.ofText text).letters
    if hasLetter letters 'f' then asks 6
    if hasLetter letters 't' then asks 14
    fields fuel (literalFields text)

/-- Makes sure that the fields of a template are well formed. -/
def fields : Nat → List Field → Scribing Unit
  | 0, _ => failure
  | _ + 1, [] => pure ()
  | fuel + 1, field :: rest => do
    if field.shows then asks 8
    if (trimBlanks field.value.toList).isEmpty then failure
    match tokens? ("(" ++ field.value ++ "\n)") with
    | none => failure
    | some tokens =>
      match (atom fuel).run { tokens } with
      | some (.brackets _, s) =>
        match s.tokens with
        | ending :: _ => if ending.kind != .lineEnd then failure
        | [] => failure
        asks s.release
      | _ => failure
    fields fuel rest

/-- The literals after a literal, which are one text with it. -/
def moreLiterals : Nat → Scribing Unit
  | 0 => failure
  | fuel + 1 => do
    if ← nextKind .literal then
      space
      hold (some literalStrength)
      let _ ← literal fuel
      moreLiterals fuel

/-- The elements between curly brackets. -/
def entries : Nat → Scribing Unit
  | 0 => failure
  | fuel + 1 => do
    if ← next "**" then
      mark "**"
      tight
      let _ ← operation fuel targetBinding
    else
      let start ← here
      let key ← element fuel
      frameEntry start key
      let _ ← enclose start key
      if ← next ":" then
        tight
        mark ":"
        space
        let place ← here
        let shape ← aliased fuel
        frameEntry place shape
        let _ ← enclose place shape
    if ← startsLoop then loops fuel false
    else if ← next "," then
      comma
      if !(← next "\x7d") then entries fuel

/-- The elements of a sequence, or one element with the loops that it is taken from. -/
def sequence : Nat → Scribing Shape
  | 0 => failure
  | fuel + 1 => do
    let start ← here
    let shape ← element fuel
    if ← startsLoop then
      let _ ← enclose start shape
      loops fuel true
      return .generator
    else if ← next "," then
      let _ ← enclose start shape
      moreElements fuel 1 (isSpread shape) (isBinding shape)
    else return shape

/-- The elements after the first ones. -/
def moreElements : Nat → Nat → Bool → Bool → Scribing Shape
  | 0, _, _, _ => failure
  | fuel + 1, count, spreads, names => do
    if ← next "," then
      comma
      if (← peek).startsOperand then
        let start ← here
        let shape ← element fuel
        let _ ← enclose start shape
        moreElements fuel (count + 1) (spreads || isSpread shape) (names || isBinding shape)
      else return .tuple count spreads names
    else return .tuple count spreads names

/-- The loops and conditions after an element.  In `wide` ones a sequence needs no
brackets. -/
def loops : Nat → Bool → Scribing Unit
  | 0, _ => failure
  | fuel + 1, wide => do
    if ← startsLoop then
      space
      hold (some loopStrength)
      if ← next "async" then keyword "async"
      keyword "for"
      deeper
      let _ ← targets fuel
      shallower
      if !(← next "in") then failure
      infixed .word none
      source fuel
      if wide && (← next ",") then moreSources fuel
      loops fuel wide
    else if ← next "if" then
      infixed .word (some loopStrength)
      source fuel
      loops fuel wide

/-- What a loop runs over, or the condition for its elements. -/
def source : Nat → Scribing Unit
  | 0 => failure
  | fuel + 1 => do
    if ← next "lambda" then
      let _ ← condition fuel
    else
      let _ ← operation fuel 1

/-- The elements after the first one that a loop runs over. -/
def moreSources : Nat → Scribing Unit
  | 0 => failure
  | fuel + 1 => do
    if ← next "," then
      comma
      if (← peek).startsOperand then
        source fuel
        moreSources fuel

/-- What the elements of a sequence are assigned to in a loop. -/
def targets : Nat → Scribing Shape
  | 0 => failure
  | fuel + 1 => do
    let shape ← target fuel
    if ← next "," then moreTargets fuel 1 else return shape

/-- One of several targets. -/
def target : Nat → Scribing Shape
  | 0 => failure
  | fuel + 1 => do
    if ← next "*" then
      mark "*"
      tight
      let _ ← operation fuel targetBinding
      return .spread
    else operation fuel targetBinding

/-- The targets after the first ones. -/
def moreTargets : Nat → Nat → Scribing Shape
  | 0, _ => failure
  | fuel + 1, count => do
    if ← next "," then
      comma
      if (← peek).startsOperand then
        let _ ← target fuel
        moreTargets fuel (count + 1)
      else return .tuple count false false
    else return .tuple count false false

/-- What a function yields. -/
def yielded : Nat → Scribing Shape
  | 0 => failure
  | fuel + 1 => do
    keyword "yield"
    if ← next "from" then
      keyword "from"
      let _ ← term fuel
    else if (← peek).startsOperand then
      let start ← here
      let shape ← valuesFrom fuel 0 false
      flow shape
      let _ ← enclose start shape
    else tight
    return .yielding

end

end Layout
end TableCast
