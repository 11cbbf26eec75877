import TableCast.Layout.Expression

/-!
# Statements

Statements read from tokens and written as lines.

- `simpleStatement`: statements without a block.
- `statement`, `statements`: all statements, with their blocks.
- `lines?`: the lines of a text, or nothing when it is not well formed.
-/

namespace TableCast
namespace Layout

open Text Scribe

/-- The marks that assign the value of an operation. -/
def updates : List String :=
  ["+=", "-=", "*=", "@=", "/=", "%=", "&=", "|=", "^=", "<<=", ">>=", "**=", "//="]

/-- Ends the line at the end of a line of the text. -/
def finishLine : Scribing Unit := do
  if !(← nextKind .lineEnd) then failure
  let _ ← take
  endLine

/-- Values with commas between them. -/
def values (fuel : Nat) : Scribing Shape :=
  valuesFrom fuel 0 false

/-- Values or what a function yields, with the brackets that a line may be broken at. -/
def assigned (fuel : Nat) (keeping : Keeping) : Scribing Shape := do
  let start ← here
  let shape ← (do if ← next "yield" then yielded fuel else values fuel)
  settle start keeping shape
  return shape

/-- The brackets that stay around what is assigned. -/
def assignedKeeping : Keeping := { yields := false }

/-- The brackets that stay around the first target of an assignment. -/
def targetKeeping : Keeping := { tuples := false, spreads := false, yields := false }

/-- Further targets and the value that is assigned to them. -/
def assignments : Nat → Scribing Unit
  | 0 => failure
  | fuel + 1 => do
    if ← next "=" then
      infixed .mark none
      let _ ← assigned fuel assignedKeeping
      assignments fuel

/-- Whether one of the leaves starts in a later line than the one before it ends. -/
def goesOver : List Leaf → Bool
  | first :: second :: rest =>
    first.row + first.text.toList.count '\n' < second.row || goesOver (second :: rest)
  | _ => false

/-- Brackets around several targets; those around the first one are not written if it
stands in one line. -/
def settleTarget (start : Nat) : Shape → Scribing Unit
  | .brackets inner => do
    let leaves := ((← get).leaves.extract start (← here)).toList
    let known := leaves.dropLast.filter fun l => l.row != 0
    if !goesOver known then loosen start targetKeeping inner
  | .tuple count spreads names => settle start {} (.tuple count spreads names)
  | _ => pure ()

/-- The operators whose operands a line may be broken at when they are all of it. -/
def loneOperators : List String :=
  ["+", "-", "<<", ">>", "^", "&"]

/-- An expression, or an assignment to it. -/
def expressionStatement (fuel : Nat) : Scribing Unit := do
  let start ← here
  let shape ← (do if ← next "yield" then yielded fuel else values fuel)
  if ← next ":" then
    match shape with
    | .tuple .. => settleTarget start shape
    | _ => pure ()
    tight
    mark ":"
    space
    let hint ← here
    settle hint {} (← condition fuel)
    if ← next "=" then
      infixed .mark none
      match ← assigned fuel {} with
      | .tuple .. => asks 8
      | _ => pure ()
  else if ← nextIn updates then
    settleTarget start shape
    infixed .mark none
    let _ ← assigned fuel assignedKeeping
  else if ← next "=" then
    settleTarget start shape
    assignments fuel
  else
    match shape with
    | .operation sign => if loneOperators.contains sign then wrap start false .atom
    | .choice => wrap start false .other
    | _ => pure ()

/-- A name with the names that it is found under. -/
def dottedName : Nat → Scribing Unit
  | 0 => failure
  | fuel + 1 => do
    name
    if ← next "." then
      mark "."
      dottedName fuel

/-- The name that something is given. -/
def otherName : Scribing Unit := do
  if ← next "as" then
    infixed .word none
    name

/-- The modules that are imported. -/
def importedModules : Nat → Scribing Unit
  | 0 => failure
  | fuel + 1 => do
    dottedName fuel
    otherName
    if ← next "," then
      comma
      importedModules fuel

/-- The names that are imported from a module; a comma may come last inside brackets. -/
def importedNames (bracketed : Bool) : Nat → Scribing Unit
  | 0 => failure
  | fuel + 1 => do
    name
    otherName
    if ← next "," then
      comma
      if !(bracketed && (← next ")")) then importedNames bracketed fuel

/-- The points before the name of a module. -/
def leadingPoints : Nat → Scribing Unit
  | 0 => failure
  | fuel + 1 => do
    if ← nextIn [".", "..."] then
      leaf .mark
      leadingPoints fuel

/-- An import of names from a module. -/
def importFrom (fuel : Nat) : Scribing Unit := do
  keyword "from"
  let start ← here
  let future ← next "__future__"
  leadingPoints fuel
  if !(← next "import") then dottedName fuel
  else if (← here) == start then failure
  space
  keyword "import"
  let first ← here
  if ← next "*" then leaf .mark
  else if ← next "(" then
    let pair ← opening "(" .imports
    importedNames true fuel
    closing ")" pair .imports
    hide first {} .other
  else
    importedNames false fuel
    wrap first false .imports
  if future && (← get).leaves.any (·.isWord "annotations") then asks 7

/-- Names with commas between them. -/
def names : Nat → Scribing Unit
  | 0 => failure
  | fuel + 1 => do
    name
    if ← next "," then
      comma
      names fuel

/-- A condition that may be given a name, with the brackets that a line may be broken
at. -/
def settledCondition (fuel : Nat) : Scribing Unit := do
  let start ← here
  settle start { bindings := false } (← named fuel)

/-- An assertion or its message, with the brackets that a line may be broken at. -/
def settledClaim (fuel : Nat) : Scribing Unit := do
  let start ← here
  settle start {} (← condition fuel)

/-- The error that is raised, and where it comes from. -/
def raised (fuel : Nat) : Scribing Unit := do
  let _ ← term fuel
  if ← next "from" then
    infixed .word none
    let _ ← term fuel
  else if ← next "," then
    comma
    let _ ← term fuel
    if ← next "," then
      comma
      let _ ← term fuel

/-- A statement without a block. -/
def simpleStatement (fuel : Nat) : Scribing Unit := do
  if ← nextIn ["pass", "break", "continue"] then leaf .word
  else if ← next "del" then
    keyword "del"
    let start ← here
    settle start {} (← targets fuel)
  else if ← next "return" then
    keyword "return"
    if (← peek).startsOperand then flow (← assigned fuel {})
    else tight
  else if ← next "raise" then
    keyword "raise"
    if (← peek).startsOperand then raised fuel else tight
  else if ← nextIn ["global", "nonlocal"] then
    leaf .word
    space
    names fuel
  else if ← next "assert" then
    keyword "assert"
    settledClaim fuel
    if ← next "," then
      comma
      settledClaim fuel
  else if ← next "import" then
    keyword "import"
    importedModules fuel
  else if ← next "from" then importFrom fuel
  else expressionStatement fuel

/-- A parameter of a type, with its bound and default. -/
def typeParameter (fuel : Nat) : Scribing Unit := do
  if ← nextIn ["*", "**"] then
    leaf .mark
    tight
    name
  else
    name
    if ← next ":" then
      tight
      mark ":"
      space
      let _ ← term fuel
  if ← next "=" then
    asks 13
    infixed .mark none
    if ← next "*" then
      let _ ← spreadOut fuel
    else
      let _ ← term fuel

/-- The parameters of a type. -/
def typeParameters : Nat → Scribing Unit
  | 0 => failure
  | fuel + 1 => do
    typeParameter fuel
    if ← next "," then
      comma
      if !(← next "]") then typeParameters fuel

/-- The parameters of a type between brackets, if there are any. -/
def typeHead (fuel : Nat) : Scribing Bool := do
  if ← next "[" then
    asks 12
    let pair ← opening "[" .other
    typeParameters fuel
    closing "]" pair .other
    return true
  else return false

/-- A name for a type. -/
def typeStatement (fuel : Nat) : Scribing Unit := do
  keyword "type"
  name
  asks 12
  let _ ← typeHead fuel
  if !(← next "=") then failure
  infixed .mark none
  let _ ← term fuel

/-- A literal that documents the block that it opens. -/
def documentation (fuel : Nat) : Scribing Unit := do
  let depth := (← get).depth
  let t ← take
  template fuel t.text
  write { kind := .literal, text := documentationForm depth t.text, documents := true }

/-- Whether the next token is a statement of its own. -/
def standsAlone : Scribing Bool := do
  match (← get).tokens with
  | _ :: t :: _ => return t.kind == .lineEnd || (t.kind == .mark && t.text == ";")
  | _ => return false

/-- One of the statements of a line of the text. -/
def smallStatement (documents : Bool) (fuel : Nat) : Scribing Unit := do
  if documents && (← nextKind .literal) && (← standsAlone) then documentation fuel
  else if ← next "type" then typeStatement fuel <|> simpleStatement fuel
  else simpleStatement fuel

/-- The statements of one line of the text; the first may document a block. -/
def simpleLine (documents : Bool) : Nat → Scribing Unit
  | 0 => failure
  | fuel + 1 => do
    smallStatement documents fuel
    if ← next ";" then
      endLine
      skip
      if ← nextKind .lineEnd then finishLine else simpleLine false fuel
    else finishLine

/-- Writes the comments that come next, each on its own line. -/
def remarkLines : Nat → Scribing Unit
  | 0 => failure
  | fuel + 1 => do
    if ← nextKind .remark then
      leaf .remark
      endLine
      remarkLines fuel

/-- The token that comes next, after comments. -/
def afterRemarks : Scribing (Option Token) := do
  return ((← get).tokens.dropWhile (·.kind == .remark)).head?

/-- Whether one of the given words comes next, after comments. -/
def continues (words : List String) : Scribing Bool := do
  match ← afterRemarks with
  | some t => return t.kind == .name && words.contains t.text
  | none => return false

/-- Writes the colon before a block. -/
def colon : Scribing Unit := do
  tight
  mark ":"

/-- Whether the block that comes next has no content. -/
def isStubBlock : List Token → Bool
  | ending :: indent :: dots :: after :: dedent :: _ =>
    ending.kind == .lineEnd && ending.remarks.isEmpty && indent.kind == .indent &&
      dots.kind == .mark && dots.text == "..." && after.kind == .lineEnd &&
      dedent.kind == .dedent
  | _ => false

/-- Whether the rest of the line has no content. -/
def isStubLine : List Token → Bool
  | dots :: after :: _ => dots.kind == .mark && dots.text == "..." && after.kind == .lineEnd
  | _ => false

/-- A parameter of a function, with its type and default; a type may be spread out over
the parameters after a star. -/
def parameter (fuel : Nat) (starred : Bool) : Scribing Unit := do
  if starred then name else parameterName fuel
  if ← next ":" then
    tight
    mark ":"
    space
    let hint ← here
    if starred && (← next "*") then
      asks 11
      let _ ← spreadOut fuel
    else
      match ← term fuel with
      | .brackets inner => loosen hint {} inner
      | .display => wrap hint false .atom
      | .operation "|" => wrap hint false .atom
      | _ => pure ()
    if ← next "=" then
      infixed .mark none
      let _ ← term fuel
  else if ← next "=" then
    mark "="
    let _ ← term fuel

/-- The parameters of a function; `spreads` tells whether one before them is spread
out. -/
def parameters : Nat → Bool → Scribing Unit
  | 0, _ => failure
  | fuel + 1, spreads => do
    let mut spreads := spreads
    if ← next "*" then
      spread "*" .parameters
      if !(← nextIn [",", ")"]) then parameter fuel true
      spreads := true
    else if ← next "**" then
      spread "**" .parameters
      parameter fuel true
      spreads := true
    else if ← next "/" then
      asks 8
      let t ← take
      write { kind := .mark, text := t.text, spreading := .parameters }
    else parameter fuel false
    if ← next "," then
      comma
      if ← next ")" then
        if spreads then asks 6
      else parameters fuel spreads

/-- The first line of a function up to its colon. -/
def functionHead (fuel : Nat) : Scribing Unit := do
  keyword "def"
  name
  let _ ← typeHead fuel
  let pair ← opening "(" .parameters
  if !(← next ")") then parameters fuel false
  closing ")" pair .parameters
  if ← next "->" then
    infixed .mark none
    let hint ← here
    settle hint {} (← condition fuel)
  colon

/-- Drops the next token, but keeps the comments before it. -/
def dropToken : Scribing Unit := do
  let t ← peek
  skip
  modify fun s => { s with leaves := withRemarks s.level s.leaves t.remarks }

/-- The first line of a class up to its colon; brackets without a base are dropped when
they follow the name. -/
def classHead (fuel : Nat) : Scribing Unit := do
  keyword "class"
  name
  let typed ← typeHead fuel
  if ← next "(" then
    if !typed && (← secondIn [")"]) then
      dropToken
      dropToken
    else
      let pair ← opening "(" .call
      if !(← next ")") then arguments fuel 0 false
      closing ")" pair .call
  colon

/-- What a handler catches, and its name.  Brackets around several errors stay if the
text may be meant for a release that needs them. -/
def caught (fuel : Nat) : Scribing Unit := do
  keyword "except"
  if ← next "*" then
    asks 11
    tight
    leaf .mark
    space
  if !(← next ":") then
    let start ← here
    let shape ← condition fuel
    let bare := (← get).least ≥ 14 && !(← nextIn ["as", ","])
    settle start { tuples := !bare, spreads := false } shape
    if ← next "," then
      asks 14
      comma
      otherErrors fuel
    if ← next "as" then
      infixed .word none
      let _ ← term fuel
  colon
where
  /-- The errors after the first one. -/
  otherErrors : Nat → Scribing Unit
    | 0 => failure
    | fuel + 1 => do
      let _ ← term fuel
      if ← next "," then
        comma
        if !(← next ":") then otherErrors fuel

/-! ### Contexts -/

/-- The leaves up to a comma of the given level, as often as there is one. -/
def itemPlaces (level : Nat) : Nat → Nat → List Leaf → List (Nat × Nat)
  | start, place, [] => if start < place then [(start, place)] else []
  | start, place, l :: rest =>
    if l.isComma && l.level == level then
      (start, place) :: itemPlaces level (place + 1) (place + 1) rest
    else itemPlaces level start (place + 1) rest

/-- The expression that a pair of brackets holds, as far as that decides over the
brackets: the leaves between them and their level are given. -/
def heldShape (level : Nat) (leaves : List Leaf) : Shape :=
  let outer := leaves.filter (·.level == level)
  let commas := (outer.filter (·.isComma)).length
  let spreads := (itemPlaces level 0 0 leaves).any fun (start, _) =>
    (leaves[start]?.map (·.isMark "*")).getD false
  match leaves with
  | [] => .nothing
  | first :: _ =>
    if commas > 0 then
      let count := (itemPlaces level 0 0 leaves).length
      .tuple count spreads (outer.any (·.isMark ":="))
    else if first.isWord "yield" then .yielding
    else if outer.any fun l => l.break? == some loopStrength then .generator
    else if outer.any (·.isMark ":=") then .binding
    else .other

/-- The place of the bracket that closes the one at the given place. -/
def closingPlace? (leaves : Array Leaf) (place : Nat) : Option Nat := do
  let opened ← leaves[place]?
  if opened.kind == .opening && opened.text == "(" then
    leaves.findIdx? fun l => l.kind == .closing && l.pair == opened.pair
  else none

/-- The brackets that stay around contexts. -/
def contextKeeping : Keeping := { tuples := false, ones := false }

/-- The leaves without the brackets around the context between two places, where they say
nothing: around the context itself, around those inside its brackets, and around the value
that is given a name. -/
def loosenContext : Nat → Nat → Nat → Array Leaf → Array Leaf
  | 0, _, _, leaves => leaves
  | fuel + 1, start, stop, leaves =>
    match closingPlace? leaves start with
    | none => leaves
    | some last =>
      let inner := (leaves.extract (start + 1) last).toList
      let level := (leaves[start]?.map (·.level)).getD 0 + 1
      let shape := heldShape level inner
      let named := (leaves[last + 1]?.map (·.isWord "as")).getD false && last + 1 < stop
      let blank := fun (l : Leaf) => { l with text := "" }
      let hidden :=
        if contextKeeping.drops shape then (leaves.modify start blank).modify last blank
        else leaves
      if last + 1 == stop then
        (itemPlaces level (start + 1) (start + 1) inner).foldl
          (fun leaves (first, last) => loosenContext fuel first last leaves) hidden
      else if named then
        if (leaves.extract start stop).any (·.isMark ":=") then leaves else hidden
      else leaves

/-- The leaves of a line without pairs of brackets that are not written and directly
inside another such pair. -/
def withoutNested : List Leaf → List Leaf
  | [] => []
  | l :: rest =>
    let rest := withoutNested rest
    if l.kind == .opening && l.isHidden then
      match rest with
      | inner :: more =>
        let after := (more.dropWhile fun m => !(m.kind == .closing && m.pair == inner.pair)).drop 1
        let closes := (after.head?.map fun m => m.kind == .closing && m.pair == l.pair).getD false
        if inner.kind == .opening && inner.isHidden && closes then
          l :: more.filter fun m => !(m.isBracket && m.pair == inner.pair)
        else l :: rest
      | [] => [l]
    else l :: rest

/-- The contexts that are opened, and their names. -/
def contexts : Nat → Scribing Unit
  | 0 => failure
  | fuel + 1 => do
    let start ← here
    let _ ← enclose start (← condition fuel)
    if ← next "as" then
      infixed .word none
      let _ ← term fuel
    if ← next "," then
      comma
      contexts fuel

/-- The first line of a block with contexts, up to its colon. -/
def contextHead (fuel : Nat) : Scribing Unit := do
  keyword "with"
  let start ← here
  contexts fuel
  let leaves := (← get).leaves
  let whole := closingPlace? leaves start == some (leaves.size - 1)
  let level := (← get).level
  if whole && (leaves.extract (start + 1) leaves.size).any
      (fun l => l.isWord "as" && l.level == level + 1) then asks 9
  let items := itemPlaces level start start (leaves.extract start leaves.size).toList
  let leaves := items.foldl
    (fun leaves (first, last) => loosenContext (leaves.size + 1) first last leaves) leaves
  modify fun s => { s with leaves := (withoutNested leaves.toList).toArray }
  if (← get).least ≥ 9 && !whole then wrap start false .atom
  colon

/-! ### Patterns -/

/-- A pattern, and the name of what it matches. -/
def pattern (fuel : Nat) : Scribing Shape := do
  let shape ← target fuel
  if ← next "as" then
    infixed .word none
    let _ ← operation fuel targetBinding
    return .other
  else return shape

/-- The patterns after a first one. -/
def morePatterns : Nat → Scribing Unit
  | 0 => failure
  | fuel + 1 => do
    if ← next "," then
      comma
      if (← peek).startsOperand then
        let _ ← pattern fuel
        morePatterns fuel

/-- The first line of a case up to its colon. -/
def caseHead (fuel : Nat) : Scribing Unit := do
  keyword "case"
  let start ← here
  let shape ← pattern fuel
  if ← next "," then
    morePatterns fuel
    wrap start false .atom
  else settle start { bindings := false } shape
  if ← next "if" then
    infixed .word none
    settledCondition fuel
  colon

/-- The values after the first ones that are matched. -/
def moreSubjects : Nat → Scribing Unit
  | 0 => failure
  | fuel + 1 => do
    if ← next "," then
      comma
      if (← peek).startsOperand then
        let start ← here
        let _ ← enclose start (← element fuel)
        moreSubjects fuel

/-- The first line of a block of cases, up to its colon; a case has to follow. -/
def matchHead (fuel : Nat) : Scribing Unit := do
  keyword "match"
  let start ← here
  let _ ← enclose start (← element fuel)
  moreSubjects fuel
  colon
  match (← get).tokens with
  | ending :: indent :: rest =>
    let case? := (rest.dropWhile (·.kind == .remark)).head?
    if ending.kind != .lineEnd || indent.kind != .indent then failure
    match case? with
    | some t => if !(t.isText "case" || t.kind == .verbatim) then failure
    | none => failure
  | _ => failure
  asks 10

/-- Whether the leaves of a decorator are a name with attributes and at most one call, at
its end. -/
def isPlainDecorator : List Leaf → Bool
  | [] => false
  | l :: rest =>
    if l.kind != .word then false
    else match rest with
      | [] => true
      | dot :: more =>
        if dot.isMark "." then isPlainDecorator more
        else dot.kind == .opening && dot.text == "(" &&
          (rest.findIdx? fun m => m.kind == .closing && m.pair == dot.pair) ==
            some (rest.length - 1)

/-- The line of a decorator. -/
def decorator (fuel : Nat) : Scribing Unit := do
  mark "@"
  let start ← here
  let _ ← enclose start (← named fuel)
  if !isPlainDecorator ((← get).leaves.toList.drop 1) then asks 9
  finishLine

/-! ### Blocks -/

/-- An indented block with the given content. -/
def indented (content : Scribing Unit) : Scribing Unit := do
  if !(← nextKind .indent) then failure
  skip
  modify fun s => { s with depth := s.depth + 1 }
  content
  if !(← nextKind .dedent) then failure
  skip
  modify fun s => { s with depth := s.depth - 1 }

mutual

/-- The block after a colon.  A function or class without content stays on one line. -/
def block : Nat → Bool → Bool → Scribing Unit
  | 0, _, _ => failure
  | fuel + 1, stubs, documents => do
    let tokens := (← get).tokens
    if stubs && isStubBlock tokens then
      skip
      skip
      space
      leaf .mark
      finishLine
      skip
    else if stubs && isStubLine tokens then
      space
      leaf .mark
      finishLine
    else if ← nextKind .lineEnd then
      finishLine
      indented (statements fuel true)
    else
      endLine
      modify fun s => { s with depth := s.depth + 1 }
      simpleLine documents fuel
      modify fun s => { s with depth := s.depth - 1 }

/-- The block of a line that stays as it is, with the blocks that belong to it. -/
def headless : Nat → Scribing Unit
  | 0 => failure
  | fuel + 1 => do
    let t ← peek
    leaf .remark
    endLine
    if ← nextKind .lineEnd then
      skip
      indented (if startsWith t.text "match" then cases fuel else statements fuel true)
    others fuel

/-- The blocks that other ones may have. -/
def others : Nat → Scribing Unit
  | 0 => failure
  | fuel + 1 => do
    if ← continues ["elif", "else", "except", "finally"] then
      remarkLines fuel
      if ← next "elif" then
        keyword "elif"
        settledCondition fuel
        colon
      else if ← next "except" then caught fuel
      else
        leaf .word
        colon
      block fuel false false
      others fuel

/-- A block that another one may have, after the given word. -/
def otherBlock : Nat → String → Scribing Unit
  | 0, _ => failure
  | fuel + 1, word => do
    if ← continues [word] then
      remarkLines fuel
      leaf .word
      colon
      block fuel false false

/-- The conditions after a first one that failed. -/
def alternatives : Nat → Scribing Unit
  | 0 => failure
  | fuel + 1 => do
    if ← continues ["elif"] then
      remarkLines fuel
      keyword "elif"
      settledCondition fuel
      colon
      block fuel false false
      alternatives fuel
    else otherBlock fuel "else"

/-- The handlers of a block. -/
def handlers : Nat → Scribing Unit
  | 0 => failure
  | fuel + 1 => do
    if ← continues ["except"] then
      remarkLines fuel
      caught fuel
      block fuel false false
      handlers fuel

/-- The cases of a block, each with its own block. -/
def cases : Nat → Scribing Unit
  | 0 => failure
  | fuel + 1 => do
    remarkLines fuel
    if ← nextKind .verbatim then
      headless fuel
      cases fuel
    else if ← next "case" then
      caseHead fuel
      block fuel false false
      cases fuel

/-- The functions and classes that are decorated. -/
def decorated : Nat → Scribing Unit
  | 0 => failure
  | fuel + 1 => do
    if ← next "@" then
      decorator fuel
      remarkLines fuel
      decorated fuel
    else if ← nextKind .verbatim then
      headless fuel
      remarkLines fuel
      if ← nextIn ["@", "def", "class", "async"] then decorated fuel
    else if ← nextIn ["def", "class", "async"] then statement fuel false
    else failure

/-- One statement; it may document the block that it opens. -/
def statement : Nat → Bool → Scribing Unit
  | 0, _ => failure
  | fuel + 1, documents => do
    if ← next "if" then
      keyword "if"
      settledCondition fuel
      colon
      block fuel false false
      alternatives fuel
    else if ← next "while" then
      keyword "while"
      settledCondition fuel
      colon
      block fuel false false
      otherBlock fuel "else"
    else if ← next "for" then
      keyword "for"
      let start ← here
      settle start { tuples := false } (← targets fuel)
      if !(← next "in") then failure
      infixed .word none
      let source ← here
      settle source {} (← values fuel)
      colon
      block fuel false false
      otherBlock fuel "else"
    else if ← next "try" then
      leaf .word
      colon
      block fuel false false
      let stays := ((← afterRemarks).map (·.kind == .verbatim)).getD false
      if !(stays || (← continues ["except", "finally"])) then failure
      handlers fuel
      otherBlock fuel "else"
      otherBlock fuel "finally"
    else if ← next "with" then
      contextHead fuel
      block fuel false false
    else if ← next "class" then
      classHead fuel
      block fuel true false
    else if ← next "def" then
      functionHead fuel
      block fuel true true
    else if (← next "async") && (← secondIn ["def", "for", "with"]) then
      leaf .word
      space
      statement fuel false
    else if ← next "@" then decorated fuel
    else if ← nextKind .verbatim then headless fuel
    else if ← next "match" then
      let start ← get
      match (matchHead fuel).run start with
      | some (_, s) =>
        set s
        finishLine
        indented (cases fuel)
      | none => simpleLine documents fuel
    else simpleLine documents fuel

/-- The statements up to the end of a block; the first may document it. -/
def statements : Nat → Bool → Scribing Unit
  | 0, _ => failure
  | fuel + 1, documents => do
    if ← nextKind .remark then
      leaf .remark
      endLine
      statements fuel documents
    else if (← nextKind .dedent) || (← nextKind .finish) then pure ()
    else if ← nextKind .indent then failure
    else
      statement fuel documents
      statements fuel false

end

/-- The statements of a whole text. -/
def wholeText (fuel : Nat) : Scribing Unit := do
  statements fuel true
  if !(← nextKind .finish) then failure

/-- The lines of a text that is read as the given tokens, and the release of the language
that it needs, or nothing when it is not well formed; `least` is known of the release. -/
def linesOf? (fuel least : Nat) (tokens : List Token) : Option (List Line × Nat) := do
  let (_, s) ← (wholeText fuel).run { tokens, least }
  return (s.lines.reverse, s.release)

end Layout
end TableCast
