import TableCast.Layout.Token

/-!
# Parts of a text that stay as they are

Comments may turn the layout off, on again, or skip a line.  What they ask for is done to
the tokens of a text: those that stay as they are become a single one.

- `statementLength`: how many tokens a statement has, with its blocks.
- `hideStatements`: the tokens of a text with the statements hidden that stay as they are.
- `hideElements`: the tokens of a line with the elements hidden that stay as they are.
-/

namespace TableCast
namespace Layout

open Text

/-- The part of a text between two places. -/
def slice (source : List Char) (start stop : Nat) : String :=
  String.ofList ((source.drop start).take (stop - start))

/-- Whether a token is a comment with the directive. -/
def Token.directs (t : Token) (directive : Directive) : Bool :=
  t.kind == .remark && directive.isIn t.text

/-- Whether a comment before a token turns the layout on, and none after it off again. -/
def turnsOn (remarks : List String) : Bool :=
  remarks.foldl (fun on text =>
    if Directive.on.isIn text then true else if Directive.off.isIn text then false else on) false

/-! ### Statements -/

/-- How many tokens the block at the start of some tokens has. -/
def blockLength : Nat → List Token → Nat
  | _, [] => 0
  | depth, t :: rest =>
    if t.kind == .indent then blockLength (depth + 1) rest + 1
    else if t.kind == .dedent then if depth ≤ 1 then 1 else blockLength (depth - 1) rest + 1
    else blockLength depth rest + 1

/-- How many tokens the line at the start of some tokens has, up to its end. -/
def lineLength : List Token → Nat
  | [] => 0
  | t :: rest => if t.kind == .lineEnd then 1 else lineLength rest + 1

/-- How many of the first tokens are comments. -/
def remarkCount (tokens : List Token) : Nat :=
  (tokens.takeWhile (·.kind == .remark)).length

/-- The words that go on with a statement after a block. -/
def continuations : List String :=
  ["elif", "else", "except", "finally"]

/-- How many tokens the statement at the start of some tokens has, with its blocks up to one
that comes after a comment that turns the layout on. -/
def statementLength : Nat → List Token → Nat
  | 0, _ => 0
  | fuel + 1, tokens =>
    let line := lineLength tokens
    let rest := tokens.drop line
    let decorates := (tokens.head?.map (·.isText "@")).getD false
    let block := match rest with
      | t :: _ => if t.kind == .indent then blockLength 0 rest else 0
      | [] => 0
    let rest := rest.drop block
    let remarks := remarkCount rest
    match rest.drop remarks with
    | t :: _ =>
      let goesOn := t.kind == .name && continuations.contains t.text &&
        !turnsOn ((rest.take remarks).map (·.text))
      if decorates || goesOn then
        line + block + remarks + statementLength fuel (rest.drop remarks)
      else line + block
    | [] => line + block

/-- How many tokens the decorators at the start of some tokens have, when a comment turns
the layout on before what they decorate. -/
def decoratorLength? : Nat → List Token → Option Nat
  | 0, _ => none
  | fuel + 1, tokens =>
    match tokens with
    | [] => none
    | t :: _ =>
      if t.isText "@" then
        let line := lineLength tokens
        let rest := tokens.drop line
        let remarks := remarkCount rest
        let after := rest.drop remarks
        if (after.head?.map (·.isText "@")).getD false then
          (decoratorLength? fuel after).map (· + line + remarks)
        else if turnsOn ((rest.take remarks).map (·.text)) then some line
        else none
      else none

/-- How many tokens stay as they are from a statement on: the statements up to one that
comes after a comment that turns the layout on, or up to the end of the block. -/
def hiddenLength : Nat → List Token → Nat
  | 0, _ => 0
  | fuel + 1, tokens =>
    match decoratorLength? (fuel + 1) tokens with
    | some n => n
    | none =>
      let length := statementLength (fuel + 1) tokens
      let rest := tokens.drop length
      let remarks := remarkCount rest
      match rest.drop remarks with
      | [] => length
      | t :: _ =>
        if t.kind == .dedent || t.kind == .finish then length
        else if turnsOn ((rest.take remarks).map (·.text)) then length
        else length + remarks + hiddenLength fuel (rest.drop remarks)

/-- Where the text of some tokens ends, the end of their last line apart. -/
def endPlace (tokens : List Token) : Nat :=
  match tokens.reverse.dropWhile fun t => t.kind == .dedent || t.kind == .indent with
  | t :: _ => if t.kind == .lineEnd then t.start else t.stop
  | [] => 0

/-- A comment with the text after its line up to a place, as one token. -/
def hiddenAfter (source : List Char) (remark : Token) (stop : Nat) : Token :=
  { remark with
    kind := .verbatim, text := remark.text ++ "\n" ++ slice source (remark.stop + 1) stop, stop }

/-- The comments before a statement, those joined that lie between one that turns the
layout off and one that turns it on. -/
def joinRemarks (source : List Char) : Nat → List Token → List Token
  | 0, tokens => tokens
  | _, [] => []
  | fuel + 1, t :: rest =>
    match rest.find? (·.directs .on) with
    | some last =>
      if t.directs .off then
        { hiddenAfter source t last.stop with kind := .remark } ::
          joinRemarks source fuel ((rest.dropWhile (!·.directs .on)).drop 1)
      else t :: joinRemarks source fuel rest
    | none => t :: rest

/-- Whether a token is a comment that turns the layout off for what comes after it. -/
def Token.turnsOff (t : Token) : Bool :=
  t.directs .off && !t.text.toList.contains '\n'

/-- How many tokens the decorators at the start of some tokens have. -/
def decoratorsLength : Nat → List Token → Nat
  | 0, _ => 0
  | fuel + 1, tokens =>
    let line := lineLength tokens
    let rest := tokens.drop line
    let remarks := remarkCount rest
    let after := rest.drop remarks
    if (after.head?.map (·.isText "@")).getD false then
      line + remarks + decoratorsLength fuel after
    else line

/-- The end of the last of some tokens' lines, when a block comes after it. -/
def lineEndBefore (kept rest : List Token) : List Token :=
  match kept.getLast?, rest with
  | some ending, t :: _ => if t.kind == .indent then [{ ending with remarks := [] }] else []
  | _, _ => []

/-- Whether a comment that turns the layout on comes first in the block after a line. -/
def opensVisible (tokens : List Token) : Bool :=
  match tokens.drop (lineLength tokens) with
  | t :: rest =>
    t.kind == .indent && turnsOn ((rest.takeWhile (·.kind == .remark)).map (·.text))
  | [] => false

/-- How many tokens stay as they are from a token on that begins a statement or goes on
with one; `decorated` tells whether decorators come before it. -/
def keptLength (decorated : Bool) (tokens : List Token) : Nat :=
  let fuel := tokens.length
  match tokens with
  | [] => 0
  | t :: _ =>
    if t.kind == .name && continuations.contains t.text then
      if opensVisible tokens then lineLength tokens else statementLength fuel tokens
    else if !decorated then hiddenLength fuel tokens
    else if t.isText "@" then decoratorsLength fuel tokens
    else statementLength fuel tokens

/-- A line of a text that stays as it is, up to a comment that asks for it. -/
def hiddenLine (source : List Char) (tokens : List Token) (remark : Remark) : Token :=
  let first := tokens.headD default
  { first with
    kind := .verbatim
    text := slice source first.start remark.lead ++ slice source remark.lead remark.start ++
      remark.text
    remarks := []
    stop := remark.stop }

/-! ### Elements -/

/-- How many tokens come before the bracket that closes the ones that are open. -/
def elementsLength : Nat → List Token → Nat
  | _, [] => 0
  | depth, t :: rest =>
    if t.opens then elementsLength (depth + 1) rest + 1
    else if t.closes then if depth == 0 then 0 else elementsLength (depth - 1) rest + 1
    else elementsLength depth rest + 1

/-- How many tokens come before one between the open brackets that follows a comment that
turns the layout on. -/
def beforeOn : Nat → List Token → Nat
  | _, [] => 0
  | depth, t :: rest =>
    if depth == 0 && turnsOn (t.remarks.map (·.text)) then 0
    else
      let depth := if t.opens then depth + 1 else if t.closes then depth - 1 else depth
      beforeOn depth rest + 1

/-- The comments before a token, those joined that lie between one that turns the layout
off and one that turns it on. -/
def joinElementRemarks (source : List Char) : List Remark → List Remark
  | [] => []
  | r :: rest =>
    if r.alone && Directive.off.isIn r.text then
      match rest.find? fun later => Directive.on.isIn later.text with
      | some last =>
        { r with text := r.text ++ "\n" ++ slice source (r.stop + 1) last.stop } ::
          (rest.dropWhile fun later => !Directive.on.isIn later.text).drop 1
      | none => r :: joinElementRemarks source rest
    else r :: joinElementRemarks source rest

/-- Whether the brackets among some tokens match. -/
def isBalanced (tokens : List Token) : Bool :=
  let step := fun (state : Nat × Bool) (t : Token) =>
    let (depth, fine) := state
    if t.opens then (depth + 1, fine)
    else if t.closes then (depth - 1, fine && depth != 0)
    else (depth, fine)
  let (depth, fine) := tokens.foldl step (0, true)
  fine && depth == 0

/-- The elements before a token that stay as they are because of the comment after them:
those of the same line of the text, or all between two brackets if the last of them has
the comment.  The tokens before come with the last first; the answer is the same tokens
with the given one, and the elements as one token or, with a comma at their end, as a
comment. -/
def hideRow? (source : List Char) (before : List Token) (t : Token) : Option (List Token) :=
  match t.remarks, before with
  | remark :: remarks, last :: _ =>
    if remark.alone || t.kind == .lineEnd || !Directive.skip.isIn remark.text then none
    else
      let run : List Token :=
        if t.closes then before.takeWhile fun d => !(d.opens && d.row < last.row)
        else before.takeWhile fun d => d.row == last.row
      let earlier := before.drop run.length
      if run.isEmpty || earlier.isEmpty || !isBalanced run then none
      else
        let kept := hiddenLine source run.reverse remark
        let attached := (run.getLast?.map (·.remarks)).getD []
        if last.isText "," then
          some ({ t with remarks := attached ++ { text := kept.text } :: remarks } :: earlier)
        else some ({ t with remarks } :: { kept with remarks := attached } :: earlier)
  | _, _ => none

/-- The words between two operands. -/
def operatorWords : List String :=
  ["and", "or", "not", "in", "is", "if", "else", "for"]

/-- Whether an operator can follow the token. -/
def Token.endsOperand (t : Token) : Bool :=
  match t.kind with
  | .name => !(operatorWords.contains t.text || ["lambda", "await"].contains t.text)
  | .mark => t.closes
  | _ => true

/-- Whether the token can be an operator, a comma or a bracket after an operand. -/
def Token.followsOperand (t : Token) : Bool :=
  match t.kind with
  | .name => operatorWords.contains t.text || t.text == "async"
  | .mark => !t.closes
  | _ => false

/-- The elements from a token on that stay as they are because of a comment before it:
those up to the closing bracket, or up to a comment that turns the layout on.  The answer
is what comes after them, with a comment more before it, or with one token more if they
are the beginning of an element. -/
def hideRun? (source : List Char) (tokens : List Token) : Option (List Token) := do
  let t ← tokens.head?
  let off ← t.remarks.find? fun r => r.alone && Directive.off.isIn r.text
  if t.closes || turnsOn (t.remarks.map (·.text)) then none
  else
    let earlier := t.remarks.takeWhile fun r => !(r.alone && Directive.off.isIn r.text)
    let bare := { t with remarks := [] } :: tokens.drop 1
    let length := min (elementsLength 0 bare) (beforeOn 0 bare)
    let last ← (tokens.take length).getLast?
    let next ← (tokens.drop length).head?
    let text := off.text ++ "\n" ++ slice source (off.stop + 1) last.stop
    if last.endsOperand && next.followsOperand then
      return { t with kind := .verbatim, text, remarks := earlier, stop := last.stop } ::
        tokens.drop length
    else
      return { next with remarks := earlier ++ { off with text } :: next.remarks } ::
        tokens.drop (length + 1)

/-- The tokens of a line with the elements hidden that stay as they are.  The tokens that
come before them come with the last first. -/
def hideElements (source : List Char) : Nat → List Token → List Token → List Token
  | 0, before, rest => before.reverse ++ rest
  | _ + 1, before, [] => before.reverse
  | fuel + 1, before, t :: rest =>
    match hideRow? source before t with
    | some before => hideElements source fuel before rest
    | none =>
      let begins := (before.head?.map fun b => b.opens || b.isText ",").getD false
      let joined := { t with remarks := joinElementRemarks source t.remarks }
      match if begins then hideRun? source (joined :: rest) else none with
      | some (next :: rest) => hideElements source fuel (next :: before) rest
      | _ => hideElements source fuel (joined :: before) rest

/-! ### Whole texts -/

/-- The tokens of a text with the statements hidden that stay as they are; `decorated`
tells whether decorators come before them. -/
def hideStatements (source : List Char) : Nat → Bool → List Token → List Token
  | 0, _, tokens => tokens
  | _, _, [] => []
  | fuel + 1, decorated, t :: rest =>
    let tokens := t :: rest
    if t.kind == .remark then
      let count := remarkCount tokens
      let after := tokens.drop count
      let joined := joinRemarks source count (tokens.take count)
      let earlier := joined.takeWhile (!·.turnsOff)
      let ends := (after.head?.map fun t => t.kind == .dedent || t.kind == .finish).getD true
      match joined.drop earlier.length with
      | off :: _ =>
        if ends then joined ++ hideStatements source fuel false after
        else
          let kept := after.take (keptLength decorated after)
          let rest := after.drop kept.length
          earlier ++ hiddenAfter source off (endPlace kept) :: lineEndBefore kept rest ++
            hideStatements source fuel false rest
      | [] => joined ++ hideStatements source fuel decorated after
    else if t.kind == .indent || t.kind == .dedent || t.kind == .finish then
      t :: hideStatements source fuel false rest
    else
      let length := lineLength tokens
      let line := tokens.take length
      let after := tokens.drop length
      let ending := line.getLast?.getD default
      let done := match ending.remarks.find? fun r => Directive.skip.isIn r.text with
        | some remark =>
          hiddenLine source line remark :: lineEndBefore line after
        | none => hideElements source (2 * line.length + 2) [] line
      done ++ hideStatements source fuel (t.isText "@") after

/-- Whether a comment of the tokens holds a directive. -/
def anyDirective (tokens : List Token) : Bool :=
  tokens.any fun t =>
    (t.kind == .remark && hasDirective t.text) || t.remarks.any fun r => hasDirective r.text

/-- The tokens of a text with all that hidden that stays as it is. -/
def hidden (source : String) (tokens : List Token) : List Token :=
  if anyDirective tokens then hideStatements source.toList (tokens.length + 1) false tokens
  else tokens

end Layout
end TableCast
