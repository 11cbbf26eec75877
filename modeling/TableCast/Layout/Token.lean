import TableCast.Layout.Quote
import TableCast.Layout.Remark

/-!
# The tokens of a Python text

A text read as tokens, with its lines and blocks marked.

- `Token`, `TokenKind`: a token and what it is.
- `numberAt?`, `markAt?`: the number and the mark that a text starts with.
- `tokens?`: the tokens of a text, or nothing when it has none.

A comment on a line of its own is a token when it stands between statements, and
belongs to the token after it when it stands inside brackets.  Such a comment is
counted to the innermost block that it is indented for.
-/

namespace TableCast
namespace Layout

open Text

/-- What a token is. -/
inductive TokenKind where
  | name
  | number
  | literal
  | mark
  | lineEnd
  | indent
  | dedent
  | remark
  | verbatim
  | finish
deriving DecidableEq, Repr, Inhabited

/-- One token. -/
structure Token where
  kind : TokenKind
  text : String := ""
  /-- The number of blank lines before it, for the first token of a line. -/
  blanks : Nat := 0
  /-- Whether a page ends in the blank lines before it. -/
  newPage : Bool := false
  /-- The comments between the token before and this one. -/
  remarks : List Remark := []
  start : Nat := 0
  stop : Nat := 0
  /-- The line that it starts in. -/
  row : Nat := 0
deriving Repr, Inhabited

namespace Token

/-- Whether the token is the given word or mark. -/
def isText (t : Token) (text : String) : Bool :=
  (t.kind == .name || t.kind == .mark) && t.text == text

/-- Whether the token opens brackets. -/
def opens (t : Token) : Bool :=
  t.kind == .mark && ["(", "[", "\x7b"].contains t.text

/-- Whether the token closes brackets. -/
def closes (t : Token) : Bool :=
  t.kind == .mark && [")", "]", "\x7d"].contains t.text

end Token

/-- The marks, a longer one before the marks that it starts with. -/
def marks : List String :=
  ["**=", "//=", ">>=", "<<=", "...", "!=", "%=", "&=", "**", "*=", "+=", "-=", "->", "//", "/=",
    ":=", "<<", "<=", "<>", "==", ">=", ">>", "@=", "^=", "|=", "+", "-", "*", "/", "%", "@",
    "&", "|", "^", "~", "<", ">", "(", ")", "[", "]", "\x7b", "\x7d", ",", ":", ";", ".", "=",
    "\x60"]

/-- The mark that a text starts with. -/
def markAt? (cs : List Char) : Option String :=
  marks.find? fun m => m.toList.isPrefixOf cs

/-- The digits at the start of a text, with the lines between them. -/
def digitRun (isDigit : Char → Bool) (cs : List Char) : List Char :=
  cs.takeWhile fun c => isDigit c || c == '_'

/-- The exponent at the start of a text. -/
def exponentRun (cs : List Char) : List Char :=
  match cs with
  | e :: rest =>
    if e == 'e' || e == 'E' then
      let sign := (rest.takeWhile fun c => c == '+' || c == '-').take 1
      let digits := digitRun isAsciiDigit (rest.drop sign.length)
      match digits with
      | d :: _ => if isAsciiDigit d then e :: sign ++ digits else []
      | [] => []
    else []
  | [] => []

/-- The number in base ten that a text starts with. -/
def decimalRun (cs : List Char) : List Char :=
  let whole := digitRun isAsciiDigit cs
  let afterWhole := cs.drop whole.length
  let fraction := match afterWhole with
    | '.' :: rest => '.' :: digitRun isAsciiDigit rest
    | _ => []
  let afterFraction := afterWhole.drop fraction.length
  let exponent := exponentRun afterFraction
  let unit := (afterFraction.drop exponent.length).takeWhile (fun c => c == 'j' || c == 'J')
  whole ++ fraction ++ exponent ++ unit.take 1

/-- The digits of a base that is written with a letter. -/
def baseDigits? (letter : Char) : Option (Char → Bool) :=
  if letter == 'x' || letter == 'X' then
    some fun c => isAsciiDigit c || ('a' ≤ c && c ≤ 'f') || ('A' ≤ c && c ≤ 'F')
  else if letter == 'o' || letter == 'O' then some fun c => '0' ≤ c && c ≤ '7'
  else if letter == 'b' || letter == 'B' then some fun c => c == '0' || c == '1'
  else none

/-- The number that a text starts with. -/
def numberAt? (cs : List Char) : Option String :=
  let run := match cs with
    | '0' :: letter :: rest =>
      match baseDigits? letter with
      | some isDigit => '0' :: letter :: digitRun isDigit rest
      | none => decimalRun cs
    | c :: _ => if isAsciiDigit c then decimalRun cs else []
    | [] => []
  let run := match run, cs with
    | [], '.' :: d :: _ => if isAsciiDigit d then decimalRun cs else []
    | _, _ => run
  if run.isEmpty then none else some (String.ofList run)

/-- The kind of the token that a text starts with, and its text. -/
def tokenAt? (fuel : Nat) (cs : List Char) : Option (TokenKind × String) :=
  match opening? cs with
  | some _ => (literalLength? fuel cs).map fun n => (.literal, String.ofList (cs.take n))
  | none =>
    match numberAt? cs with
    | some text => some (.number, text)
    | none =>
      match markAt? cs with
      | some text => some (.mark, text)
      | none =>
        let name := cs.takeWhile isNameCharacter
        if name.isEmpty then none else some (.name, String.ofList name)

/-- What has been read of a text. -/
structure Reading where
  tokens : List Token := []
  /-- The indentations of the open blocks, the innermost first. -/
  indents : List (List Char) := []
  /-- How many brackets are open. -/
  brackets : Nat := 0
  /-- The blank lines since the last line. -/
  blanks : Nat := 0
  /-- Whether a page ends in them. -/
  newPage : Bool := false
  /-- The comments that have no token yet, the latest first. -/
  remarks : List Remark := []
  /-- Whether a statement has begun on this line. -/
  inLine : Bool := false
  /-- Whether only blanks came since the last end of a line. -/
  fresh : Bool := true
  /-- How much has been read. -/
  place : Nat := 0
  /-- Where the last token, comment or line ends. -/
  lead : Nat := 0
  row : Nat := 1
deriving Inhabited

namespace Reading

/-- The reading with so many more characters, of which so many end lines. -/
def advance (r : Reading) (characters rows : Nat) : Reading :=
  { r with place := r.place + characters, row := r.row + rows }

/-- The reading with one more token. -/
def put (r : Reading) (kind : TokenKind) (text : String) : Reading :=
  let stop := r.place + text.length
  let token : Token := {
    kind, text, blanks := r.blanks, newPage := r.newPage, remarks := r.remarks.reverse
    start := r.place, stop, row := r.row }
  { r with
    tokens := token :: r.tokens
    blanks := 0
    newPage := false
    remarks := []
    fresh := false
    place := stop
    lead := stop
    row := r.row + text.toList.count '\n' }

/-- The reading with one more comment. -/
def putRemark (r : Reading) (cs : List Char) (alone : Bool) (column : Nat) : Reading :=
  let stop := r.place + cs.length
  let remark : Remark := {
    text := remarkForm cs, alone, column, blanks := r.blanks, newPage := r.newPage
    lead := r.lead, start := r.place, stop }
  { r with
    remarks := remark :: r.remarks, blanks := 0, newPage := false, place := stop, lead := stop }

/-- A comment on a line of its own as a token. -/
def remarkToken (remark : Remark) : Token :=
  { kind := .remark, text := remark.text, blanks := remark.blanks, newPage := remark.newPage
    start := remark.start, stop := remark.stop }

/-- The reading with comments between statements. -/
def putRemarks (r : Reading) (remarks : List Remark) : Reading :=
  { r with tokens := (remarks.map remarkToken).reverse ++ r.tokens }

/-- The blocks that a line with the given indentation ends, each after the comments that
are indented for it. -/
def close (indent : List Char) :
    List (List Char) → Reading → List Remark → Option (Reading × List Remark)
  | [], r, remarks => if indent.isEmpty then some (r, remarks) else none
  | top :: rest, r, remarks =>
    if indent.length < top.length then
      let inner := remarks.takeWhile fun remark => top.length ≤ remark.column
      let r := r.putRemarks inner
      close indent rest { r with tokens := { kind := .dedent } :: r.tokens, indents := rest }
        (remarks.drop inner.length)
    else if indent == top then some (r, remarks)
    else none

/-- The reading at the first token of a line with the given indentation. -/
def startLine (r : Reading) (indent : List Char) : Option Reading := do
  let remarks := r.remarks.reverse
  let r := { r with remarks := [], inLine := true }
  let current := r.indents.headD []
  if current.length < indent.length then
    if !occursIn current indent then none
    else
      let r := { r with tokens := { kind := .indent } :: r.tokens, indents := indent :: r.indents }
      return r.putRemarks remarks
  else
    let (r, rest) ← Reading.close indent r.indents r remarks
    return r.putRemarks rest

/-- The reading after the end of a line that holds nothing but the given blanks. -/
def blankLine (r : Reading) (gap : List Char) : Reading :=
  let r := r.advance 1 1
  { r with
    blanks := r.blanks + 1, newPage := r.newPage || gap.contains '\x0c', lead := r.place }

end Reading

/-- Whether a character may stand between tokens. -/
def isGap (c : Char) : Bool :=
  c == ' ' || c == '\t' || c == '\x0c'

/-- The blanks that a line is indented by: those after the last end of a page. -/
def indentation (gap : List Char) : List Char :=
  (gap.reverse.takeWhile (· != '\x0c')).reverse

/-- What follows a sign that continues a line, and how many characters are before it. -/
def continued? (cs : List Char) : Option (Nat × List Char) :=
  let gap := cs.takeWhile isGap
  match cs.drop gap.length with
  | '\n' :: rest => some (gap.length + 1, rest)
  | _ => none

/-- The reading of a text, one token, comment or line end at a time. -/
def readFrom : Nat → Reading → List Char → Option Reading
  | 0, _, _ => none
  | fuel + 1, r, cs =>
    if !r.inLine then
      let gap := cs.takeWhile isGap
      let rest := cs.drop gap.length
      let r := r.advance gap.length 0
      match rest with
      | [] => do
        let (r, remarks) ← Reading.close [] r.indents { r with remarks := [] } r.remarks.reverse
        return (r.putRemarks remarks).put .finish ""
      | '#' :: _ =>
        let text := rest.takeWhile (· != '\n')
        let r := (r.putRemark text true (indentation gap).length).advance 1 1
        readFrom fuel { r with lead := r.place } (rest.drop (text.length + 1))
      | '\n' :: after => readFrom fuel (r.blankLine gap) after
      | '\\' :: after => do
        let (n, after) ← continued? after
        readFrom fuel ((r.advance n 0).blankLine []) after
      | _ => do
        let r ← r.startLine (indentation gap)
        readFrom fuel { r with lead := r.place } rest
    else
      match cs with
      | [] => none
      | '\n' :: after =>
        if r.brackets == 0 then
          let r := ({ r with blanks := 0 }.put .lineEnd "").advance 1 1
          readFrom fuel { r with inLine := false, fresh := true, lead := r.place } after
        else
          let r := r.advance 1 1
          readFrom fuel { r with fresh := true, lead := r.place } after
      | '#' :: _ =>
        let text := cs.takeWhile (· != '\n')
        readFrom fuel (r.putRemark text r.fresh 0) (cs.drop text.length)
      | '\\' :: rest => do
        let (n, after) ← continued? rest
        readFrom fuel (r.advance (n + 1) 1) after
      | c :: rest =>
        if isGap c then readFrom fuel (r.advance 1 0) rest
        else do
          let (kind, text) ← tokenAt? fuel cs
          let read := r.put kind text
          let token : Token := { kind, text }
          let brackets :=
            if token.opens then r.brackets + 1
            else if token.closes then r.brackets - 1
            else r.brackets
          readFrom fuel { read with brackets } (cs.drop text.length)

/-- The tokens of a text, or nothing when it is not a sequence of tokens. -/
def tokens? (text : String) : Option (List Token) :=
  let cs := text.toList
  let cs := if endsWith text "\n" then cs else cs ++ ['\n']
  (readFrom (2 * cs.length + 2) {} cs).map (·.tokens.reverse)

end Layout
end TableCast
