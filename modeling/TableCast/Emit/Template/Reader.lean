import TableCast.Emit.Template.Basic
import TableCast.Number.Reading

/-!
# Reading templates

The text of a template cut into segments, and the segments read as nested nodes.  Blanks
in front of a tag on its line and the line end behind it belong to the tag.

- `segments`: the segments of a text.
- `readExpr?`: an expression.
- `read?`: a template.
-/

namespace TableCast
namespace Emit
namespace Template

open Text

/-- A segment of the text of a template. -/
inductive Segment where
  | text (cs : List Char)
  | output (cs : List Char)
  | tag (cs : List Char)
deriving Repr, Inhabited

/-- The text up to a closing mark of two characters, and the rest. -/
def untilMark? (a b : Char) : List Char → Option (List Char × List Char)
  | [] => none
  | [_] => none
  | c :: d :: cs =>
    if c == a && d == b then some ([], cs)
    else (untilMark? a b (d :: cs)).map fun (inner, rest) => (c :: inner, rest)

/-- The rest of the text behind one line end. -/
def dropLineEnd : List Char → List Char × Bool
  | '\n' :: cs => (cs, true)
  | cs => (cs, false)

/-- The text (last character first) without the blanks between the start of its line and
its end, if there is nothing else on the line. -/
def dropIndent (lineStart : Bool) (reversed : List Char) : List Char :=
  let rest := reversed.dropWhile fun c => c == ' ' || c == '\t'
  match rest with
  | [] => if lineStart then [] else reversed
  | c :: _ => if c == '\n' then rest else reversed

/-- The segments of a text.  The second argument is the text read since the last segment,
last character first; the third tells whether that text starts a line. -/
def segmentsFrom : Nat → List Char → Bool → List Char → Option (List Segment)
  | 0, _, _, _ => none
  | _ + 1, before, _, [] => some [.text before.reverse]
  | fuel + 1, before, _, '\x7b' :: '\x7b' :: cs => do
    let (inner, rest) ← untilMark? '\x7d' '\x7d' cs
    let more ← segmentsFrom fuel [] false rest
    return .text before.reverse :: .output inner :: more
  | fuel + 1, before, lineStart, '\x7b' :: '%' :: cs => do
    let (inner, rest) ← untilMark? '%' '\x7d' cs
    let (rest, ended) := dropLineEnd rest
    let more ← segmentsFrom fuel [] ended rest
    return .text (dropIndent lineStart before).reverse :: .tag inner :: more
  | fuel + 1, before, lineStart, '\x7b' :: '#' :: cs => do
    let (_, rest) ← untilMark? '#' '\x7d' cs
    let (rest, ended) := dropLineEnd rest
    let more ← segmentsFrom fuel [] ended rest
    return .text (dropIndent lineStart before).reverse :: more
  | fuel + 1, before, lineStart, c :: cs => segmentsFrom fuel (c :: before) lineStart cs

/-- The segments of a text, unless a mark is not closed. -/
def segments (cs : List Char) : Option (List Segment) :=
  segmentsFrom (cs.length + 1) [] true cs

/-- A token of an expression. -/
inductive Token where
  | name (s : String)
  | int (n : Nat)
  | text (s : String)
  | sign (s : String)
deriving Repr, DecidableEq, Inhabited

/-- The tokens of an expression. -/
def tokensFrom : Nat → List Char → Option (List Token)
  | 0, _ => none
  | _ + 1, [] => some []
  | fuel + 1, c :: cs =>
    if isBlank c then tokensFrom fuel cs
    else if isAsciiDigit c then do
      let digits := (c :: cs).takeWhile isAsciiDigit
      let more ← tokensFrom fuel ((c :: cs).dropWhile isAsciiDigit)
      return .int (Number.digitsValue 0 (digits.map fun d => d.toNat - 48)) :: more
    else if isWordChar c then do
      let more ← tokensFrom fuel ((c :: cs).dropWhile isWordChar)
      return .name (String.ofList ((c :: cs).takeWhile isWordChar)) :: more
    else if c == '\'' || c == '"' then do
      let inner := cs.takeWhile (· != c)
      match cs.dropWhile (· != c) with
      | [] => none
      | _ :: rest =>
        let more ← tokensFrom fuel rest
        return .text (String.ofList inner) :: more
    else match c, cs with
      | '=', '=' :: rest => (tokensFrom fuel rest).map (.sign "==" :: ·)
      | '!', '=' :: rest => (tokensFrom fuel rest).map (.sign "!=" :: ·)
      | _, _ => (tokensFrom fuel cs).map (.sign (String.singleton c) :: ·)

/-- The tokens of an expression. -/
def tokens (cs : List Char) : Option (List Token) :=
  tokensFrom (cs.length + 1) cs

/-- The alternatives of an expression, from the loosest to the tightest. -/
inductive Level where
  | either
  | both
  | negated
  | compared
  | filtered
deriving Repr, DecidableEq

mutual

/-- An expression at the start of the tokens, and the rest. -/
def readAt? : Nat → Level → List Token → Option (Expr × List Token)
  | 0, _, _ => none
  | fuel + 1, .either, ts => do
    let (a, rest) ← readAt? fuel .both ts
    match rest with
    | .name "or" :: rest =>
      let (b, rest) ← readAt? fuel .either rest
      return (.either a b, rest)
    | _ => return (a, rest)
  | fuel + 1, .both, ts => do
    let (a, rest) ← readAt? fuel .negated ts
    match rest with
    | .name "and" :: rest =>
      let (b, rest) ← readAt? fuel .both rest
      return (.both a b, rest)
    | _ => return (a, rest)
  | fuel + 1, .negated, ts => match ts with
    | .name "not" :: rest => do
      let (a, rest) ← readAt? fuel .negated rest
      return (.negated a, rest)
    | _ => readAt? fuel .compared ts
  | fuel + 1, .compared, ts => do
    let (a, rest) ← readAt? fuel .filtered ts
    match rest with
    | .sign "==" :: rest =>
      let (b, rest) ← readAt? fuel .filtered rest
      return (.equal a b, rest)
    | .sign "!=" :: rest =>
      let (b, rest) ← readAt? fuel .filtered rest
      return (.differ a b, rest)
    | _ => return (a, rest)
  | fuel + 1, .filtered, ts => match ts with
    | .name s :: rest => readBehind? fuel (.name s) rest
    | .int n :: rest => readBehind? fuel (.int n) rest
    | .text s :: rest => readBehind? fuel (.text s) rest
    | .sign "(" :: rest => do
      let (a, rest) ← readAt? fuel .either rest
      match rest with
      | .sign ")" :: rest => readBehind? fuel a rest
      | _ => none
    | _ => none

/-- What follows an expression: parts, items and filters. -/
def readBehind? : Nat → Expr → List Token → Option (Expr × List Token)
  | 0, _, _ => none
  | fuel + 1, a, .sign "." :: .name s :: rest => readBehind? fuel (.part a s) rest
  | fuel + 1, a, .sign "[" :: rest => do
    let (position, rest) ← readAt? fuel .either rest
    match rest with
    | .sign "]" :: rest => readBehind? fuel (.item a position) rest
    | _ => none
  | fuel + 1, a, .sign "|" :: .name s :: rest => readBehind? fuel (.filtered a s) rest
  | _ + 1, a, rest => some (a, rest)

end

/-- The expression that the tokens are. -/
def exprOf? (ts : List Token) : Option Expr :=
  match readAt? (6 * ts.length + 6) .either ts with
  | some (e, []) => some e
  | _ => none

/-- The expression that the text is. -/
def readExpr? (cs : List Char) : Option Expr :=
  (tokens cs).bind exprOf?

/-- What ends the reading of a body. -/
inductive Stop where
  | finished
  | endOfChoice
  | endOfLoop
  | otherwise
  | further (condition : Expr)
deriving Repr, Inhabited

mutual

/-- The nodes up to a stop, the stop, and the segments behind it. -/
def readBody? : Nat → List Segment → Option (List Node × Stop × List Segment)
  | 0, _ => none
  | _ + 1, [] => some ([], .finished, [])
  | fuel + 1, .text cs :: rest => do
    let (nodes, stop, rest) ← readBody? fuel rest
    return (.text (String.ofList cs) :: nodes, stop, rest)
  | fuel + 1, .output cs :: rest => do
    let e ← readExpr? cs
    let (nodes, stop, rest) ← readBody? fuel rest
    return (.output e :: nodes, stop, rest)
  | fuel + 1, .tag cs :: rest => do
    match ← tokens cs with
    | .name "if" :: ts =>
      let (node, rest) ← readChoice? fuel (← exprOf? ts) rest
      let (nodes, stop, rest) ← readBody? fuel rest
      return (node :: nodes, stop, rest)
    | .name "for" :: .name binder :: .name "in" :: ts =>
      let items ← exprOf? ts
      match ← readBody? fuel rest with
      | (body, .endOfLoop, rest) =>
        let (nodes, stop, rest) ← readBody? fuel rest
        return (.loop binder items body :: nodes, stop, rest)
      | _ => none
    | [.name "else"] => return ([], .otherwise, rest)
    | .name "elif" :: ts => return ([], .further (← exprOf? ts), rest)
    | [.name "endif"] => return ([], .endOfChoice, rest)
    | [.name "endfor"] => return ([], .endOfLoop, rest)
    | _ => none

/-- The condition whose first branch starts here, and the segments behind it. -/
def readChoice? : Nat → Expr → List Segment → Option (Node × List Segment)
  | 0, _, _ => none
  | fuel + 1, condition, rest => do
    match ← readBody? fuel rest with
    | (body, .endOfChoice, rest) => return (.choice condition body [], rest)
    | (body, .otherwise, rest) =>
      match ← readBody? fuel rest with
      | (otherwise, .endOfChoice, rest) => return (.choice condition body otherwise, rest)
      | _ => none
    | (body, .further next, rest) =>
      let (node, rest) ← readChoice? fuel next rest
      return (.choice condition body [node], rest)
    | _ => none

end

/-- The template that a text is. -/
def read? (text : String) : Option (List Node) := do
  let parts ← segments text.toList
  match ← readBody? (2 * parts.length + 2) parts with
  | (nodes, .finished, _) => return nodes
  | _ => none

end Template
end Emit
end TableCast
