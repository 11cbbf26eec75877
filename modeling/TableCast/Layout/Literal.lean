import TableCast.Text.LetterCase
import TableCast.Layout.Quote

/-!
# The written form of literals

How numbers, quoted texts and documentation are written after formatting.

- `numberForm`: small letters, and digits on both sides of a point.
- `escapeForm`: escapes with small digits and capital names.
- `quotedForm`: double quotes, where they need no more escapes than single ones.
- `documentationForm`: a documentation text, indented like the block that it opens.
-/

namespace TableCast
namespace Layout

open Text

/-- The longest line that a formatted text has where it can be helped. -/
def lineLimit : Nat := 120

/-- A number with a point has a digit on each side of it. -/
def pointForm (cs : List Char) : List Char :=
  if cs.contains '.' then
    let whole := cs.takeWhile (· != '.')
    let fraction := cs.drop (whole.length + 1)
    (if whole.isEmpty then ['0'] else whole) ++ '.' ::
      (if fraction.isEmpty then ['0'] else fraction)
  else cs

/-- A number in base ten: no sign before an exponent that is not negative. -/
def decimalForm (cs : List Char) : List Char :=
  if cs.contains 'e' then
    let mantissa := cs.takeWhile (· != 'e')
    let exponent := match cs.drop (mantissa.length + 1) with
      | '+' :: digits => digits
      | digits => digits
    pointForm mantissa ++ 'e' :: exponent
  else match cs.reverse with
    | 'j' :: rest => pointForm rest.reverse ++ ['j']
    | _ => pointForm cs

/-- A number: small letters, but capital digits in base sixteen. -/
def numberForm (text : String) : String :=
  match text.toLower.toList with
  | '0' :: 'x' :: digits => "0x" ++ (String.ofList digits).toUpper
  | '0' :: 'o' :: digits => "0o" ++ String.ofList digits
  | '0' :: 'b' :: digits => "0b" ++ String.ofList digits
  | cs => String.ofList (decimalForm cs)

/-- A quoted text in parts. -/
structure Quotation where
  /-- The letters before the quote. -/
  letters : List Char
  /-- What opens and closes it. -/
  quote : List Char
  /-- What stands between the quotes. -/
  body : List Char
deriving Inhabited

namespace Quotation

/-- The parts of a quoted text. -/
def ofText (text : String) : Quotation :=
  let letters := text.toList.takeWhile fun c => c != '"' && c != '\''
  let rest := text.toList.drop letters.length
  let sign := rest.take 1
  let quote := if (sign ++ sign ++ sign).isPrefixOf rest && rest.length ≥ 6 then
    sign ++ sign ++ sign else sign
  { letters, quote, body := (rest.drop quote.length).take (rest.length - 2 * quote.length) }

/-- The quoted text as a whole. -/
def text (q : Quotation) : String :=
  String.ofList (q.letters ++ q.quote ++ q.body ++ q.quote)

/-- Whether the text may go over several lines. -/
def isLong (q : Quotation) : Bool :=
  q.quote.length == 3

/-- Whether one of the letters before the quote is the given one. -/
def has (q : Quotation) (small : Char) : Bool :=
  hasLetter q.letters small

/-- Without the letter that marks every text, and with the other letters small, the
mark of a raw text apart, which comes first. -/
def plainLetters (q : Quotation) : Quotation :=
  let letters := (q.letters.filter fun c => c != 'u' && c != 'U').map fun c =>
    if c == 'F' then 'f' else if c == 'B' then 'b' else c
  match letters with
  | [first, second] =>
    if first.toLower == 'r' then { q with letters } else { q with letters := [second, first] }
  | _ => { q with letters }

end Quotation

/-- Whether a character is a digit in base sixteen. -/
def isHexDigit (c : Char) : Bool :=
  c.isDigit || ('a' ≤ c && c ≤ 'f') || ('A' ≤ c && c ≤ 'F')

/-- How many characters after the letter of an escape belong to it, when they stand for a
number or a name. -/
def escapeLength (letter : Char) (cs : List Char) : Nat :=
  let digits := fun (n : Nat) =>
    if (cs.take n).length == n && (cs.take n).all isHexDigit then n else 0
  if letter == 'x' then digits 2
  else if letter == 'u' then digits 4
  else if letter == 'U' then digits 8
  else if letter == 'N' then
    match cs with
    | '\x7b' :: rest =>
      let name := rest.takeWhile (· != '\x7d')
      if name.isEmpty || name.length == rest.length then 0 else name.length + 2
    | _ => 0
  else 0

/-- The text with small digits and capital names in its escapes.  `escaped` tells whether
the character before is a backslash that is not escaped itself, and the next `length`
characters are a number or, if `named`, a name. -/
def escapesFrom (escaped : Bool) (length : Nat) (named : Bool) : List Char → List Char
  | [] => []
  | c :: cs =>
    match length with
    | n + 1 => (if named then c.toUpper else c.toLower) :: escapesFrom false n named cs
    | 0 =>
      if c == '\\' then c :: escapesFrom (!escaped) 0 named cs
      else if escaped then c :: escapesFrom false (escapeLength c cs) (c == 'N') cs
      else c :: escapesFrom false 0 named cs

/-- A quoted text with small digits and capital names in its escapes; a raw text has
none. -/
def escapeForm (text : String) : String :=
  match opening? text.toList with
  | some (letters, _) =>
    if hasLetter letters 'r' then text
    else String.ofList (escapesFrom false 0 false text.toList)
  | none => text

/-- Every run of backslashes before the given quote, changed in length. -/
def adjustEscapes (quote : List Char) (change : Nat → Nat) : Nat → Nat → List Char → List Char
  | run, _, [] => List.replicate run '\\'
  | run, skip + 1, c :: cs => c :: adjustEscapes quote change run skip cs
  | run, 0, c :: cs =>
    if c == '\\' then adjustEscapes quote change (run + 1) 0 cs
    else if quote.isPrefixOf (c :: cs) then
      List.replicate (change run) '\\' ++ c ::
        adjustEscapes quote change 0 (quote.length - 1) cs
    else List.replicate run '\\' ++ c :: adjustEscapes quote change 0 0 cs

/-- The text without escapes before the given quote. -/
def unescapeQuote (quote body : List Char) : List Char :=
  adjustEscapes quote (fun run => if run % 2 == 1 then run - 1 else run) 0 0 body

/-- The text with an escape before every bare occurrence of the given quote. -/
def escapeQuote (quote body : List Char) : List Char :=
  adjustEscapes quote (fun run => if run % 2 == 0 then run + 1 else run) 0 0 body

/-- Whether a replacement field of the text holds a backslash.  Only the first character of
a field may end a line; `opened` tells whether a brace has opened just before. -/
def fieldEscapes : Bool → Bool → Bool → List Char → Bool
  | _, _, _, [] => false
  | inField, escaped, opened, c :: cs =>
    if inField && opened then fieldEscapes true (c == '\\') false cs
    else if inField then
      if c == '\x7d' then
        if cs.head? == some '\x7d' then fieldEscapes true escaped false cs
        else escaped || fieldEscapes false false false cs
      else if c == '\n' then fieldEscapes false false false cs
      else fieldEscapes true (escaped || c == '\\') false cs
    else if c == '\x7b' && !opened && cs.head? != some '\x7b' then
      fieldEscapes true false true cs
    else fieldEscapes false false (c == '\x7b') cs

/-- How often a part occurs in a text.  The second argument is the number of characters to
skip. -/
def occurrences (part : List Char) : Nat → List Char → Nat
  | _, [] => 0
  | skip + 1, _ :: cs => occurrences part skip cs
  | 0, c :: cs =>
    if part.isPrefixOf (c :: cs) then 1 + occurrences part (part.length - 1) cs
    else occurrences part 0 cs

/-- The quoted text with the quotes that need fewer escapes, double ones if both need
as many. -/
def Quotation.preferDouble (q : Quotation) : Quotation :=
  let single := q.quote.head? == some '\''
  if q.isLong && !single then q
  else
    let other : List Char :=
      if q.isLong then ['"', '"', '"'] else if single then ['"'] else ['\'']
    let raw := q.has 'r'
    if raw && occurrences other 0 q.body != occurrences ('\\' :: other) 0 q.body then q
    else
      let body := if raw then q.body else unescapeQuote other q.body
      let kept := { q with body }
      let changed := if raw then body else escapeQuote other (unescapeQuote q.quote body)
      if q.has 'f' && fieldEscapes false false false changed then kept
      else
        let changed := match changed.reverse with
          | '"' :: rest => if q.isLong then rest.reverse ++ ['\\', '"'] else changed
          | _ => changed
        let before := body.count '\\'
        let after := changed.count '\\'
        if after > before || (after == before && !single) then kept
        else { q with quote := other, body := changed }

/-- Whether a template has a backslash in one of its fields; it stays as it is. -/
def isFixed (text : String) : Bool :=
  (literalFields text).any (·.escapes)

/-- A quoted text as it is written. -/
def quotedForm (text : String) : String :=
  if isFixed text then text
  else (Quotation.ofText (escapeForm text)).plainLetters.preferDouble.text

/-- Whether a literal goes over several lines. -/
def isLongLiteral (text : String) : Bool :=
  (Quotation.ofText text).isLong && text.toList.contains '\n'

/-- Whether a character ends a line of a documentation text. -/
def endsLine (c : Char) : Bool :=
  let n := c.toNat
  (10 ≤ n && n ≤ 13) || (28 ≤ n && n ≤ 30) || n == 0x85 || n == 0x2028 || n == 0x2029

/-- The lines of a documentation text; the end of a line opens no other one. -/
def textLines : List Char → List (List Char)
  | [] => []
  | c :: cs =>
    if endsLine c then [] :: textLines cs
    else match textLines cs with
      | [] => [[c]]
      | line :: rest => (c :: line) :: rest

/-- The blanks at the start of a line, tabs filled up to the next multiple of eight. -/
def expandTabs : Nat → List Char → List Char
  | _, [] => []
  | column, c :: cs =>
    if c == '\t' then
      let width := 8 - column % 8
      List.replicate width ' ' ++ expandTabs (column + width) cs
    else if isBlank c then c :: expandTabs (column + 1) cs
    else c :: cs

/-- The number of blanks at the start of a line. -/
def margin (line : List Char) : Nat :=
  (line.takeWhile isBlank).length

/-- The lines of a documentation text after the first, moved to the given margin. -/
def moveLines (indent : List Char) (cut : Nat) : List (List Char) → List (List Char)
  | [] => []
  | [line] => [indent ++ trimRightBy isBlank (line.drop cut)]
  | line :: rest =>
    let text := trimRightBy isBlank (line.drop cut)
    (if text.isEmpty then [] else indent ++ text) :: moveLines indent cut rest

/-- A documentation text of several lines with the given margin. -/
def reindent (indent body : List Char) : List Char :=
  let open_ := if body.getLast? == some '\n' then [[]] else []
  match (textLines body ++ open_).map (expandTabs 0) with
  | [] => []
  | first :: rest =>
    let margins := (rest.filter fun line => !(trimBlanks line).isEmpty).map margin
    let lines := match margins.min? with
      | some cut => trimBlanks first :: moveLines indent cut rest
      | none => [trimBlanks first]
    (joinWith "\n" (lines.map String.ofList)).toList

/-- Whether a text ends with a backslash that is not escaped itself. -/
def endsEscaping (body : List Char) : Bool :=
  (body.reverse.takeWhile (· == '\\')).length % 2 == 1

/-- The text with a blank where its first or last sign would run into its quotes. -/
def padQuotes (quote : Char) (body : List Char) : List Char :=
  let body := if body.head? == some quote then ' ' :: body else body
  match body.reverse with
  | [] => []
  | c :: _ =>
    if c == quote then body ++ [' ']
    else if endsEscaping body then body ++ [' ']
    else body

/-- Whether a line of the text ends with a backslash. -/
def hasContinuedLine : Bool → List Char → Bool
  | _, [] => false
  | open_, c :: cs =>
    if c == '\\' then hasContinuedLine true cs
    else if c == '\n' then open_ || hasContinuedLine false cs
    else hasContinuedLine (open_ && isBlank c) cs

/-- The documentation of a block of the given depth, as it is written. -/
def documentationForm (depth : Nat) (text : String) : String :=
  if hasContinuedLine false text.toList || isFixed text then quotedForm text
  else
    let q := (Quotation.ofText (escapeForm text)).plainLetters.preferDouble
    let sign := q.quote.headD '"'
    let quote := if q.body.isEmpty then [sign, sign, sign] else q.quote
    let indent := List.replicate (4 * depth) ' '
    let body := if isLongLiteral text then reindent indent q.body else trimBlanks q.body
    let padded :=
      if body.isEmpty then if q.body.isEmpty then [] else [' '] else padQuotes sign body
    let lines := textLines padded
    let last := (lines.getLast?.getD []).length
    let ending := if lines.length > 1 && last + quote.length > lineLimit &&
        indent.length + quote.length ≤ lineLimit && !endsEscaping body &&
        q.body.getLast? != some '\n' then '\n' :: indent else []
    String.ofList (q.letters ++ quote ++ padded ++ ending ++ quote)

end Layout
end TableCast
