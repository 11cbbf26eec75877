import TableCast.Text.Pieces

/-!
# Lists of quoted literals

A list of literals separated by commas, as it stands in the declaration of a closed value
list.  A literal stands between single quotes, a quote inside it is written twice; blanks in
front of a literal are skipped, and a literal may also stand without quotes.

- `QuotedList.step`: what one character does to a list that is being read.
- `readQuotedList`: the literals of a text.
- `quoteLiteral`: a text as a quoted literal.
-/

namespace TableCast
namespace Text

/-- The most characters that a literal of a list may have. -/
def maxLiteralLength : Nat := 131072

/-- Why a text is no list of literals. -/
inductive ListError where
  | lineBreak
  | tooLong
deriving Repr, DecidableEq, Inhabited

/-- The message about a text that is no list of literals. -/
def ListError.message : ListError → String
  | .lineBreak => "new-line character seen in unquoted field - " ++
      "do you need to open the file in universal-newline mode?"
  | .tooLong => s!"field larger than field limit ({maxLiteralLength})"

namespace QuotedList

/-- Where in a list the reading stands. -/
inductive Place where
  | start
  | beforeLiteral
  /-- In a literal without quotes. -/
  | inPlain
  /-- In a literal with quotes. -/
  | inQuoted
  /-- Behind a quote in a literal with quotes. -/
  | afterQuote
  /-- Behind the end of the line. -/
  | afterLine
deriving Repr, DecidableEq, Inhabited

/-- A list that is being read. -/
structure Progress where
  place : Place := .start
  /-- The literal that is being read, last character first. -/
  literal : List Char := []
  size : Nat := 0
  /-- The literals read before, last one first. -/
  done : List (List Char) := []
deriving Repr, DecidableEq, Inhabited

namespace Progress

/-- One more character of the literal. -/
def add (p : Progress) (place : Place) (c : Char) : Except ListError Progress :=
  if p.size ≥ maxLiteralLength then .error .tooLong
  else .ok { p with place := place, literal := c :: p.literal, size := p.size + 1 }

/-- The literal ends. -/
def save (p : Progress) (place : Place) : Progress :=
  { place := place, done := p.literal.reverse :: p.done }

end Progress

/-- What a character does before a literal. -/
def beforeStep (p : Progress) (c : Char) : Except ListError Progress :=
  if c == '\n' || c == '\r' then .ok (p.save .afterLine)
  else if c == '\'' then .ok { p with place := .inQuoted }
  else if c == ' ' then .ok { p with place := .beforeLiteral }
  else if c == ',' then .ok (p.save .beforeLiteral)
  else p.add .inPlain c

/-- What a character does to a list that is being read. -/
def step (p : Progress) (c : Char) : Except ListError Progress :=
  match p.place with
  | .start =>
    if c == '\n' || c == '\r' then .ok { p with place := .afterLine } else beforeStep p c
  | .beforeLiteral => beforeStep p c
  | .inPlain =>
    if c == '\n' || c == '\r' then .ok (p.save .afterLine)
    else if c == ',' then .ok (p.save .beforeLiteral)
    else p.add .inPlain c
  | .inQuoted =>
    if c == '\'' then .ok { p with place := .afterQuote } else p.add .inQuoted c
  | .afterQuote =>
    if c == '\'' then p.add .inQuoted c
    else if c == ',' then .ok (p.save .beforeLiteral)
    else if c == '\n' || c == '\r' then .ok (p.save .afterLine)
    else p.add .inPlain c
  | .afterLine => if c == '\n' || c == '\r' then .ok p else .error .lineBreak

/-- The literals at the end of the text. -/
def finish (p : Progress) : List (List Char) :=
  match p.place with
  | .start | .afterLine => p.done.reverse
  | _ => (p.save .afterLine).done.reverse

/-- The literals of a list. -/
def read (cs : List Char) : Except ListError (List (List Char)) :=
  if (trimBlanks cs).isEmpty then .ok []
  else (cs.foldlM step {}).map finish

end QuotedList

/-- The literals of a list. -/
def readQuotedList (text : String) : Except ListError (List String) :=
  (QuotedList.read text.toList).map (·.map String.ofList)

/-- The characters of a literal, a quote written twice. -/
def doubleQuotes : List Char → List Char
  | [] => []
  | c :: cs => if c == '\'' then '\'' :: '\'' :: doubleQuotes cs else c :: doubleQuotes cs

/-- A text between quotes, the quotes in it written twice. -/
def quoteLiteral (text : String) : String :=
  String.ofList ('\'' :: doubleQuotes text.toList ++ ['\''])

end Text
end TableCast
