import TableCast.Layout.Directive
import TableCast.Layout.Paragraph
import TableCast.Layout.Split
import TableCast.Layout.Statement

/-!
# Formatting

A Python text in its usual layout.

- `LineEnd`: how the lines of a text end.
- `formatOnce?`: one pass over a text.
- `format`: the layout of a text; a text that is not well formed stays as it is.
-/

namespace TableCast
namespace Layout

open Text

/-- The blank lines of a paragraph, before which a page may end. -/
def blankText (newPage : Bool) (count : Nat) : String :=
  if newPage then copies (count - 1) '\n' ++ "\x0c\n" else copies count '\n'

/-- The lines of a paragraph as text. -/
def Paragraph.text (release : Nat) (last : Bool) (p : Paragraph) : String :=
  let lines := (p.line.split release).map fun line => line.text ++ "\n"
  blankText (p.line.newPage && p.line.depth == 0) p.before ++ joinWith "" lines ++
    (if last then "" else copies p.after '\n')

/-- The paragraphs as text; no blank line ends the text. -/
def paragraphsText (release : Nat) : List Paragraph → String
  | [] => ""
  | [p] => p.text release true
  | p :: rest => p.text release false ++ paragraphsText release rest

/-- How the lines of a text end. -/
inductive LineEnd where
  | feed
  | returned
  | both
deriving DecidableEq, Repr, Inhabited

namespace LineEnd

/-- The end of a line. -/
def text : LineEnd → String
  | .feed => "\n"
  | .returned => "\r"
  | .both => "\r\n"

/-- The end of the lines of a text, which the first of them shows. -/
def ofText (text : String) : LineEnd :=
  let line := text.toList.takeWhile (· != '\n')
  let body := line.takeWhile (· != '\r')
  if body.length == line.length then .feed
  else if body.length + 1 == line.length && line.length < text.length then .both
  else .returned

end LineEnd

/-- The lines of a text without what marks its encoding, each with the same end. -/
def plainText (text : String) : String :=
  let text := withPlainLineEnds text
  match text.toList with
  | c :: rest => if c.toNat == 0xFEFF then String.ofList rest else text
  | [] => text

/-- One pass over a text; nothing when it is not well formed. -/
def formatOnce? (text : String) : Option String := do
  let plain := plainText text
  let source := String.ofList (trimLeftBy isBlank plain.toList)
  let tokens ← tokens? source
  let fuel := 16 * source.length + 64
  let (lines, release) ← linesOf? fuel 0 tokens
  let settled := (linesOf? fuel release (hidden source tokens)).orElse fun _ =>
    linesOf? fuel release tokens
  let lines := match settled with
    | some (lines, _) => lines
    | none => lines
  let laid :=
    if lines.isEmpty then (if plain.toList.contains '\n' then "\n" else "")
    else paragraphsText release (paragraphs lines)
  return replaced laid "\n" (LineEnd.ofText text).text

/-- The layout of a text.  A second pass settles commas that the first one added. -/
def format (text : String) : String :=
  match formatOnce? text with
  | none => text
  | some first => if first == text then text else (formatOnce? first).getD text

end Layout
end TableCast
