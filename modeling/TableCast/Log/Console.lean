import TableCast.Log.Entry
import TableCast.Text.LetterCase
import TableCast.Text.Pieces

/-!
# Log lines on a console

How log entries are written, one line each, and coloured for a terminal.  Errors and warnings
have the colour of their level; other entries have the colour of the mark in front of them.

- `Layout`: the form of a line; `Layout.read` reads one from a text with placeholders.
- `line`: the line of an entry.
- `Console`: a console; `Console.written` is what entries leave on it.
-/

namespace TableCast
namespace Log

open Text

/-- A part of the form of a line. -/
inductive LayoutPart where
  | char (c : Char)
  | level
  /-- The name of the part of the program that speaks. -/
  | speaker
  | message
deriving Repr, DecidableEq, Inhabited

/-- The form of a line. -/
abbrev Layout := List LayoutPart

/-- The placeholders in the text of a form. -/
def placeholders : List (List Char × LayoutPart) :=
  [("%(levelname)s".toList, .level), ("%(name)s".toList, .speaker),
    ("%(message)s".toList, .message)]

/-- The form that a text with placeholders describes; the next `skip` characters belong to a
placeholder that was read. -/
def Layout.readFrom : Nat → List Char → Layout
  | _, [] => []
  | skip + 1, _ :: cs => Layout.readFrom skip cs
  | 0, c :: cs =>
    match placeholders.find? (·.1.isPrefixOf (c :: cs)) with
    | some (text, part) => part :: Layout.readFrom (text.length - 1) cs
    | none => .char c :: Layout.readFrom 0 cs

/-- The form that a text with placeholders describes. -/
def Layout.read (text : String) : Layout := Layout.readFrom 0 text.toList

/-- The form of lines unless another is given: level and message. -/
def plainLayout : Layout := Layout.read "%(levelname)s: %(message)s"

/-- A part of a line. -/
def LayoutPart.text (speaker : String) (e : Entry) : LayoutPart → String
  | .char c => c.toString
  | .level => e.level.name
  | .speaker => speaker
  | .message => e.message

/-- The line of an entry without colour. -/
def Layout.line (layout : Layout) (speaker : String) (e : Entry) : String :=
  String.join (layout.map (LayoutPart.text speaker e))

/-- The colours of a terminal. -/
inductive Colour where
  | cyan
  | yellow
  | red
  | magenta
  | brightGreen
  | brightBlue
  | brightCyan
  | bold
deriving Repr, DecidableEq, Inhabited

/-- A control sequence of a terminal. -/
def control (code : String) : String := "\x1b[" ++ code ++ "m"

/-- The control sequence that switches a colour on. -/
def Colour.start : Colour → String
  | .cyan => control "36"
  | .yellow => control "33"
  | .red => control "31"
  | .magenta => control "35"
  | .brightGreen => control "92"
  | .brightBlue => control "94"
  | .brightCyan => control "96"
  | .bold => control "1"

/-- The control sequence that switches colours off. -/
def colourEnd : String := control "0"

/-- The colours of an entry. -/
def colours (e : Entry) : List Colour :=
  let message := String.ofList (trimLeftBy isBlank e.message.toList)
  match e.level with
  | .error => [.red]
  | .critical => [.magenta]
  | .warning => [.yellow]
  | level =>
    if startsWith message successMark then [.brightGreen, .bold]
    else if startsWith message progressMark then [.brightBlue]
    else if startsWith message highlightMark then [.brightCyan]
    else if startsWith message sectionRule || isUpperText message then [.bold, .brightCyan]
    else if level == .debug then [.cyan]
    else []

/-- The line of an entry. -/
def line (layout : Layout) (coloured : Bool) (speaker : String) (e : Entry) : String :=
  let text := layout.line speaker e
  match coloured, colours e with
  | true, c :: cs => String.join ((c :: cs).map Colour.start) ++ text ++ colourEnd
  | _, _ => text

/-- A console. -/
structure Console where
  /-- The least level that is written. -/
  level : Level := .info
  coloured : Bool := true
  terminal : Bool := false
deriving Repr, DecidableEq, Inhabited

/-- The entries that a console shows. -/
def Console.shown (console : Console) (entries : List Entry) : List Entry :=
  entries.filter fun e => console.level.rank ≤ e.level.rank

/-- What entries leave on a console: a line for each one that it shows. -/
def Console.written (console : Console) (entries : List Entry) : String :=
  String.join ((console.shown entries).map fun e =>
    line plainLayout (console.coloured && console.terminal) "" e ++ "\n")

end Log
end TableCast
