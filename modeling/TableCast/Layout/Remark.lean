import TableCast.Text.Pieces

/-!
# Comments

The comments of a Python text and the directives that they hold.

- `Remark`, `remarkForm`: a comment and its written form.
- `Directive`, `Directive.isIn`: what a comment asks of the layout.
- `isTypeRemark`, `isTypeIgnore`: comments that speak to a type checker.
-/

namespace TableCast
namespace Layout

open Text

/-- A comment. -/
structure Remark where
  /-- Its written form, with the sign that opens it. -/
  text : String
  alone : Bool := true
  column : Nat := 0
  /-- The number of blank lines before it. -/
  blanks : Nat := 0
  /-- Whether a page ends in the blank lines before it. -/
  newPage : Bool := false
  /-- Where what stands before it in its line ends. -/
  lead : Nat := 0
  start : Nat := 0
  stop : Nat := 0
deriving Repr, Inhabited

/-- What a comment asks of the layout. -/
inductive Directive where
  | off
  | on
  | skip
deriving DecidableEq, Repr, Inhabited

namespace Directive

/-- The comments that stand for a directive. -/
def spellings : Directive → List String
  | .off => ["# fmt: off", "# fmt:off", "# yapf: disable"]
  | .on => ["# fmt: on", "# fmt:on", "# yapf: enable"]
  | .skip => ["# fmt: skip", "# fmt:skip"]

/-- The pieces of a text between the occurrences of a sign and a blank. -/
def signed : List Char → List (List Char)
  | '#' :: ' ' :: cs => [] :: signed cs
  | c :: cs => match signed cs with
    | [] => [[c]]
    | piece :: pieces => (c :: piece) :: pieces
  | [] => [[]]

/-- The comments that a comment is made of: itself, those after a sign in it, and those
between semicolons. -/
def parts (text : String) : List String :=
  let cs := text.toList
  let whole := trimBy (fun c => c == '#' || c == ' ') cs
  let comment := fun (piece : List Char) => "# " ++ String.ofList (trimBlanks piece)
  text :: ((signed cs).drop 1).map comment ++ (splitOnChar ';' whole).map comment

/-- Whether a comment holds the directive. -/
def isIn (directive : Directive) (text : String) : Bool :=
  (parts text).any directive.spellings.contains

end Directive

/-- Whether a comment holds a directive. -/
def hasDirective (text : String) : Bool :=
  [Directive.off, Directive.on, Directive.skip].any fun directive => directive.isIn text

/-- The sign of a comment that gives a type. -/
def typeSign : List Char := "type:".toList

/-- The text after the sign of a comment that gives a type, or nothing for another. -/
def typeValue? (text : List Char) : Option (List Char) :=
  let text := trimLeftBy isBlank text
  if typeSign.isPrefixOf text then some (text.drop typeSign.length) else none

/-- Whether a comment gives a type. -/
def isTypeRemark (text : String) : Bool :=
  match text.toList with
  | '#' :: rest => (typeValue? rest).isSome
  | _ => false

/-- Whether a comment turns the type checker off. -/
def isTypeIgnore (text : String) : Bool :=
  match text.toList with
  | '#' :: rest => match typeValue? rest with
    | some value => "ignore".toList.isPrefixOf (trimLeftBy isBlank value)
    | none => false
  | _ => false

/-- The text of a comment that gives a type, with one blank between its parts. -/
def typeForm (text : List Char) : List Char :=
  match typeValue? text with
  | some value => typeSign ++ ' ' :: trimBlanks value
  | none => text

/-- The character that looks like a blank and joins two words. -/
def isJoiningBlank (c : Char) : Bool :=
  c.toNat == 0xA0

/-- A comment as it is written: no blanks at its end, and one between its sign and its
text.  A comment that holds a directive stays as it is. -/
def remarkForm (cs : List Char) : String :=
  let whole := trimRightBy isBlank cs
  if hasDirective (String.ofList whole) then String.ofList whole
  else
    let text := match whole with
      | '#' :: rest => rest
      | text => text
    let text := match text with
      | c :: rest =>
        if isJoiningBlank c && (typeValue? rest).isNone then ' ' :: rest else text
      | [] => []
    let text := if text.any isJoiningBlank then text else typeForm text
    match text with
    | [] => "#"
    | c :: _ =>
      if " !:#'".toList.contains c then "#" ++ String.ofList text
      else "# " ++ String.ofList text

end Layout
end TableCast
