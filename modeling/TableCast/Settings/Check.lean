import TableCast.Document.Value
import TableCast.Number.Floating
import TableCast.Text.LetterCase

/-!
# Checks on settings

The values of a document checked field by field.  Every field is checked, and all issues
are reported, each with the place where it was found.

- `Issue`, `Checked`: an issue, and a checked value or its issues.
- `also`, `gather`: several checked values together.
- `required`, `optional`: the fields of a mapping.
- `text`, `filledText`, `truth`, `wholeNumber`, `number`: the scalars.
-/

namespace TableCast
namespace Settings

open Text Number

/-- Something wrong with a setting. -/
structure Issue where
  /-- The names that lead to the setting. -/
  place : List String
  message : String
deriving Repr, DecidableEq, Inhabited

/-- A checked value, or everything that is wrong with it. -/
abbrev Checked (α : Type) := Except (List Issue) α

/-- A single issue with the value itself. -/
def refuse {α : Type} (message : String) : Checked α :=
  .error [{ place := [], message := message }]

/-- The issues of a value found under a name. -/
def under {α : Type} (name : String) (checked : Checked α) : Checked α :=
  checked.mapError fun issues => issues.map fun i => { i with place := name :: i.place }

/-- The issues of a checked value. -/
def issuesOf {α : Type} : Checked α → List Issue
  | .ok _ => []
  | .error issues => issues

/-- A checked function applied to a checked value, with the issues of both. -/
def also {α β : Type} (f : Checked (α → β)) (a : Checked α) : Checked β :=
  match f, a with
  | .ok f, .ok a => .ok (f a)
  | f, a => .error (issuesOf f ++ issuesOf a)

/-- A field that must be given. -/
def required {α : Type} (d : Document) (name : String) (check : Document → Checked α) :
    Checked α :=
  under name (match d.get? name with
    | some value => check value
    | none => refuse "Field required")

/-- A field that has a value of its own when it is not given. -/
def optional {α : Type} (d : Document) (name : String) (other : α)
    (check : Document → Checked α) : Checked α :=
  under name (match d.get? name with
    | some value => check value
    | none => .ok other)

/-- A value that may be nothing. -/
def nullable {α : Type} (check : Document → Checked α) : Document → Checked (Option α)
  | .null => .ok none
  | value => (check value).map some

/-- All checked values, or the issues of all. -/
def gather {α : Type} : List (Checked α) → Checked (List α)
  | [] => .ok []
  | first :: rest =>
    match first, gather rest with
    | .ok a, .ok more => .ok (a :: more)
    | first, rest => .error (issuesOf first ++ issuesOf rest)

/-- A text. -/
def text : Document → Checked String
  | .str s => .ok s
  | _ => refuse "Input should be a valid string"

/-- A text that is not empty. -/
def filledText (d : Document) : Checked String := do
  let s ← text d
  if s.isEmpty then refuse "String should have at least 1 character" else return s

/-- The spellings of truth values. -/
def truthWords : List (String × Bool) :=
  [("1", true), ("on", true), ("t", true), ("true", true), ("y", true), ("yes", true),
    ("0", false), ("off", false), ("f", false), ("false", false), ("n", false), ("no", false)]

/-- The message about a value that does not tell whether it is true. -/
def unclearTruth : String := "Input should be a valid boolean, unable to interpret input"

/-- A number as a truth value. -/
def numericTruth (n : Int) : Checked Bool :=
  if n == 1 then .ok true else if n == 0 then .ok false else refuse unclearTruth

/-- The whole number that a floating-point number is. -/
def wholePart? (x : Float) : Option Int :=
  if x.isNaN || x.isInf || x.floor != x then none
  else
    let (n, e) := Number.shortestDigits (Binary.ofFloat x)
    let digits := Number.digitsValue 0 (n.map fun c => c.toNat - 48)
    let magnitude := if x == 0 then 0 else digits * Number.tenTo (e - n.length).toNat
    some (if x < 0 then -(magnitude : Int) else magnitude)

/-- A truth value. -/
def truth : Document → Checked Bool
  | .bool b => .ok b
  | .str s => match truthWords.find? (·.1 == lower s) with
    | some (_, b) => .ok b
    | none => refuse unclearTruth
  | .int n => numericTruth n
  | .float x => match wholePart? x with
    | some n => numericTruth n
    | none => refuse "Input should be a valid boolean"
  | _ => refuse "Input should be a valid boolean"

/-- ASCII digits with single underscores between them, without the underscores. -/
def plainDigits? (cs : List Char) : Option (List Char) :=
  let pieces := splitOnChar '_' cs
  if pieces.all (fun p => !p.isEmpty && p.all isAsciiDigit) then some pieces.flatten else none

/-- The text without a point and zeros at its end. -/
def withoutZeroFraction (cs : List Char) : List Char :=
  match cs.dropWhile (· != '.') with
  | '.' :: zeros => if zeros.all (· == '0') then cs.takeWhile (· != '.') else cs
  | _ => cs

/-- The whole number that a text writes. -/
def writtenInteger (s : String) : Checked Int :=
  let cs := trimBlanks s.toList
  let unclear : Checked Int :=
    refuse "Input should be a valid integer, unable to parse string as an integer"
  if cs.length > maxDigits then
    refuse "Unable to parse input string as an integer, exceeded maximum size"
  else
    let (negative, digits) := splitSign (withoutZeroFraction cs)
    match plainDigits? digits with
    | some ds =>
      let n := digitsValue 0 (ds.map fun c => c.toNat - 48)
      .ok (if negative then -(n : Int) else n)
    | none => unclear

/-- A whole number. -/
def wholeNumber : Document → Checked Int
  | .int n => .ok n
  | .bool b => .ok (if b then 1 else 0)
  | .float x => match wholePart? x with
    | some n => .ok n
    | none =>
      if x.isNaN || x.isInf then refuse "Input should be a finite number"
      else refuse "Input should be a valid integer, got a number with a fractional part"
  | .str s => writtenInteger s
  | _ => refuse "Input should be a valid integer"

/-- A whole number within bounds. -/
def boundedNumber (least most : Int) (d : Document) : Checked Int := do
  let n ← wholeNumber d
  if n < least then refuse ("Input should be greater than or equal to " ++ toString least)
  else if n > most then refuse ("Input should be less than or equal to " ++ toString most)
  else return n

/-- The number that a text writes. -/
def writtenNumber (s : String) : Checked Float :=
  let cs := trimBlanks s.toList
  let (negative, rest) := splitSign cs
  let signed (x : Float) : Float := if negative then -x else x
  let word := lower (String.ofList rest)
  if word == "inf" || word == "infinity" then .ok (signed (1.0 / 0.0))
  else if word == "nan" then .ok (0.0 / 0.0)
  else if !cs.all (fun c => c.toNat < 128) then
    refuse "Input should be a valid number, unable to parse string as a number"
  else match readDecimal? cs with
    | some d => .ok (ofDecimal d)
    | none => refuse "Input should be a valid number, unable to parse string as a number"

/-- A number. -/
def number : Document → Checked Float
  | .float x => .ok x
  | .int n => .ok (ofDecimal { negative := n < 0, coefficient := n.natAbs, exponent := 0 })
  | .bool b => .ok (if b then 1.0 else 0.0)
  | .str s => writtenNumber s
  | _ => refuse "Input should be a valid number"

/-- A number above zero. -/
def positiveNumber (d : Document) : Checked Float := do
  let x ← number d
  if x ≤ 0 then refuse "Input should be greater than 0" else return x

/-- A mapping. -/
def mapping (other : String) : Document → Checked (List (Document × Document))
  | .map entries => .ok entries
  | _ => refuse ("Input should be a valid dictionary" ++ other)

/-- A mapping whose keys are texts, with its values checked. -/
def textMapping {α : Type} (check : Document → Checked α) (d : Document) :
    Checked (List (String × α)) := do
  let entries ← mapping "" d
  gather (entries.map fun (key, value) =>
    under key.plain (also (also (.ok Prod.mk) (under "[key]" (text key))) (check value)))

/-- A sequence of texts. -/
def textList : Document → Checked (List String)
  | .list items => gather (items.mapIdx fun i item => under (toString i) (text item))
  | _ => refuse "Input should be a valid list"

end Settings
end TableCast
