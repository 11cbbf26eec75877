import TableCast.Text.CharClass
import TableCast.Text.Pieces

/-!
# Quoted literals

A text written between quotes so that it reads back: single quotes unless the text
has a single quote and no double quote; backslashes, the chosen quote and every
character that is not printable are escaped.

- `Quoted.text`: one quoted text.
- `Quoted.list`, `Quoted.tuple`: bracketed sequences of quoted texts.
-/

namespace TableCast
namespace Text
namespace Quoted

/-- The hexadecimal digits. -/
def hexDigit (n : Nat) : Char :=
  if n < 10 then Char.ofNat (48 + n) else Char.ofNat (87 + n)

/-- The lowest `width` hexadecimal digits of a number. -/
def hexDigits : Nat → Nat → List Char
  | 0, _ => []
  | width + 1, n => hexDigits width (n / 16) ++ [hexDigit (n % 16)]

/-- The quote around a text. -/
def quoteFor (cs : List Char) : Char :=
  if cs.contains '\'' && !cs.contains '"' then '"' else '\''

/-- How a character is written inside quotes. -/
def escape (quote c : Char) : List Char :=
  let n := c.toNat
  if c == quote || c == '\\' then ['\\', c]
  else if c == '\n' then ['\\', 'n']
  else if c == '\r' then ['\\', 'r']
  else if c == '\t' then ['\\', 't']
  else if isPrintable c then [c]
  else if n < 0x100 then '\\' :: 'x' :: hexDigits 2 n
  else if n < 0x10000 then '\\' :: 'u' :: hexDigits 4 n
  else '\\' :: 'U' :: hexDigits 8 n

/-- A text between quotes. -/
def chars (cs : List Char) : List Char :=
  let quote := quoteFor cs
  quote :: cs.flatMap (escape quote) ++ [quote]

/-- A text between quotes. -/
def text (s : String) : String :=
  String.ofList (chars s.toList)

/-- Quoted texts between square brackets. -/
def list (items : List String) : String :=
  "[" ++ joinWith ", " (items.map text) ++ "]"

/-- Quoted texts between parentheses; a comma follows a single one. -/
def tuple : List String → String
  | [item] => "(" ++ text item ++ ",)"
  | items => "(" ++ joinWith ", " (items.map text) ++ ")"

end Quoted
end Text
end TableCast
