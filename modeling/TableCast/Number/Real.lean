import TableCast.Number.Floating
import TableCast.Text.LetterCase

/-!
# Numbers in words and digits

A number as it is written by a person: blanks around it, underscores between its digits, or a
word for an infinity or for no number at all.

- `withoutGrouping?`: a text without the underscores between its digits.
- `readReal?`: the double that a text writes.
-/

namespace TableCast
namespace Number

open Text

/-- The text without underscores, each of which must stand between two digits. -/
def withoutGrouping? : List Char → Option (List Char)
  | [] => some []
  | ['_'] => none
  | '_' :: _ => none
  | c :: '_' :: d :: rest =>
    if (decimalValue? c).isSome && (decimalValue? d).isSome then
      (withoutGrouping? (d :: rest)).map (c :: ·)
    else none
  | c :: rest => (withoutGrouping? rest).map (c :: ·)

/-- The words for an infinity. -/
def infinityWords : List String := ["inf", "infinity"]

/-- The word for no number. -/
def notNumberWord : String := "nan"

/-- The double that a text writes. -/
def readReal? (cs : List Char) : Option Float :=
  let cs := trimBlanks cs
  let (negative, unsigned) := splitSign cs
  let word := lower (String.ofList unsigned)
  if infinityWords.contains word then some (if negative then -(1.0 / 0.0) else 1.0 / 0.0)
  else if word == notNumberWord then some (0.0 / 0.0)
  else (withoutGrouping? cs).bind fun plain => (readDecimal? plain).map ofDecimal

end Number
end TableCast
