import TableCast.Text.Ranges
import TableCast.Text.Table.Alphanumeric
import TableCast.Text.Table.Digit
import TableCast.Text.Table.Printable
import TableCast.Text.Table.Identifier

/-!
# Character classes

Letters, digits, word characters, blanks, printable characters and the characters
of identifiers.  Every class is given by its ASCII members and, from code point 128
on, by a table of boundaries.

- `isAlphabetic`, `isAlphanumeric`, `isWordChar`
- `isBlank`
- `decimalValue?`, `isDigitChar`
- `isPrintable`
- `isIdentifier`
-/

namespace TableCast
namespace Text

/-- Membership in a class given by an ASCII test and the boundaries beyond ASCII. -/
def inClass (ascii : Char → Bool) (bounds : Array Nat) (c : Char) : Bool :=
  if c.toNat < 128 then ascii c else Ranges.contains bounds c.toNat

/-- The ASCII capitals. -/
def isAsciiUpper (c : Char) : Bool :=
  'A' ≤ c && c ≤ 'Z'

/-- The ASCII small letters. -/
def isAsciiLower (c : Char) : Bool :=
  'a' ≤ c && c ≤ 'z'

/-- The ASCII digits. -/
def isAsciiDigit (c : Char) : Bool :=
  '0' ≤ c && c ≤ '9'

/-- The ASCII letters. -/
def isAsciiLetter (c : Char) : Bool :=
  isAsciiUpper c || isAsciiLower c

/-- The letters of every script. -/
def isAlphabetic (c : Char) : Bool :=
  inClass isAsciiLetter Table.alphabetic c

/-- Letters and every character with a numeric value. -/
def isAlphanumeric (c : Char) : Bool :=
  inClass (fun c => isAsciiLetter c || isAsciiDigit c) Table.alphanumeric c

/-- The characters of words: letters, numerals and the underscore. -/
def isWordChar (c : Char) : Bool :=
  isAlphanumeric c || c == '_'

/-- The blanks: the separators of category Z and the control characters that
separate text. -/
def isBlank (c : Char) : Bool :=
  let n := c.toNat
  n == 32 || (9 ≤ n && n ≤ 13) || (28 ≤ n && n ≤ 31) || n == 0x85 || n == 0xA0 || n == 0x1680 ||
    (0x2000 ≤ n && n ≤ 0x200A) || n == 0x2028 || n == 0x2029 || n == 0x202F || n == 0x205F ||
    n == 0x3000

/-- The value of a decimal digit of any script. -/
def decimalValue? (c : Char) : Option Nat :=
  let n := c.toNat
  if n < 128 then
    if isAsciiDigit c then some (n - 48) else none
  else if Ranges.contains Table.decimalDigit n then
    some ((n - Ranges.blockStart Table.decimalDigit n) % 10)
  else none

/-- The decimal digits of every script. -/
def isDecimalChar (c : Char) : Bool :=
  (decimalValue? c).isSome

/-- The characters that stand for a digit, superscripts and circled digits included. -/
def isDigitChar (c : Char) : Bool :=
  inClass isAsciiDigit Table.digit c

/-- The characters that a quoted literal shows as themselves. -/
def isPrintable (c : Char) : Bool :=
  inClass (fun c => ' ' ≤ c && c ≤ '~') Table.printable c

/-- The characters that may start an identifier. -/
def isIdentifierStart (c : Char) : Bool :=
  inClass (fun c => isAsciiLetter c || c == '_') Table.identifierStart c

/-- The characters that may continue an identifier. -/
def isIdentifierContinue (c : Char) : Bool :=
  inClass (fun c => isAsciiLetter c || isAsciiDigit c || c == '_') Table.identifierContinue c

/-- Whether the text is one identifier. -/
def isIdentifier (s : String) : Bool :=
  match s.toList with
  | [] => false
  | c :: cs => isIdentifierStart c && cs.all isIdentifierContinue

end Text
end TableCast
