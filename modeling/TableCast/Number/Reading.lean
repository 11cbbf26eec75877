import TableCast.Text.CharClass
import TableCast.Text.Pieces

/-!
# Reading numbers

The reading of integers and decimal numbers in texts.  Digits of every script
count; an integer has at most `maxDigits` digits.

- `readInteger`: a signed integer, blanks around it and single underscores between
  its digits allowed.
- `Decimal`: a sign, digits and a decimal exponent; `readDecimal?` reads one.
-/

namespace TableCast
namespace Number

open Text

/-- The most digits that an integer may be written with. -/
def maxDigits : Nat := 4300

/-- Why a text is no integer. -/
inductive IntegerError where
  | malformed
  | tooLong (digits : Nat)
deriving Repr, DecidableEq, Inhabited

/-- The message about an integer with too many digits. -/
def tooLongMessage (digits : Nat) : String :=
  s!"Exceeds the limit ({maxDigits} digits) for integer string conversion: " ++
    s!"value has {digits} digits; use sys.set_int_max_str_digits() to increase the limit"

/-- The value of a sequence of digits, after the digits already read. -/
def digitsValue (acc : Nat) (ds : List Nat) : Nat :=
  ds.foldl (fun n d => 10 * n + d) acc

/-- A sign and the text after it. -/
def splitSign : List Char → Bool × List Char
  | '-' :: cs => (true, cs)
  | '+' :: cs => (false, cs)
  | cs => (false, cs)

/-- The digits of a text that is made of digits with single underscores between
them. -/
def groupedDigits? : List Char → Option (List Nat)
  | [] => none
  | [c] => (decimalValue? c).map ([·])
  | c :: '_' :: cs => do
    let d ← decimalValue? c
    let ds ← groupedDigits? cs
    return d :: ds
  | c :: cs => do
    let d ← decimalValue? c
    let ds ← groupedDigits? cs
    return d :: ds

/-- The integer with the given sign and digits. -/
def signedInteger (negative : Bool) (digits : List Nat) : Except IntegerError Int :=
  if digits.length > maxDigits then .error (.tooLong digits.length)
  else
    let n := digitsValue 0 digits
    .ok (if negative then -(n : Int) else n)

/-- The integer written in a text. -/
def readInteger (cs : List Char) : Except IntegerError Int :=
  let (negative, rest) := splitSign (trimBlanks cs)
  match groupedDigits? rest with
  | none => .error .malformed
  | some digits => signedInteger negative digits

/-- A decimal number: a sign, a coefficient and a power of ten. -/
structure Decimal where
  negative : Bool
  coefficient : Nat
  /-- The power of ten that the coefficient is multiplied by. -/
  exponent : Int
deriving Repr, DecidableEq, Inhabited

/-- The longest run of decimal digits at the start of a text, and the rest. -/
def spanDigits : List Char → List Nat × List Char
  | [] => ([], [])
  | c :: cs => match decimalValue? c with
    | none => ([], c :: cs)
    | some d =>
      let (ds, rest) := spanDigits cs
      (d :: ds, rest)

/-- The exponent part of a decimal number, when the rest of the text is one. -/
def readExponent? : List Char → Option Int
  | [] => some 0
  | e :: cs =>
    if e == 'e' || e == 'E' then
      let (negative, rest) := splitSign cs
      match spanDigits rest with
      | ([], _) => none
      | (ds, []) =>
        let n := digitsValue 0 ds
        some (if negative then -(n : Int) else n)
      | _ => none
    else none

/-- The decimal number that is exactly the text: a sign, digits with an optional
point, an optional exponent. -/
def readDecimal? (cs : List Char) : Option Decimal :=
  let (negative, unsigned) := splitSign cs
  let (whole, rest) := spanDigits unsigned
  let (fraction, rest, pointed) := match rest with
    | '.' :: after =>
      let (fraction, rest) := spanDigits after
      (fraction, rest, true)
    | _ => ([], rest, false)
  if whole.isEmpty && (!pointed || fraction.isEmpty) then none
  else match readExponent? rest with
    | none => none
    | some e => some {
        negative := negative
        coefficient := digitsValue 0 (whole ++ fraction)
        exponent := e - fraction.length }

end Number
end TableCast
