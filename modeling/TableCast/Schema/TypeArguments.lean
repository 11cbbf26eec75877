import TableCast.Number.Reading
import TableCast.Text.LetterCase
import TableCast.Text.Pieces

/-!
# Arguments of native types

The length, or the precision and the scale, that a native type declares between
parentheses.

- `argumentDigits?`: the digits of the first one or two numbers between parentheses.
- `typeArguments`: what they mean for a native type.
-/

namespace TableCast
namespace Schema

open Text Number

/-- The digits at the start of a text, with blanks around them, and the rest. -/
def blankedDigits (cs : List Char) : List Nat × List Char :=
  let (digits, rest) := spanDigits (trimLeftBy isBlank cs)
  (digits, trimLeftBy isBlank rest)

/-- The digits of one or two numbers up to a closing parenthesis. -/
def closedDigits? (cs : List Char) : Option (List Nat × Option (List Nat)) :=
  match blankedDigits cs with
  | ([], _) => none
  | (first, ')' :: _) => some (first, none)
  | (first, ',' :: rest) =>
    match blankedDigits rest with
    | ([], _) => none
    | (second, ')' :: _) => some (first, some second)
    | _ => none
  | _ => none

/-- The digits of the first one or two numbers that stand alone between parentheses. -/
def argumentDigits? : List Char → Option (List Nat × Option (List Nat))
  | [] => none
  | c :: cs =>
    if c == '(' then
      match closedDigits? cs with
      | some digits => some digits
      | none => argumentDigits? cs
    else argumentDigits? cs

/-- The declared length, precision and scale of a native type. -/
structure TypeArguments where
  length : Option Int := none
  precision : Option Int := none
  scale : Option Int := none
deriving Repr, DecidableEq, Inhabited

/-- The parts of the names of types whose first argument is a precision. -/
def numericTypeParts : List String :=
  ["dec", "numeric", "fixed", "float", "double", "real"]

/-- The arguments of a native type. -/
def typeArguments (native : String) : Except IntegerError TypeArguments :=
  match argumentDigits? native.toList with
  | none => .ok {}
  | some (first, second) => do
    let first ← signedInteger false first
    let second ← second.mapM (signedInteger false)
    if numericTypeParts.any (contains (lower native)) then
      return { precision := some first, scale := second }
    else return { length := some first }

end Schema
end TableCast
