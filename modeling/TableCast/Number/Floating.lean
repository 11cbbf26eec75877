import TableCast.Number.Reading

/-!
# Floating-point numbers and their shortest decimal text

A finite double is `m · 2^q` with a sign.  Its text has the fewest digits that read
back as the same double and, of these, the digits nearest to it.

- `ofDecimal`: the double nearest to a decimal number.
- `shortestDigits`: the digits and the position of the decimal point.
- `text`: the text, positional for exponents from -4 to 15.
-/

namespace TableCast
namespace Number

/-- A power of two. -/
def twoTo (n : Nat) : Nat := Nat.pow 2 n

/-- A power of ten. -/
def tenTo (n : Nat) : Nat := Nat.pow 10 n

/-- The double nearest to a decimal number. -/
def ofDecimal (d : Decimal) : Float :=
  let digits := (Nat.toDigits 10 d.coefficient).length
  let magnitude :=
    if d.coefficient == 0 then 0.0
    else if d.exponent + digits > 310 then 1.0 / 0.0
    else if d.exponent + digits < -330 then 0.0
    else if d.exponent ≥ 0 then Float.ofScientific d.coefficient false d.exponent.toNat
    else Float.ofScientific d.coefficient true (-d.exponent).toNat
  if d.negative then -magnitude else magnitude

/-- The parts of a double: its sign, its significand `m` and its power of two `q`. -/
structure Binary where
  negative : Bool
  significand : Nat
  /-- The power of two that the significand is multiplied by. -/
  power : Int
deriving Repr, DecidableEq

/-- The parts of a finite double. -/
def Binary.ofFloat (x : Float) : Binary :=
  let bits : Nat := x.toBits.toNat
  let fraction : Nat := bits % twoTo 52
  let biased : Nat := bits / twoTo 52 % twoTo 11
  { negative := bits / twoTo 63 == 1
    significand := if biased == 0 then fraction else twoTo 52 + fraction
    power := (if biased == 0 then 1 else biased : Nat) - 1075 }

/-- Whether `n · 10^e` reads back as `m · 2^q`: twice its distance is at most the gap
to the neighbour on that side, ends included for even `m`. -/
def readsBack (m : Nat) (q : Int) (n : Nat) (e : Int) : Bool :=
  -- both numbers scaled to whole multiples of a quarter unit
  let p2 := if q ≥ 0 then twoTo q.toNat else 1
  let d2 := if q ≥ 0 then 1 else twoTo (-q).toNat
  let p10 := if e ≥ 0 then tenTo e.toNat else 1
  let d10 := if e ≥ 0 then 1 else tenTo (-e).toNat
  let value := 4 * m * p2 * d10
  let unit := p2 * d10
  let guess := 4 * n * p10 * d2
  let below := if m == twoTo 52 && q > -1074 then unit else 2 * unit
  let above := 2 * unit
  if guess ≥ value then
    if m % 2 == 0 then guess - value ≤ above else guess - value < above
  else
    if m % 2 == 0 then value - guess ≤ below else value - guess < below

/-- Twice the distance of `n · 10^e` from `m · 2^q` in a fixed unit. -/
def distance (m : Nat) (q : Int) (n : Nat) (e : Int) : Nat :=
  let p2 := if q ≥ 0 then twoTo q.toNat else 1
  let d2 := if q ≥ 0 then 1 else twoTo (-q).toNat
  let p10 := if e ≥ 0 then tenTo e.toNat else 1
  let d10 := if e ≥ 0 then 1 else tenTo (-e).toNat
  let value := m * p2 * d10
  let guess := n * p10 * d2
  if guess ≥ value then guess - value else value - guess

/-- The floor of `m · 2^q / 10^e`. -/
def floorOnGrid (m : Nat) (q e : Int) : Nat :=
  let p2 := if q ≥ 0 then twoTo q.toNat else 1
  let d2 := if q ≥ 0 then 1 else twoTo (-q).toNat
  let p10 := if e ≥ 0 then tenTo e.toNat else 1
  let d10 := if e ≥ 0 then 1 else tenTo (-e).toNat
  m * p2 * d10 / (d2 * p10)

/-- The point of the grid of multiples of `10^e` that reads back as `m · 2^q` and is
nearest to it, if there is one. -/
def nearestOnGrid? (m : Nat) (q e : Int) : Option Nat :=
  let low := floorOnGrid m q e
  let high := low + 1
  match readsBack m q low e, readsBack m q high e with
  | false, false => none
  | true, false => some low
  | false, true => some high
  | true, true =>
    let dl := distance m q low e
    let dh := distance m q high e
    if dl < dh then some low
    else if dh < dl then some high
    else if low % 2 == 0 then some low else some high

/-- The coarsest grid, of exponent `e` or `steps` finer ones, with a point that reads
back, and that point. -/
def shortestFrom (m : Nat) (q : Int) : Nat → Int → Nat × Int
  | 0, e => (floorOnGrid m q e, e)
  | steps + 1, e => match nearestOnGrid? m q e with
    | some n => if n == 0 then shortestFrom m q steps (e - 1) else (n, e)
    | none => shortestFrom m q steps (e - 1)

/-- The decimal exponent of `m · 2^q`, or one more. -/
def exponentAbove (m : Nat) (q : Int) : Int :=
  -- log₁₀ 2 lies between 30102/100000 and 30103/100000
  let bits := (m.log2 : Int) + q + 1
  if bits ≥ 0 then bits * 30103 / 100000 + 1 else -((-bits) * 30102 / 100000) + 1

/-- The fewest digits that read back as a finite non-zero double, and the number of
digits before the decimal point. -/
def shortestDigits (b : Binary) : List Char × Int :=
  let (n, e) := shortestFrom b.significand b.power 25 (exponentAbove b.significand b.power)
  let digits := Nat.toDigits 10 n
  let kept := (digits.reverse.dropWhile (· == '0')).reverse
  (kept, e + digits.length)

/-- Digits with the decimal point after `point` of them. -/
def positional (digits : List Char) (point : Int) : List Char :=
  if point ≤ 0 then '0' :: '.' :: List.replicate (-point).toNat '0' ++ digits
  else
    let whole := point.toNat
    if digits.length ≤ whole then
      digits ++ List.replicate (whole - digits.length) '0' ++ ['.', '0']
    else digits.take whole ++ '.' :: digits.drop whole

/-- Digits in scientific notation with an exponent of at least two digits. -/
def scientific (digits : List Char) (point : Int) : List Char :=
  let e := point - 1
  let magnitude := Nat.toDigits 10 e.natAbs
  let padded := if magnitude.length < 2 then '0' :: magnitude else magnitude
  let mantissa := match digits with
    | [] => ['0']
    | [d] => [d]
    | d :: ds => d :: '.' :: ds
  mantissa ++ 'e' :: (if e < 0 then '-' else '+') :: padded

/-- The shortest text that reads back as the double. -/
def text (x : Float) : String :=
  if x.isNaN then "nan"
  else if x.isInf then (if x > 0 then "inf" else "-inf")
  else
    let b := Binary.ofFloat x
    let magnitude :=
      if b.significand == 0 then ['0', '.', '0']
      else
        let (digits, point) := shortestDigits b
        if -4 < point && point ≤ 16 then positional digits point
        else scientific digits point
    String.ofList (if b.negative then '-' :: magnitude else magnitude)

end Number
end TableCast
