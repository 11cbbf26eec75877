import TableCast.Text.Pieces

/-!
# Shell patterns

A pattern for names: a star stands for any text, a question mark for any character, and
brackets stand for one character of a set, or of its complement after an exclamation mark.
A bracket that is not closed stands for itself.

- `Glob.parts`: the parts of a pattern.
- `Glob.fits`: whether a name fits a pattern.
- `matchesAny`: whether a name equals or fits one of several patterns.
-/

namespace TableCast
namespace Text
namespace Glob

/-- A part of a pattern. -/
inductive Part where
  | anyText
  | anyChar
  | char (c : Char)
  /-- A character in one of the ranges, or in none of them. -/
  | oneOf (negated : Bool) (ranges : List (Char × Char))
deriving Repr, DecidableEq, Inhabited

/-- The pieces of a set between the hyphens that stand for ranges.  A hyphen stands for a
range only behind `skip` further characters. -/
def rangePieces (piece : List Char) : Nat → List Char → List (List Char)
  | _, [] => [piece.reverse]
  | 0, c :: cs =>
    if c == '-' then piece.reverse :: rangePieces [] 2 cs
    else rangePieces (c :: piece) 0 cs
  | skip + 1, c :: cs => rangePieces (c :: piece) skip cs

/-- The pieces with a hyphen at the end of the set taken for itself. -/
def keepLastHyphen : List (List Char) → List (List Char)
  | [] => []
  | [piece] => [piece]
  | [piece, []] => [piece ++ ['-']]
  | piece :: pieces => piece :: keepLastHyphen pieces

/-- The pieces without the ranges whose bounds are in the wrong order. -/
def dropEmptyRanges : List (List Char) → List (List Char)
  | [] => []
  | piece :: pieces =>
    match dropEmptyRanges pieces with
    | [] => [piece]
    | next :: rest =>
      match piece.getLast?, next.head? with
      | some lo, some hi =>
        if hi < lo then (piece.dropLast ++ next.tail) :: rest else piece :: next :: rest
      | _, _ => piece :: next :: rest

/-- The characters of a set with `none` for the hyphens of ranges. -/
def setTokens : List (List Char) → List (Option Char)
  | [] => []
  | [piece] => piece.map some
  | piece :: pieces => piece.map some ++ none :: setTokens pieces

/-- The ranges of a set. -/
def setRanges : List (Option Char) → List (Char × Char)
  | some lo :: none :: some hi :: rest => (lo, hi) :: setRanges rest
  | some c :: rest => (c, c) :: setRanges rest
  | none :: rest => ('-', '-') :: setRanges rest
  | [] => []

/-- The part for the text between two brackets. -/
def setPart (body : List Char) : Part :=
  let skip := if body.head? == some '!' then 2 else 1
  let tokens := setTokens (dropEmptyRanges (keepLastHyphen (rangePieces [] skip body)))
  match tokens with
  | [some '!'] => .anyChar
  | some '!' :: rest => .oneOf true (setRanges rest)
  | _ => .oneOf false (setRanges tokens)

/-- The text up to the next closing bracket, and the text behind the bracket. -/
def closeSet : List Char → List Char → Option (List Char × List Char)
  | _, [] => none
  | seen, c :: cs => if c == ']' then some (seen.reverse, cs) else closeSet (c :: seen) cs

/-- The text between an opening bracket and its closing one, and the text behind it; the
first character of the set may be a closing bracket. -/
def splitSet? : List Char → Option (List Char × List Char)
  | '!' :: ']' :: cs => closeSet [']', '!'] cs
  | '!' :: cs => closeSet ['!'] cs
  | ']' :: cs => closeSet [']'] cs
  | cs => closeSet [] cs

/-- The parts of a pattern; the next `skip` characters belong to a set that was read. -/
def partsFrom : Nat → List Char → List Part
  | _, [] => []
  | skip + 1, _ :: cs => partsFrom skip cs
  | 0, c :: cs =>
    if c == '*' then .anyText :: partsFrom 0 cs
    else if c == '?' then .anyChar :: partsFrom 0 cs
    else if c == '[' then
      match splitSet? cs with
      | some (body, _) => setPart body :: partsFrom (body.length + 1) cs
      | none => .char '[' :: partsFrom 0 cs
    else .char c :: partsFrom 0 cs

/-- The parts of a pattern. -/
def parts (pattern : List Char) : List Part := partsFrom 0 pattern

/-- Whether a character fits a part that stands for one character. -/
def Part.fitsChar (c : Char) : Part → Bool
  | .anyText => false
  | .anyChar => true
  | .char d => c == d
  | .oneOf negated ranges => ranges.any (fun (lo, hi) => lo ≤ c && c ≤ hi) != negated

/-- Whether some text that is left over after dropping characters satisfies a test. -/
def someTail (test : List Char → Bool) : List Char → Bool
  | [] => test []
  | c :: cs => test (c :: cs) || someTail test cs

/-- Whether a text fits the parts of a pattern. -/
def fits : List Part → List Char → Bool
  | [], cs => cs.isEmpty
  | .anyText :: rest, cs => someTail (fits rest) cs
  | part :: rest, c :: cs => part.fitsChar c && fits rest cs
  | _ :: _, [] => false

end Glob

/-- Whether a name equals or fits one of the patterns. -/
def matchesAny (name : String) (patterns : List String) : Bool :=
  patterns.any fun pattern => name == pattern || Glob.fits (Glob.parts pattern.toList) name.toList

end Text
end TableCast
