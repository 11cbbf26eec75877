import TableCast.Text.CharClass
import TableCast.Text.Table.LetterCase

/-!
# Letter case

The full upper and lower case mappings of characters and texts.  A capital sigma
at the end of a word becomes a final small sigma.

- `upper`, `lower`: the mappings of a text.
- `capitalizeChars`, `titleChars`: a capital first character, the rest in lower case.
- `isUpperText`: some cased character, and all of them capitals.
- `equalIgnoringCase`: the comparison of a character with an ASCII letter that
  ignores case.
-/

namespace TableCast
namespace Text

/-- The image of a code point under a table of runs. -/
def mapByRuns (runs : Array (Nat × Nat × Nat × Int)) (n : Nat) : Option Nat :=
  (runs.find? fun (first, last, step, _) =>
      first ≤ n && n ≤ last && (n - first) % step == 0).map
    fun (_, _, _, shift) => ((n : Int) + shift).toNat

/-- The ASCII part of the upper case mapping. -/
def asciiUpper (c : Char) : Char :=
  if isAsciiLower c then Char.ofNat (c.toNat - 32) else c

/-- The ASCII part of the lower case mapping. -/
def asciiLower (c : Char) : Char :=
  if isAsciiUpper c then Char.ofNat (c.toNat + 32) else c

/-- The upper case form of a character. -/
def upperChar (c : Char) : List Char :=
  let n := c.toNat
  if n < 128 then [asciiUpper c]
  else match Table.upperSequence.find? (·.1 == n) with
    | some (_, image) => image.map Char.ofNat
    | none => [Char.ofNat ((mapByRuns Table.upperRun n).getD n)]

/-- The form of a character at the start of a capitalised word. -/
def titleChar (c : Char) : List Char :=
  match Table.titleSequence.find? (·.1 == c.toNat) with
    | some (_, image) => image.map Char.ofNat
    | none => upperChar c

/-- The lower case form of a character on its own. -/
def lowerChar (c : Char) : List Char :=
  let n := c.toNat
  if n < 128 then [asciiLower c]
  else if n == 0x130 then ['i', Char.ofNat 0x307]
  else [Char.ofNat ((mapByRuns Table.lowerRun n).getD n)]

/-- The capitals of every script. -/
def isUpperChar (c : Char) : Bool :=
  inClass isAsciiUpper Table.uppercase c

/-- The small letters of every script. -/
def isLowerChar (c : Char) : Bool :=
  inClass isAsciiLower Table.lowercase c

/-- The title case letters. -/
def isTitleChar (c : Char) : Bool :=
  inClass (fun _ => false) Table.titlecase c

/-- The characters with case. -/
def isCased (c : Char) : Bool :=
  isUpperChar c || isLowerChar c || isTitleChar c

/-- The characters that are skipped when looking for the end of a word. -/
def isCaseIgnorable (c : Char) : Bool :=
  inClass (fun c => c == '\'' || c == '.' || c == ':' || c == '^' || c.toNat == 96)
    Table.caseIgnorable c

/-- Whether the next character that is not skipped has case. -/
def nextIsCased (cs : List Char) : Bool :=
  match cs.dropWhile isCaseIgnorable with
  | [] => false
  | c :: _ => isCased c

/-- The lower case form of `cs` after the reversed text `before`. -/
def lowerAfter (before : List Char) : List Char → List Char
  | [] => []
  | c :: cs =>
    let image :=
      if c.toNat == 0x3A3 then
        if nextIsCased before && !nextIsCased cs then [Char.ofNat 0x3C2] else [Char.ofNat 0x3C3]
      else lowerChar c
    image ++ lowerAfter (c :: before) cs

/-- The upper case form of a text. -/
def upperChars (cs : List Char) : List Char :=
  cs.flatMap upperChar

/-- The lower case form of a text. -/
def lowerChars (cs : List Char) : List Char :=
  lowerAfter [] cs

/-- The upper case form of a text. -/
def upper (s : String) : String :=
  String.ofList (upperChars s.toList)

/-- The lower case form of a text. -/
def lower (s : String) : String :=
  String.ofList (lowerChars s.toList)

/-- The first character in upper case, the rest in lower case. -/
def capitalizeChars : List Char → List Char
  | [] => []
  | c :: cs => upperChar c ++ lowerChars cs

/-- The first character in title case, the rest in lower case. -/
def titleChars : List Char → List Char
  | [] => []
  | c :: cs => titleChar c ++ lowerChars cs

/-- Whether the text has a cased character and all its cased characters are
capitals. -/
def isUpperText (s : String) : Bool :=
  s.toList.all (fun c => !(isLowerChar c || isTitleChar c)) && s.toList.any isUpperChar

/-- Whether `c` is the given small ASCII letter, ignoring case.  The long s, the
Kelvin sign and the two Turkish letters i are variants of the ASCII letters. -/
def equalIgnoringCase (letter c : Char) : Bool :=
  asciiLower c == letter ||
    (letter == 's' && c.toNat == 0x17F) ||
    (letter == 'k' && c.toNat == 0x212A) ||
    (letter == 'i' && (c.toNat == 0x130 || c.toNat == 0x131))

end Text
end TableCast
