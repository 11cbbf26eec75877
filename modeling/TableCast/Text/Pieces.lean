import TableCast.Text.CharClass

/-!
# Pieces of a text

Splitting, trimming, joining and replacing, on lists of characters.

- `trimBy`, `trimBlanks`: a text without the characters of a class at its ends.
- `splitOnChar`: the pieces between the occurrences of one character.
- `runs`: the maximal runs of characters of a class.
- `replaceAll`: every occurrence of a pattern replaced, from left to right.
- `joinWith`: texts joined by a separator.
-/

namespace TableCast
namespace Text

/-- The text without the leading characters of a class. -/
def trimLeftBy (p : Char → Bool) (cs : List Char) : List Char :=
  cs.dropWhile p

/-- The text without the trailing characters of a class. -/
def trimRightBy (p : Char → Bool) (cs : List Char) : List Char :=
  (cs.reverse.dropWhile p).reverse

/-- The text without the characters of a class at its ends. -/
def trimBy (p : Char → Bool) (cs : List Char) : List Char :=
  trimRightBy p (trimLeftBy p cs)

/-- The text without blanks at its ends. -/
def trimBlanks (cs : List Char) : List Char :=
  trimBy isBlank cs

/-- The pieces of a text between the occurrences of a character. -/
def splitOnChar (sep : Char) : List Char → List (List Char)
  | [] => [[]]
  | c :: cs =>
    if c == sep then [] :: splitOnChar sep cs
    else match splitOnChar sep cs with
      | [] => [[c]]
      | piece :: pieces => (c :: piece) :: pieces

/-- The maximal runs of characters of a class, in order. -/
def runs (p : Char → Bool) : List Char → List (List Char)
  | [] => []
  | [c] => if p c then [[c]] else []
  | c :: d :: cs =>
    if p c then
      if p d then match runs p (d :: cs) with
        | [] => [[c]]
        | run :: rest => (c :: run) :: rest
      else [c] :: runs p (d :: cs)
    else runs p (d :: cs)

/-- The words of a text: its maximal runs without blanks. -/
def blankWords (cs : List Char) : List (List Char) :=
  runs (fun c => !isBlank c) cs

/-- Every occurrence of `pattern`, from left to right, replaced by `image`.  After an
occurrence the next `skip` characters belong to it and are dropped. -/
def replaceFrom (pattern image : List Char) : Nat → List Char → List Char
  | _, [] => []
  | skip + 1, _ :: cs => replaceFrom pattern image skip cs
  | 0, c :: cs =>
    if pattern.isPrefixOf (c :: cs) && !pattern.isEmpty then
      image ++ replaceFrom pattern image (pattern.length - 1) cs
    else c :: replaceFrom pattern image 0 cs

/-- Every occurrence of `pattern`, from left to right, replaced by `image`. -/
def replaceAll (pattern image cs : List Char) : List Char :=
  replaceFrom pattern image 0 cs

/-- The texts joined by a separator. -/
def joinWith (sep : String) : List String → String
  | [] => ""
  | s :: rest => rest.foldl (fun joined t => joined ++ sep ++ t) s

/-- Every occurrence of `pattern` in a text replaced by `image`. -/
def replaced (s pattern image : String) : String :=
  String.ofList (replaceAll pattern.toList image.toList s.toList)

/-- A text as it is read from a file: every line ends the same way. -/
def withPlainLineEnds (s : String) : String :=
  replaced (replaced s "\r\n" "\n") "\r" "\n"

/-- Whether the text starts with another. -/
def startsWith (s start : String) : Bool :=
  start.toList.isPrefixOf s.toList

/-- Whether the text ends with another. -/
def endsWith (s ending : String) : Bool :=
  ending.toList.isSuffixOf s.toList

/-- Whether the text occurs somewhere in another. -/
def occursIn (part : List Char) : List Char → Bool
  | [] => part.isEmpty
  | c :: cs => part.isPrefixOf (c :: cs) || occursIn part cs

/-- Whether the text has another as a part. -/
def contains (s part : String) : Bool :=
  occursIn part.toList s.toList

/-- The text without blanks at its ends. -/
def trimmed (s : String) : String :=
  String.ofList (trimBlanks s.toList)

/-- The pieces of a text between the occurrences of a character. -/
def splitOn (s : String) (sep : Char) : List String :=
  (splitOnChar sep s.toList).map String.ofList

/-- `n` copies of a character. -/
def copies (n : Nat) (c : Char) : String :=
  String.ofList (List.replicate n c)

/-- The text followed by blanks up to the given number of characters. -/
def padRight (s : String) (width : Nat) : String :=
  s ++ copies (width - s.length) ' '

end Text
end TableCast
