import TableCast.Text.CharClass
import TableCast.Text.LetterCase
import TableCast.Text.Pieces

/-!
# Words of a name and the spellings built from them

A schema name is cut into words at separators and at case transitions; the words
are joined again in the spelling that a place in the generated code asks for.

- `Name.words`: the words of a name.
- `Name.upperCamel`, `Name.lowerCamel`, `Name.snake`, `Name.enumCase`.
- `Name.sanitized`: runs of characters that cannot stand in a name collapsed.
- `Name.stem?`: a column name without its `_id` ending.
-/

namespace TableCast
namespace Name

open Text

/-- An underscore in front of every capitalised word that follows another character
of the same line.  With `inWord` the small letters of a capitalised word are being
copied. -/
def breakCapitalized (inWord : Bool) : List Char → List Char
  | [] => []
  | c :: cs =>
    if inWord && isAsciiLower c then c :: breakCapitalized true cs
    else match cs with
      | d :: e :: rest =>
        if c != '\n' && isAsciiUpper d && isAsciiLower e then
          c :: '_' :: d :: breakCapitalized true (e :: rest)
        else c :: breakCapitalized false (d :: e :: rest)
      | _ => c :: cs
termination_by cs => cs.length

/-- An underscore between a small letter or digit and a capital. -/
def breakBeforeCapital : List Char → List Char
  | c :: d :: cs =>
    if (isAsciiLower c || isAsciiDigit c) && isAsciiUpper d then
      c :: '_' :: breakBeforeCapital (d :: cs)
    else c :: breakBeforeCapital (d :: cs)
  | cs => cs

/-- The words of a name: runs of letters and numerals, cut at case transitions. -/
def wordsOf (cs : List Char) : List (List Char) :=
  runs isAlphanumeric (breakBeforeCapital (breakCapitalized false cs))

/-- The words of a name. -/
def words (name : String) : List String :=
  (wordsOf name.toList).map String.ofList

/-- The name given to something without words. -/
def unnamed : List Char := "unnamed".toList

/-- The case name of a value without words. -/
def emptyCase : List Char := "EMPTY_VALUE".toList

/-- An underscore in front of a name that does not start with a letter. -/
def withLeadingLetter : List Char → List Char
  | [] => []
  | c :: cs => if isAlphabetic c then c :: cs else '_' :: c :: cs

/-- The words of a name, or the stand-in for a name without words. -/
def wordsOrUnnamed (cs : List Char) : List (List Char) :=
  match wordsOf cs with
  | [] => [unnamed]
  | words => words

/-- Words joined by underscores. -/
def joinUnderscore : List (List Char) → List Char
  | [] => []
  | [w] => w
  | w :: v :: ws => w ++ '_' :: joinUnderscore (v :: ws)

/-- Every word capitalised, joined. -/
def upperCamelChars (cs : List Char) : List Char :=
  withLeadingLetter ((wordsOrUnnamed cs).flatMap capitalizeChars)

/-- The first word in lower case, the others capitalised, joined. -/
def lowerCamelChars (cs : List Char) : List Char :=
  withLeadingLetter (match wordsOrUnnamed cs with
    | [] => []
    | w :: ws => lowerChars w ++ ws.flatMap capitalizeChars)

/-- The words in lower case, joined by underscores. -/
def snakeChars (cs : List Char) : List Char :=
  withLeadingLetter (joinUnderscore ((wordsOrUnnamed cs).map lowerChars))

/-- The words in upper case, joined by underscores. -/
def enumCaseChars (cs : List Char) : List Char :=
  match wordsOf cs with
  | [] => emptyCase
  | words => withLeadingLetter (joinUnderscore (words.map upperChars))

/-- The spelling of a type name. -/
def upperCamel (name : String) : String :=
  String.ofList (upperCamelChars name.toList)

/-- The spelling of a field name. -/
def lowerCamel (name : String) : String :=
  String.ofList (lowerCamelChars name.toList)

/-- The spelling of a module name. -/
def snake (name : String) : String :=
  String.ofList (snakeChars name.toList)

/-- The spelling of an enum case. -/
def enumCase (value : String) : String :=
  String.ofList (enumCaseChars value.toList)

/-- An underscore in front of a name that does not start with a letter. -/
def leading (name : String) : String :=
  String.ofList (withLeadingLetter name.toList)

/-- Every run of characters outside words replaced by one underscore.  `inGap` tells
that the run being read has been replaced already. -/
def collapseGaps (inGap : Bool) : List Char → List Char
  | [] => []
  | c :: cs =>
    if isWordChar c then c :: collapseGaps false cs
    else if inGap then collapseGaps true cs
    else '_' :: collapseGaps true cs

/-- The name with every run of foreign characters collapsed and without underscores
at its ends. -/
def sanitizedChars (cs : List Char) : List Char :=
  trimBy (· == '_') (collapseGaps false cs)

/-- The name with every run of foreign characters collapsed and without underscores
at its ends. -/
def sanitized (raw : String) : String :=
  String.ofList (sanitizedChars raw.toList)

/-- The endings that mark a key column. -/
def idEndings : List (List Char) :=
  ["_id".toList, "_ID".toList, "Id".toList]

/-- The text without the ending, when it has that ending and more. -/
def withoutEnding? (ending cs : List Char) : Option (List Char) :=
  if ending.isSuffixOf cs && ending.length < cs.length then
    some (cs.take (cs.length - ending.length))
  else none

/-- The text without one final line break. -/
def withoutFinalBreak (cs : List Char) : List Char :=
  if cs.getLast? == some '\n' then cs.dropLast else cs

/-- A column name without its `_id` ending, when it has one and something is left. -/
def stemChars? (cs : List Char) : Option (List Char) :=
  let line := withoutFinalBreak cs
  match idEndings.findSome? (withoutEnding? · line) with
  | none => none
  | some stem =>
    if stem.contains '\n' then none
    else match trimRightBy (· == '_') stem with
      | [] => none
      | trimmed => some trimmed

/-- A column name without its `_id` ending, when it has one and something is left. -/
def stem? (column : String) : Option String :=
  (stemChars? column.toList).map String.ofList

end Name
end TableCast
