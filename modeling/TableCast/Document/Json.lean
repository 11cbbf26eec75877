import TableCast.Document.Value
import TableCast.Number.Floating

/-!
# JSON documents

Reading and writing documents as JSON.  A number with a point or an exponent is a
floating-point number, any other is an integer; the entries of an object keep their order.

- `Json.read?`: the document that a text is.
- `Json.write`, `Json.text`: the text of a document.
-/

namespace TableCast
namespace Json

open Text Number

/-- The blanks of JSON. -/
def isJsonBlank (c : Char) : Bool :=
  c == ' ' || c == '\t' || c == '\n' || c == '\r'

/-- The text without leading blanks. -/
def skipBlanks (cs : List Char) : List Char :=
  cs.dropWhile isJsonBlank

/-- The value of a hexadecimal digit. -/
def hexValue? (c : Char) : Option Nat :=
  let n := c.toNat
  if 48 ≤ n && n ≤ 57 then some (n - 48)
  else if 97 ≤ n && n ≤ 102 then some (n - 87)
  else if 65 ≤ n && n ≤ 70 then some (n - 55)
  else none

/-- The number of four hexadecimal digits at the start of a text, and the rest. -/
def hexFour? : List Char → Option (Nat × List Char)
  | a :: b :: c :: d :: rest => do
    let a ← hexValue? a
    let b ← hexValue? b
    let c ← hexValue? c
    let d ← hexValue? d
    return (a * 4096 + b * 256 + c * 16 + d, rest)
  | _ => none

/-- The character of a letter behind a backslash. -/
def escaped? : Char → Option Char
  | '"' => some '"'
  | '\\' => some '\\'
  | '/' => some '/'
  | 'b' => some '\x08'
  | 'f' => some '\x0c'
  | 'n' => some '\n'
  | 'r' => some '\r'
  | 't' => some '\t'
  | _ => none

/-- The rest of a string behind its opening quote; the first argument bounds the length,
the second holds the characters read, last first. -/
def readString? : Nat → List Char → List Char → Option (String × List Char)
  | 0, _, _ => none
  | fuel + 1, read, cs => match cs with
    | [] => none
    | '"' :: rest => some (String.ofList read.reverse, rest)
    | '\\' :: 'u' :: rest => do
      let (n, rest) ← hexFour? rest
      match rest with
      | '\\' :: 'u' :: rest' =>
        let (m, rest'') ← hexFour? rest'
        if 0xD800 ≤ n && n < 0xDC00 && 0xDC00 ≤ m && m < 0xE000 then
          let c := Char.ofNat (0x10000 + (n - 0xD800) * 0x400 + (m - 0xDC00))
          readString? fuel (c :: read) rest''
        else readString? fuel (Char.ofNat n :: read) rest
      | _ => readString? fuel (Char.ofNat n :: read) rest
    | '\\' :: c :: rest => do
      let e ← escaped? c
      readString? fuel (e :: read) rest
    | c :: rest => readString? fuel (c :: read) rest

/-- The number that a text is. -/
def readNumber? (cs : List Char) : Option Document :=
  if cs.any (fun c => c == '.' || c == 'e' || c == 'E') then
    (readDecimal? cs).map fun d => .float (ofDecimal d)
  else
    let (negative, digits) := splitSign cs
    let (ds, rest) := spanDigits digits
    if ds.isEmpty || !rest.isEmpty then none
    else
      let n := digitsValue 0 ds
      some (.int (if negative then -(n : Int) else n))

/-- The characters of numbers and literal names. -/
def isBareChar (c : Char) : Bool :=
  isAsciiLetter c || isAsciiDigit c || c == '-' || c == '+' || c == '.'

mutual

/-- The value at the start of a text, and the rest; the first argument bounds the
reading. -/
def readValue? : Nat → List Char → Option (Document × List Char)
  | 0, _ => none
  | fuel + 1, cs => match skipBlanks cs with
    | '"' :: rest => (readString? (rest.length + 1) [] rest).map fun (s, rest) => (.str s, rest)
    | '[' :: rest => match skipBlanks rest with
      | ']' :: rest => some (.list [], rest)
      | rest => (readItems? fuel [] rest).map fun (items, rest) => (.list items, rest)
    | '\x7b' :: rest => match skipBlanks rest with
      | '\x7d' :: rest => some (.map [], rest)
      | rest => (readEntries? fuel [] rest).map fun (entries, rest) => (.map entries, rest)
    | rest =>
      let word := rest.takeWhile isBareChar
      let after := rest.dropWhile isBareChar
      if word == "null".toList then some (.null, after)
      else if word == "true".toList then some (.bool true, after)
      else if word == "false".toList then some (.bool false, after)
      else (readNumber? word).map (·, after)

/-- The items of an array behind those already read, last first. -/
def readItems? : Nat → List Document → List Char → Option (List Document × List Char)
  | 0, _, _ => none
  | fuel + 1, read, cs => do
    let (item, rest) ← readValue? fuel cs
    match skipBlanks rest with
    | ',' :: rest => readItems? fuel (item :: read) rest
    | ']' :: rest => some ((item :: read).reverse, rest)
    | _ => none

/-- The entries of an object behind those already read, last first. -/
def readEntries? : Nat → List (Document × Document) → List Char →
    Option (List (Document × Document) × List Char)
  | 0, _, _ => none
  | fuel + 1, read, cs => do
    match skipBlanks cs with
    | '"' :: rest =>
      let (key, rest) ← readString? (rest.length + 1) [] rest
      match skipBlanks rest with
      | ':' :: rest =>
        let (value, rest) ← readValue? fuel rest
        match skipBlanks rest with
        | ',' :: rest => readEntries? fuel ((.str key, value) :: read) rest
        | '\x7d' :: rest => some (((.str key, value) :: read).reverse, rest)
        | _ => none
      | _ => none
    | _ => none

end

/-- The document that a text is. -/
def read? (text : String) : Option Document :=
  let cs := text.toList
  match readValue? (cs.length + 1) cs with
  | some (value, rest) => if (skipBlanks rest).isEmpty then some value else none
  | none => none

/-- How a character is written inside a string. -/
def escapeChar (c : Char) : String :=
  if c == '"' then "\\\""
  else if c == '\\' then "\\\\"
  else if c == '\n' then "\\n"
  else if c == '\r' then "\\r"
  else if c == '\t' then "\\t"
  else if c.toNat < 32 || c.toNat == 127 then
    "\\u" ++ String.ofList (Quoted.hexDigits 4 c.toNat)
  else String.singleton c

/-- A text between quotes. -/
def writeString (s : String) : String :=
  s.toList.foldl (fun out c => out ++ escapeChar c) "\"" ++ "\""

/-- The least integer in absolute value that is written as a string. -/
def wideInteger : Nat := 9007199254740992

mutual

/-- The text of a document.  A wide integer is written as a string, a floating-point number
as an object that holds its text. -/
def write : Document → String
  | .null => "null"
  | .bool true => "true"
  | .bool false => "false"
  | .int n => if n.natAbs ≥ wideInteger then writeString (toString n) else toString n
  | .float x => "\x7b\"float\":" ++ writeString (Number.text x) ++ "\x7d"
  | .str s => writeString s
  | .date d => writeString d.text
  | .timestamp m => writeString m.text
  | .bytes s => writeString s
  | .list items => "[" ++ joinWith "," (writeAll items) ++ "]"
  | .set items => "[" ++ joinWith "," (writeAll items) ++ "]"
  | .map entries => "\x7b" ++ joinWith "," (writeEntries entries) ++ "\x7d"

/-- The texts of several documents. -/
def writeAll : List Document → List String
  | [] => []
  | d :: ds => write d :: writeAll ds

/-- The texts of the entries of a mapping. -/
def writeEntries : List (Document × Document) → List String
  | [] => []
  | (k, v) :: rest => (writeString k.plain ++ ":" ++ write v) :: writeEntries rest

end

mutual

/-- The text of a document with every number written as a number. -/
def text : Document → String
  | .int n => toString n
  | .float x => Number.text x
  | .list items => "[" ++ joinWith ", " (textAll items) ++ "]"
  | .map entries => "\x7b" ++ joinWith ", " (textEntries entries) ++ "\x7d"
  | other => write other

/-- The texts of several documents. -/
def textAll : List Document → List String
  | [] => []
  | d :: ds => text d :: textAll ds

/-- The texts of the entries of a mapping. -/
def textEntries : List (Document × Document) → List String
  | [] => []
  | (k, v) :: rest => (writeString k.plain ++ ": " ++ text v) :: textEntries rest

end

end Json
end TableCast
