import TableCast.Document.Yaml.TokenStream
import TableCast.Number.Real
import TableCast.Text.LetterCase

/-!
# YAML scalars

A plain scalar is a truth value, a number, a date, a point in time or nothing when it is
written as one, and a text otherwise.  A tag announces what a scalar is, however it is
written; a scalar that does not write what is announced is a problem.

- `kindOfPlain`: what a plain scalar is.
- `ScalarKind.read`: the value that a scalar of a kind writes.
- `scalarDocument`: the value of a scalar with or without a tag.
-/

namespace TableCast
namespace Yaml

open Text Number

/-- The spellings of true. -/
def trueWords : List String :=
  ["yes", "Yes", "YES", "true", "True", "TRUE", "on", "On", "ON"]

/-- The spellings of false. -/
def falseWords : List String :=
  ["no", "No", "NO", "false", "False", "FALSE", "off", "Off", "OFF"]

/-- The spellings of nothing. -/
def nullWords : List String := ["~", "null", "Null", "NULL", ""]

/-- What a scalar may be. -/
inductive ScalarKind where
  | null
  | bool
  | int
  | float
  | str
  | bytes
  | time
deriving Repr, DecidableEq, Inhabited

/-- What the tags of the core types start with. -/
def coreTag : String := "tag:yaml.org,2002:"

/-- The tag of the key under which other mappings are merged. -/
def mergeTag : String := coreTag ++ "merge"

/-- The tag of the key under which a mapping keeps its value as a scalar. -/
def valueTag : String := coreTag ++ "value"

/-- The kinds of scalars with their tags. -/
def kindTags : List (String × ScalarKind) :=
  [("null", .null), ("bool", .bool), ("int", .int), ("float", .float), ("str", .str),
    ("binary", .bytes), ("timestamp", .time)]

/-- The kind of scalar that a tag announces. -/
def kindOfTag? (tag : String) : Option ScalarKind :=
  (kindTags.find? fun (name, _) => tag == coreTag ++ name).map (·.2)

/-! ## How plain scalars are written -/

/-- Whether there is a character and all are digits below a base or underscores. -/
def isDigitsIn (base : Nat) (cs : List Char) : Bool :=
  !cs.isEmpty &&
    cs.all fun c => c == '_' || ((Json.hexValue? c).map (decide <| · < base)).getD false

/-- Whether a text is one or two digits that write a number below sixty. -/
def isSixtieth (cs : List Char) : Bool :=
  match cs with
  | [d] => isAsciiDigit d
  | [t, d] => isAsciiDigit t && t.toNat ≤ '5'.toNat && isAsciiDigit d
  | _ => false

/-- Whether a text is a decimal number followed by at least one part below sixty, each
behind a colon. -/
def isSexagesimal (cs : List Char) : Bool :=
  match splitOnChar ':' cs with
  | whole :: part :: parts =>
    (whole.head?.map isAsciiDigit).getD false && isDigitsIn 10 whole &&
      (part :: parts).all isSixtieth
  | _ => false

/-- Whether a text is written as a whole number: decimal, or in base 2, 8, 16 or 60. -/
def isWhole (cs : List Char) : Bool :=
  match (splitSign cs).2 with
  | ['0'] => true
  | '0' :: 'b' :: rest => isDigitsIn 2 rest
  | '0' :: 'x' :: rest => isDigitsIn 16 rest
  | '0' :: rest => isDigitsIn 8 rest
  | c :: rest => isAsciiDigit c && (isDigitsIn 10 (c :: rest) || isSexagesimal (c :: rest))
  | [] => false

/-- Whether a text is an exponent with a sign, or nothing. -/
def isExponent : List Char → Bool
  | [] => true
  | e :: s :: ds =>
    (e == 'e' || e == 'E') && (s == '+' || s == '-') && !ds.isEmpty && ds.all isAsciiDigit
  | _ => false

/-- Whether a text is written as a decimal number with a point. -/
def isPointed (cs : List Char) : Bool :=
  let digit (c : Char) : Bool := isAsciiDigit c || c == '_'
  let whole := cs.takeWhile digit
  match cs.drop whole.length with
  | '.' :: rest =>
    let fraction := rest.takeWhile digit
    let start := if whole.isEmpty then fraction.head? else whole.head?
    (start.map isAsciiDigit).getD false && isExponent (rest.drop fraction.length)
  | _ => false

/-- Whether a text is written as a number with a point, an infinity or no number. -/
def isReal (cs : List Char) : Bool :=
  let (_, rest) := splitSign cs
  let signed := cs.length != rest.length
  if [".inf", ".Inf", ".INF"].contains (String.ofList rest) then true
  else if [".nan", ".NaN", ".NAN"].contains (String.ofList cs) then true
  else if rest.head? == some '.' then !signed && isPointed rest
  else isPointed rest || match splitOnChar '.' rest with
    | [front, fraction] =>
      isSexagesimal front && fraction.all fun c => isAsciiDigit c || c == '_'
    | _ => false

/-! ## Days and points in time -/

/-- A number of one or two digits in front of a text, and the rest. -/
def readPair? (cs : List Char) : Option (Nat × List Char) :=
  match (cs.take 2).takeWhile isAsciiDigit with
  | [] => none
  | ds => some (digitsValue 0 (ds.map fun d => d.toNat - '0'.toNat), cs.drop ds.length)

/-- A number of just so many digits in front of a text, and the rest. -/
def readDigits? (count : Nat) (cs : List Char) : Option (Nat × List Char) :=
  let ds := (cs.take count).takeWhile isAsciiDigit
  if ds.length == count then
    some (digitsValue 0 (ds.map fun d => d.toNat - '0'.toNat), cs.drop count)
  else none

/-- The rest of a text behind a character. -/
def behind? (c : Char) : List Char → Option (List Char)
  | [] => none
  | d :: rest => if d == c then some rest else none

/-- A day in front of a text, and the rest. -/
def readDay? (cs : List Char) : Option (Day × List Char) := do
  let (year, rest) ← readDigits? 4 cs
  let (month, rest) ← readPair? (← behind? '-' rest)
  let (day, rest) ← readPair? (← behind? '-' rest)
  return ({ year := year, month := month, day := day }, rest)

/-- Whether a character is a blank within a line. -/
def isLineBlank (c : Char) : Bool := c == ' ' || c == '\t'

/-- How far ahead of universal time the rest of a text says that the clock is. -/
def readAhead? (cs : List Char) : Option (Option Int) :=
  match cs.dropWhile isLineBlank with
  | [] => if cs.isEmpty then some none else none
  | ['Z'] => some (some 0)
  | s :: rest => do
    if s != '+' && s != '-' then none
    let (hours, rest) ← readPair? rest
    let (minutes, rest) ← match rest with
      | [] => some (0, [])
      | ':' :: rest => readDigits? 2 rest
      | _ => none
    if !rest.isEmpty then none
    let ahead : Int := 60 * hours + minutes
    return some (if s == '-' then -ahead else ahead)

/-- The millionths that the digits behind a point write. -/
def millionths (ds : List Char) : Nat :=
  let digits := (ds.take 6).map fun d => d.toNat - '0'.toNat
  digitsValue 0 (digits ++ List.replicate (6 - digits.length) 0)

/-- A point in time on a day, with the time of day that a text writes. -/
def readClock? (date : Day) (cs : List Char) : Option Moment := do
  let (hour, rest) ← readPair? cs
  let (minute, rest) ← readDigits? 2 (← behind? ':' rest)
  let (second, rest) ← readDigits? 2 (← behind? ':' rest)
  let fraction := match rest with
    | '.' :: rest => rest.takeWhile isAsciiDigit
    | _ => []
  let rest := match rest with
    | '.' :: rest => rest.dropWhile isAsciiDigit
    | rest => rest
  let ahead ← readAhead? rest
  return {
    date := date, hour := hour, minute := minute, second := second
    micro := millionths fraction, ahead := ahead }

/-- The day or the point in time that a text writes. -/
def readTime? (cs : List Char) : Option (Day ⊕ Moment) := do
  let (date, rest) ← readDay? cs
  match rest with
  | [] => return .inl date
  | 'T' :: rest => (readClock? date rest).map .inr
  | 't' :: rest => (readClock? date rest).map .inr
  | c :: rest =>
    if isLineBlank c then (readClock? date (rest.dropWhile isLineBlank)).map .inr else none

/-- Whether a plain scalar is written as a day or a point in time: the parts of a day alone
have all their digits. -/
def isTime (cs : List Char) : Bool :=
  match readTime? cs with
  | some (.inl _) => cs.length == "2000-01-01".length
  | some (.inr _) => true
  | none => false

/-- What a plain scalar is.  The signs of merged mappings and of the value of a mapping are
none. -/
def kindOfPlain? (text : String) : Option ScalarKind :=
  let cs := text.toList
  if trueWords.contains text || falseWords.contains text then some .bool
  else if nullWords.contains text then some .null
  else if isReal cs then some .float
  else if isWhole cs then some .int
  else if isTime cs then some .time
  else if text == "<<" || text == "=" then none
  else some .str

/-! ## What scalars stand for -/

/-- The problem that a text has no first character. -/
def noFirst : Problem := .badPosition "string index out of range"

/-- The most characters that the message about a text that is no whole number shows. -/
def shownLimit : Nat := 200

/-- The problem of a text that writes no whole number in a base. -/
def noInteger (base : Nat) (cs : List Char) : Problem :=
  let shown := (Quoted.text (String.ofList cs)).toList.take shownLimit
  .badValue ("invalid literal for int() with base " ++ toString base ++ ": " ++ String.ofList shown)

/-- The letter of the sign in front of digits of a base. -/
def baseLetter? (base : Nat) : Option Char :=
  [(2, 'b'), (8, 'o'), (16, 'x')].lookup base

/-- The text without the sign in front of digits of a base. -/
def withoutBaseSign (base : Nat) : List Char → List Char
  | '0' :: c :: cs => if baseLetter? base == some (asciiLower c) then cs else '0' :: c :: cs
  | cs => cs

/-- The digit that a character is in a base. -/
def digitIn? (base : Nat) (c : Char) : Option Nat :=
  ((decimalValue? c).or (Json.hexValue? c)).filter (decide <| · < base)

/-- The whole number that a text writes in a base, with the sign of the base or without. -/
def readInBase (base : Nat) (cs : List Char) : Except Problem Int :=
  let (negative, rest) := splitSign (trimBlanks cs)
  match (withoutBaseSign base rest).mapM (digitIn? base) with
  | none => .error (noInteger base cs)
  | some [] => .error (noInteger base cs)
  | some ds =>
    if base == 10 && ds.length > maxDigits then .error (.badValue (tooLongMessage ds.length))
    else
      let n := ds.foldl (fun n d => base * n + d) 0
      .ok (if negative then -(n : Int) else n)

/-- The whole number that a text without sign writes: decimal, or in the base that its
start tells. -/
def readUnsigned (cs : List Char) : Except Problem Int :=
  match cs with
  | [] => .error noFirst
  | ['0'] => .ok 0
  | '0' :: 'b' :: rest => readInBase 2 rest
  | '0' :: 'x' :: rest => readInBase 16 rest
  | '0' :: 'o' :: rest => readInBase 8 rest
  | '0' :: _ => readInBase 8 cs
  | _ =>
    if cs.contains ':' then do
      let parts ← (splitOnChar ':' cs).mapM (readInBase 10)
      return parts.foldl (fun n part => 60 * n + part) 0
    else readInBase 10 cs

/-- The whole number that a scalar writes. -/
def readWhole (text : String) : Except Problem Int :=
  match text.toList.filter (· != '_') with
  | [] => .error noFirst
  | cs =>
    let (negative, rest) := splitSign cs
    (readUnsigned rest).map fun n => if negative then -n else n

/-- The floating-point number that a text writes. -/
def readPart (cs : List Char) : Except Problem Float :=
  match readReal? cs with
  | some x => .ok x
  | none =>
    .error (.badValue ("could not convert string to float: " ++ Quoted.text (String.ofList cs)))

/-- The sum of parts, each of which counts sixty times as much as the next; the last is
added first. -/
def sexagesimalSum (parts : List Float) : Float :=
  (parts.reverse.foldl (fun (sum, base) part => (sum + part * Float.ofNat base, 60 * base))
    ((0.0 : Float), 1)).1

/-- The floating-point number that a scalar writes. -/
def readFloating (text : String) : Except Problem Float :=
  match lowerChars (text.toList.filter (· != '_')) with
  | [] => .error noFirst
  | cs =>
    let (negative, rest) := splitSign cs
    let signed (x : Float) : Float := if negative then -x else x
    if String.ofList rest == ".inf" then .ok (signed (1.0 / 0.0))
    else if String.ofList rest == ".nan" then .ok (0.0 / 0.0)
    else if rest.contains ':' then
      ((splitOnChar ':' rest).mapM readPart).map fun parts => signed (sexagesimalSum parts)
    else (readPart rest).map signed

/-- The truth value that a scalar writes. -/
def readTruth (text : String) : Except Problem Bool :=
  let word := lower text
  if trueWords.contains word then .ok true
  else if falseWords.contains word then .ok false
  else .error (.badKey (Quoted.text word))

/-- The day or the point in time that a scalar writes. -/
def readTime (text : String) : Except Problem Document :=
  match readTime? text.toList with
  | none => .error (.absent "'NoneType' object has no attribute 'groupdict'")
  | some (.inl date) => match date.checked with
    | .ok date => .ok (.date date)
    | .error e => .error (.badValue e.message)
  | some (.inr moment) => match moment.checked with
    | .ok moment => .ok (.timestamp moment)
    | .error e => .error (.badValue e.message)

/-- The characters that write six bits each. -/
def isSixBits (c : Char) : Bool :=
  isAsciiLetter c || isAsciiDigit c || c == '+' || c == '/'

/-- Whether a text writes bytes, four characters for three of them; other characters are
passed over, and padding ends the text.  The first number counts the characters of the
group at hand, the second its padding. -/
def writesBytes (quad pads : Nat) : List Char → Bool
  | [] => quad == 0
  | c :: cs =>
    if c == '=' then
      if quad ≥ 2 && quad + pads + 1 ≥ 4 then true
      else writesBytes quad (if quad ≥ 2 then pads + 1 else pads) cs
    else if isSixBits c then writesBytes ((quad + 1) % 4) 0 cs
    else writesBytes quad pads cs

/-- The value that a scalar of a kind writes. -/
def ScalarKind.read (kind : ScalarKind) (text : String) : Except Fault Document :=
  match kind with
  | .null => .ok .null
  | .bool => ((readTruth text).map .bool).mapError .scalar
  | .int => ((readWhole text).map .int).mapError .scalar
  | .float => ((readFloating text).map .float).mapError .scalar
  | .str => .ok (.str text)
  | .bytes =>
    if text.toList.all (·.toNat < 128) && writesBytes 0 0 text.toList then .ok (.bytes text)
    else .error .value
  | .time => (readTime text).mapError .scalar

/-- The kind of a scalar with or without a tag.  The tag without a name says that the scalar
is read as a plain one. -/
def scalarKind? (tag : Option String) (style : Style) (text : String) : Option ScalarKind :=
  match tag, style with
  | none, .plain => kindOfPlain? text
  | none, _ => some .str
  | some "!", _ => kindOfPlain? text
  | some tag, _ => kindOfTag? tag

/-- The value of a scalar with or without a tag. -/
def scalarDocument (tag : Option String) (style : Style) (text : String) : Except Fault Document :=
  match scalarKind? tag style text with
  | some kind => kind.read text
  | none => .error .value

end Yaml
end TableCast
