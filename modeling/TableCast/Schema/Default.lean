import TableCast.Schema.NativeType
import TableCast.Number.Floating

/-!
# Static defaults

The default of a column is an expression of the database.  When it is a literal for the
type of the column it gives a static value; an expression that the database evaluates
gives none.

- `Value`: the static values.
- `unwrap`: an expression without casts and enclosing parentheses.
- `staticDefault`: the static value of an expression for a type.
-/

namespace TableCast
namespace Schema

open Text Number

/-- A static value. -/
inductive Value where
  | bool (b : Bool)
  | int (n : Int)
  | float (x : Float)
  | text (s : String)
deriving Repr, Inhabited

/-- The characters of a type name behind a cast. -/
def isCastChar (c : Char) : Bool :=
  isWordChar c || isBlank c || c == '[' || c == ']' || c == '"' || c == '.'

/-- The text in front of the first cast that the rest of the text is; the first argument
is the text already passed, last character first. -/
def beforeCast? (before : List Char) : List Char → Option (List Char)
  | ':' :: ':' :: rest =>
    if !rest.isEmpty && rest.all isCastChar then some before.reverse
    else beforeCast? (':' :: before) (':' :: rest)
  | c :: rest => beforeCast? (c :: before) rest
  | [] => none

/-- The text between an opening parenthesis at its start and a closing one at its end. -/
def insideParentheses? : List Char → Option (List Char)
  | '(' :: rest => if rest.getLast? == some ')' then some rest.dropLast else none
  | _ => none

/-- One layer of an expression removed: a trailing cast, else enclosing parentheses. -/
def unwrapOnce? (cs : List Char) : Option (List Char) :=
  match beforeCast? [] cs with
  | some inner => some (trimBlanks inner)
  | none => (insideParentheses? cs).map trimBlanks

/-- At most as many layers as the first argument tells removed. -/
def unwrapUpTo : Nat → List Char → List Char
  | 0, cs => cs
  | fuel + 1, cs => match unwrapOnce? cs with
    | some inner => unwrapUpTo fuel inner
    | none => cs

/-- The expression without surrounding blanks, casts and enclosing parentheses.  Every
layer has a character of its own, so there are no more layers than characters. -/
def unwrap (expression : List Char) : List Char :=
  let text := trimBlanks expression
  unwrapUpTo text.length text

/-- The text between single quotes at its ends. -/
def quotedBody? (cs : List Char) : Option (List Char) :=
  match cs with
  | '\'' :: rest => if rest.getLast? == some '\'' then some rest.dropLast else none
  | _ => none

/-- The text with every doubled quote made single. -/
def undoubleQuotes (cs : List Char) : List Char :=
  replaceAll ['\'', '\''] ['\''] cs

/-- The spellings of true. -/
def trueSpellings : List String := ["true", "1", "b'1'", "t", "yes", "on"]

/-- The spellings of false. -/
def falseSpellings : List String := ["false", "0", "b'0'", "f", "no", "off"]

/-- The text without one final line break. -/
def withoutLineEnd (cs : List Char) : List Char :=
  if cs.getLast? == some '\n' then cs.dropLast else cs

/-- Whether the text is written as an integer, up to a final line break. -/
def isIntegerText (cs : List Char) : Bool :=
  let (_, digits) := splitSign (withoutLineEnd cs)
  !digits.isEmpty && digits.all isDecimalChar

/-- The number that the text is written as, up to a final line break. -/
def numberText? (cs : List Char) : Option Decimal :=
  readDecimal? (withoutLineEnd cs)

/-- The static value of an unwrapped expression for a type. -/
def literalValue (text : List Char) (type : SemanticType) :
    Except IntegerError (Option Value) :=
  let quoted := quotedBody? text
  let literal := match quoted with
    | some body => undoubleQuotes body
    | none => text
  match type with
  | .binary | .structured => .ok none
  | .boolean =>
    let spelling := String.ofList (lowerChars literal)
    if trueSpellings.contains spelling then .ok (some (.bool true))
    else if falseSpellings.contains spelling then .ok (some (.bool false))
    else .ok none
  | .integer =>
    if isIntegerText literal then (readInteger literal).map fun n => some (.int n)
    else .ok none
  | .float => .ok ((numberText? literal).map fun d => .float (ofDecimal d))
  | .decimalText =>
    .ok (if (numberText? literal).isSome then some (.text (String.ofList literal)) else none)
  | _ => .ok (if quoted.isSome then some (.text (String.ofList literal)) else none)

/-- The static value of a default expression for a type, none for an expression that the
database evaluates. -/
def staticDefault (expression : Option String) (type : SemanticType) :
    Except IntegerError (Option Value) :=
  match expression with
  | none => .ok none
  | some expression =>
    let text := unwrap expression.toList
    if text.isEmpty || String.ofList (upperChars text) == "NULL" then .ok none
    else literalValue text type

/-- The text of a value. -/
def Value.plain : Value → String
  | .bool true => "True"
  | .bool false => "False"
  | .int n => toString n
  | .float x => Number.text x
  | .text s => s

end Schema
end TableCast
