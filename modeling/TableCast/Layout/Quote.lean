import TableCast.Text.Pieces

/-!
# Where quoted texts end

The quoted texts of a Python text, and the fields of those that are templates.

- `isNameCharacter`: the characters of names.
- `opening?`: the letters and the quote that open a quoted text.
- `literalLength?`: the length of the quoted text that a text starts with.
- `Field`, `templateFields`: the fields of a template, whose values may be quoted texts.
-/

namespace TableCast
namespace Layout

open Text

/-- Whether a character may stand in a name. -/
def isNameCharacter (c : Char) : Bool :=
  c.isAlphanum || c == '_' || c.toNat ≥ 128

/-- The texts that may stand before the quote of a literal, in small letters. -/
def literalLetters : List String :=
  ["", "r", "u", "b", "f", "t", "br", "rb", "fr", "rf", "tr", "rt", "ur"]

/-- The letters and the quote that open a quoted text at the start of a text. -/
def opening? (cs : List Char) : Option (List Char × List Char) :=
  let letters := cs.takeWhile fun c => "rRbBuUfFtT".toList.contains c
  match cs.drop letters.length with
  | quote :: rest =>
    if (quote == '"' || quote == '\'') &&
        literalLetters.contains (String.ofList letters).toLower then
      some (letters, if [quote, quote].isPrefixOf rest then [quote, quote, quote] else [quote])
    else none
  | [] => none

/-- Whether one of the letters before a quote is the given one. -/
def hasLetter (letters : List Char) (small : Char) : Bool :=
  letters.any fun c => c.toLower == small

/-- Whether the letters before a quote open a template. -/
def opensTemplate (letters : List Char) : Bool :=
  hasLetter letters 'f' || hasLetter letters 't'

/-- The length of a text up to its closing quote and with it; only a long text may hold
the end of a line. -/
def closedLength? (quote : List Char) : List Char → Option Nat
  | '\\' :: _ :: cs => (closedLength? quote cs).map (· + 2)
  | [] => none
  | c :: cs =>
    if quote.isPrefixOf (c :: cs) then some quote.length
    else if c == '\n' && quote.length == 1 then none
    else (closedLength? quote cs).map (· + 1)

/-- A field of a template. -/
structure Field where
  /-- The expression whose value is written. -/
  value : String
  /-- Whether the expression is written before its value. -/
  shows : Bool := false
  /-- Whether the field holds a backslash. -/
  escapes : Bool := false
deriving Repr, Inhabited

/-- A field with the given text before its end; a sign of equality that ends it asks for
the expression itself. -/
def Field.ofText (cs : List Char) : Field :=
  match trimRightBy isBlank cs with
  | [] => { value := String.ofList cs }
  | text => match text.reverse with
    | '=' :: c :: rest =>
      if "=!<>:".toList.contains c then { value := String.ofList cs }
      else { value := String.ofList (c :: rest).reverse, shows := true }
    | _ => { value := String.ofList cs }

/-- The length of the conversion at the start of a text, which has a name. -/
def conversionLength? (cs : List Char) : Option Nat :=
  match cs with
  | '!' :: rest =>
    let gap := rest.takeWhile isBlank
    let name := (rest.drop gap.length).takeWhile isNameCharacter
    let after := (rest.drop (gap.length + name.length)).takeWhile isBlank
    if (name.head?.map (!·.isDigit)).getD false then
      some (1 + gap.length + name.length + after.length)
    else none
  | _ => some 0

mutual

/-- The fields in the text of a template, and the length of the text with what ends it:
the closing quote, or for the form of a field the bracket that ends the field. -/
def templateFields : Nat → List Char → Bool → Bool → List Char → Option (List Field × Nat)
  | 0, _, _, _, _ => none
  | fuel + 1, quote, raw, inForm, cs =>
    let step := fun (n : Nat) =>
      (templateFields fuel quote raw inForm (cs.drop n)).map fun (fields, m) => (fields, m + n)
    if quote.isPrefixOf cs then
      if inForm then none else some ([], quote.length)
    else match cs with
      | [] => none
      | '\\' :: c :: rest =>
        if c == 'N' && !raw && rest.head? == some '\x7b' then
          step (3 + (rest.takeWhile (· != '\x7d')).length)
        else if c == '\x7b' || c == '\x7d' then step 1
        else step 2
      | '\x7d' :: rest =>
        if inForm then some ([], 1)
        else if rest.head? == some '\x7d' then step 2
        else none
      | '\x7b' :: rest =>
        if !inForm && rest.head? == some '\x7b' then step 2
        else do
          let (value, n) ← valueLength fuel 0 rest
          let converted ← conversionLength? (rest.drop n)
          let fields ← (match rest.drop (n + converted) with
            | '\x7d' :: _ => some ([], 1)
            | ':' :: form => (templateFields fuel quote raw true form).map fun (fields, m) =>
                (fields, m + 1)
            | _ => none)
          let (more, m) ← templateFields fuel quote raw inForm
            (rest.drop (n + converted + fields.2))
          let length := n + converted + fields.2
          let field := { Field.ofText value with escapes := (rest.take length).contains '\\' }
          return (field :: fields.1 ++ more, m + 1 + length)
      | '\n' :: rest =>
        if quote.length != 1 then step 1
        else if inForm && (rest.dropWhile isBlank).head? == some '\x7d' then
          some ([], 2 + (rest.takeWhile isBlank).length)
        else none
      | _ :: _ => step 1

/-- The expression at the start of a field, and its length. -/
def valueLength : Nat → Nat → List Char → Option (List Char × Nat)
  | 0, _, _ => none
  | fuel + 1, depth, cs =>
    let step := fun (depth n : Nat) =>
      (valueLength fuel depth (cs.drop n)).map fun (value, m) => (cs.take n ++ value, m + n)
    match cs with
    | [] => none
    | c :: rest =>
      if depth == 0 && (c == '\x7d' || c == ':' || (c == '!' && rest.head? != some '=')) then
        some ([], 0)
      else if c == '#' then step depth (cs.takeWhile (· != '\n')).length
      else if "([\x7b".toList.contains c then step (depth + 1) 1
      else if ")]\x7d".toList.contains c then
        if depth == 0 then none else step (depth - 1) 1
      else match opening? cs with
        | some _ => do step depth (← literalLength? fuel cs)
        | none =>
          if isNameCharacter c then step depth (cs.takeWhile isNameCharacter).length
          else if c == '!' then step depth 2
          else step depth 1

/-- The length of the quoted text that a text starts with, when it has an end. -/
def literalLength? : Nat → List Char → Option Nat
  | 0, _ => none
  | fuel + 1, cs => do
    let (letters, quote) ← opening? cs
    let start := letters.length + quote.length
    if opensTemplate letters then
      let (_, n) ← templateFields fuel quote (hasLetter letters 'r') false (cs.drop start)
      return start + n
    else
      let n ← closedLength? quote (cs.drop start)
      return start + n

end

/-- The fields of a quoted text. -/
def literalFields (text : String) : List Field :=
  match opening? text.toList with
  | some (letters, quote) =>
    if opensTemplate letters then
      match templateFields (2 * text.length + 8) quote (hasLetter letters 'r') false
          (text.toList.drop (letters.length + quote.length)) with
      | some (fields, _) => fields
      | none => []
    else []
  | none => []

end Layout
end TableCast
