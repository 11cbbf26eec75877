import TableCast.Document.Yaml.ScalarText

/-!
# The tokens of a YAML text

Indentation opens and closes block collections; a key is recognized when the colon behind
it is read, and its token is then put in front of it.

- `fetch`: the next token.
- `tokens`: all tokens of a text.
-/

namespace TableCast
namespace Yaml

open Text Reader

/-- The characters of the name of an anchor. -/
def isNameChar (c : Char) : Bool :=
  isAsciiLetter c || isAsciiDigit c || c == '-' || c == '_'

/-- The characters of a tag. -/
def isTagChar (c : Char) : Bool :=
  isNameChar c || "-;/?:@&=+$,_.!~*'()[]%".toList.contains c

/-- The name of an anchor or an alias. -/
def readName (r : Reader) : Except Fault (String × Reader) :=
  let name := r.rest.takeWhile isNameChar
  let r := r.steps name.length
  let ends := isGap r.peek || (r.peek.map "?:,]\x7d%@\x60".toList.contains).getD false
  if name.isEmpty || !ends then .error .property else .ok (String.ofList name, r)

/-- The bytes that escapes of two digits at the start of a text write, and the rest. -/
def readEscapes : Nat → List Char → Except Fault (List Nat × List Char)
  | fuel + 1, '%' :: high :: low :: rest => do
    let some byte := hexNumber? [high, low] | throw .property
    let (bytes, rest) ← readEscapes fuel rest
    return (byte :: bytes, rest)
  | _, '%' :: _ => .error .property
  | _, rest => .ok ([], rest)

/-- The text of a tag at the start of a text, with its escapes replaced by the characters
that they encode, and the rest. -/
def readTagText : Nat → List Char → Except Fault (List Char × List Char)
  | 0, cs => .ok ([], cs)
  | _ + 1, [] => .ok ([], [])
  | fuel + 1, c :: cs =>
    if c == '%' then do
      let (bytes, rest) ← readEscapes (fuel + 1) (c :: cs)
      let some text := String.fromUTF8? (bytes.map (·.toUInt8)).toByteArray | throw .property
      let (more, rest) ← readTagText fuel rest
      return (text.toList ++ more, rest)
    else if isTagChar c then do
      let (more, rest) ← readTagText fuel cs
      return (c :: more, rest)
    else .ok ([], c :: cs)

/-- The text of a tag, which must not be empty. -/
def readTagPart (r : Reader) : Except Fault (String × Reader) := do
  let (text, rest) ← readTagText r.rest.length r.rest
  if text.isEmpty then throw .property
  return (String.ofList text, r.steps (r.rest.length - rest.length))

/-- The handle at the start of a tag: one mark, or two with a name between them. -/
def readHandle (r : Reader) : Except Fault (String × Reader) :=
  match r.rest with
  | '!' :: cs =>
    let name := cs.takeWhile isNameChar
    if cs.head? == some ' ' then .ok ("!", r.step)
    else if cs[name.length]? == some '!' then
      .ok ("!" ++ String.ofList name ++ "!", r.steps (name.length + 2))
    else .error .property
  | _ => .error .property

/-- Whether nothing, a blank or a line end comes next. -/
def atPartEnd (r : Reader) : Bool := isGap r.peek && r.peek != some '\t'

/-- A tag. -/
def readTag (r : Reader) : Except Fault (Token × Reader) := do
  let (token, r) ← match r.rest with
    | '!' :: '<' :: _ =>
      let (suffix, r) ← readTagPart (r.steps 2)
      if r.peek != some '>' then throw .property
      pure (Token.tag none suffix, r.step)
    | '!' :: cs =>
      if isGap cs.head? then pure (Token.tag none "!", r.step)
      else
        let word := cs.takeWhile fun c => !(c == ' ' || isLineEnd c)
        let (handle, r) ← if word.contains '!' then readHandle r else pure ("!", r.step)
        let (suffix, r) ← readTagPart r
        pure (Token.tag (some handle) suffix, r)
    | _ => throw .property
  if atPartEnd r then return (token, r) else throw .property

/-- The reader behind the blanks of a line. -/
def skipBlanks (r : Reader) : Reader := r.skipWhile (· == ' ')

/-- A number in a directive. -/
def readNumber (r : Reader) : Except Fault (Nat × Reader) :=
  let digits := r.rest.takeWhile isAsciiDigit
  if digits.isEmpty then .error .property
  else .ok (digits.foldl (fun n d => 10 * n + (d.toNat - '0'.toNat)) 0, r.steps digits.length)

/-- What a directive says, behind its name. -/
def readMeaning (name : String) (r : Reader) : Except Fault (Directive × Reader) := do
  if name == "YAML" then
    let (major, r) ← readNumber (skipBlanks r)
    if r.peek != some '.' then throw .property
    let (_, r) ← readNumber r.step
    if !atPartEnd r then throw .property
    return (.version major, r)
  else if name == "TAG" then
    let (handle, r) ← readHandle (skipBlanks r)
    if r.peek != some ' ' then throw .property
    let (meaning, r) ← readTagPart (skipBlanks r)
    if !atPartEnd r then throw .property
    return (.handle handle meaning, r)
  else return (.other, r.skipWhile (!isLineEnd ·))

/-- A directive, up to the end of its line. -/
def readDirective (r : Reader) : Except Fault (Directive × Reader) := do
  let r := r.step
  let name := r.rest.takeWhile isNameChar
  let r := r.steps name.length
  if name.isEmpty || !atPartEnd r then throw .property
  let (directive, r) ← readMeaning (String.ofList name) r
  let r := skipBlanks r
  let r := if r.peek == some '#' then r.skipWhile (!isLineEnd ·) else r
  if r.rest.isEmpty || r.lineEnd?.isSome then return (directive, r) else throw .property

/-- The end of the text. -/
def fetchEnd (r : Reader) : Except Fault Reader := do
  let r ← (r.unwind (-1)).dropPlace
  return r.push .streamEnd

/-- The start or the end of a document. -/
def fetchDocumentMark (t : Token) (r : Reader) : Except Fault Reader := do
  let r ← (r.unwind (-1)).dropPlace
  return (({ r with allowKey := false }).steps 3).push t

/-- A directive, up to the end of its line. -/
def fetchDirective (r : Reader) : Except Fault Reader := do
  let r ← (r.unwind (-1)).dropPlace
  let (directive, r) ← readDirective { r with allowKey := false }
  return r.push (.directive directive)

/-- The start of a flow collection. -/
def fetchFlowStart (t : Token) (r : Reader) : Except Fault Reader := do
  let r ← r.savePlace
  return ({ r with level := r.level + 1, allowKey := true }).step.push t

/-- The end of a flow collection. -/
def fetchFlowEnd (t : Token) (r : Reader) : Except Fault Reader := do
  let r ← r.dropPlace
  if r.level == 0 then throw .grammar
  return ({ r with level := r.level - 1, allowKey := false }).step.push t

/-- The comma between entries of a flow collection. -/
def fetchFlowEntry (r : Reader) : Except Fault Reader := do
  let r ← ({ r with allowKey := true }).dropPlace
  return r.step.push .flowEntry

/-- The mark in front of an entry of a block sequence. -/
def fetchBlockEntry (r : Reader) : Except Fault Reader := do
  if r.level == 0 && !r.allowKey then throw .misplaced
  let r := if r.level == 0 then match r.open? r.column with
      | some r => r.push .blockSequenceStart
      | none => r
    else r
  let r ← ({ r with allowKey := true }).dropPlace
  return r.step.push .blockEntry

/-- The mark in front of a key. -/
def fetchKey (r : Reader) : Except Fault Reader := do
  if r.level == 0 && !r.allowKey then throw .misplaced
  let r := if r.level == 0 then match r.open? r.column with
      | some r => r.push .blockMappingStart
      | none => r
    else r
  let r ← ({ r with allowKey := r.level == 0 }).dropPlace
  return r.step.push .key

/-- The colon behind a key.  The token of the key goes in front of it, with the start of a
mapping if the key opens one. -/
def fetchValue (r : Reader) : Except Fault Reader := do
  match r.place? with
  | some place =>
    let r := { r with places := r.places.filter (·.level != r.level), allowKey := false }
    let front := r.tokens.extract 0 place.tokenCount
    let back := r.tokens.extract place.tokenCount r.tokens.size
    let (r, opening) := if r.level == 0 then match r.open? place.column with
        | some r => (r, #[Token.blockMappingStart, .key])
        | none => (r, #[.key])
      else (r, #[.key])
    return ({ r with tokens := front ++ opening ++ back }).step.push .value
  | none =>
    if r.level == 0 && !r.allowKey then throw .misplaced
    let r := if r.level == 0 then match r.open? r.column with
        | some r => r.push .blockMappingStart
        | none => r
      else r
    let r ← ({ r with allowKey := r.level == 0 }).dropPlace
    return r.step.push .value

/-- An alias or an anchor. -/
def fetchName (t : String → Token) (r : Reader) : Except Fault Reader := do
  let r ← r.savePlace
  let (name, r) ← readName r.step
  return ({ r with allowKey := false }).push (t name)

/-- A tag. -/
def fetchTag (r : Reader) : Except Fault Reader := do
  let r ← r.savePlace
  let (t, r) ← readTag r
  return ({ r with allowKey := false }).push t

/-- A block text. -/
def fetchBlock (fold : Bool) (r : Reader) : Except Fault Reader := do
  let r ← ({ r with allowKey := true }).dropPlace
  let (text, r) ← blockText fold r
  return r.push (.scalar .block text)

/-- A quoted text. -/
def fetchQuoted (double : Bool) (r : Reader) : Except Fault Reader := do
  let r ← r.savePlace
  let (text, r) ← quotedFrom double (r.rest.length + 1) [] r.step
  return ({ r with allowKey := false }).push (.scalar .quoted text)

/-- A plain text. -/
def fetchPlain (r : Reader) : Except Fault Reader := do
  let r ← r.savePlace
  let (read, r) := plainFrom (r.indent + 1) (r.rest.length + 1) [] []
    { r with allowKey := false }
  return r.push (.scalar .plain (String.ofList read.reverse))

/-- Whether a plain text may start with the next characters. -/
def startsPlain (flow : Bool) : List Char → Bool
  | [] => false
  | c :: cs =>
    !(isGap (some c) || "-?:,[]\x7b\x7d#&*!|>'\"%@\x60".toList.contains c) ||
      (!isGap cs.head? && (c == '-' || (!flow && (c == '?' || c == ':'))))

/-- The next token. -/
def fetch (r : Reader) : Except Fault Reader := do
  let r ← (r.skipGap (r.rest.length + 1)).dropStale
  let r := r.unwind r.column
  match r.rest with
  | [] => fetchEnd r
  | c :: cs =>
    let gap := isGap cs.head?
    if c == '%' && r.column == 0 then fetchDirective r
    else if r.column == 0 && r.atMark "---" then fetchDocumentMark .documentStart r
    else if r.column == 0 && r.atMark "..." then fetchDocumentMark .documentEnd r
    else if c == '[' then fetchFlowStart .flowSequenceStart r
    else if c == '\x7b' then fetchFlowStart .flowMappingStart r
    else if c == ']' then fetchFlowEnd .flowSequenceEnd r
    else if c == '\x7d' then fetchFlowEnd .flowMappingEnd r
    else if c == ',' then fetchFlowEntry r
    else if c == '-' && gap then fetchBlockEntry r
    else if c == '?' && (r.level != 0 || gap) then fetchKey r
    else if c == ':' && (r.level != 0 || gap) then fetchValue r
    else if c == '*' then fetchName .reference r
    else if c == '&' then fetchName .anchor r
    else if c == '!' then fetchTag r
    else if c == '|' && r.level == 0 then fetchBlock false r
    else if c == '>' && r.level == 0 then fetchBlock true r
    else if c == '\'' then fetchQuoted false r
    else if c == '"' then fetchQuoted true r
    else if startsPlain (r.level != 0) r.rest then fetchPlain r
    else throw .noToken

/-- The tokens up to the end of the text. -/
def fetchAll : Nat → Reader → Except Fault (List Token)
  | 0, _ => .error .noToken
  | fuel + 1, r => do
    let r ← fetch r
    if r.tokens.back? == some .streamEnd then return r.tokens.toList else fetchAll fuel r

/-- Whether a character may stand in a text. -/
def isAllowed (c : Char) : Bool :=
  let n := c.toNat
  n == 9 || n == 10 || n == 13 || (32 ≤ n && n ≤ 126) || n == 0x85 || (0xA0 ≤ n && n ≤ 0xD7FF) ||
    (0xE000 ≤ n && n ≤ 0xFFFD) || 0x10000 ≤ n

/-- The tokens of a text. -/
def tokens (text : String) : Except Fault (List Token) :=
  let cs := text.toList
  if !cs.all isAllowed then .error .character
  else
    let cs := match cs with
      | '\ufeff' :: rest => rest
      | cs => cs
    fetchAll (cs.length + 2) { rest := cs }

end Yaml
end TableCast
