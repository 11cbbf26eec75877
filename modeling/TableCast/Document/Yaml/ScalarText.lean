import TableCast.Document.Json
import TableCast.Document.Yaml.Reader

/-!
# Texts of YAML scalars

The three ways to write a scalar: between quotes, plain, and as an indented block.

- `quotedFrom`: the rest of a quoted text.
- `plainFrom`: a plain text.
- `blockText`: a block text.
-/

namespace TableCast
namespace Yaml

open Text

open Reader

/-! ## Quoted texts -/

/-- The character that an escape of one letter stands for. -/
def escape? : Char → Option Char
  | '0' => some '\x00'
  | 'a' => some '\x07'
  | 'b' => some '\x08'
  | 't' => some '\t'
  | '\t' => some '\t'
  | 'n' => some '\n'
  | 'v' => some '\x0b'
  | 'f' => some '\x0c'
  | 'r' => some '\r'
  | 'e' => some '\x1b'
  | ' ' => some ' '
  | '"' => some '"'
  | '\\' => some '\\'
  | '/' => some '/'
  | 'N' => some '\x85'
  | '_' => some '\xa0'
  | 'L' => some '\u2028'
  | 'P' => some '\u2029'
  | _ => none

/-- The number of hexadecimal digits behind the letter of an escape. -/
def escapeWidth? : Char → Option Nat
  | 'x' => some 2
  | 'u' => some 4
  | 'U' => some 8
  | _ => none

/-- The number that hexadecimal digits write. -/
def hexNumber? (cs : List Char) : Option Nat :=
  cs.foldlM (fun n c => (Json.hexValue? c).map (16 * n + ·)) 0

/-- The first number that is no character. -/
def characterBound : Nat := 0x110000

/-- The first number that is too large to be looked at as a character. -/
def numberBound : Nat := 0x80000000

/-- The character with a number. -/
def numbered (n : Nat) : Except Fault Char :=
  if n < characterBound then .ok (Char.ofNat n)
  else if n < numberBound then .error (.scalar (.badValue "chr() arg not in range(0x110000)"))
  else .error (.scalar (.tooLarge "Python int too large to convert to C int"))

/-- The line ends of empty lines inside a quoted text, last first. -/
def quotedBreaks : Nat → List Char → Reader → Except Fault (List Char × Reader)
  | 0, _, _ => .error .quoted
  | fuel + 1, breaks, r =>
    if r.atDocumentMark then .error .quoted
    else
      let r := r.skipWhile fun c => c == ' ' || c == '\t'
      match r.lineEnd? with
      | some (c, r) => quotedBreaks fuel (c :: breaks) r
      | none => .ok (breaks, r)

/-- What a line end inside a text becomes, the line ends of empty lines behind it given
last first: a blank, unless empty lines follow. -/
def folded (lineEnd : Char) (breaks : List Char) : List Char :=
  (if lineEnd != '\n' then [lineEnd] else if breaks.isEmpty then [' '] else []) ++ breaks.reverse

/-- The rest of a quoted text; the characters read are held last first. -/
def quotedFrom (double : Bool) : Nat → List Char → Reader → Except Fault (String × Reader)
  | 0, _, _ => .error .quoted
  | fuel + 1, read, r => match r.rest with
    | [] => .error .quoted
    | c :: cs =>
      if c == '\'' && !double then
        if cs.head? == some '\'' then quotedFrom double fuel ('\'' :: read) (r.steps 2)
        else .ok (String.ofList read.reverse, r.step)
      else if c == '"' && double then .ok (String.ofList read.reverse, r.step)
      else if c == '\\' && double then
        match cs with
        | [] => .error .quoted
        | d :: ds =>
          match escape? d, escapeWidth? d with
          | some e, _ => quotedFrom double fuel (e :: read) (r.steps 2)
          | none, some width =>
            if (ds.take width).length < width then .error .quoted
            else match hexNumber? (ds.take width) with
              | none => .error .quoted
              | some n =>
                let r := r.steps (2 + width)
                if 0xD800 ≤ n && n < 0xDC00 then
                  match r.rest with
                  | '\\' :: 'u' :: low => match hexNumber? (low.take 4) with
                    | some m =>
                      if 0xDC00 ≤ m && m < 0xE000 then
                        let e := Char.ofNat (0x10000 + (n - 0xD800) * 0x400 + (m - 0xDC00))
                        quotedFrom double fuel (e :: read) (r.steps 6)
                      else quotedFrom double fuel (Char.ofNat n :: read) r
                    | none => quotedFrom double fuel (Char.ofNat n :: read) r
                  | _ => quotedFrom double fuel (Char.ofNat n :: read) r
                else do quotedFrom double fuel ((← numbered n) :: read) r
          | none, none => match (r.step).lineEnd? with
            | some (_, r) => do
              let (breaks, r) ← quotedBreaks fuel [] r
              quotedFrom double fuel (breaks ++ read) r
            | none => .error .quoted
      else if c == ' ' || c == '\t' || isLineEnd c then
        let blanks := r.rest.takeWhile fun c => c == ' ' || c == '\t'
        let r := r.steps blanks.length
        if r.rest.isEmpty then .error .quoted
        else match r.lineEnd? with
          | some (lineEnd, r) => do
            let (breaks, r) ← quotedBreaks fuel [] r
            quotedFrom double fuel ((folded lineEnd breaks).reverse ++ read) r
          | none => quotedFrom double fuel (blanks.reverse ++ read) r
      else quotedFrom double fuel (c :: read) r.step

/-! ## Plain texts -/

/-- Whether a plain text ends in front of the next characters. -/
def plainEnds (flow : Bool) : List Char → Bool
  | [] => true
  | c :: cs =>
    isGap (some c) ||
      (c == ':' && (isGap cs.head? || (flow && (cs.head?.map ",[]\x7b\x7d".toList.contains).getD false))) ||
      (flow && ",?[]\x7b\x7d".toList.contains c)

/-- The characters of a plain text up to a gap or an end. -/
def plainRun (flow : Bool) : List Char → List Char
  | [] => []
  | c :: cs => if plainEnds flow (c :: cs) then [] else c :: plainRun flow cs

/-- The line ends of empty lines between the lines of a plain text, last first; nothing
where a document ends. -/
def plainBreaks : Nat → List Char → Reader → Option (List Char) × Reader
  | 0, breaks, r => (some breaks, r)
  | fuel + 1, breaks, r =>
    if r.peek == some ' ' then plainBreaks fuel breaks r.step
    else match r.lineEnd? with
      | some (c, r) =>
        if r.atDocumentMark then (none, r) else plainBreaks fuel (c :: breaks) r
      | none => (some breaks, r)

/-- The gap between two runs of a plain text: what it becomes, and the reader behind it.
An empty gap ends the text. -/
def plainGap (fuel : Nat) (r : Reader) : List Char × Reader :=
  let blanks := r.rest.takeWhile (· == ' ')
  let r := r.steps blanks.length
  match r.lineEnd? with
  | none => (blanks, r)
  | some (lineEnd, r) =>
    let r := { r with allowKey := true }
    if r.atDocumentMark then ([], r)
    else match plainBreaks fuel [] r with
      | (some breaks, r) => (folded lineEnd breaks, r)
      | (none, r) => ([], r)

/-- The rest of a plain text; the characters read are held last first, and `gap` is what
stands between them and the next run. -/
def plainFrom (indent : Int) : Nat → List Char → List Char → Reader → List Char × Reader
  | 0, read, _, r => (read, r)
  | fuel + 1, read, gap, r =>
    if r.peek == some '#' then (read, r)
    else
      let run := plainRun (r.level != 0) r.rest
      if run.isEmpty then (read, r)
      else
        let r := { r.steps run.length with allowKey := false }
        let read := run.reverse ++ gap.reverse ++ read
        let (gap, r) := plainGap fuel r
        if gap.isEmpty || r.peek == some '#' || (r.level == 0 && (r.column : Int) < indent) then
          (read, r)
        else plainFrom indent fuel read gap r

/-! ## Block texts -/

/-- How the last line ends of a block text are kept. -/
inductive Chomping where
  | strip
  | clip
  | keep
deriving Repr, DecidableEq

/-- A sign that tells which line ends are kept. -/
def chomping? : Char → Option Chomping
  | '+' => some .keep
  | '-' => some .strip
  | _ => none

/-- A digit that tells the indentation; zero is none. -/
def increment? (c : Char) : Option (Except Fault Nat) :=
  if c == '0' then some (.error .block)
  else if isAsciiDigit c then some (.ok (c.toNat - 48))
  else none

/-- The signs behind the mark of a block text. -/
def blockSigns (r : Reader) : Except Fault (Chomping × Option Nat × Reader) := do
  match r.peek with
  | none => return (.clip, none, r)
  | some c =>
    match chomping? c, increment? c with
    | some chomping, _ =>
      let r := r.step
      match r.peek.bind increment? with
      | some n => return (chomping, some (← n), r.step)
      | none => return (chomping, none, r)
    | none, some n =>
      let n ← n
      let r := r.step
      match r.peek.bind chomping? with
      | some chomping => return (chomping, some n, r.step)
      | none => return (.clip, some n, r)
    | none, none => return (.clip, none, r)

/-- The line ends of empty lines in front of the first line of a block text, last first,
and the widest column seen. -/
def blockLead : Nat → List Char → Nat → Reader → List Char × Nat × Reader
  | 0, breaks, widest, r => (breaks, widest, r)
  | fuel + 1, breaks, widest, r =>
    if r.peek == some ' ' then
      let r := r.step
      blockLead fuel breaks (max widest r.column) r
    else match r.lineEnd? with
      | some (c, r) => blockLead fuel (c :: breaks) widest r
      | none => (breaks, widest, r)

/-- The reader behind the indentation of a line. -/
def skipIndent : Nat → Nat → Reader → Reader
  | 0, _, r => r
  | fuel + 1, indent, r =>
    if r.column < indent && r.peek == some ' ' then skipIndent fuel indent r.step else r

/-- The line ends of empty lines inside a block text, last first. -/
def blockBreaks : Nat → Nat → List Char → Reader → List Char × Reader
  | 0, _, breaks, r => (breaks, r)
  | fuel + 1, indent, breaks, r =>
    let r := skipIndent (indent + 1) indent r
    match r.lineEnd? with
    | some (c, r) => blockBreaks fuel indent (c :: breaks) r
    | none => (breaks, r)

/-- Whether a blank or a tab comes next. -/
def atBlank (r : Reader) : Bool := r.peek == some ' ' || r.peek == some '\t'

/-- The lines of a block text; the characters read are held last first.  The result has
the last line end and the line ends behind it. -/
def blockLines (fold : Bool) (indent : Nat) :
    Nat → List Char → List Char → Reader → List Char × Option Char × List Char × Reader
  | 0, read, breaks, r => (read, none, breaks, r)
  | fuel + 1, read, breaks, r =>
    if r.column == indent && !r.rest.isEmpty then
      let read := breaks ++ read
      let flush := !atBlank r
      let line := r.rest.takeWhile (!isLineEnd ·)
      let r := r.steps line.length
      let read := line.reverse ++ read
      match r.lineEnd? with
      | none => (read, none, [], r)
      | some (lineEnd, r) =>
        let (breaks, r) := blockBreaks fuel indent [] r
        if r.column == indent && !r.rest.isEmpty then
          let joint := if fold && lineEnd == '\n' && flush && !atBlank r then
              if breaks.isEmpty then [' '] else []
            else [lineEnd]
          blockLines fold indent fuel (joint ++ read) breaks r
        else (read, some lineEnd, breaks, r)
    else (read, none, breaks, r)

/-- A block text. -/
def blockText (fold : Bool) (r : Reader) : Except Fault (String × Reader) := do
  let fuel := r.rest.length + 1
  let (chomping, increment, r) ← blockSigns r.step
  let r := r.skipWhile (· == ' ')
  let r := if r.peek == some '#' then r.skipWhile (!isLineEnd ·) else r
  let r ← match r.lineEnd? with
    | some (_, r) => pure r
    | none => if r.rest.isEmpty then pure r else throw .block
  let least := (max (r.indent + 1) 1).toNat
  let (breaks, indent, r) := match increment with
    | some n =>
      let indent := least + n - 1
      let (breaks, r) := blockBreaks fuel indent [] r
      (breaks, indent, r)
    | none =>
      let (breaks, widest, r) := blockLead fuel [] 0 r
      (breaks, max least widest, r)
  let (read, lineEnd, breaks, r) := blockLines fold indent fuel [] breaks r
  let read := if chomping == .strip then read else lineEnd.toList ++ read
  let read := if chomping == .keep then breaks ++ read else read
  return (String.ofList read.reverse, r)

end Yaml
end TableCast
