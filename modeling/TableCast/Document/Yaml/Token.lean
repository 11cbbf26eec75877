import TableCast.Fault

/-!
# YAML tokens

The tokens of a YAML text, and why a text is no YAML document.
-/

namespace TableCast
namespace Yaml

/-- Why a text is no YAML document. -/
inductive Fault where
  /-- A character that is not printable. -/
  | character
  /-- A character that starts no token. -/
  | noToken
  /-- A key without a colon behind it. -/
  | missingColon
  /-- An entry where none can stand. -/
  | misplaced
  /-- A quoted text that is not closed or has an unknown escape. -/
  | quoted
  /-- A malformed block text. -/
  | block
  /-- A malformed anchor, alias, tag or directive. -/
  | property
  /-- Tokens that make no document. -/
  | grammar
  /-- An alias without an anchor, or an anchor that occurs twice. -/
  | anchor
  /-- A value that its tag does not allow. -/
  | value
  /-- A scalar or an escape that announces a value and writes none. -/
  | scalar (problem : Problem)
deriving Repr, DecidableEq, Inhabited

/-- How a scalar is written. -/
inductive Style where
  | plain
  | quoted
  | block
deriving Repr, DecidableEq, Inhabited

/-- What a directive says about the document behind it. -/
inductive Directive where
  | version (major : Nat)
  /-- What a handle stands for at the start of a tag. -/
  | handle (name meaning : String)
  | other
deriving Repr, DecidableEq, Inhabited

/-- The tokens. -/
inductive Token where
  | directive (d : Directive)
  | documentStart
  | documentEnd
  | streamEnd
  | blockSequenceStart
  | blockMappingStart
  | blockEnd
  | flowSequenceStart
  | flowSequenceEnd
  | flowMappingStart
  | flowMappingEnd
  | blockEntry
  | flowEntry
  | key
  | value
  | reference (name : String)
  | anchor (name : String)
  | tag (handle : Option String) (suffix : String)
  | scalar (style : Style) (text : String)
deriving Repr, DecidableEq, Inhabited

end Yaml
end TableCast
