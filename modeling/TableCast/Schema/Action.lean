import TableCast.Text.LetterCase
import TableCast.Text.Pieces

/-!
# Referential actions

What a foreign key does when the row that it references changes.  Catalogs spell actions in
words or as one-letter codes.

- `actionNames`: the actions.
- `canonicalAction`: the canonical spelling of an action.
-/

namespace TableCast
namespace Schema

open Text

/-- The action that a foreign key has when none is declared. -/
def noAction : String := "NO ACTION"

/-- The canonical spellings. -/
def actionNames : List String :=
  ["CASCADE", "RESTRICT", "SET NULL", "SET DEFAULT", noAction]

/-- The one-letter codes of actions. -/
def actionCodes : List (String × String) :=
  [("a", noAction), ("r", "RESTRICT"), ("c", "CASCADE"), ("n", "SET NULL"), ("d", "SET DEFAULT")]

/-- The action with the given spelling or code. -/
def actionOf? (spelling : String) : Option String :=
  if actionNames.contains spelling then some spelling
  else (actionCodes.find? (·.1 == spelling)).map (·.2)

/-- The canonical spelling of an action; what is not understood is no action. -/
def canonicalAction : Option String → String
  | none => noAction
  | some action =>
    let spelling := trimmed action
    match actionOf? spelling with
    | some name => name
    | none => (actionOf? (upper spelling)).getD noAction

end Schema
end TableCast
