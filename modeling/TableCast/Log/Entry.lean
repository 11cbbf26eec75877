import TableCast.Text.LetterCase

/-!
# Log entries

What a run says while it works: entries with a level, in the order in which they were
written.
-/

namespace TableCast
namespace Log

/-- The levels of log entries. -/
inductive Level where
  | debug
  | info
  | warning
  | error
  | critical
deriving Repr, DecidableEq, Inhabited

/-- The name of a level. -/
def Level.name : Level → String
  | .debug => "DEBUG"
  | .info => "INFO"
  | .warning => "WARNING"
  | .error => "ERROR"
  | .critical => "CRITICAL"

/-- All levels. -/
def Level.all : List Level := [.debug, .info, .warning, .error, .critical]

/-- The level with the given name. -/
def Level.ofName? (name : String) : Option Level := Level.all.find? (·.name == name)

/-- The rank of a level. -/
def Level.rank : Level → Nat
  | .debug => 10
  | .info => 20
  | .warning => 30
  | .error => 40
  | .critical => 50

/-- One log entry. -/
structure Entry where
  level : Level
  message : String
deriving Repr, DecidableEq, Inhabited

/-- An entry about a detail. -/
def debug (message : String) : Entry := { level := .debug, message := message }

/-- An entry that informs. -/
def info (message : String) : Entry := { level := .info, message := message }

/-- An entry that warns. -/
def warning (message : String) : Entry := { level := .warning, message := message }

/-- An entry about an error. -/
def error (message : String) : Entry := { level := .error, message := message }

/-- An entry about an error that nothing can be done about. -/
def critical (message : String) : Entry := { level := .critical, message := message }

/-- The mark in front of an entry about a success. -/
def successMark : String := "✓"

/-- The mark in front of an entry about progress. -/
def progressMark : String := "→"

/-- The mark in front of an entry about a finding. -/
def highlightMark : String := "•"

/-- The rule above and below a section title. -/
def sectionRule : String := String.ofList (List.replicate 60 '=')

/-- An entry about a success. -/
def success (message : String) : Entry := info (successMark ++ " " ++ message)

/-- An entry about progress. -/
def progress (message : String) : Entry := info (progressMark ++ " " ++ message)

/-- An entry about a finding. -/
def highlight (message : String) : Entry := info (highlightMark ++ " " ++ message)

/-- The entries that open a section: its title between rules. -/
def opening (title : String) : List Entry :=
  [info sectionRule, info ("  " ++ Text.upper title), info sectionRule]

end Log
end TableCast
