import TableCast.Fault

/-!
# Diagnostics

What a run noted about a table or an artifact: warnings, and errors made from reported
faults.
-/

namespace TableCast
namespace Model

/-- How serious a diagnostic is. -/
inductive Severity where
  | warning
  | error
deriving Repr, DecidableEq, Inhabited

/-- The name of a severity. -/
def Severity.name : Severity → String
  | .warning => "warning"
  | .error => "error"

/-- The severity with the given name. -/
def Severity.ofName? : String → Option Severity
  | "warning" => some .warning
  | "error" => some .error
  | _ => none

/-- A note about a table or an artifact. -/
structure Diagnostic where
  table : Option String
  severity : Severity
  code : String
  message : String
  /-- The column, association or artifact. -/
  artifact : Option String := none
deriving Repr, DecidableEq, Inhabited

/-- The code in lower case letters. -/
def lowerCode (code : String) : String :=
  String.ofList (code.toList.map fun c =>
    if 'A' ≤ c && c ≤ 'Z' then Char.ofNat (c.toNat + 32) else c)

/-- The error diagnostic of a fault. -/
def Diagnostic.ofFault (table : Option String) (fault : Fault) (artifact : Option String) :
    Diagnostic :=
  { table := table, severity := .error, code := lowerCode fault.code, message := fault.message,
    artifact := artifact }

end Model
end TableCast
