import TableCast.Document.Value
import TableCast.Fault
import TableCast.Log.Entry

/-!
# The database framework

The framework that connects to databases is configured once.  Afterwards further
configurations are left aside.

- `FrameworkSettings`: what the framework is configured with.
- `Framework.setUp`: the framework configured, unless it already is.
-/

namespace TableCast
namespace Settings

/-- The secret that is used when none is given. -/
def defaultSecret : String := "schema-codegen-introspection"

/-- What the framework is configured with. -/
structure FrameworkSettings where
  secret : String
  databases : List (String × Document)
  timeZone : String := "UTC"
  zonedTimes : Bool := true
  automaticKey : String := "django.db.models.BigAutoField"
deriving Repr, Inhabited

/-- The framework. -/
structure Framework where
  /-- What it is configured with, by this library or by another party. -/
  configured : Bool := false
  /-- Whether this library has seen it configured. -/
  done : Bool := false
deriving Repr, DecidableEq, Inhabited

/-- The fault of connection settings that are no mapping. -/
def notSettingsFault (name : String) (d : Document) : Fault :=
  { kind := .configuration
    message := "Invalid database settings type for alias '" ++ name ++ "': " ++ d.typeName }

/-- The first connection whose settings are no mapping. -/
def firstMisfit? (databases : List (String × Document)) : Option (String × Document) :=
  databases.find? fun (_, d) => !(d matches .map _)

namespace Framework

/-- The framework configured, and what it was configured with. -/
def setUp (f : Framework) (databases : List (String × Document)) (secret : String) :
    Except Fault (Option FrameworkSettings) × Framework :=
  if f.configured || f.done then (.ok none, { f with done := true })
  else match firstMisfit? databases with
    | some (name, d) => (.error (notSettingsFault name d), f)
    | none => (.ok (some { secret := secret, databases := databases }),
        { configured := true, done := true })

/-- What is said when the framework is configured. -/
def setUpLog (f : Framework) (databases : List (String × Document)) : List Log.Entry :=
  if f.configured || f.done then []
  else Log.info "Configuring Django settings for introspection..." ::
    (if (firstMisfit? databases).isSome then [] else [Log.info "Django setup complete."])

end Framework
end Settings
end TableCast
