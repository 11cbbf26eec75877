import TableCast.Document.Record
import TableCast.Number.Reading
import TableCast.Schema.Facts
import TableCast.Settings.Check
import TableCast.Text.Quoted

/-!
# Database settings

How a database is connected to.

- `DatabaseSettings`: the settings of one connection.
- `checkDatabase`: the settings in a document.
- `DatabaseSettings.given`: the settings that have a value, as a document.
-/

namespace TableCast
namespace Settings

open Text Number

/-- The settings of one connection. -/
structure DatabaseSettings where
  engine : String
  /-- The name of the database, or the path of its file. -/
  name : String
  user : Option String := none
  password : Option String := none
  host : Option String := none
  port : Option Int := none
  options : List (String × Document) := []
deriving Repr, Inhabited

/-- The engine of a connection. -/
def checkEngine (d : Document) : Checked String := do
  let engine ← filledText d
  if Schema.engines.contains engine then return engine
  else refuse ("Value error, Database engine: " ++ engine ++ " is not supported. " ++
    "Supported engines are: " ++ joinWith ", " Schema.engines)

/-- The largest port. -/
def largestPort : Int := 65535

/-- A number as a port. -/
def checkPortNumber (n : Int) : Checked (Option Int) :=
  if 0 ≤ n && n ≤ largestPort then .ok (some n)
  else refuse ("Value error, Port must be between 0 and 65535, got " ++ toString n)

/-- A text as a port. -/
def checkPortText (s : String) : Checked (Option Int) :=
  if s.isEmpty then .ok none
  else if !s.toList.all isDigitChar then
    refuse ("Value error, Port must be a number or string containing only digits, got '" ++
      s ++ "'")
  else match readInteger s.toList with
    | .ok n => checkPortNumber n
    | .error (.tooLong digits) => refuse ("Value error, " ++ tooLongMessage digits)
    | .error .malformed =>
      refuse ("Value error, invalid literal for int() with base 10: " ++ Quoted.text s)

/-- The port of a connection. -/
def checkPort : Document → Checked (Option Int)
  | .null => .ok none
  | .int n => checkPortNumber n
  | .str s => checkPortText s
  | other => refuse ("Value error, Port must be an integer or string containing digits, got " ++
      other.typeName)

/-- The settings of one connection. -/
def checkDatabase (d : Document) : Checked DatabaseSettings := do
  let _ ← mapping " or instance of DatabaseSettings" d
  let made := also (.ok DatabaseSettings.mk) (required d "ENGINE" checkEngine)
  let made := also made (required d "NAME" filledText)
  let made := also made (optional d "USER" none (nullable text))
  let made := also made (optional d "PASSWORD" none (nullable text))
  let made := also made (optional d "HOST" none (nullable text))
  let made := also made (optional d "PORT" none checkPort)
  also made (optional d "OPTIONS" [] (textMapping .ok))

namespace DatabaseSettings

/-- All settings, by name. -/
def entries (s : DatabaseSettings) : List (String × Document) :=
  [("ENGINE", .str s.engine), ("NAME", .str s.name), ("USER", Document.optionalText s.user),
    ("PASSWORD", Document.optionalText s.password), ("HOST", Document.optionalText s.host),
    ("PORT", Document.optionalInteger s.port),
    ("OPTIONS", .map (s.options.map fun (k, v) => (.str k, v)))]

/-- All settings as a document. -/
def document (s : DatabaseSettings) : Document :=
  .record s.entries

/-- The settings that have a value, as a document. -/
def given (s : DatabaseSettings) : Document :=
  .record (s.entries.filter fun (_, v) => !(v matches .null))

end DatabaseSettings
end Settings
end TableCast
