import TableCast.Fault
import TableCast.Files.Sink
import TableCast.Log.Entry
import TableCast.Name.Normalizer
import TableCast.Settings.Database

/-!
# Configurations

What a generation run is configured with, checked as a whole: every field is checked, and
the report lists every issue.

- `Configuration`: all settings.
- `isNamespace`: which texts are namespaces.
- `checkConfiguration`: the configuration in a document, or everything that is wrong with it.
- `validate`: the configuration in a document, or one report.
-/

namespace TableCast
namespace Settings

open Text Files

/-- All settings of a run. -/
structure Configuration where
  /-- The connections, by alias. -/
  databases : List (String × DatabaseSettings)
  outputDirectory : String := "./generated"
  namespaceName : String := "app"
  /-- The name of the template set, or its directory. -/
  templateSet : String := "python"
  conflictPolicy : ConflictPolicy := .failOnExists
  /-- The tables that are included, by name or pattern. -/
  included : Option (List String) := none
  /-- The tables that are excluded, by name or pattern. -/
  excluded : Option (List String) := none
  generateRepository : Bool := true
  emitEnums : Bool := true
  singularize : Bool := false
  workers : Int := 1
  /-- The seconds after which the run is cancelled. -/
  timeout : Option Float := none
  secret : Option String := none
deriving Repr, Inhabited

/-- Whether a text is a dotted path of identifiers that are no keywords. -/
def isNamespace (text : String) : Bool :=
  (splitOn text '.').all fun part => isIdentifier part && !Name.pythonKeywords.contains part

/-- A namespace. -/
def checkNamespace (d : Document) : Checked String := do
  let s ← filledText d
  if isNamespace s then return s
  else refuse ("Value error, '" ++ s ++ "' is not a dotted path of valid identifiers.")

/-- A conflict policy. -/
def checkPolicy (d : Document) : Checked ConflictPolicy :=
  match d.text?.bind ConflictPolicy.ofName? with
  | some policy => .ok policy
  | none => refuse "Input should be 'fail-on-exists', 'force-overwrite' or 'dry-run'"

/-- The names of tables from a position on; the first issue ends the list. -/
def checkNames (index : Nat) : List Document → Checked (List String)
  | [] => .ok []
  | .str s :: rest =>
    let name := trimmed s
    if name.isEmpty then
      refuse ("Value error, Item at index " ++ toString index ++
        " cannot be empty or just whitespace.")
    else do
      let names ← checkNames (index + 1) rest
      return name :: names
  | other :: _ =>
    refuse ("Value error, Item at index " ++ toString index ++ " must be a string, found: " ++
      other.typeName)

/-- The names of tables, one or a sequence of them. -/
def checkTables : Document → Checked (Option (List String))
  | .null => .ok none
  | .str s => (checkNames 0 [.str s]).map some
  | .list items => (checkNames 0 items).map some
  | _ => refuse "Value error, include_tables/exclude_tables must be a list."

/-- The most workers. -/
def mostWorkers : Int := 32

/-- The configuration with a check of all fields together. -/
def checkDefaultDatabase (c : Configuration) : Checked Configuration :=
  if c.databases.any (·.1 == "default") then .ok c
  else refuse
    "Value error, The 'databases' configuration dictionary must contain a 'default' key."

/-- The configuration in a document, or everything that is wrong with it. -/
def checkConfiguration (d : Document) : Checked Configuration := do
  let _ ← mapping " or instance of ToolConfigSchema" d
  let made := also (.ok Configuration.mk) (required d "databases" (textMapping checkDatabase))
  let made := also made (optional d "output_dir" "./generated" filledText)
  let made := also made (optional d "namespace" "app" checkNamespace)
  let made := also made (optional d "template_set" "python" filledText)
  let made := also made (optional d "conflict_policy" .failOnExists checkPolicy)
  let made := also made (optional d "include_tables" none checkTables)
  let made := also made (optional d "exclude_tables" none checkTables)
  let made := also made (optional d "generate_repository" true truth)
  let made := also made (optional d "emit_enums" true truth)
  let made := also made (optional d "singularize_entity_names" false truth)
  let made := also made (optional d "workers" 1 (boundedNumber 1 mostWorkers))
  let made := also made (optional d "timeout" none (nullable positiveNumber))
  let made := also made (optional d "SECRET_KEY" none (nullable text))
  checkDefaultDatabase (← made)

/-- The names of all settings. -/
def settingNames : List String :=
  ["databases", "output_dir", "namespace", "template_set", "conflict_policy", "include_tables",
    "exclude_tables", "generate_repository", "emit_enums", "singularize_entity_names", "workers",
    "timeout", "SECRET_KEY"]

/-- An issue as a line of a report. -/
def Issue.line (i : Issue) : String :=
  (if i.place.isEmpty then "Model Level" else joinWith " -> " i.place) ++ ": " ++ i.message

/-- The report of everything that is wrong with a configuration. -/
def invalidConfiguration (file : Option String) (issues : List Issue) : Fault :=
  let base : Fault := {
    kind := .configuration
    message := "Configuration validation failed:\n  - " ++
      joinWith "\n  - " (issues.map Issue.line) }
  (base.note "errors" (toString issues.length)).note? "config_file" file

/-- The configuration in a document, or one report. -/
def validate (d : Document) (file : Option String) : Except Fault Configuration :=
  (checkConfiguration d).mapError (invalidConfiguration file)

/-- The tables that are both included and excluded, sorted. -/
def Configuration.overlap (c : Configuration) : List String :=
  let names := (c.included.getD []).filter (c.excluded.getD []).contains
  (names.mergeSort fun a b => decide (a ≤ b)).eraseDups

/-- What is said about a valid configuration. -/
def Configuration.log (c : Configuration) : List Log.Entry :=
  if c.overlap.isEmpty then []
  else [Log.warning ("Tables both included and excluded will be excluded: " ++
    joinWith ", " c.overlap)]

/-- The names of tables, or nothing, as a document. -/
def namesOrNull : Option (List String) → Document
  | some names => .list (names.map .str)
  | none => .null

/-- All settings as a document. -/
def Configuration.document (c : Configuration) : Document :=
  .record [
    ("databases", .record (c.databases.map fun (name, s) => (name, s.document))),
    ("output_dir", .str c.outputDirectory), ("namespace", .str c.namespaceName),
    ("template_set", .str c.templateSet), ("conflict_policy", .str c.conflictPolicy.name),
    ("include_tables", namesOrNull c.included), ("exclude_tables", namesOrNull c.excluded),
    ("generate_repository", .bool c.generateRepository), ("emit_enums", .bool c.emitEnums),
    ("singularize_entity_names", .bool c.singularize), ("workers", .int c.workers),
    ("timeout", Document.optional .float c.timeout),
    ("SECRET_KEY", Document.optionalText c.secret)]

end Settings
end TableCast
