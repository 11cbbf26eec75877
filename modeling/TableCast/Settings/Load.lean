import TableCast.Document.Yaml.Node
import TableCast.Files.Tree
import TableCast.Settings.Configuration

/-!
# Loading configurations

A configuration is read from a file, and settings that are given beside it take the place of
those in the file.

- `readConfigurationFile`: the mapping in a file.
- `load`: the configuration of a run.
- `loadLog`: what is said meanwhile.
-/

namespace TableCast
namespace Settings

open Text Files

/-- A fault about a configuration file. -/
def fileFault (path message : String) : Fault :=
  ({ kind := .configuration, message := message } : Fault).note "config_file" path

/-- The mapping in a configuration file; an empty file holds an empty one. -/
def readConfigurationFile (disk : Disk) (path : String) :
    Except Problem (List (Document × Document)) :=
  let refuse (message : String) := .error (.fault (fileFault path message))
  match disk.content? (Path.ofText path) with
  | none => refuse ("Config file not found at " ++ path)
  | some content =>
    match Document.ofYaml (withPlainLineEnds content) with
    | .error (.scalar problem) => .error problem
    | .error _ => refuse ("Error parsing YAML file " ++ path ++ ": the text is not well formed")
    | .ok .null => .ok []
    | .ok (.map entries) => .ok entries
    | .ok other =>
      refuse ("Content of config file " ++ path ++ " must be a mapping, got " ++ other.typeName)

/-- Whether a setting that is given beside a file counts. -/
def isOverride (name : String) (value : Document) : Bool :=
  !(value matches .null) && name != "databases" && settingNames.contains name

/-- The entries of a file with the settings that are given beside it. -/
def withOverrides (entries : List (Document × Document)) (given : List (String × Document)) :
    List (Document × Document) :=
  given.foldl (fun entries (name, value) =>
    if isOverride name value then Document.putEntry name value entries else entries) entries

/-- The entries with a secret; one that stands is kept. -/
def withSecret (entries : List (Document × Document)) (secret : String) :
    List (Document × Document) :=
  if entries.any (·.1.isText "SECRET_KEY") then entries
  else Document.putEntry "SECRET_KEY" (.str secret) entries

/-- The entries of the file of a run, if it has one. -/
def fileEntries (disk : Disk) (file : Option String) :
    Except Problem (List (Document × Document)) :=
  match file with
  | some path => if path.isEmpty then .ok [] else readConfigurationFile disk path
  | none => .ok []

/-- The place of a directory, from the root of all files. -/
def absoluteDirectory (disk : Disk) (text : String) : Except Problem String :=
  let path := Path.ofText text
  if Disk.hasNull path then .error (.badValue nullMessage)
  else .ok (Path.normalized { root := "/", names := disk.working } path).text

/-- The valid settings of a run, before its directory is made absolute. -/
def loadRelative (disk : Disk) (file : Option String) (given : List (String × Document))
    (secret : String) : Except Problem Configuration := do
  let entries ← fileEntries disk file
  (validate (.map (withSecret (withOverrides entries given) secret)) file).mapError .fault

/-- The configuration of a run: the settings in a file, those given beside it, and a secret
for the case that there is none. -/
def load (disk : Disk) (file : Option String) (given : List (String × Document))
    (secret : String) : Except Problem Configuration := do
  let c ← loadRelative disk file given secret
  let directory ← absoluteDirectory disk c.outputDirectory
  return { c with outputDirectory := directory }

/-- What is said while a configuration is loaded. -/
def loadLog (disk : Disk) (file : Option String) (given : List (String × Document))
    (secret : String) : List Log.Entry :=
  match fileEntries disk file with
  | .error _ => []
  | .ok _ => Log.info "Validating final configuration..." ::
    (match loadRelative disk file given secret with
      | .ok c => c.log
      | .error _ => [])

end Settings
end TableCast
