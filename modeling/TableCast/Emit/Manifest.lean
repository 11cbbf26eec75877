import TableCast.Document.Yaml.Node
import TableCast.Emit.TemplateSet
import TableCast.Fault
import TableCast.Files.Tree
import TableCast.Settings.Check

/-!
# Loading template sets

A template set is a directory with a manifest and templates.  A set is loaded from a
directory of the disk, else by the name of a built-in set.

- `checkManifest`: the manifest of a set, or everything that is wrong with it.
- `builtinSet?`: the built-in set that a path leads to.
- `loadTemplateSet`: a set loaded.
-/

namespace TableCast
namespace Emit

open Text Files Settings

/-- The name of the file that describes a set. -/
def manifestName : String := "manifest.yaml"

/-- What a manifest says. -/
structure Manifest where
  name : String
  /-- The ending of file names, with its point. -/
  extension : String
  formatter : Formatter
  fileCase : FileCase
  reserved : List String
  ignoreCase : Bool
  artifacts : List (ArtifactKind × ArtifactTemplate)
deriving Repr, Inhabited

/-- The ending of file names; a point is put in front. -/
def checkExtension (d : Document) : Checked String := do
  let s ← filledText d
  return if startsWith s "." then s else "." ++ s

/-- A formatter. -/
def checkFormatter (d : Document) : Checked Formatter := do
  let s ← text d
  match Formatter.ofName? s with
  | some f => return f
  | none => refuse ("Value error, " ++ Formatter.unknownMessage s)

/-- A file case. -/
def checkFileCase (d : Document) : Checked FileCase := do
  let s ← text d
  match FileCase.ofName? s with
  | some c => return c
  | none => refuse "Value error, file_case must be 'snake' or 'as_is'"

/-- Reserved words: the name of a built-in list, or a list. -/
def checkReserved (d : Document) : Checked (List String) :=
  match d with
  | .str s => match Name.reservedWords? s with
    | some words => .ok words
    | none => refuse ("Value error, Unknown reserved word list '" ++ s ++ "'. Built-in lists: " ++
        joinWith ", " Name.reservedListNames)
  | _ => match textList d with
    | .ok words => .ok words
    | .error issues =>
      .error (issuesOf (under "str" (text d)) ++
        issuesOf (under "list[str]" (.error issues : Checked (List String))))

/-- A kind of artifact. -/
def checkKind (key : Document) : Checked ArtifactKind :=
  match key.text?.bind ArtifactKind.ofName? with
  | some kind => .ok kind
  | none => refuse "Input should be 'entity', 'repository' or 'enum'"

/-- The template of an artifact. -/
def checkTemplate (d : Document) : Checked ArtifactTemplate := do
  let _ ← mapping " or instance of ArtifactTemplate" d
  let template := required d "template" filledText
  let directory := optional d "directory" "" text
  match template, directory with
  | .ok template, .ok directory => return { template := template, directory := directory }
  | template, directory => .error (issuesOf template ++ issuesOf directory)

/-- One artifact of a set. -/
def checkArtifact (entry : Document × Document) : Checked (ArtifactKind × ArtifactTemplate) :=
  under entry.1.plain (
    match under "[key]" (checkKind entry.1), checkTemplate entry.2 with
    | .ok kind, .ok template => .ok (kind, template)
    | kind, template => .error (issuesOf kind ++ issuesOf template))

/-- The artifacts of a set; an entity is among them. -/
def checkArtifacts (d : Document) : Checked (List (ArtifactKind × ArtifactTemplate)) := do
  let entries ← mapping "" d
  let artifacts ← gather (entries.map checkArtifact)
  if artifacts.any (·.1 == .entity) then return artifacts
  else refuse "Value error, A template set must provide an 'entity' template"

/-- A manifest, or everything that is wrong with it. -/
def checkManifest (d : Document) : Checked Manifest :=
  let name := required d "name" filledText
  let extension := required d "extension" checkExtension
  let formatter := optional d "formatter" .plain checkFormatter
  let fileCase := optional d "file_case" .asIs checkFileCase
  let reserved := optional d "reserved_words" [] checkReserved
  let ignoreCase := optional d "reserved_words_case_insensitive" false truth
  let artifacts := required d "artifacts" checkArtifacts
  match name, extension, formatter, fileCase, reserved, ignoreCase, artifacts with
  | .ok name, .ok extension, .ok formatter, .ok fileCase, .ok reserved, .ok ignoreCase,
    .ok artifacts => .ok {
      name := name, extension := extension, formatter := formatter, fileCase := fileCase
      reserved := reserved, ignoreCase := ignoreCase, artifacts := artifacts }
  | _, _, _, _, _, _, _ => .error (
      issuesOf name ++ issuesOf extension ++ issuesOf formatter ++ issuesOf fileCase ++
        issuesOf reserved ++ issuesOf ignoreCase ++ issuesOf artifacts)

/-- A fault about the manifest at a path. -/
def manifestFault (path : Path) (message : String) : Fault :=
  ({ kind := .configuration, message := message } : Fault).note "config_file" path.text

/-- The report of everything that is wrong with a manifest. -/
def invalidManifest (path : Path) (issues : List Issue) : Fault :=
  let shown := issues.map fun i => joinWith "." i.place ++ ": " ++ i.message
  let base : Fault := {
    kind := .configuration
    message := "Invalid template manifest: " ++ toString issues.length ++ " error(s)" }
  (base.note "errors" (joinWith "; " shown)).note "config_file" path.text

/-- The message about a manifest that is no mapping. -/
def notMappingMessage (typeName : String) : String :=
  "schema_codegen.codegen.TemplateManifest() argument after ** must be a mapping, not " ++ typeName

/-- The manifest that the file at a path holds. -/
def readManifest (path : Path) (content : String) : Except Problem Manifest :=
  match Document.ofYaml (withPlainLineEnds content) with
  | .error (.scalar problem) => .error problem
  | .error _ => .error (.fault (manifestFault path
      "Error parsing template manifest: the text is not well formed"))
  | .ok d =>
    let d := if d.isTrue then d else .map []
    match d with
    | .map entries =>
      if entries.any (·.1.text?.isNone) then .error (.badType "keywords must be strings")
      else (checkManifest d).mapError fun issues => .fault (invalidManifest path issues)
    | _ => .error (.badType (notMappingMessage d.typeName))

/-- The texts of the templates of the artifacts, each of which must be there. -/
def readTemplates (disk : Disk) (directory path : Path) :
    List (ArtifactKind × ArtifactTemplate) → Except Problem (List (String × String))
  | [] => .ok []
  | (kind, artifact) :: rest =>
    match disk.content? (directory.join (Path.ofText artifact.template)) with
    | none => .error (.fault (manifestFault path
        ("Template '" ++ artifact.template ++ "' for " ++ kind.name ++ " artifacts is missing")))
    | some content => do
      let texts ← readTemplates disk directory path rest
      return (artifact.template, withPlainLineEnds content) :: texts

/-- The set in a directory of the disk whose manifest has the given content. -/
def setFromDisk (disk : Disk) (directory path : Path) (content : String) :
    Except Problem TemplateSet := do
  let manifest ← readManifest path content
  let texts ← readTemplates disk directory path manifest.artifacts
  return {
    name := manifest.name
    extension := manifest.extension
    formatter := manifest.formatter
    fileCase := manifest.fileCase
    reserved := manifest.reserved
    ignoreCase := manifest.ignoreCase
    artifacts := manifest.artifacts
    source := .texts texts }

/-- The directory of the built-in sets. -/
def builtinPlace : Place := ["templates"]

/-- The directories of the built-in sets. -/
def builtinDisk : Disk :=
  { working := builtinPlace
    tree := builtinSets.foldl (fun t s =>
      t.withFile (builtinPlace ++ [s.name, manifestName]) "") {} }

/-- The built-in set that a path leads to. -/
def builtinSet? (path : Path) : Option TemplateSet :=
  if path.isAbsolute then none
  else match builtinDisk.walk (path.child manifestName) with
  | .error _ => none
  | .ok place => builtinSets.find? fun s => place == builtinPlace ++ [s.name, manifestName]

/-- The report of a template set that there is not. -/
def setNotFound (name : String) : Fault :=
  { kind := .configuration
    message := "Template set '" ++ name ++ "' not found"
    suggestions := [
      "Use one of the built-in sets: " ++ joinWith ", " (builtinSets.map (·.name)),
      "Or pass a directory containing " ++ manifestName] }

/-- The template set in the directory with the given path, else the built-in set with that
name. -/
def loadTemplateSet (disk : Disk) (name : String) : Except Problem TemplateSet :=
  let directory := Path.ofText name
  let path := directory.child manifestName
  match disk.content? path with
  | some content => setFromDisk disk directory path content
  | none => match builtinSet? directory with
    | some set => .ok set
    | none => .error (.fault (setNotFound name))

end Emit
end TableCast
