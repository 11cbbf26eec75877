import TableCast.Emit.Artifact
import TableCast.Name.Normalizer
import TableCast.Name.Words
import TableCast.Text.Pieces

/-!
# Template sets

A template set tells which artifacts are generated, with which templates, under which
paths, and which words names must not take.

- `TemplateSet`, `pythonSet`, `doctrineSet`: the sets that are built in.
- `TemplateSet.relativePath`: the path of an artifact.
- `TemplateSet.moduleOf`: the dotted module of the artifacts of a kind.
-/

namespace TableCast
namespace Emit

open Text

/-- How a file is named after a type. -/
inductive FileCase where
  | snake
  | asIs
deriving Repr, DecidableEq, Inhabited

/-- The name of a file case. -/
def FileCase.name : FileCase → String
  | .snake => "snake"
  | .asIs => "as_is"

/-- The file case with the given name. -/
def FileCase.ofName? : String → Option FileCase
  | "snake" => some .snake
  | "as_is" => some .asIs
  | _ => none

/-- What is done to a rendered text before it is written. -/
inductive Formatter where
  | black
  | plain
deriving Repr, DecidableEq, Inhabited

/-- The name of a formatter. -/
def Formatter.name : Formatter → String
  | .black => "black"
  | .plain => "none"

/-- The formatter with the given name. -/
def Formatter.ofName? : String → Option Formatter
  | "black" => some .black
  | "none" => some .plain
  | _ => none

/-- The message about a formatter that there is not. -/
def Formatter.unknownMessage (name : String) : String :=
  "Unknown formatter '" ++ name ++ "'. Available: black, none"

/-- The template of a kind of artifact and the directory of its files. -/
structure ArtifactTemplate where
  template : String
  directory : String := ""
deriving Repr, DecidableEq, Inhabited

/-- Where the templates of a set come from. -/
inductive TemplateSource where
  | python
  | doctrine
  | texts (files : List (String × String))
deriving Repr, DecidableEq, Inhabited

/-- A template set. -/
structure TemplateSet where
  name : String
  extension : String
  formatter : Formatter := .plain
  fileCase : FileCase := .asIs
  reserved : List String := []
  ignoreCase : Bool := false
  artifacts : List (ArtifactKind × ArtifactTemplate)
  source : TemplateSource
deriving Repr, DecidableEq, Inhabited

/-- The built-in set for Python. -/
def pythonSet : TemplateSet :=
  { name := "python"
    extension := ".py"
    formatter := .black
    fileCase := .snake
    reserved := Name.pythonReserved
    artifacts := [
      (.entity, { template := "entity.py.j2", directory := "entities" }),
      (.repository, { template := "repository.py.j2", directory := "repositories" }),
      (.enum, { template := "enum.py.j2", directory := "enums" })]
    source := .python }

/-- The built-in set for Doctrine. -/
def doctrineSet : TemplateSet :=
  { name := "doctrine"
    extension := ".php"
    reserved := Name.phpReserved
    ignoreCase := true
    artifacts := [
      (.entity, { template := "entity.php.j2", directory := "Entity" }),
      (.repository, { template := "repository.php.j2", directory := "Repository" }),
      (.enum, { template := "enum.php.j2", directory := "Enum" })]
    source := .doctrine }

/-- The built-in sets. -/
def builtinSets : List TemplateSet := [doctrineSet, pythonSet]

namespace TemplateSet

/-- The template of a kind of artifact. -/
def artifact? (s : TemplateSet) (kind : ArtifactKind) : Option ArtifactTemplate :=
  (s.artifacts.find? (·.1 == kind)).map (·.2)

/-- Whether the set has a kind of artifact. -/
def supports (s : TemplateSet) (kind : ArtifactKind) : Bool :=
  (s.artifact? kind).isSome

/-- How the set makes names. -/
def normalizer (s : TemplateSet) (singularize : Bool) : Name.Normalizer :=
  { reserved := s.reserved, ignoreCase := s.ignoreCase, singularize := singularize }

/-- The name of the file of a type, without directory. -/
def fileName (s : TemplateSet) (typeName : String) : String :=
  (match s.fileCase with
    | .snake => Name.snake typeName
    | .asIs => typeName) ++ s.extension

/-- The directory of a kind of artifact without slashes at its ends. -/
def directoryOf (s : TemplateSet) (kind : ArtifactKind) : String :=
  match s.artifact? kind with
  | some artifact => String.ofList (trimBy (· == '/') artifact.directory.toList)
  | none => ""

/-- The path of an artifact under the output root. -/
def relativePath (s : TemplateSet) (kind : ArtifactKind) (typeName : String) : String :=
  let directory := s.directoryOf kind
  if directory.isEmpty then s.fileName typeName else directory ++ "/" ++ s.fileName typeName

/-- The dotted module of a directory under a namespace; empty parts are dropped. -/
def dottedModule (namespaceName directory : String) : String :=
  joinWith "." ((namespaceName :: splitOn directory '/').filter (!·.isEmpty))

/-- The dotted module of each kind of artifact. -/
def modules (s : TemplateSet) (namespaceName : String) : List (ArtifactKind × String) :=
  s.artifacts.map fun (kind, artifact) => (kind, dottedModule namespaceName artifact.directory)

end TemplateSet
end Emit
end TableCast
