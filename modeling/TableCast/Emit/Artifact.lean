import TableCast.Model.Entity
import TableCast.Name.Plural

/-!
# Artifacts

The generated files of a table: the entity, its repository, and an enum for each closed
value list.

- `ArtifactKind`: the kinds of artifacts.
- `Artifact`: one rendered artifact.
- `RenderOptions`: what rendering depends on besides the table.
-/

namespace TableCast
namespace Emit

/-- The kinds of artifacts. -/
inductive ArtifactKind where
  | entity
  | repository
  | enum
deriving Repr, DecidableEq, Inhabited

/-- All kinds, in the order in which a table gets them. -/
def ArtifactKind.all : List ArtifactKind := [.entity, .repository, .enum]

/-- The name of a kind. -/
def ArtifactKind.name : ArtifactKind → String
  | .entity => "entity"
  | .repository => "repository"
  | .enum => "enum"

/-- The place of a kind among the artifacts of a table. -/
def ArtifactKind.rank : ArtifactKind → Nat
  | .entity => 0
  | .repository => 1
  | .enum => 2

/-- The kind with the given name. -/
def ArtifactKind.ofName? (s : String) : Option ArtifactKind :=
  ArtifactKind.all.find? (·.name == s)

/-- A rendered artifact. -/
structure Artifact where
  kind : ArtifactKind
  name : String
  /-- The path of its file under the output root. -/
  path : String
  content : String
  table : String
deriving Repr, DecidableEq, Inhabited

/-- What rendering depends on besides the table. -/
structure RenderOptions where
  /-- The dotted name under which all modules are generated. -/
  namespaceName : String := "app"
  generateRepository : Bool := true
  emitEnums : Bool := true
  inflector : Name.Plural.Inflector := Name.Plural.english
deriving Inhabited

/-- What a template of an artifact can refer to besides the table: the dotted module of
each kind, which kinds are generated, and the plurals of words. -/
structure RenderContext where
  /-- The dotted module of the artifacts of a kind, for the kinds that the set has. -/
  modules : List (ArtifactKind × String)
  namespaceName : String
  generateRepository : Bool
  emitEnums : Bool
  inflector : Name.Plural.Inflector
deriving Inhabited

/-- The dotted module of the artifacts of a kind. -/
def RenderContext.moduleOf (c : RenderContext) (kind : ArtifactKind) : String :=
  ((c.modules.find? (·.1 == kind)).map (·.2)).getD ""

/-- Lines as a text in which every line is ended. -/
def unlines (lines : List String) : String :=
  String.join (lines.map (· ++ "\n"))

end Emit
end TableCast
