import TableCast.Document.Record
import TableCast.Emit.TemplateSet

/-!
# Artifacts and template sets as records

- `Artifact.document`: a rendered artifact.
- `TemplateSet.document`: what a template set says about itself.
- `RenderOptions.ofDocument`: the options of rendering that a record gives.
-/

namespace TableCast
namespace Emit

open Document

/-- A rendered artifact as a record. -/
def Artifact.document (a : Artifact) : Document :=
  record [("kind", .str a.kind.name), ("name", .str a.name), ("path", .str a.path),
    ("table", .str a.table), ("content", .str a.content)]

/-- What a template set says about itself; its words are sorted. -/
def TemplateSet.document (s : TemplateSet) : Document :=
  record [("name", .str s.name), ("extension", .str s.extension),
    ("formatter", .str s.formatter.name), ("file_case", .str s.fileCase.name),
    ("reserved", texts (Name.Scope.sortedDistinct s.reserved)), ("ci", .bool s.ignoreCase),
    ("kinds", record (s.artifacts.map fun (kind, artifact) =>
      (kind.name, texts [artifact.template, artifact.directory])))]

/-- The options of rendering that a record gives. -/
def RenderOptions.ofDocument (d : Document) : RenderOptions :=
  { namespaceName := d.textAt "namespace" "app"
    generateRepository := d.truthAt "generate_repository" true
    emitEnums := d.truthAt "emit_enums" true }

end Emit
end TableCast
