import TableCast.Emit.Doctrine.Enum
import TableCast.Emit.Doctrine.Repository
import TableCast.Emit.Python.Enum
import TableCast.Emit.Python.Repository
import TableCast.Emit.Template.Eval
import TableCast.Emit.TemplateSet
import TableCast.Fault
import TableCast.Layout.Format

/-!
# Emission

The artifacts of an entity, planned and rendered through a template set.

- `Plan`, `plan`: what is rendered for an entity, the entity itself first.
- `renderPlan`: one artifact.
- `render`: all artifacts of an entity, up to the first that fails.
-/

namespace TableCast
namespace Emit

open Model Text

/-- One artifact that will be rendered. -/
structure Plan where
  kind : ArtifactKind
  name : String
  entity : Entity
  enum : Option EnumType := none
deriving Inhabited

/-- Whether the entity gets a repository. -/
def hasRepository (options : RenderOptions) (e : Entity) : Bool :=
  options.generateRepository && (e.companion.map (!·.isEmpty)).getD false

/-- The artifacts of an entity, the entity itself first. -/
def plan (set : TemplateSet) (options : RenderOptions) (e : Entity) : List Plan :=
  [{ kind := .entity, name := e.typeName, entity := e }] ++
  (if hasRepository options e && set.supports .repository then
    [{ kind := .repository, name := e.companion.getD "", entity := e }] else []) ++
  (if options.emitEnums && set.supports .enum then
    e.enums.map fun t => { kind := .enum, name := t.typeName, entity := e, enum := some t } else [])

/-- What the templates for an entity can refer to. -/
def contextFor (set : TemplateSet) (options : RenderOptions) (e : Entity) : RenderContext :=
  { modules := set.modules options.namespaceName
    namespaceName := options.namespaceName
    generateRepository := hasRepository options e
    emitEnums := options.emitEnums
    inflector := options.inflector }

/-- The variables of a template. -/
def variablesFor (context : RenderContext) (p : Plan) : Template.Variables :=
  [("table", .entity p.entity), ("enum", (p.enum.map Template.Value.enum).getD .none),
    ("logical_name", .text p.name), ("namespace", .text context.namespaceName),
    ("generate_repository", .bool context.generateRepository),
    ("emit_enums", .bool context.emitEnums), ("module_of", .modules context.modules)]

/-- The text of an artifact of the built-in set for Python. -/
def pythonText (context : RenderContext) (p : Plan) : Except Template.Fault String :=
  match p.kind, p.enum with
  | .repository, _ =>
    (Python.repositoryText context p.entity p.name).mapError Template.Fault.noPlural
  | .enum, some e => .ok (Python.enumText e)
  | _, _ => .ok (Python.entityText context p.entity)

/-- The text of an artifact of the built-in set for Doctrine. -/
def doctrineText (context : RenderContext) (p : Plan) : String :=
  match p.kind, p.enum with
  | .repository, _ => Doctrine.repositoryText context p.entity p.name
  | .enum, some e => Doctrine.enumText context e
  | _, _ => Doctrine.entityText context p.entity

/-- The name of the template of a plan. -/
def templateName (set : TemplateSet) (p : Plan) : String :=
  ((set.artifact? p.kind).map (·.template)).getD ""

/-- The text of an artifact before it is formatted. -/
def rawText (set : TemplateSet) (context : RenderContext) (p : Plan) :
    Except Template.Fault String :=
  match set.source with
  | .python => pythonText context p
  | .doctrine => .ok (doctrineText context p)
  | .texts files =>
    match files.find? (·.1 == templateName set p) with
    | some (_, text) => Template.render context.inflector text (variablesFor context p)
    | none => .error (.undefined (templateName set p))

/-- The report of an artifact that cannot be rendered. -/
def renderFault (set : TemplateSet) (p : Plan) (reason : Template.Fault) : Fault :=
  let base : Fault := {
    kind := .template
    message := "Failed to render " ++ p.kind.name ++ " '" ++ p.name ++ "' of table '" ++
      p.entity.name ++ "': " ++ reason.message }
  (((base.note "table" p.entity.name).note "artifact_kind" p.kind.name).note
    "logical_name" p.name).note "template" (templateName set p)

/-- The text with an end for its last line. -/
def endLastLine (text : String) : String :=
  if endsWith text "\n" then text else text ++ "\n"

/-- What a formatter makes of a text. -/
def Formatter.apply : Formatter → String → String
  | .black, text => Layout.format text
  | .plain, text => endLastLine text

/-- One artifact rendered. -/
def renderPlan (set : TemplateSet) (options : RenderOptions) (p : Plan) :
    Except Fault Artifact := do
  let text ← (rawText set (contextFor set options p.entity) p).mapError (renderFault set p)
  return {
    kind := p.kind
    name := p.name
    path := set.relativePath p.kind p.name
    content := set.formatter.apply text
    table := p.entity.name }

/-- All artifacts of an entity, up to the first that fails. -/
def render (set : TemplateSet) (options : RenderOptions) (e : Entity) :
    Except Fault (List Artifact) :=
  (plan set options e).mapM (renderPlan set options)

end Emit
end TableCast
