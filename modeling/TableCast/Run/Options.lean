import TableCast.Catalog.Selection
import TableCast.Emit.Artifact
import TableCast.Files.Sink
import TableCast.Number.Floating
import TableCast.Schema.NativeType
import TableCast.Settings.Configuration
import TableCast.Settings.Framework

/-!
# Options of a run

What one run generates, from which database, with which templates, and where to.

- `Seconds`: durations.
- `Options`, `Options.check`: the options, and which of them are refused.
- `Options.ofDocument`: the options that a record gives.
- `Options.ofConfiguration`: the options that a configuration asks for.
-/

namespace TableCast
namespace Run

open Files

/-- A duration in seconds. -/
inductive Seconds where
  | whole (n : Int)
  | real (x : Float)
deriving Repr, Inhabited

/-- Whether a duration is over at once. -/
def Seconds.isOver : Seconds → Bool
  | .whole n => n ≤ 0
  | .real x => x ≤ 0.0

/-- The text of a duration. -/
def Seconds.text : Seconds → String
  | .whole n => toString n
  | .real x => Number.text x

/-- A duration as a document. -/
def Seconds.document : Seconds → Document
  | .whole n => .int n
  | .real x => .float x

/-- The duration that a document is. -/
def Seconds.ofDocument? : Document → Option Seconds
  | .int n => some (.whole n)
  | .float x => some (.real x)
  | _ => none

/-- The options of a run. -/
structure Options where
  /-- The settings of the connections, by alias. -/
  databases : List (String × Document) := []
  connection : String := "default"
  selection : Catalog.Selection := {}
  /-- The dotted prefix of generated modules. -/
  namespaceName : String := "app"
  outputRoot : String := "./generated"
  policy : ConflictPolicy := .failOnExists
  generateRepository : Bool := true
  emitEnums : Bool := true
  /-- The name of the template set, or its directory. -/
  templateSet : String := "python"
  /-- How many tables are emitted at a time. -/
  workers : Int := 1
  timeout : Option Seconds := none
  singularize : Bool := false
  types : Schema.TypeTable := Schema.builtinTypes
  /-- The secret that the database framework is configured with. -/
  secret : String := Settings.defaultSecret
  /-- Whether the formatter of the template set is applied. -/
  formatted : Bool := true
deriving Inhabited

namespace Options

/-- A fault about an option. -/
def refused (message : String) : Fault :=
  { kind := .configuration, message := message }

/-- Refuses options without a worker or without time. -/
def check (o : Options) : Except Fault Unit :=
  if o.workers < 1 then
    .error (refused ("workers must be at least 1, got " ++ toString o.workers))
  else match o.timeout with
    | some timeout =>
      if timeout.isOver then .error (refused ("timeout must be positive, got " ++ timeout.text))
      else .ok ()
    | none => .ok ()

/-- The options with the policy that a document names, if all of them are accepted. -/
def withPolicy (o : Options) (policy : Document) : Except Problem Options := do
  o.check.mapError .fault
  match policy.text?.bind ConflictPolicy.ofName? with
  | some named => return { o with policy := named }
  | none => .error (.badValue (ConflictPolicy.unknownMessage policy.shown))

/-- The options that a configuration asks for. -/
def ofConfiguration (c : Settings.Configuration) : Options :=
  { databases := c.databases.map fun (name, settings) => (name, settings.given)
    selection := { included := c.included.getD [], excluded := c.excluded.getD [] }
    namespaceName := c.namespaceName
    outputRoot := (Path.ofText c.outputDirectory).text
    policy := c.conflictPolicy
    generateRepository := c.generateRepository
    emitEnums := c.emitEnums
    templateSet := c.templateSet
    workers := c.workers
    timeout := c.timeout.map .real
    singularize := c.singularize
    secret := (c.secret.filter (!·.isEmpty)).getD Settings.defaultSecret }

/-- The options as a record. -/
def document (o : Options) : Document :=
  .record [("conflict_policy", .str o.policy.name), ("db_alias", .str o.connection),
    ("emit_enums", .bool o.emitEnums), ("exclude", .texts o.selection.excluded),
    ("generate_repository", .bool o.generateRepository), ("include", .texts o.selection.included),
    ("namespace", .str o.namespaceName), ("output_root", .str o.outputRoot),
    ("secret_key", .str o.secret), ("singularize", .bool o.singularize),
    ("template_set", .str o.templateSet),
    ("timeout", Document.optional Seconds.document o.timeout), ("workers", .int o.workers)]

/-- The options that a record gives, with others in the place of those it does not give. -/
def ofDocument (d : Document) (o : Options) : Except Problem Options :=
  let given : Options := { o with
    databases := ((d.get? "databases").map (·.textEntries)).getD o.databases
    connection := d.textAt "db_alias" o.connection
    selection := { included := d.textsAt "include", excluded := d.textsAt "exclude" }
    namespaceName := d.textAt "namespace" o.namespaceName
    outputRoot := d.textAt "output_root" o.outputRoot
    generateRepository := d.truthAt "generate_repository" o.generateRepository
    emitEnums := d.truthAt "emit_enums" o.emitEnums
    templateSet := d.textAt "template_set" o.templateSet
    workers := (d.integerAt? "workers").getD o.workers
    timeout := Seconds.ofDocument? (d.get "timeout")
    singularize := d.truthAt "singularize_entity_names" o.singularize
    secret := d.textAt "secret_key" o.secret }
  given.withPolicy ((d.get? "conflict_policy").getD (.str o.policy.name))

/-- What rendering depends on. -/
def render (o : Options) : Emit.RenderOptions :=
  { namespaceName := o.namespaceName
    generateRepository := o.generateRepository
    emitEnums := o.emitEnums }

/-- Where artifacts are written. -/
def sink (o : Options) : Sink :=
  { root := Path.ofText o.outputRoot, policy := o.policy }

end Options
end Run
end TableCast
