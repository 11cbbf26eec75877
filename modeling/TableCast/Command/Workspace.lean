import TableCast.Command.Perform
import TableCast.Document.Record

/-!
# The workspace of the command

The files that the command looks at and the files that it leaves, as far as they can be told
from its arguments and its configuration.

- `configurationOf?`: the configuration that a run will have.
- `recordingPath?`: the file that holds the catalog of the database.
- `templatePaths`: the files of a template set in a directory.
- `consulted`, `changes`: the places that a run may look at, and those that it changed.
-/

namespace TableCast
namespace Command

open Files Text

/-- The configuration that a run with these arguments will have, if it will have one. -/
def configurationOf? (a : Arguments) (disk : Disk) (secret : String) :
    Option Settings.Configuration :=
  (Settings.load disk a.config a.settings secret).toOption

/-- The file that holds the recorded catalog of the database: the one that the connection
names. -/
def recordingPath? (c : Settings.Configuration) : Option Path :=
  let connection := (Run.Options.ofConfiguration c).connection
  (c.databases.find? (·.1 == connection)).map fun (_, settings) => Path.ofText settings.name

/-- The database with the given recorded catalog.  Without one it cannot be connected to. -/
def databaseOf (catalog : Option String) : Run.Database :=
  match catalog.bind fun text => (Document.ofYaml (withPlainLineEnds text)).toOption with
  | some d => { recording := Catalog.Recording.ofDocument d }
  | none => { recording := { connectFailure := some (.refused "unable to open database file") } }

/-- The manifest of a template set in a directory. -/
def manifestPath (c : Settings.Configuration) : Path :=
  (Path.ofText c.templateSet).child Emit.manifestName

/-- The templates that a manifest refers to. -/
def templatePaths (c : Settings.Configuration) (manifest : String) : List Path :=
  match Document.ofYaml (withPlainLineEnds manifest) with
  | .error _ => []
  | .ok d => (d.get "artifacts").textEntries.filterMap fun (_, artifact) =>
      (artifact.textAt? "template").map fun name =>
        (Path.ofText c.templateSet).join (Path.ofText name)

/-- Every place on the way to a place, the place itself last. -/
def placesTo (place : Place) : List Place :=
  (List.range place.length).map fun n => place.take (n + 1)

/-- The places below which a run puts something into the tree, with those on the way to
them. -/
def consulted (before after : Disk) : List Place :=
  (after.tree.nodes.filter fun (place, _) => (before.tree.node? place).isNone).flatMap
    (fun (place, _) => placesTo place) |>.eraseDups

/-- What a run changed: the places that have another node than before. -/
def changes (before after : Disk) : List (Place × Node) :=
  after.tree.nodes.filter fun (place, node) => before.tree.node? place != some node

end Command
end TableCast
