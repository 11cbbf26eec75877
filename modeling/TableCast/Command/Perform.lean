import TableCast.Command.Arguments
import TableCast.Command.Summary
import TableCast.Document.Yaml.Writer
import TableCast.Log.Console
import TableCast.Run.Generation
import TableCast.Settings.Load

/-!
# The command

The command loads its configuration, generates, prints a summary and writes a report.  A
problem ends it with a message and a number of its own.

- `Performed`: what the command leaves behind.
- `Failure.entry`: what is said about a problem.
- `perform`: the command as a whole.
-/

namespace TableCast
namespace Command

open Run Files Text

/-- The name of the command. -/
def commandName : String := "schema-codegen"

/-- The number that the command ends with after a problem. -/
def failureCode : Nat := 1

/-- The number that the command ends with after refused arguments. -/
def usageCode : Nat := 2

/-- What the command leaves behind. -/
structure Performed where
  code : Nat
  output : String := ""
  messages : String := ""
  disk : Disk
  framework : Option Settings.FrameworkSettings := none
  calls : List Call := []

/-- What is said about a problem that ended the command. -/
def problemEntry : Problem → Log.Entry
  | .interrupted => Log.warning "Interrupted; files written so far are kept."
  | .fault fault =>
    match fault.kind with
    | .configuration => Log.error ("Configuration Error: " ++ fault.text)
    | .databaseConnection => Log.error ("Database Connection Error: " ++ fault.text)
    | _ => Log.error ("Error: " ++ fault.text)
  | other =>
    Log.error ("An unexpected error occurred during generation: " ++ other.message)

/-- The number that the command ends with after a problem. -/
def problemCode : Problem → Nat
  | .interrupted => exitCode .cancelled
  | _ => failureCode

/-- The line about refused arguments. -/
def usageLine (e : ArgumentError) : String :=
  commandName ++ ": error: " ++ e.message ++ "\n"

/-- What is printed when help is asked for. -/
def helpText : String :=
  Emit.unlines (("usage: " ++ commandName ++ " [options]") ::
    Switch.all.map fun s =>
      "  " ++ joinWith ", " s.names ++ (if s.takesValue then " VALUE" else ""))

/-- The options of a run with a configuration, if its directory can be used. -/
def optionsFor (disk : Disk) (formatted : Bool) (c : Settings.Configuration) :
    Except Problem Options := do
  let options := { Options.ofConfiguration c with formatted := formatted }
  options.check.mapError .fault
  options.sink.validate disk
  return options

/-- The disk with the report of a result. -/
def saveReport (disk : Disk) (path : Path) (result : Result) : Except Problem Disk :=
  let text := Yaml.write result.document
  match disk.makeDirectories path.parent with
  | (_, some e) => .error e.problem
  | (disk, none) => (disk.writeFile path text false).mapError PathError.problem

/-- The rest of the command after a run with a result: a report that is asked for. -/
def conclude (a : Arguments) (result : Result) (disk : Disk) :
    Except Problem (List Log.Entry × Disk) :=
  match a.report.filter (!·.isEmpty) with
  | none => .ok ([], disk)
  | some report => do
    let path := Path.ofText report
    let disk ← saveReport disk path result
    return ([Log.info ("Generation report saved to " ++ path.text)], disk)

/-- A run with the settings of the command, with what is said about it. -/
def runWith (a : Arguments) (database : Database) (disk : Disk) (secret : String)
    (formatted : Bool) (written : List Log.Entry → String) : Performed :=
  let loading := Log.debug "Verbose mode enabled. DEBUG level logging activated." ::
    Log.progress "Loading configuration..." :: Settings.loadLog disk a.config a.settings secret
  match Settings.load disk a.config a.settings secret with
  | .error problem =>
    { code := problemCode problem, disk := disk
      messages := written (loading ++ [problemEntry problem]) }
  | .ok c =>
    let loaded := loading ++ [Log.success "Configuration loaded and validated successfully."]
    match optionsFor disk formatted c with
    | .error problem =>
      { code := problemCode problem, disk := disk
        messages := written (loaded ++ [problemEntry problem]) }
    | .ok options =>
      let (run, framework) := generateFrom options database .never {} disk
      match run.outcome with
      | .error problem =>
        { code := problemCode problem, disk := run.disk, framework := framework
          calls := run.calls, messages := written (loaded ++ run.log ++ [problemEntry problem]) }
      | .ok result =>
        let said := loaded ++ run.log ++ Log.opening "Summary"
        let done : Performed :=
          { code := exitCode result.status, disk := run.disk, framework := framework
            calls := run.calls, output := Emit.unlines (summary result), messages := written said }
        match conclude a result run.disk with
        | .error _ => { done with code := failureCode }
        | .ok (reported, disk) => { done with disk := disk, messages := written (said ++ reported) }

/-- The command with the given arguments over a database. -/
def perform (arguments : List String) (database : Database) (disk : Disk) (secret : String)
    (formatted : Bool) (terminal : Bool) : Performed :=
  match readArguments arguments with
  | .error e => { code := usageCode, messages := usageLine e, disk := disk }
  | .ok .help => { code := 0, output := helpText, disk := disk }
  | .ok (.run a) =>
    let console : Log.Console :=
      { level := if a.verbose then .debug else .info, coloured := !a.noColour
        terminal := terminal }
    runWith a database disk secret formatted console.written

end Command
end TableCast
