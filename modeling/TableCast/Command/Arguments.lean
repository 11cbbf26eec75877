import TableCast.Document.Record
import TableCast.Files.Sink
import TableCast.Number.Real
import TableCast.Text.Quoted

/-!
# Arguments of the command

The command is told what to do by switches.  A switch has a short name, a long name or both;
a long name may be cut as long as it stays clear, short names may stand together behind one
dash, and the value of a switch stands behind it or is attached to it.

- `Switch`: the switches and their names.
- `Arguments`: what the command was told.
- `ArgumentError`: what is refused.
- `Word.ofTexts`: which arguments are switches and which are values.
- `readArguments`: the whole command line.
-/

namespace TableCast
namespace Command

open Text Files

/-- The switches of the command. -/
inductive Switch where
  | help
  | config
  | outputDirectory
  | tables
  | exclude
  | namespaceName
  | templateSet
  | force
  | dryRun
  | noRepository
  | noEnums
  | workers
  | timeout
  | report
  | verbose
  | noColour
deriving Repr, DecidableEq, Inhabited

namespace Switch

/-- All switches, in the order in which they are listed. -/
def all : List Switch :=
  [help, config, outputDirectory, tables, exclude, namespaceName, templateSet, force, dryRun,
    noRepository, noEnums, workers, timeout, report, verbose, noColour]

/-- The names of a switch, the short one first. -/
def names : Switch → List String
  | help => ["-h", "--help"]
  | config => ["-c", "--config"]
  | outputDirectory => ["-o", "--output-dir"]
  | tables => ["-t", "--tables"]
  | exclude => ["-e", "--exclude"]
  | namespaceName => ["-n", "--namespace"]
  | templateSet => ["--template-set"]
  | force => ["-f", "--force"]
  | dryRun => ["-d", "--dry-run"]
  | noRepository => ["--no-repository"]
  | noEnums => ["--no-enums"]
  | workers => ["-w", "--workers"]
  | timeout => ["--timeout"]
  | report => ["--report"]
  | verbose => ["-v", "--verbose"]
  | noColour => ["--no-color"]

/-- Whether a value belongs to a switch. -/
def takesValue : Switch → Bool
  | config | outputDirectory | tables | exclude | namespaceName | templateSet | workers | timeout
  | report => true
  | _ => false

/-- All names with their switches, in order. -/
def named : List (String × Switch) :=
  all.flatMap fun s => s.names.map fun name => (name, s)

/-- The switch with the given name. -/
def ofName? (name : String) : Option Switch :=
  (named.find? (·.1 == name)).map (·.2)

/-- The switch with a short name of the given letter. -/
def ofLetter? (c : Char) : Option Switch := ofName? (String.ofList ['-', c])

/-- The names of a switch in a message. -/
def shown (s : Switch) : String := joinWith "/" s.names

/-- The switch that must not stand beside a switch. -/
def rival? : Switch → Option Switch
  | force => some dryRun
  | dryRun => some force
  | _ => none

end Switch

/-- What the command was told. -/
structure Arguments where
  config : Option String := none
  outputDirectory : Option String := none
  included : Option (List String) := none
  excluded : Option (List String) := none
  namespaceName : Option String := none
  templateSet : Option String := none
  policy : Option ConflictPolicy := none
  generateRepository : Option Bool := none
  emitEnums : Option Bool := none
  workers : Option Int := none
  /-- The seconds after which the run is cancelled. -/
  timeout : Option Float := none
  report : Option String := none
  verbose : Bool := false
  noColour : Bool := false
deriving Repr, Inhabited

/-- What is refused. -/
inductive ArgumentError where
  | ambiguous (given : String) (names : List String)
  | noValue (s : Switch)
  | needlessValue (s : Switch) (value : String)
  | badNumber (s : Switch) (kind value : String)
  | conflict (s other : Switch)
  | unknown (arguments : List String)
deriving Repr, DecidableEq, Inhabited

/-- A message about a switch. -/
def aboutSwitch (s : Switch) (message : String) : String :=
  "argument " ++ s.shown ++ ": " ++ message

/-- What is said about refused arguments. -/
def ArgumentError.message : ArgumentError → String
  | .ambiguous given names =>
    "ambiguous option: " ++ given ++ " could match " ++ joinWith ", " names
  | .noValue s => aboutSwitch s "expected one argument"
  | .needlessValue s value => aboutSwitch s ("ignored explicit argument " ++ Quoted.text value)
  | .badNumber s kind value =>
    aboutSwitch s ("invalid " ++ kind ++ " value: " ++ Quoted.text value)
  | .conflict s other => aboutSwitch s ("not allowed with argument " ++ other.shown)
  | .unknown arguments => "unrecognized arguments: " ++ joinWith " " arguments

/-- An argument, told apart by its form. -/
inductive Word where
  | value (text : String)
  /-- The mark behind which everything is a value. -/
  | separator
  /-- A switch under a long name or a short one, with what is attached to it. -/
  | switch (s : Switch) (long : Bool) (attached : Option (List Char))
  /-- The form of a switch that there is not. -/
  | stranger (text : String)
deriving Repr, DecidableEq, Inhabited

namespace Word

/-- Whether a text is a number below zero. -/
def isNegativeNumber : List Char → Bool
  | '-' :: rest =>
    let (whole, rest) := Number.spanDigits rest
    match rest with
    | [] | ['\n'] => !whole.isEmpty
    | '.' :: rest =>
      let (fraction, rest) := Number.spanDigits rest
      !fraction.isEmpty && (rest.isEmpty || rest == ['\n'])
    | _ => false
  | _ => false

/-- A text in front of its first equals sign, and what stands behind. -/
def splitValue (cs : List Char) : List Char × Option (List Char) :=
  match cs.dropWhile (· != '=') with
  | [] => (cs, none)
  | _ :: attached => (cs.takeWhile (· != '='), some attached)

/-- The names that a text can stand for: a long name that starts with it, or the short name
that it starts with. -/
def candidates (cs : List Char) : List (String × Word) :=
  match cs with
  | '-' :: '-' :: _ =>
    let (start, attached) := splitValue cs
    (Switch.named.filter fun (name, _) => start.isPrefixOf name.toList).map fun (name, s) =>
      (name, .switch s true attached)
  | '-' :: c :: rest =>
    ((Switch.ofLetter? c).map fun s => (String.ofList ['-', c], .switch s false (some rest))).toList
  | _ => []

/-- The word of a text that has the form of a switch and is no exact name. -/
def ofForm (text : String) : Except ArgumentError Word :=
  match candidates text.toList with
  | [] =>
    if isNegativeNumber text.toList || text.toList.contains ' ' then .ok (.value text)
    else .ok (.stranger text)
  | [(_, word)] => .ok word
  | several => .error (.ambiguous text (several.map (·.1)))

/-- Whether a name is a long one. -/
def isLong (name : List Char) : Bool := name.take 2 == ['-', '-']

/-- The switch that a text names exactly, with what is attached behind an equals sign. -/
def named? (text : String) : Option Word :=
  match Switch.ofName? text with
  | some s => some (.switch s (isLong text.toList) none)
  | none =>
    let (name, attached) := splitValue text.toList
    attached.bind fun v => (Switch.ofName? (String.ofList name)).map fun s =>
      .switch s (isLong name) (some v)

/-- The word of one argument. -/
def ofText (text : String) : Except ArgumentError Word :=
  match text.toList with
  | '-' :: _ :: _ =>
    match named? text with
    | some word => .ok word
    | none => ofForm text
  | _ => .ok (.value text)

/-- The words of all arguments. -/
def ofTexts : List String → Except ArgumentError (List Word)
  | [] => .ok []
  | text :: rest =>
    if text == "--" then .ok (.separator :: rest.map .value)
    else do
      let word ← ofText text
      let words ← ofTexts rest
      return word :: words

end Word

/-- A switch with the letters behind it: the switches in front that take no value, the last
switch, and the value that is attached to it. -/
def cluster (s : Switch) (long : Bool) : Option (List Char) →
    Except ArgumentError (List Switch × Switch × Option String)
  | none => .ok ([], s, none)
  | some [] =>
    if s.takesValue then .ok ([], s, some "") else .error (.needlessValue s "")
  | some (c :: rest) =>
    if s.takesValue then .ok ([], s, some (String.ofList (c :: rest)))
    else match long, Switch.ofLetter? c with
      | false, some next =>
        if rest.isEmpty then .ok ([s], next, none)
        else do
          let (before, last, value) ← cluster next false (some rest)
          return (s :: before, last, value)
      | _, _ => .error (.needlessValue s (String.ofList (c :: rest)))

/-- What has been read of a command line. -/
structure Progress where
  arguments : Arguments := {}
  seen : List Switch := []
  /-- A switch whose value comes next, and the switches in front of it. -/
  pending : Option (List Switch × Switch) := none
  strangers : List String := []
  /-- Whether help was asked for; nothing behind counts. -/
  helped : Bool := false
deriving Inhabited

/-- The whole number that a value writes. -/
def wholeValue (s : Switch) (value : String) : Except ArgumentError Int :=
  (Number.readInteger value.toList).mapError fun _ => .badNumber s "int" value

/-- The number that a value writes. -/
def realValue (s : Switch) (value : String) : Except ArgumentError Float :=
  match Number.readReal? value.toList with
  | some x => .ok x
  | none => .error (.badNumber s "float" value)

/-- What the command is told by a switch and its value. -/
def told (a : Arguments) (s : Switch) (value : String) : Except ArgumentError Arguments :=
  match s with
  | .config => .ok { a with config := some value }
  | .outputDirectory => .ok { a with outputDirectory := some value }
  | .tables => .ok { a with included := some (a.included.getD [] ++ [value]) }
  | .exclude => .ok { a with excluded := some (a.excluded.getD [] ++ [value]) }
  | .namespaceName => .ok { a with namespaceName := some value }
  | .templateSet => .ok { a with templateSet := some value }
  | .force => .ok { a with policy := some .forceOverwrite }
  | .dryRun => .ok { a with policy := some .dryRun }
  | .noRepository => .ok { a with generateRepository := some false }
  | .noEnums => .ok { a with emitEnums := some false }
  | .workers => (wholeValue s value).map fun n => { a with workers := some n }
  | .timeout => (realValue s value).map fun x => { a with timeout := some x }
  | .report => .ok { a with report := some value }
  | .verbose => .ok { a with verbose := true }
  | .noColour => .ok { a with noColour := true }
  | .help => .ok a

/-- The progress after a switch with its value. -/
def Progress.take (p : Progress) (s : Switch) (value : String) : Except ArgumentError Progress :=
  if p.helped then .ok p
  else do
    let arguments ← told p.arguments s value
    match s.rival?.filter p.seen.contains with
    | some other => .error (.conflict s other)
    | none =>
      let helped := p.helped || s == .help
      return { p with arguments := arguments, seen := s :: p.seen, helped := helped }

/-- The progress after several switches without values. -/
def Progress.takeAll (p : Progress) (switches : List Switch) : Except ArgumentError Progress :=
  switches.foldlM (fun p s => p.take s "") p

/-- The progress after an argument that means nothing. -/
def Progress.leave (p : Progress) (text : String) : Progress :=
  { p with strangers := p.strangers ++ [text] }

/-- The progress after one more word. -/
def Progress.read (p : Progress) (word : Word) : Except ArgumentError Progress :=
  if p.helped then .ok p
  else match p.pending, word with
    | some (before, last), .value text => do
      (← ({ p with pending := none } : Progress).takeAll before).take last text
    | some (_, last), _ => .error (.noValue last)
    | none, .value text => .ok (p.leave text)
    | none, .separator => .ok (p.leave "--")
    | none, .stranger text => .ok (p.leave text)
    | none, .switch s long attached => do
      let (before, last, value) ← cluster s long attached
      if last.takesValue && value.isNone then return { p with pending := some (before, last) }
      else (← p.takeAll before).take last (value.getD "")

/-- What a command line asks for. -/
inductive Request where
  | help
  | run (arguments : Arguments)

/-- The whole command line. -/
def readArguments (texts : List String) : Except ArgumentError Request := do
  let words ← Word.ofTexts texts
  let p ← words.foldlM Progress.read {}
  match p.helped, p.pending, p.strangers with
  | true, _, _ => return .help
  | false, some (_, last), _ => .error (.noValue last)
  | false, none, [] => return .run p.arguments
  | false, none, strangers => .error (.unknown strangers)

/-- What the command was told, by the names of the settings. -/
def Arguments.settings (a : Arguments) : List (String × Document) :=
  [("output_dir", .optionalText a.outputDirectory),
    ("include_tables", .optional .texts a.included),
    ("exclude_tables", .optional .texts a.excluded),
    ("namespace", .optionalText a.namespaceName), ("template_set", .optionalText a.templateSet),
    ("conflict_policy", .optionalText (a.policy.map ConflictPolicy.name)),
    ("generate_repository", .optional .bool a.generateRepository),
    ("emit_enums", .optional .bool a.emitEnums), ("workers", .optionalInteger a.workers),
    ("timeout", .optional .float a.timeout)]

/-- Everything that the command was told. -/
def Arguments.document (a : Arguments) : Document :=
  .record ([("config", .optionalText a.config)] ++ a.settings ++
    [("report", .optionalText a.report), ("verbose", .bool a.verbose),
      ("no_color", .bool a.noColour)])

end Command
end TableCast
