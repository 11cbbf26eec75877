import TableCast.Text.Pieces

/-!
# Reported faults

What a generation run reports when something goes wrong: the kind of fault, its
message, the circumstances as key and text, and advice.

- `FaultKind`: the kinds, each with a code and default advice.
- `Fault`: one reported fault.
- `Fault.text`: the whole report as it is shown to a user.
- `Problem`: a fault, or a failure of another nature that ends an operation.
-/

namespace TableCast

open Text

/-- The kinds of reported faults. -/
inductive FaultKind where
  | general
  | configuration
  | databaseConnection
  | schemaRead
  | metadataExtraction
  | partialKey
  | enumCollision
  | template
  | fileWrite
  | cancelled
deriving Repr, DecidableEq, Inhabited

/-- All kinds. -/
def FaultKind.all : List FaultKind :=
  [.general, .configuration, .databaseConnection, .schemaRead, .metadataExtraction, .partialKey,
    .enumCollision, .template, .fileWrite, .cancelled]

/-- The code that identifies a kind of fault. -/
def FaultKind.code : FaultKind → String
  | .general => "SCHEMA_CODEGEN_ERROR"
  | .configuration => "CONFIG_ERROR"
  | .databaseConnection => "DATABASE_CONNECTION_ERROR"
  | .schemaRead => "SCHEMA_READ_ERROR"
  | .metadataExtraction => "METADATA_EXTRACTION_ERROR"
  | .partialKey => "PARTIAL_KEY_ERROR"
  | .enumCollision => "ENUM_COLLISION_ERROR"
  | .template => "TEMPLATE_ERROR"
  | .fileWrite => "FILE_WRITE_ERROR"
  | .cancelled => "CANCELLED"

/-- The advice given with a kind of fault. -/
def FaultKind.advice : FaultKind → List String
  | .general => []
  | .configuration => [
      "Check the configuration file syntax",
      "Verify all required fields are present",
      "Check the documentation for configuration examples"]
  | .databaseConnection => [
      "Check database server is running",
      "Verify connection credentials",
      "Check network connectivity",
      "Ensure database driver is installed"]
  | .schemaRead => [
      "Verify the table still exists (concurrent DDL can drop it mid-run)",
      "Check database user permissions on the catalog tables",
      "Review the include/exclude table filters"]
  | .metadataExtraction => [
      "Check earlier diagnostics for this table",
      "Re-run with --verbose to see the schema reader output"]
  | .partialKey => [
      "Reference every column of the target key in the foreign key",
      "Add a unique constraint on the referenced columns",
      "Exclude the table from generation"]
  | .enumCollision => [
      "Rename one of the enumerated values in the schema",
      "Disable enum generation with --no-enums"]
  | .template => [
      "Check the template for undefined attributes",
      "Verify the template set manifest lists every artifact kind"]
  | .fileWrite => [
      "Check the output directory is writable",
      "Check the disk is not full"]
  | .cancelled => ["Increase --timeout or re-run to finish the remaining tables"]

/-- The circumstances that a kind of fault is reported with, in order. -/
def FaultKind.circumstances : FaultKind → List String
  | .general => []
  | .configuration => ["config_file"]
  | .databaseConnection => ["database_url", "engine"]
  | .schemaRead => ["table", "column"]
  | .metadataExtraction => ["table", "state"]
  | .partialKey => ["source_table", "target_table", "source_columns", "target_key"]
  | .enumCollision => ["table", "column", "case_name", "values"]
  | .template => ["table", "artifact_kind", "logical_name", "template"]
  | .fileWrite => ["path"]
  | .cancelled => ["reason"]

/-- What a kind of fault is about, by name, and the circumstance that tells it. -/
def FaultKind.subjects : FaultKind → List (String × String)
  | .schemaRead | .metadataExtraction | .enumCollision => [("table", "table")]
  | .partialKey => [("table", "source_table")]
  | .template =>
    [("table", "table"), ("artifact_kind", "artifact_kind"), ("logical_name", "logical_name")]
  | .fileWrite => [("path", "path")]
  | _ => []

/-- The message of a fault of a kind that has a message of its own. -/
def FaultKind.ownMessage : FaultKind → String
  | .cancelled => "Generation cancelled"
  | _ => ""

/-- One reported fault. -/
structure Fault where
  kind : FaultKind
  message : String
  /-- The circumstances, in the order in which they were noted. -/
  context : List (String × String) := []
  suggestions : List String := kind.advice
  code : String := kind.code
deriving Repr, DecidableEq, Inhabited

/-- A noted circumstance, put at the end or in the place of an earlier one. -/
def noteContext (key value : String) : List (String × String) → List (String × String)
  | [] => [(key, value)]
  | (k, v) :: rest => if k == key then (k, value) :: rest else (k, v) :: noteContext key value rest

/-- The fault with one more circumstance; an empty text notes nothing. -/
def Fault.note (fault : Fault) (key value : String) : Fault :=
  if value.isEmpty then fault else { fault with context := noteContext key value fault.context }

/-- The fault with one more circumstance, if there is one. -/
def Fault.note? (fault : Fault) (key : String) : Option String → Fault
  | none => fault
  | some value => fault.note key value

/-- A fault with the circumstances of its kind that are known, behind those given before. -/
def Fault.report (kind : FaultKind) (message : String) (before : List (String × String))
    (known : String → Option String) : Fault :=
  kind.circumstances.foldl (fun fault key => fault.note? key (known key))
    { kind := kind, message := message, context := before }

/-- The whole report: message, code, circumstances and advice, one to a line. -/
def Fault.text (fault : Fault) : String :=
  let code := if fault.code.isEmpty then [] else ["Error Code: " ++ fault.code]
  let context := if fault.context.isEmpty then []
    else "Context:" :: fault.context.map fun (key, value) => "  " ++ key ++ ": " ++ value
  let advice := if fault.suggestions.isEmpty then []
    else "Suggestions:" :: fault.suggestions.map ("  • " ++ ·)
  joinWith "\n" (fault.message :: code ++ context ++ advice)

/-- What ends an operation: a reported fault, or a failure of another nature. -/
inductive Problem where
  | fault (fault : Fault)
  | badValue (message : String)
  | badType (message : String)
  | tooLarge (message : String)
  | badPosition (message : String)
  /-- A text without the words that a rule asks for. -/
  | badWord (message : String)
  | badKey (message : String)
  | system (message : String)
  | badList (message : String)
  /-- Something that is used before there is any. -/
  | absent (message : String)
  | notProvided
  /-- A failure of a database that no rule foresees. -/
  | unforeseen (message : String)
  | interrupted
deriving Repr, DecidableEq, Inhabited

/-- The message of a problem. -/
def Problem.message : Problem → String
  | .fault f => f.text
  | .badValue message => message
  | .badType message => message
  | .tooLarge message => message
  | .badPosition message => message
  | .badWord message => message
  | .badKey message => message
  | .system message => message
  | .badList message => message
  | .absent message => message
  | .notProvided => ""
  | .unforeseen message => message
  | .interrupted => ""

end TableCast
