import TableCast.Emit.Artifact
import TableCast.Emit.Linked
import TableCast.Emit.Python.Value
import TableCast.Emit.Doctrine.Value
import TableCast.Name.Plural
import TableCast.Name.Words

/-!
# Templates

A small template language: text with expressions, conditions and loops.  Expressions look
up the parts of a table and pass them through filters.

- `Expr`, `Node`: expressions and templates.
- `Value`: what expressions evaluate to.
- `Fault`: why a template gives no text.
- `Value.part?`, `applyFilter`: the parts of a value and the filters.
-/

namespace TableCast
namespace Emit
namespace Template

open Model Text

/-- An expression. -/
inductive Expr where
  | name (s : String)
  | text (s : String)
  | int (n : Int)
  | part (e : Expr) (name : String)
  | item (e : Expr) (position : Expr)
  | filtered (e : Expr) (filter : String)
  | equal (a b : Expr)
  | differ (a b : Expr)
  | negated (e : Expr)
  /-- The second value if the first counts as true. -/
  | both (a b : Expr)
  /-- The first value if it counts as true, else the second. -/
  | either (a b : Expr)
deriving Repr, Inhabited

/-- A piece of a template. -/
inductive Node where
  | text (s : String)
  | output (e : Expr)
  /-- The first branch whose condition holds, else the last part. -/
  | choice (condition : Expr) (body otherwise : List Node)
  | loop (binder : String) (items : Expr) (body : List Node)
deriving Repr, Inhabited

/-- The values of expressions. -/
inductive Value where
  | none
  | text (s : String)
  | int (n : Int)
  | bool (b : Bool)
  | list (items : List Value)
  | literal (v : Schema.Value)
  | entity (e : Entity)
  | column (c : Column)
  | association (a : Association)
  | index (i : Model.Index)
  | enum (e : EnumType)
  | modules (m : List (ArtifactKind × String))
deriving Inhabited

/-- Why a template gives no text. -/
inductive Fault where
  | malformed
  | undefined (name : String)
  | noFilter (name : String)
  | wrongKind (name : String)
  | noPlural (e : Name.Plural.NumberError)
deriving Repr, DecidableEq, Inhabited

/-- The message about a template that gives no text. -/
def Fault.message : Fault → String
  | .malformed => "the template is not well formed"
  | .undefined name => "'" ++ name ++ "' is undefined"
  | .noFilter name => "No filter named '" ++ name ++ "'."
  | .wrongKind name => "'" ++ name ++ "' cannot be applied to this value"
  | .noPlural e => e.problem.message

namespace Value

/-- Texts as a list. -/
def texts (xs : List String) : Value := .list (xs.map .text)

/-- A text that may be missing. -/
def text? : Option String → Value
  | some s => .text s
  | Option.none => .none

/-- A number that may be missing. -/
def int? : Option Int → Value
  | some n => .int n
  | Option.none => .none

/-- Two texts as a list. -/
def pair (p : String × String) : Value := .list [.text p.1, .text p.2]

mutual

/-- The value as an expression. -/
def shown : Value → String
  | .none => "None"
  | .text s => Quoted.text s
  | .int n => toString n
  | .bool b => if b then "True" else "False"
  | .list items => "[" ++ joinWith ", " (shownAll items) ++ "]"
  | .literal v => match v with
    | .text s => Quoted.text s
    | v => v.plain
  | .entity e => e.describe
  | .column c => Quoted.text c.name
  | .association a => Quoted.text a.name
  | .index i => Quoted.text i.name
  | .enum e => Quoted.text e.typeName
  | .modules _ => ""

/-- Several values as expressions. -/
def shownAll : List Value → List String
  | [] => []
  | v :: vs => shown v :: shownAll vs

end

/-- The value as it is written into the text. -/
def written : Value → String
  | .text s => s
  | .literal v => v.plain
  | v => v.shown

/-- Whether a value counts as true. -/
def isTrue : Value → Bool
  | .none => false
  | .text s => !s.isEmpty
  | .int n => n != 0
  | .bool b => b
  | .list items => !items.isEmpty
  | .modules m => !m.isEmpty
  | _ => true

/-- Whether two scalars are equal. -/
def isEqual : Value → Value → Bool
  | .none, .none => true
  | .text a, .text b => a == b
  | .int a, .int b => a == b
  | .bool a, .bool b => a == b
  | _, _ => false

/-- The named part of an entity. -/
def entityPart? (e : Entity) : String → Option Value
  | "name" => some (.text e.name)
  | "type_name" => some (.text e.typeName)
  | "columns" => some (.list (e.columns.map .column))
  | "associations" => some (.list (e.associations.map .association))
  | "companion_name" => some (text? e.companion)
  | "primary_key" => some (texts e.primaryKey)
  | "indexes" => some (.list (e.indexes.map .index))
  | "enums" => some (.list (e.enums.map .enum))
  | "field_names" => some (texts e.fieldNames)
  | "primary_key_columns" => some (.list (e.primaryKeyColumns.map .column))
  | "is_finalized" => some (.bool e.isFinalized)
  | _ => Option.none

/-- The named part of a column. -/
def columnPart? (c : Column) : String → Option Value
  | "name" => some (.text c.name)
  | "field_name" => some (.text c.fieldName)
  | "native_type" => some (.text c.nativeType)
  | "nullable" => some (.bool c.nullable)
  | "is_primary" => some (.bool c.isPrimary)
  | "default" => some ((c.default.map Value.literal).getD .none)
  | "enum" => some ((c.enum.map Value.enum).getD .none)
  | "length" => some (int? c.length)
  | "precision" => some (int? c.precision)
  | "scale" => some (int? c.scale)
  | "auto_increment" => some (.bool c.autoIncrement)
  | "is_foreign_key" => some (.bool c.isForeignKey)
  | "comment" => some (text? c.comment)
  | "value_constants" => some (.list (c.valueConstants.map pair))
  | _ => Option.none

/-- The named part of an association. -/
def associationPart? (a : Association) : String → Option Value
  | "name" => some (.text a.name)
  | "column_pairs" => some (.list (a.columnPairs.map fun (s, t) => .list [.text s, text? t]))
  | "target_table" => some (.text a.targetTable)
  | "target_type_name" => some (text? a.targetType)
  | "on_delete" => some (.text a.onDelete)
  | "on_update" => some (.text a.onUpdate)
  | "nullable" => some (.bool a.nullable)
  | "is_self_referencing" => some (.bool a.isSelf)
  | "unresolved_target" => some (.bool a.unresolved)
  | "constraint_name" => some (text? a.constraint)
  | "is_composite" => some (.bool a.isComposite)
  | "source_columns" => some (texts a.sourceColumns)
  | "target_columns" => some (.list (a.targetColumns.map text?))
  | _ => Option.none

/-- The named part of an index. -/
def indexPart? (i : Model.Index) : String → Option Value
  | "name" => some (.text i.name)
  | "columns" => some (texts i.columns)
  | "unique" => some (.bool i.unique)
  | _ => Option.none

/-- The named part of an enum. -/
def enumPart? (e : EnumType) : String → Option Value
  | "type_name" => some (.text e.typeName)
  | "cases" => some (.list (e.cases.map pair))
  | "table_name" => some (.text e.table)
  | "column_name" => some (.text e.column)
  | "multiple" => some (.bool e.multiple)
  | "raw_values" => some (texts e.rawValues)
  | "case_names" => some (texts e.caseNames)
  | _ => Option.none

/-- The named part of a value. -/
def part? (v : Value) (name : String) : Option Value :=
  match v with
  | .entity e => entityPart? e name
  | .column c => columnPart? c name
  | .association a => associationPart? a name
  | .index i => indexPart? i name
  | .enum e => enumPart? e name
  | .modules m => (m.find? (·.1.name == name)).map fun entry => .text entry.2
  | _ => Option.none

/-- The item of a list at a position; negative positions count from the end. -/
def item? (v position : Value) : Option Value :=
  match v, position with
  | .list items, .int n =>
    let n := if n < 0 then n + items.length else n
    if n < 0 then Option.none else items[n.toNat]?
  | .modules m, .text name => part? (.modules m) name
  | _, _ => Option.none

end Value

/-- The length of a value that has one. -/
def lengthOf : Value → Except Fault Value
  | .text s => .ok (.int s.length)
  | .list items => .ok (.int items.length)
  | .modules m => .ok (.int m.length)
  | _ => .error (.wrongKind "length")

/-- A filter on columns. -/
def columnFilter (name : String) (f : Column → Value) : Value → Except Fault Value
  | .column c => .ok (f c)
  | _ => .error (.wrongKind name)

/-- A filter on texts. -/
def textFilter (name : String) (f : String → Except Fault Value) : Value → Except Fault Value
  | .text s => f s
  | _ => .error (.wrongKind name)

/-- The plural of a value, none for what is not a word. -/
def pluralOf (inflector : Name.Plural.Inflector) : Value → Except Fault Value
  | .text s => ((Name.Plural.pluralOrEmpty s inflector).map Value.text).mapError .noPlural
  | _ => .ok (.text "")

/-- The value passed through the filter with the given name. -/
def applyFilter (inflector : Name.Plural.Inflector) : String → Value → Except Fault Value
  | "length" => lengthOf
  | "count" => lengthOf
  | "repr" => fun v => .ok (.text v.shown)
  | "string" => fun v => .ok (.text v.written)
  | "snake" => textFilter "snake" fun s => .ok (.text (Name.snake s))
  | "upper" => fun v => .ok (.text (Text.upper v.written))
  | "lower" => fun v => .ok (.text (Text.lower v.written))
  | "pluralize" => pluralOf inflector
  | "php_string" => fun v => .ok (.text (Doctrine.singleQuoted v.written))
  | "python_type" => columnFilter "python_type" fun c => .text (Python.typeOf c)
  | "python_default" => columnFilter "python_default" fun c => Value.text? (Python.default? c)
  | "doctrine_type" => columnFilter "doctrine_type" fun c => .text (Doctrine.storedType c)
  | "php_type" => columnFilter "php_type" fun c => .text (Doctrine.propertyType c)
  | "php_default" => columnFilter "php_default" fun c => Value.text? (Doctrine.default? c)
  | name => fun _ => .error (.noFilter name)

end Template
end Emit
end TableCast
