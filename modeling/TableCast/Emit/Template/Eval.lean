import TableCast.Emit.Template.Reader

/-!
# Rendering templates

The text that a template gives for the values of its variables.

- `Expr.value`: the value of an expression.
- `render`: the text of a template.
-/

namespace TableCast
namespace Emit
namespace Template

open Name.Plural (Inflector)

/-- The values of the variables. -/
abbrev Variables := List (String × Value)

/-- The value of an expression. -/
def Expr.value (inflector : Inflector) (vars : Variables) : Expr → Except Fault Value
  | .name s => match (vars.find? (·.1 == s)).map (·.2) with
    | some v => .ok v
    | none => .error (.undefined s)
  | .text s => .ok (.text s)
  | .int n => .ok (.int n)
  | .part e member => do
    match (← e.value inflector vars).part? member with
    | some v => .ok v
    | none => .error (.undefined member)
  | .item e position => do
    let list ← e.value inflector vars
    match list.item? (← position.value inflector vars) with
    | some v => .ok v
    | none => .error (.undefined "item")
  | .filtered e filter => do applyFilter inflector filter (← e.value inflector vars)
  | .equal a b => do
    let x ← a.value inflector vars
    return .bool (x.isEqual (← b.value inflector vars))
  | .differ a b => do
    let x ← a.value inflector vars
    return .bool (!x.isEqual (← b.value inflector vars))
  | .negated e => do return .bool !(← e.value inflector vars).isTrue
  | .both a b => do
    let x ← a.value inflector vars
    if x.isTrue then b.value inflector vars else return x
  | .either a b => do
    let x ← a.value inflector vars
    if x.isTrue then return x else b.value inflector vars

/-- The texts of the body of a loop for each item. -/
def renderEach (body : Value → Except Fault String) : List Value → Except Fault String
  | [] => .ok ""
  | v :: vs => do
    let first ← body v
    let rest ← renderEach body vs
    return first ++ rest

mutual

/-- The text of one piece of a template. -/
def Node.render (inflector : Inflector) (vars : Variables) : Node → Except Fault String
  | .text s => .ok s
  | .output e => do return (← e.value inflector vars).written
  | .choice condition body otherwise => do
    if (← condition.value inflector vars).isTrue then renderAll inflector vars body
    else renderAll inflector vars otherwise
  | .loop binder items body => do
    match ← items.value inflector vars with
    | .list items => renderEach (fun v => renderAll inflector ((binder, v) :: vars) body) items
    | _ => .error (.wrongKind "for")

/-- The text of several pieces of a template. -/
def renderAll (inflector : Inflector) (vars : Variables) : List Node → Except Fault String
  | [] => .ok ""
  | node :: nodes => do
    let first ← node.render inflector vars
    let rest ← renderAll inflector vars nodes
    return first ++ rest

end

/-- The text that the template with the given text gives. -/
def render (inflector : Inflector) (text : String) (vars : Variables) : Except Fault String :=
  match read? text with
  | none => .error .malformed
  | some nodes => renderAll inflector vars nodes

end Template
end Emit
end TableCast
