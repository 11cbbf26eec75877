import TableCast.Text.Pieces

/-!
# Paths

A path is a root and a list of names.  Empty names and names that stand for the place
itself are dropped when a path is read; a name that stands for the place above is kept.

- `Path`, `Path.ofText`, `Path.text`: paths and their texts.
- `Path.join`, `Path.parent`: the path behind another, and the path above.
- `Path.normalized`: an absolute path without names for the place above.
-/

namespace TableCast
namespace Files

open Text

/-- A path. -/
structure Path where
  /-- The slashes that an absolute path starts with. -/
  root : String := ""
  names : List String := []
deriving Repr, DecidableEq, Inhabited

/-- The name that stands for the place above. -/
def above : String := ".."

namespace Path

/-- The names between the slashes of a text. -/
def namesOf (text : String) : List String :=
  (splitOn text '/').filter fun name => !name.isEmpty && name != "."

/-- The slashes that a text starts with: exactly two are kept, any other number counts as
one. -/
def rootOf (text : String) : String :=
  match (text.toList.takeWhile (· == '/')).length with
  | 0 => ""
  | 2 => "//"
  | _ => "/"

/-- The path that a text writes. -/
def ofText (text : String) : Path :=
  { root := rootOf text, names := namesOf text }

/-- The text of a path; the path without root and names is a point. -/
def text (p : Path) : String :=
  if p.root.isEmpty && p.names.isEmpty then "." else p.root ++ joinWith "/" p.names

/-- Whether the path starts at the root of all files. -/
def isAbsolute (p : Path) : Bool := !p.root.isEmpty

/-- The path behind another one; an absolute path stands for itself. -/
def join (p q : Path) : Path :=
  if q.isAbsolute then q else { p with names := p.names ++ q.names }

/-- The path with one more name. -/
def child (p : Path) (name : String) : Path := { p with names := p.names ++ [name] }

/-- The path above. -/
def parent (p : Path) : Path := { p with names := p.names.dropLast }

/-- The names with every name for the place above taken together with the name in front
of it. -/
def collapse (names : List String) : List String :=
  names.foldl (fun done name => if name == above then done.dropLast else done ++ [name]) []

/-- The path made absolute at a working directory, without names for the place above. -/
def normalized (working p : Path) : Path :=
  let whole := working.join p
  { root := "/", names := collapse whole.names }

end Path
end Files
end TableCast
