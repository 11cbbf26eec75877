import TableCast.Text.Pieces

/-!
# Credentials in addresses

The password in the address of a database is not shown.

- `maskCredentials`: an address with its passwords replaced.
-/

namespace TableCast
namespace Text

/-- The user and the length of the password at the start of a text behind the slashes of an
address: user, colon, password, at sign. -/
def userAndPassword? (cs : List Char) : Option (List Char × Nat) :=
  let user := cs.takeWhile fun c => c != ':' && c != '/' && c != '@'
  match cs.dropWhile fun c => c != ':' && c != '/' && c != '@' with
  | ':' :: rest =>
    let password := rest.takeWhile (· != '@')
    if user.isEmpty || password.isEmpty || (rest.dropWhile (· != '@')).isEmpty then none
    else some (user, password.length)
  | _ => none

/-- The text with its passwords replaced; the next `skip` characters have been dealt with. -/
def maskFrom : Nat → List Char → List Char
  | _, [] => []
  | skip + 1, _ :: cs => maskFrom skip cs
  | 0, c :: cs =>
    if "://".toList.isPrefixOf (c :: cs) then
      match userAndPassword? (cs.drop 2) with
      | some (user, length) =>
        "://".toList ++ user ++ ":***@".toList ++ maskFrom (2 + user.length + 1 + length + 1) cs
      | none => c :: maskFrom 0 cs
    else c :: maskFrom 0 cs

/-- An address with its passwords replaced by stars. -/
def maskCredentials (address : String) : String :=
  String.ofList (maskFrom 0 address.toList)

end Text
end TableCast
