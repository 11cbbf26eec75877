import TableCast.Emit.Doctrine.Value
import TableCast.Proofs.Text.Pieces

/-!
# Literals in single quotes

PHP ends a literal in single quotes at the first quote that is not escaped.  A backslash in front of
a quote or of another backslash escapes it; any other backslash stands for itself.  So a literal is
written with a backslash in front of each of its own quotes and backslashes.

The backslashes are doubled first and the quotes are escaped in what comes out.  In that order each
character is escaped once: doubling makes no quotes, and the backslashes in front of quotes are not
there yet when backslashes are doubled.

**Results.**
* `scanQuoted_escaped`, `quotedText?_singleQuoted`: a literal is read back, and nothing behind it.
* `escapeQuoted_eq`, `singleQuoted_eq_replaced`: a literal is written by two replacements.
* `literals_read_back`: both together.
-/

namespace TableCast
namespace Emit
namespace Doctrine

open Text

/-- What a literal reads as whose opening quote has been read, and what stands behind it. -/
def scanQuoted : List Char → Option (List Char × List Char)
  | [] => none
  | '\'' :: rest => some ([], rest)
  | '\\' :: '\\' :: rest => (scanQuoted rest).map fun (text, more) => ('\\' :: text, more)
  | '\\' :: '\'' :: rest => (scanQuoted rest).map fun (text, more) => ('\'' :: text, more)
  | c :: rest => (scanQuoted rest).map fun (text, more) => (c :: text, more)

/-- What a text in single quotes reads as, and what stands behind it. -/
def quotedText? : List Char → Option (String × List Char)
  | '\'' :: rest => (scanQuoted rest).map fun (text, more) => (String.ofList text, more)
  | _ => none

theorem scanQuoted_escaped (cs rest : List Char) :
    scanQuoted (cs.flatMap escapeQuoted ++ '\'' :: rest) = some (cs, rest) := by
  induction cs with
  | nil => rfl
  | cons c cs ih =>
      rw [List.flatMap_cons, List.append_assoc]
      by_cases hslash : c = '\\'
      · subst hslash
        show scanQuoted ('\\' :: '\\' :: (cs.flatMap escapeQuoted ++ '\'' :: rest)) = _
        rw [scanQuoted, ih]
        rfl
      · by_cases hquote : c = '\''
        · subst hquote
          show scanQuoted ('\\' :: '\'' :: (cs.flatMap escapeQuoted ++ '\'' :: rest)) = _
          rw [scanQuoted, ih]
          rfl
        · have hplain : escapeQuoted c = [c] := by simp [escapeQuoted, hslash, hquote]
          rw [hplain, List.singleton_append]
          simp [scanQuoted, hslash, ih]

/-- A literal is read back, whatever stands behind it. -/
theorem quotedText?_singleQuoted (s rest : String) :
    quotedText? (singleQuoted s ++ rest).toList = some (s, rest.toList) := by
  have hchars : (singleQuoted s ++ rest).toList =
      '\'' :: (s.toList.flatMap escapeQuoted ++ '\'' :: rest.toList) := by
    simp [singleQuoted, singleQuotedChars]
  rw [hchars, quotedText?, scanQuoted_escaped, Option.map_some]
  dsimp only
  rw [String.ofList_toList]

/-- What the two replacements make of a character: the quotes that the second one finds are those of
the text. -/
theorem escapeQuoted_eq (c : Char) :
    escapeQuoted c = (imageOf '\\' ['\\', '\\'] c).flatMap (imageOf '\'' ['\\', '\'']) := by
  by_cases hslash : c = '\\'
  · subst hslash
    rfl
  · rw [imageOf_of_ne hslash, List.flatMap_singleton]
    by_cases hquote : c = '\''
    · subst hquote
      rfl
    · rw [imageOf_of_ne hquote]
      simp [escapeQuoted, hslash, hquote]

/-- A literal is written by two replacements, one after the other. -/
theorem singleQuoted_eq_replaced (s : String) :
    singleQuoted s = "'" ++ replaced (replaced s "\\" "\\\\") "'" "\\'" ++ "'" := by
  have hslashes : (replaced s "\\" "\\\\").toList =
      s.toList.flatMap (imageOf '\\' ['\\', '\\']) :=
    toList_replaced rfl
  have hquotes : (replaced (replaced s "\\" "\\\\") "'" "\\'").toList =
      (replaced s "\\" "\\\\").toList.flatMap (imageOf '\'' ['\\', '\'']) :=
    toList_replaced rfl
  apply String.toList_injective
  rw [String.toList_append, String.toList_append, hquotes, hslashes, List.flatMap_assoc,
    singleQuoted, String.toList_ofList, singleQuotedChars]
  simp only [← escapeQuoted_eq]
  rfl

/-- **Literals are read back.**  A literal is its text with backslashes and then quotes replaced, in
quotes; and whatever follows it, a reader at its opening quote reads that text and stops behind the
closing quote. -/
theorem literals_read_back (s rest : String) :
    singleQuoted s = "'" ++ replaced (replaced s "\\" "\\\\") "'" "\\'" ++ "'" ∧
      quotedText? (singleQuoted s ++ rest).toList = some (s, rest.toList) :=
  ⟨singleQuoted_eq_replaced s, quotedText?_singleQuoted s rest⟩

end Doctrine
end Emit
end TableCast
