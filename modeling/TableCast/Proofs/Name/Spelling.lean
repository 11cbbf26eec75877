import TableCast.Name.Normalizer
import TableCast.Proofs.Fallible

/-!
# Spelled names are not empty

A name without words is spelled as if it were `unnamed`, and no character loses its image when
it is capitalised, so a type name always has a character.

**Results.**
* `ne_nil_of_mem_runs`: the words of a text have characters.
* `upperChar_ne_nil`: every character has an upper case form.
* `upperCamel_ne_empty`, `typeName_ne_empty`, `enumTypeName_ne_empty`: type names are not empty.
-/

namespace TableCast
namespace Name

open Text Fallible

section Words

theorem ne_nil_of_mem_runs {p : Char → Bool} {w : List Char} :
    ∀ {cs : List Char}, w ∈ runs p cs → w ≠ []
  | [], h => absurd h List.not_mem_nil
  | [c], h => by
      rw [runs] at h
      split_ifs at h
      · rw [List.mem_singleton.mp h]
        exact List.cons_ne_nil _ _
      · exact absurd h List.not_mem_nil
  | c :: d :: cs, h => by
      have ih : w ∈ runs p (d :: cs) → w ≠ [] := ne_nil_of_mem_runs
      rw [runs] at h
      split_ifs at h
      · cases hruns : runs p (d :: cs) with
        | nil =>
            rw [hruns] at h
            rw [List.mem_singleton.mp h]
            exact List.cons_ne_nil _ _
        | cons run rest =>
            rw [hruns] at h ih
            rcases List.mem_cons.mp h with rfl | h
            · exact List.cons_ne_nil _ _
            · exact ih (List.mem_cons_of_mem _ h)
      · rcases List.mem_cons.mp h with rfl | h
        · exact List.cons_ne_nil _ _
        · exact ih h
      · exact ih h

/-- There is a word in every name, and it has a character. -/
theorem wordsOrUnnamed_cons (cs : List Char) :
    ∃ c w ws, wordsOrUnnamed cs = (c :: w) :: ws := by
  rw [wordsOrUnnamed]
  cases hwords : wordsOf cs with
  | nil => exact ⟨'u', "nnamed".toList, [], by decide⟩
  | cons w ws =>
      have hw : w ≠ [] := ne_nil_of_mem_runs (hwords ▸ List.mem_cons_self ..)
      obtain ⟨c, rest, rfl⟩ := List.exists_cons_of_ne_nil hw
      exact ⟨c, rest, ws, rfl⟩

end Words

section Spellings

/-- Every character has an upper case form: no entry of the table is empty. -/
theorem upperChar_ne_nil (c : Char) : upperChar c ≠ [] := by
  have hentries : ∀ entry ∈ Table.upperSequence, entry.2 ≠ [] := by decide +kernel
  simp only [upperChar]
  split_ifs
  · exact List.cons_ne_nil _ _
  · cases hfind : Table.upperSequence.find? (·.1 == c.toNat) with
    | none => exact List.cons_ne_nil _ _
    | some entry =>
        rw [ne_eq, List.map_eq_nil_iff]
        exact hentries entry (Array.mem_of_find?_eq_some hfind)

theorem withLeadingLetter_ne_nil {cs : List Char} (h : cs ≠ []) : withLeadingLetter cs ≠ [] := by
  obtain ⟨c, rest, rfl⟩ := List.exists_cons_of_ne_nil h
  rw [withLeadingLetter]
  split_ifs
  · exact List.cons_ne_nil _ _
  · exact List.cons_ne_nil _ _

theorem upperCamel_ne_empty (name : String) : upperCamel name ≠ "" := by
  obtain ⟨c, w, ws, hwords⟩ := wordsOrUnnamed_cons name.toList
  have hne : upperCamelChars name.toList ≠ [] := by
    rw [upperCamelChars, hwords]
    apply withLeadingLetter_ne_nil
    rw [List.flatMap_cons, capitalizeChars, List.append_assoc]
    exact List.append_ne_nil_of_left_ne_nil (upperChar_ne_nil c) _
  intro hempty
  apply hne
  have hlist := congrArg String.toList hempty
  simpa [upperCamel] using hlist

variable {n : Normalizer}

theorem unreserve_ne_empty {name : String} (h : name ≠ "") : n.unreserve name ≠ "" := by
  rw [Normalizer.unreserve]
  split_ifs
  · simp
  · exact h

theorem typeName_ne_empty {table name : String} (h : n.typeName table = .ok name) : name ≠ "" := by
  rw [Normalizer.typeName] at h
  split_ifs at h
  all_goals
    obtain ⟨source, -, hname⟩ := bind_eq_ok.mp h
    rw [← pure_eq_ok.mp hname]
    exact unreserve_ne_empty (upperCamel_ne_empty source)

theorem enumTypeName_ne_empty (table column : String) : n.enumTypeName table column ≠ "" := by
  apply unreserve_ne_empty
  simp

end Spellings

end Name
end TableCast
