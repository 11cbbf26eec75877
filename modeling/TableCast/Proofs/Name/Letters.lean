import TableCast.Proofs.Name.Alphabets

/-!
# The letters of a spelling

A spelling cuts a name into words and changes the case of its letters, but no ASCII letter is lost
on the way.  So a type name has at least the letters of the name that it is spelled from, and no
name is a longer text with its own type name behind.

**Results.**
* `flatten_runs`, `flatten_wordsOf`: the words of a text are its letters and digits, in order.
* `letters_le_upperCamel`: a type name has at least the letters of the name behind it.
* `append_upperCamel_ne`: a name does not end in its own type name behind another letter.
* `upperCamel_cons`, `append_upperCamel_ne_lower`: a type name does not start with a small letter.
* `numberedName_ne`: a numbered name ends in a digit.
-/

namespace TableCast
namespace Name

open Text

/-- The number of ASCII letters of a text. -/
def letters (cs : List Char) : Nat := cs.countP isAsciiLetter

section Words

variable {c : Char} {cs : List Char}

/-- The runs of a class are the members of the class, in order. -/
theorem flatten_runs (p : Char → Bool) : ∀ cs : List Char, (runs p cs).flatten = cs.filter p
  | [] => rfl
  | [c] => by
      rw [runs, List.filter_cons]
      split_ifs
      · rfl
      · rfl
  | c :: d :: cs => by
      have ih := flatten_runs p (d :: cs)
      rw [runs, List.filter_cons]
      split_ifs with hc hd
      · obtain ⟨run, rest, hruns⟩ := runs_cons_of_pos hd cs
        rw [hruns] at ih ⊢
        rw [← ih]
        rfl
      · rw [List.flatten_cons, ih, List.singleton_append]
      · exact ih

theorem filter_breakCapitalized (inWord : Bool) (cs : List Char) :
    (breakCapitalized inWord cs).filter isAlphanumeric = cs.filter isAlphanumeric := by
  have hgap : isAlphanumeric '_' = false := by decide
  induction inWord, cs using breakCapitalized.induct with
  | case1 inWord => rw [breakCapitalized.eq_1]
  | case2 inWord d cs h ih =>
      rw [breakCapitalized_copy h, List.filter_cons, List.filter_cons, ih]
  | case3 inWord d h e f rest hcut ih =>
      rw [breakCapitalized_cut (Bool.eq_false_iff.mpr h) hcut]
      simp only [List.filter_cons, hgap, Bool.false_eq_true, if_false] at ih ⊢
      rw [ih]
  | case4 inWord d h e f rest hcut ih =>
      rw [breakCapitalized_pass (Bool.eq_false_iff.mpr h) (Bool.eq_false_iff.mpr hcut),
        List.filter_cons, ih]
      exact List.filter_cons.symm
  | case5 inWord d cs h hshort =>
      rcases cs with - | ⟨e, - | ⟨f, rest⟩⟩
      · rw [breakCapitalized_singleton]
      · rw [breakCapitalized_pair]
      · exact absurd rfl (hshort e f rest)

theorem filter_breakBeforeCapital :
    ∀ cs : List Char, (breakBeforeCapital cs).filter isAlphanumeric = cs.filter isAlphanumeric
  | [] => rfl
  | [_] => rfl
  | d :: e :: cs => by
      have hgap : isAlphanumeric '_' = false := by decide
      have ih := filter_breakBeforeCapital (e :: cs)
      rw [breakBeforeCapital]
      split_ifs
      · rw [List.filter_cons, List.filter_cons, hgap, if_neg Bool.false_ne_true, ih]
        exact List.filter_cons.symm
      · rw [List.filter_cons, ih]
        exact List.filter_cons.symm

/-- The words of a text are its letters and digits, in order. -/
theorem flatten_wordsOf (cs : List Char) : (wordsOf cs).flatten = cs.filter isAlphanumeric := by
  rw [wordsOf, flatten_runs, filter_breakBeforeCapital, filter_breakCapitalized]

end Words

section Letters

variable {c : Char} {cs : List Char}

theorem letters_append (cs ds : List Char) : letters (cs ++ ds) = letters cs + letters ds :=
  List.countP_append

theorem letters_cons (c : Char) (cs : List Char) :
    letters (c :: cs) = letters [c] + letters cs := by
  rw [← letters_append, List.singleton_append]

theorem isAsciiLetter_asciiUpper (h : isAsciiLetter c = true) :
    isAsciiLetter (asciiUpper c) = true := by
  rw [asciiUpper]
  split_ifs with hlower
  · have hc := isAsciiLower_iff.mp hlower
    rw [isAsciiLetter_iff, toNat_ofNat_of_lt (by omega)]
    omega
  · exact h

theorem isAsciiLetter_asciiLower (h : isAsciiLetter c = true) :
    isAsciiLetter (asciiLower c) = true := by
  rw [asciiLower]
  split_ifs with hupper
  · have hc := isAsciiUpper_iff.mp hupper
    rw [isAsciiLetter_iff, toNat_ofNat_of_lt (by omega)]
    omega
  · exact h

/-- An image of a character has its letter when the character is one. -/
theorem letters_le_of_image {image : List Char}
    (h : isAsciiLetter c = true → ∃ d ∈ image, isAsciiLetter d = true) :
    letters [c] ≤ letters image := by
  rw [letters, List.countP_singleton]
  split_ifs with hc
  · exact List.countP_pos_iff.mpr (h hc)
  · exact Nat.zero_le _

theorem letters_le_upperChar (c : Char) : letters [c] ≤ letters (upperChar c) := by
  refine letters_le_of_image fun h => ⟨asciiUpper c, ?_, isAsciiLetter_asciiUpper h⟩
  have hascii := isAsciiLetter_iff.mp h
  simp only [upperChar]
  rw [if_pos (by omega)]
  exact List.mem_singleton_self _

theorem letters_le_lowerAfter (before cs : List Char) :
    letters cs ≤ letters (lowerAfter before cs) := by
  induction cs generalizing before with
  | nil => exact le_rfl
  | cons c cs ih =>
      rw [lowerAfter, letters_append, letters_cons]
      refine Nat.add_le_add (letters_le_of_image fun h => ⟨asciiLower c, ?_, ?_⟩) (ih _)
      · have hascii := isAsciiLetter_iff.mp h
        have hsigma : (c.toNat == 0x3A3) = false := by
          rw [beq_eq_false_iff_ne]
          omega
        rw [hsigma, if_neg Bool.false_ne_true]
        simp only [lowerChar]
        rw [if_pos (by omega)]
        exact List.mem_singleton_self _
      · exact isAsciiLetter_asciiLower h

theorem letters_le_capitalizeChars (w : List Char) : letters w ≤ letters (capitalizeChars w) := by
  cases w with
  | nil => exact le_rfl
  | cons c w =>
      rw [capitalizeChars, letters_append, letters_cons]
      exact Nat.add_le_add (letters_le_upperChar c) (letters_le_lowerAfter [] w)

theorem letters_flatten_le (ws : List (List Char)) :
    letters ws.flatten ≤ letters (ws.flatMap capitalizeChars) := by
  induction ws with
  | nil => exact le_rfl
  | cons w ws ih =>
      rw [List.flatten_cons, List.flatMap_cons, letters_append, letters_append]
      exact Nat.add_le_add (letters_le_capitalizeChars w) ih

theorem letters_withLeadingLetter (cs : List Char) :
    letters (withLeadingLetter cs) = letters cs := by
  cases cs with
  | nil => rfl
  | cons c cs =>
      rw [withLeadingLetter]
      split_ifs
      · rfl
      · exact List.countP_cons_of_neg (by decide)

/-- The letters of a text are those of its words. -/
theorem letters_wordsOf (cs : List Char) : letters (wordsOf cs).flatten = letters cs := by
  rw [flatten_wordsOf, letters, List.countP_filter]
  refine List.countP_congr fun c _ => ?_
  rw [Bool.and_eq_true]
  exact and_iff_left_of_imp isAlphanumeric_of_letter

/-- A type name has at least the letters of the name that it is spelled from. -/
theorem letters_le_upperCamel (name : String) :
    letters name.toList ≤ letters (upperCamel name).toList := by
  rw [upperCamel, String.toList_ofList, upperCamelChars, letters_withLeadingLetter,
    ← letters_wordsOf, wordsOrUnnamed]
  cases hwords : wordsOf name.toList with
  | nil => exact Nat.zero_le _
  | cons w ws => exact letters_flatten_le (w :: ws)

/-- A name does not end in its own type name when it has another letter in front of it. -/
theorem append_upperCamel_ne {front name : String} (h : 0 < letters front.toList) :
    front ++ upperCamel name ≠ name := by
  intro heq
  have hcount := congrArg (fun s : String => letters s.toList) heq
  simp only [String.toList_append, letters_append] at hcount
  have hle := letters_le_upperCamel name
  omega

end Letters

section Capitals

variable {c d : Char}

theorem not_lower_of_beyond (h : 128 ≤ c.toNat) : isAsciiLower c = false := by
  rw [Bool.eq_false_iff, ne_eq, isAsciiLower_iff]
  omega

/-- A word in upper case does not start with a small letter. -/
theorem not_lower_asciiUpper (c : Char) : isAsciiLower (asciiUpper c) = false := by
  rw [asciiUpper]
  split_ifs with h
  · have hc := isAsciiLower_iff.mp h
    rw [Bool.eq_false_iff, ne_eq, isAsciiLower_iff, toNat_ofNat_of_lt (by omega)]
    omega
  · exact Bool.eq_false_iff.mpr h

/-- The upper case form of a character has no small letter of ASCII. -/
theorem not_lower_upperChar (hd : d ∈ upperChar c) : isAsciiLower d = false := by
  rcases mem_upperChar_of_tables (p := fun d => !isAsciiLower d) (by decide +kernel)
    (by decide +kernel) (fun h => by rw [not_lower_of_beyond h, Bool.not_false]) hd with
    ⟨-, rfl⟩ | hclass
  · exact not_lower_asciiUpper c
  · exact (Bool.not_eq_true' _).mp hclass

/-- A type name does not start with a small letter of ASCII. -/
theorem upperCamel_cons (name : String) :
    ∃ c cs, (upperCamel name).toList = c :: cs ∧ isAsciiLower c = false := by
  obtain ⟨c, w, ws, hwords⟩ := wordsOrUnnamed_cons name.toList
  obtain ⟨d, image, himage⟩ := List.exists_cons_of_ne_nil (upperChar_ne_nil c)
  have hd : isAsciiLower d = false := not_lower_upperChar (himage ▸ List.mem_cons_self ..)
  rw [upperCamel, String.toList_ofList, upperCamelChars, hwords, List.flatMap_cons,
    capitalizeChars, himage, List.cons_append, List.cons_append, withLeadingLetter]
  split_ifs
  · exact ⟨d, _, rfl, hd⟩
  · exact ⟨'_', _, rfl, by decide⟩

/-- So it is not the end of a word in small letters. -/
theorem append_upperCamel_ne_lower {front name word : String}
    (hword : word.toList.all isAsciiLower = true) : front ++ upperCamel name ≠ word := by
  rintro rfl
  obtain ⟨c, cs, hchars, hc⟩ := upperCamel_cons name
  rw [String.toList_append, hchars, List.all_append, List.all_cons, hc] at hword
  simp at hword

end Capitals

section Numbers

/-- A numbered name ends in a digit. -/
theorem numberedName_ne {base word : String} {k : Nat}
    (hword : word.toList.getLast?.any Char.isDigit = false) :
    Scope.numberedName base k ≠ word := by
  rintro rfl
  have hdigits : (toString k).toList = Nat.toDigits 10 k := Nat.toList_repr
  obtain ⟨c, hc⟩ := Option.isSome_iff_exists.mp
    (List.getLast?_isSome.mpr (Nat.toDigits_ne_nil (b := 10) (n := k)))
  have hmem : c ∈ Nat.toDigits 10 k := List.mem_of_getLast? hc
  have hlast : (Scope.numberedName base k).toList.getLast? = some c := by
    rw [Scope.numberedName, String.toList_append, hdigits, List.getLast?_append, hc]
    rfl
  have hdigit : c.isDigit = true := Nat.isDigit_of_mem_toDigits (by decide) (by decide) hmem
  rw [hlast, Option.any_some, hdigit] at hword
  cases hword

end Numbers

end Name
end TableCast
