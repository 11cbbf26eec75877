import TableCast.Proofs.Catalog.CheckHeads
import TableCast.Proofs.Name.Alphabets
import TableCast.Proofs.Text.BlankWords
import TableCast.Schema.NativeType

/-!
# The words of native types

The base name of a native type is made of the words of its text in lower case.  Modifiers are no
such words, wherever they stand, and a blank stands for everything between the outer parentheses.

**Words.**  `PlainWords` are words without signs, as the names of types are made of.

**Results.**
* `words_dropModifiers`: modifiers are taken away, and no other words.
* `dropArguments_parentheses`: a blank stands for arguments.
* `exists_lowerChars_parentheses`: the text in lower case, which does not depend on what stands
  between the parentheses.
* `nativeBaseChars_of_words`, `nativeBaseChars_of_parentheses`: the base name of plain words.
-/

namespace TableCast
namespace Schema

open Text Name Catalog.Sqlite

/-- A text with its ASCII letters in lower case. -/
def lowered (cs : List Char) : List Char :=
  cs.map asciiLower

/-- Words of ASCII letters, digits and underscores. -/
def PlainWords (ws : List (List Char)) : Prop :=
  ∀ w ∈ ws, ∀ c ∈ w, isPlain c = true

/-- Whether a word modifies a type. -/
def isModifier (w : List Char) : Bool :=
  typeModifiers.any (isWordIgnoringCase · w)

section Signs

variable {c : Char} {xs ys zs : List Char}

theorem isWordChar_of_plain (h : isPlain c = true) : isWordChar c = true := by
  have hascii := toNat_lt_of_plain h
  rw [isPlain, Bool.or_eq_true] at h
  rw [isWordChar, isAlphanumeric, inClass, if_pos hascii, Bool.or_eq_true]
  exact h

/-- The characters in front of the first sign of a kind. -/
theorem takeWhile_ne (h : c ∉ xs) (ys : List Char) :
    (xs ++ c :: ys).takeWhile (· != c) = xs := by
  have hxs : ∀ d ∈ xs, (d != c) = true := fun d hd => bne_iff_ne.mpr fun heq => h (heq ▸ hd)
  rw [List.takeWhile_append_of_pos hxs, List.takeWhile_cons_of_neg (by simp), List.append_nil]

theorem dropWhile_ne (h : c ∉ xs) (ys : List Char) :
    (xs ++ c :: ys).dropWhile (· != c) = c :: ys := by
  have hxs : ∀ d ∈ xs, (d != c) = true := fun d hd => bne_iff_ne.mpr fun heq => h (heq ▸ hd)
  rw [List.dropWhile_append_of_pos hxs, List.dropWhile_cons_of_neg (by simp)]

/-- A text splits at the first sign of a kind in one way. -/
theorem append_sign_inj {xs' ys' : List Char} (h : c ∉ xs) (h' : c ∉ xs')
    (heq : xs ++ c :: ys = xs' ++ c :: ys') : xs = xs' ∧ ys = ys' := by
  have htake := takeWhile_ne h ys
  have hdrop := dropWhile_ne h ys
  rw [heq, takeWhile_ne h'] at htake
  rw [heq, dropWhile_ne h', List.cons.injEq] at hdrop
  exact ⟨htake.symm, hdrop.2.symm⟩

end Signs

section Modifiers

variable {c : Char} {cs w : List Char} {ws : List (List Char)}

/-- A sign outside of words separates the words in front of it from those behind it. -/
theorem dropModifiers_append_cons (hc : isWordChar c = false) (word xs ys : List Char) :
    dropModifiers word (xs ++ c :: ys) = dropModifiers word xs ++ c :: dropModifiers [] ys := by
  induction xs generalizing word with
  | nil => rw [List.nil_append, dropModifiers, dropModifiers, if_neg (Bool.eq_false_iff.mp hc)]
  | cons x xs ih =>
      rw [List.cons_append, dropModifiers, dropModifiers]
      split_ifs
      · exact ih _
      · rw [ih, List.append_assoc, List.cons_append]

/-- A word is kept, or a blank stands for it. -/
theorem dropModifiers_of_word (h : ∀ c ∈ w, isWordChar c = true) :
    dropModifiers [] w = if isModifier w then [' '] else w := by
  -- The word that was read so far changes with every character.
  have hread : ∀ {w} word, (∀ c ∈ w, isWordChar c = true) →
      dropModifiers word w = dropModifiers.closeWord (w.reverse ++ word) := by
    intro w
    induction w with
    | nil => exact fun word _ => rfl
    | cons c w ih =>
        intro word hw
        obtain ⟨hc, hw⟩ := List.forall_mem_cons.mp hw
        rw [dropModifiers, if_pos hc, ih _ hw, List.reverse_cons, List.append_assoc]
        rfl
  rw [hread [] h, List.append_nil, dropModifiers.closeWord, List.reverse_reverse]
  rfl

/-- **The words that are kept are those that modify nothing.** -/
theorem words_dropModifiers (h : Words ws cs) (hws : ∀ w ∈ ws, ∀ c ∈ w, isWordChar c = true) :
    Words (ws.filter fun w => !isModifier w) (dropModifiers [] cs) := by
  have hspace : isBlank ' ' = true := by decide
  induction h with
  | nil => exact .nil
  | blank hc _ ih =>
      have hsplit := dropModifiers_append_cons (isWordChar_of_isBlank hc) [] []
      rw [← List.nil_append (_ :: _), hsplit]
      exact .blank hc (ih hws)
  | @last w hw =>
      rw [dropModifiers_of_word (hws _ (List.mem_singleton_self _)), List.filter_singleton]
      cases isModifier w with
      | true => exact .blank hspace .nil
      | false => exact .last hw
  | @word w c ws cs hw hc _ ih =>
      obtain ⟨hword, hws⟩ := List.forall_mem_cons.mp hws
      rw [dropModifiers_append_cons (isWordChar_of_isBlank hc), dropModifiers_of_word hword,
        List.filter_cons]
      cases isModifier w with
      | true => exact .blank hspace (.blank hc (ih hws))
      | false => exact .word hw hc (ih hws)

/-- No sign comes into a text of plain words. -/
theorem not_mem_of_words (h : Words ws cs) (hws : PlainWords ws) (hblank : isBlank c = false)
    (hplain : isPlain c = false) : c ∉ cs := by
  intro hc
  rcases h.blank_or_mem hc with hc | ⟨w, hw, hc⟩
  · exact Bool.eq_false_iff.mp hblank hc
  · exact Bool.eq_false_iff.mp hplain (hws w hw c hc)

theorem isModifier_of_mem (h : w ∈ typeModifiers) : isModifier w = true := by
  have hall : ∀ w ∈ typeModifiers, isModifier w = true := by decide
  exact hall w h

theorem isPlain_of_mem_typeModifiers (h : w ∈ typeModifiers) : ∀ c ∈ w, isPlain c = true := by
  have hall : typeModifiers.all (·.all isPlain) = true := by decide +kernel
  exact List.all_eq_true.mp (List.all_eq_true.mp hall w h)

end Modifiers

section Arguments

variable {front arguments behind : List Char}

theorem dropArguments_of_not_mem {cs : List Char} (h : '(' ∉ cs) : dropArguments cs = cs := by
  have hall : ∀ c ∈ cs, (c != '(') = true := fun c hc => bne_iff_ne.mpr fun heq => h (heq ▸ hc)
  have hrest : cs.dropWhile (· != '(') = [] := List.dropWhile_eq_nil_iff.mpr hall
  rw [dropArguments, hrest]
  rfl

/-- What stands between the outer parentheses does not matter. -/
theorem dropArguments_parentheses (hfront : '(' ∉ front) (hbehind : ')' ∉ behind)
    (arguments : List Char) :
    dropArguments (front ++ '(' :: (arguments ++ ')' :: behind)) = front ++ ' ' :: behind := by
  have hafter : ('(' :: (arguments ++ ')' :: behind)).reverse.takeWhile (· != ')') =
      behind.reverse := by
    have hreverse : ('(' :: (arguments ++ ')' :: behind)).reverse =
        behind.reverse ++ ')' :: (arguments.reverse ++ ['(']) := by simp
    rw [hreverse, takeWhile_ne (mt List.mem_reverse.mp hbehind)]
  have hclosed : ('(' :: (arguments ++ ')' :: behind)).contains ')' = true := by simp
  rw [dropArguments, takeWhile_ne hfront, dropWhile_ne hfront, hafter, List.reverse_reverse]
  exact if_pos hclosed

end Arguments

section LetterCase

variable {c : Char} {before cs gap rest : List Char}

theorem not_upper_of_isBlank (h : isBlank c = true) : isAsciiUpper c = false := by
  have hc := toNat_mem_blankCodes h
  rw [Bool.eq_false_iff]
  intro hupper
  rw [isAsciiUpper_iff] at hupper
  simp only [blankCodes, List.mem_cons, List.not_mem_nil, or_false] at hc
  omega

theorem asciiLower_of_isBlank (h : isBlank c = true) : asciiLower c = c := by
  rw [asciiLower, not_upper_of_isBlank h]
  rfl

theorem isBlank_asciiLower (c : Char) : isBlank (asciiLower c) = isBlank c := by
  rw [asciiLower]
  split_ifs with hupper
  · have hc := isAsciiUpper_iff.mp hupper
    have hplain : isPlain (Char.ofNat (c.toNat + 32)) = true := by
      rw [isPlain_iff, toNat_ofNat_of_lt (by omega)]
      omega
    rw [isBlank_of_isWordChar (isWordChar_of_plain hplain), eq_comm, Bool.eq_false_iff]
    exact fun hblank => Bool.eq_false_iff.mp (not_upper_of_isBlank hblank) hupper
  · rfl

theorem toNat_lt_of_asciiLower (h : isPlain (asciiLower c) = true) : c.toNat < 128 := by
  rw [asciiLower] at h
  split_ifs at h with hupper
  · have hc := isAsciiUpper_iff.mp hupper
    omega
  · exact toNat_lt_of_plain h

theorem lowerChar_of_isBlank (h : isBlank c = true) : lowerChar c = [c] := by
  have hall : blankCodes.all (fun n => lowerChar (Char.ofNat n) == [Char.ofNat n]) = true := by
    decide +kernel
  have hc := List.all_eq_true.mp hall c.toNat (toNat_mem_blankCodes h)
  rwa [Char.ofNat_toNat, beq_iff_eq] at hc

theorem lowerAfter_cons (hc : c.toNat ≠ 0x3A3) (before cs : List Char) :
    lowerAfter before (c :: cs) = lowerChar c ++ lowerAfter (c :: before) cs := by
  rw [lowerAfter, if_neg (by rwa [beq_iff_eq])]

/-- ASCII text and blanks are put into lower case one by one, whatever stands around them. -/
theorem lowerAfter_append (h : ∀ c ∈ cs, c.toNat < 128 ∨ isBlank c = true)
    (before rest : List Char) :
    lowerAfter before (cs ++ rest) = lowered cs ++ lowerAfter (cs.reverse ++ before) rest := by
  induction cs generalizing before with
  | nil => rfl
  | cons c cs ih =>
      obtain ⟨hc, hcs⟩ := List.forall_mem_cons.mp h
      have hsigma : c.toNat ≠ 0x3A3 := by
        rcases hc with hascii | hblank
        · omega
        · have hcode := toNat_mem_blankCodes hblank
          exact ne_of_mem_of_not_mem hcode (by decide)
      have himage : lowerChar c = [asciiLower c] := by
        rcases hc with hascii | hblank
        · exact if_pos hascii
        · rw [lowerChar_of_isBlank hblank, asciiLower_of_isBlank hblank]
      rw [List.cons_append, lowerAfter_cons hsigma, ih hcs, himage, List.reverse_cons,
        List.append_assoc]
      rfl

end LetterCase

section Ones

variable {c : Char} {before cs gap rest : List Char}

/-- A blank, or the digit one. -/
def isOneOrBlank (c : Char) : Bool :=
  isBlank c || c == '1'

theorem lowerChar_of_isOneOrBlank (h : isOneOrBlank c = true) : lowerChar c = [c] := by
  rw [isOneOrBlank, Bool.or_eq_true, beq_iff_eq] at h
  rcases h with h | rfl
  · exact lowerChar_of_isBlank h
  · rfl

theorem eq_one_of_asciiLower (h : asciiLower c = '1') : c = '1' := by
  rw [asciiLower] at h
  split_ifs at h with hupper
  · have hc := isAsciiUpper_iff.mp hupper
    have hcode := congrArg Char.toNat h
    rw [toNat_ofNat_of_lt (by omega), show '1'.toNat = 49 from rfl] at hcode
    omega
  · exact h

/-- No other character has them as its lower case form. -/
theorem isOneOrBlank_of_lowerChar (h : ∀ d ∈ lowerChar c, isOneOrBlank d = true) :
    isOneOrBlank c = true := by
  by_contra hc
  -- No run of the table leads to a blank or to a one.
  have hbeyond : isOneOrBlank (Char.ofNat ((mapByRuns Table.lowerRun c.toNat).getD c.toNat)) =
      false := by
    have hruns := @of_mapByRuns c (fun d => !isOneOrBlank d) Table.lowerRun (by decide +kernel)
      (by rw [Bool.not_eq_true', ← Bool.not_eq_true]; exact hc)
    rwa [Bool.not_eq_true'] at hruns
  simp only [lowerChar] at h
  split_ifs at h with hascii hdotted
  · have himage := h _ (List.mem_singleton_self _)
    rw [isOneOrBlank, isBlank_asciiLower, Bool.or_eq_true, beq_iff_eq] at himage
    rw [isOneOrBlank, Bool.or_eq_true, beq_iff_eq] at hc
    exact hc (himage.imp_right eq_one_of_asciiLower)
  · exact absurd (h 'i' (List.mem_cons_self ..)) (by decide)
  · rw [h _ (List.mem_singleton_self _)] at hbeyond
    exact Bool.noConfusion hbeyond

/-- One character in lower case: it is a blank or a one only if it was. -/
theorem exists_lowerAfter_cons (before : List Char) (c : Char) (cs : List Char) :
    ∃ image, lowerAfter before (c :: cs) = image ++ lowerAfter (c :: before) cs ∧
      ((∀ d ∈ image, isOneOrBlank d = true) ∨ isOneOrBlank c = true → image = [c]) := by
  by_cases hsigma : c.toNat = 0x3A3
  · have hc : isOneOrBlank c = false := by
      have hcode : isOneOrBlank (Char.ofNat 0x3A3) = false := by decide
      rwa [← hsigma, Char.ofNat_toNat] at hcode
    refine ⟨_, rfl, fun h => ?_⟩
    -- Whichever small sigma it becomes, it is neither a blank nor a one.
    have hsmall : isOneOrBlank (Char.ofNat 0x3C2) = false ∧
        isOneOrBlank (Char.ofNat 0x3C3) = false := by decide
    rw [if_pos (beq_iff_eq.mpr hsigma), hc] at h
    split_ifs at h
    · simp [hsmall.1] at h
    · simp [hsmall.2] at h
  · refine ⟨lowerChar c, lowerAfter_cons hsigma before cs, fun h => ?_⟩
    exact lowerChar_of_isOneOrBlank (h.elim isOneOrBlank_of_lowerChar id)

theorem exists_lowerAfter_append (before cs rest : List Char) :
    ∃ image, lowerAfter before (cs ++ rest) = image ++ lowerAfter (cs.reverse ++ before) rest ∧
      ((∀ c ∈ image, isOneOrBlank c = true) ∨ (∀ c ∈ cs, isOneOrBlank c = true) → image = cs) := by
  induction cs generalizing before with
  | nil => exact ⟨[], rfl, fun _ => rfl⟩
  | cons c cs ih =>
      obtain ⟨first, hfirst, hone⟩ := exists_lowerAfter_cons before c (cs ++ rest)
      obtain ⟨image, himage, hones⟩ := ih (c :: before)
      refine ⟨first ++ image, ?_, fun h => ?_⟩
      · rw [List.cons_append, hfirst, himage, List.append_assoc, List.reverse_cons,
          List.append_assoc]
        rfl
      · rw [List.forall_mem_append, List.forall_mem_cons] at h
        rw [hone (h.imp And.left And.left), hones (h.imp And.right And.right)]
        rfl

end Ones

section PlainWords

variable {cs text front behind : List Char} {ws words modifiers : List (List Char)}

theorem PlainWords.isWordChar (hws : PlainWords ws) : ∀ w ∈ ws, ∀ c ∈ w, isWordChar c = true :=
  fun w hw c hc => isWordChar_of_plain (hws w hw c hc)

theorem PlainWords.filter (hws : PlainWords ws) (p : List Char → Bool) :
    PlainWords (ws.filter p) :=
  fun w hw => hws w (List.mem_of_mem_filter hw)

theorem words_lowered (h : Words ws cs) : Words (ws.map lowered) (lowered cs) :=
  h.map isBlank_asciiLower

theorem ascii_or_blank (h : Words ws cs) (hws : PlainWords (ws.map lowered)) :
    ∀ c ∈ cs, c.toNat < 128 ∨ isBlank c = true := by
  intro c hc
  rcases h.blank_or_mem hc with hblank | ⟨w, hw, hc⟩
  · exact .inr hblank
  · exact .inl (toNat_lt_of_asciiLower
      (hws _ (List.mem_map_of_mem hw) _ (List.mem_map_of_mem hc)))

/-- A text of plain words in lower case. -/
theorem lowerAfter_of_words (h : Words ws cs) (hws : PlainWords (ws.map lowered))
    (before : List Char) : lowerAfter before cs = lowered cs := by
  have hlower := lowerAfter_append (ascii_or_blank h hws) before []
  rwa [List.append_nil, lowerAfter, List.append_nil] at hlower

/-- A text of plain words with parentheses between them in lower case. -/
theorem exists_lowerChars_parentheses (hfront : Words words front)
    (hwords : PlainWords (words.map lowered)) (hbehind : Words modifiers behind)
    (hmodifiers : PlainWords (modifiers.map lowered)) (arguments : List Char) :
    ∃ image, lowerChars (front ++ '(' :: (arguments ++ ')' :: behind)) =
        lowered front ++ '(' :: (image ++ ')' :: lowered behind) ∧
      ((∀ c ∈ image, isOneOrBlank c = true) ∨ (∀ c ∈ arguments, isOneOrBlank c = true) →
        image = arguments) := by
  obtain ⟨image, himage, hone⟩ :=
    exists_lowerAfter_append ('(' :: (front.reverse ++ [])) arguments (')' :: behind)
  refine ⟨image, ?_, hone⟩
  rw [lowerChars, lowerAfter_append (ascii_or_blank hfront hwords), lowerAfter_cons (by decide),
    himage, lowerAfter_cons (by decide), lowerAfter_of_words hbehind hmodifiers]
  rfl

theorem trimBlanks_parentheses (front arguments behind : List Char) :
    trimBlanks (front ++ '(' :: (arguments ++ ')' :: behind)) =
      trimLeftBy isBlank front ++ '(' :: (arguments ++ ')' :: trimRightBy isBlank behind) := by
  rw [trimBlanks, trimBy_append_cons (by decide), trimRightBy_append_cons (by decide)]

/-- The base name of a text that does not end like an array. -/
theorem nativeBaseChars_eq (hlower : lowerChars (trimBlanks text) = cs)
    (h : ¬ "[]".toList <:+ cs) :
    nativeBaseChars text = joinBlank (blankWords (dropArguments (dropModifiers [] cs))) := by
  rw [nativeBaseChars, hlower]
  by_cases harray : cs = "array".toList
  -- An array by its name would have come to the same name as any other type.
  · rw [harray]
    decide
  · have hneither : ("[]".toList.isSuffixOf cs || cs == "array".toList) = false := by
      rw [Bool.or_eq_false_iff, beq_eq_false_iff_ne]
      exact ⟨Bool.eq_false_iff.mpr (mt List.isSuffixOf_iff_suffix.mp h), harray⟩
    exact if_neg (Bool.eq_false_iff.mp hneither)

theorem not_array_of_not_mem (hcs : cs ≠ []) (h : ']' ∉ cs) (front : List Char) :
    ¬ "[]".toList <:+ front ++ cs := by
  rintro ⟨ds, hds⟩
  have hlast := congrArg List.getLast? hds
  rw [List.getLast?_append_of_ne_nil _ (by decide), List.getLast?_append_of_ne_nil _ hcs] at hlast
  exact h (List.mem_of_getLast? hlast.symm)

/-- The base name of plain words: those among them that modify nothing. -/
theorem nativeBaseChars_of_words (h : Words ws text) (hws : PlainWords (ws.map lowered)) :
    nativeBaseChars text = joinBlank ((ws.map lowered).filter fun w => !isModifier w) := by
  have hlowered := words_lowered h.trimmed
  have hkept := words_dropModifiers hlowered hws.isWordChar
  have hopen := not_mem_of_words hkept (hws.filter _) (c := '(') (by decide) (by decide)
  have hbracket := not_mem_of_words hlowered hws (c := ']') (by decide) (by decide)
  rw [nativeBaseChars_eq (lowerAfter_of_words h.trimmed hws [])
    fun hsuffix => hbracket (hsuffix.subset (by decide)), dropArguments_of_not_mem hopen,
    hkept.blankWords_eq]

/-- Parentheses between them do not matter. -/
theorem nativeBaseChars_of_parentheses (hfront : Words words front)
    (hwords : PlainWords (words.map lowered)) (hbehind : Words modifiers behind)
    (hmodifiers : PlainWords (modifiers.map lowered)) (arguments : List Char) :
    nativeBaseChars (front ++ '(' :: (arguments ++ ')' :: behind)) =
      joinBlank ((words.map lowered).filter (fun w => !isModifier w) ++
        (modifiers.map lowered).filter fun w => !isModifier w) := by
  have hfront' := words_lowered hfront.trimmedLeft
  have hbehind' := words_lowered hbehind.trimmedRight
  have hkept := words_dropModifiers hfront' hwords.isWordChar
  have hkept' := words_dropModifiers hbehind' hmodifiers.isWordChar
  have hopen := not_mem_of_words hkept (hwords.filter _) (c := '(') (by decide) (by decide)
  have hclose := not_mem_of_words hkept' (hmodifiers.filter _) (c := ')') (by decide) (by decide)
  have hbracket := not_mem_of_words hbehind' hmodifiers (c := ']') (by decide) (by decide)
  obtain ⟨image, hlower, -⟩ := exists_lowerChars_parentheses hfront.trimmedLeft hwords
    hbehind.trimmedRight hmodifiers arguments
  rw [← trimBlanks_parentheses] at hlower
  have harray := not_array_of_not_mem (List.cons_ne_nil ')' _)
    (by rw [List.mem_cons, not_or]; exact ⟨by decide, hbracket⟩)
    (lowered (trimLeftBy isBlank front) ++ '(' :: image)
  rw [List.append_assoc, List.cons_append] at harray
  rw [nativeBaseChars_eq hlower harray, dropModifiers_append_cons (by decide +kernel),
    dropModifiers_append_cons (by decide +kernel), dropArguments_parentheses hopen hclose,
    blankWords_append_cons (by decide), hkept.blankWords_eq, hkept'.blankWords_eq]

end PlainWords

end Schema
end TableCast
