import TableCast.Proofs.Schema.TypeWords
import TableCast.Proofs.Text.Pieces

/-!
# Spellings of native types

A native type may be spelled in any letter case, with any blanks around its words, with arguments
between parentheses and with modifiers behind these.  All of this is taken away before the type is
looked up, so every spelling has the base name of the type.  The modifiers are taken away wherever
they stand, though, and so is one that belongs to the name of the type.

**Spellings.**  `Spelling` are the texts that spell a type, `keyBase` is its name without modifiers.

**Results.**
* `nativeBaseChars_of_spelling`: all spellings of a type have its base name.
* `isOneDigit_iff`: the spellings of a number of one bit or digit.
* `spelled_types_recognised`: every type of the table is recognised in every spelling, but for one.
-/

namespace TableCast
namespace Schema

open Text Name

/-- The words of the name of a type. -/
def keyWords (key : String) : List (List Char) :=
  splitOnChar ' ' key.toList

/-- The texts that spell a type, with the text of the arguments and with the modifiers. -/
inductive Spelling (key : String) : Option (List Char) → List (List Char) → List Char → Prop
  | bare {words modifiers : List (List Char)} {text : List Char}
      (hwords : words.map lowered = keyWords key)
      (hmodifiers : ∀ m ∈ modifiers, lowered m ∈ typeModifiers)
      (htext : Words (words ++ modifiers) text) : Spelling key none modifiers text
  | withArguments {words modifiers : List (List Char)} {front behind : List Char}
      (hwords : words.map lowered = keyWords key)
      (hmodifiers : ∀ m ∈ modifiers, lowered m ∈ typeModifiers)
      (hfront : Words words front) (hbehind : Words modifiers behind) (arguments : List Char) :
      Spelling key (some arguments) modifiers (front ++ '(' :: (arguments ++ ')' :: behind))

section BaseNames

variable {key : String} {text : List Char} {words modifiers : List (List Char)}
variable {arguments : Option (List Char)}

/-- The name of a type without the words that modify types. -/
def keyBase (key : String) : List Char :=
  joinBlank ((keyWords key).filter fun w => !isModifier w)

/-- The words of a text joined again. -/
theorem joinBlank_splitOnChar (cs : List Char) : joinBlank (splitOnChar ' ' cs) = cs := by
  induction cs with
  | nil => rfl
  | cons c cs ih =>
      obtain ⟨piece, pieces, hpieces⟩ := List.exists_cons_of_ne_nil (splitOnChar_ne_nil ' ' cs)
      rw [hpieces] at ih
      rw [splitOnChar, hpieces]
      split_ifs with hc
      · rw [joinBlank, ih, beq_iff_eq.mp hc]
        rfl
      · cases pieces with
        | nil => exact congrArg (c :: ·) ih
        | cons next pieces => exact congrArg (c :: ·) ih

theorem eq_of_keyWords {word : List Char} (h : keyWords key = [word]) :
    key = String.ofList word := by
  have hjoined := joinBlank_splitOnChar key.toList
  rw [← keyWords, h] at hjoined
  rw [← String.ofList_toList (s := key), ← hjoined]
  rfl

theorem plainWords_modifiers (hmodifiers : ∀ m ∈ modifiers, lowered m ∈ typeModifiers) :
    PlainWords (modifiers.map lowered) := by
  intro w hw
  obtain ⟨m, hm, rfl⟩ := List.mem_map.mp hw
  exact isPlain_of_mem_typeModifiers (hmodifiers m hm)

/-- Modifiers leave no words behind. -/
theorem filter_modifiers (hmodifiers : ∀ m ∈ modifiers, lowered m ∈ typeModifiers) :
    (modifiers.map lowered).filter (fun w => !isModifier w) = [] := by
  rw [List.filter_eq_nil_iff]
  intro w hw
  obtain ⟨m, hm, rfl⟩ := List.mem_map.mp hw
  rw [isModifier_of_mem (hmodifiers m hm)]
  exact Bool.false_ne_true

theorem plainWords_append (hkey : PlainWords (keyWords key))
    (hwords : words.map lowered = keyWords key)
    (hmodifiers : ∀ m ∈ modifiers, lowered m ∈ typeModifiers) :
    PlainWords ((words ++ modifiers).map lowered) := by
  rw [List.map_append, hwords]
  exact List.forall_mem_append.mpr ⟨hkey, plainWords_modifiers hmodifiers⟩

/-- **All spellings of a type have its base name.** -/
theorem nativeBaseChars_of_spelling (hkey : PlainWords (keyWords key))
    (h : Spelling key arguments modifiers text) : nativeBaseChars text = keyBase key := by
  cases h with
  | @bare words modifiers _ hwords hmodifiers htext =>
      have hplain := plainWords_append hkey hwords hmodifiers
      rw [nativeBaseChars_of_words htext hplain, List.map_append, List.filter_append, hwords,
        filter_modifiers hmodifiers, List.append_nil]
      rfl
  | withArguments hwords hmodifiers hfront hbehind =>
      rw [nativeBaseChars_of_parentheses hfront (hwords ▸ hkey) hbehind
        (plainWords_modifiers hmodifiers), hwords, filter_modifiers hmodifiers, List.append_nil]
      rfl

end BaseNames

section OneDigit

variable {key : String} {cs text front behind word : List Char}
variable {words modifiers : List (List Char)} {arguments : Option (List Char)}

/-- A text that is a one between blanks. -/
theorem trimBlanks_eq_one_iff :
    trimBlanks cs = ['1'] ↔ ∃ gap rest, (∀ c ∈ gap, isBlank c = true) ∧
      (∀ c ∈ rest, isBlank c = true) ∧ cs = gap ++ '1' :: rest := by
  constructor
  · intro h
    obtain ⟨gap, rest, hgap, hrest, hcs⟩ := exists_trimBy isBlank cs
    refine ⟨gap, rest, hgap, hrest, ?_⟩
    rw [trimBlanks] at h
    rw [h, List.append_assoc] at hcs
    exact hcs
  · rintro ⟨gap, rest, hgap, hrest, rfl⟩
    have h := @trimBy_wrapped isBlank ['1'] gap rest hgap hrest
    rw [List.append_assoc] at h
    exact h

theorem isOneOrBlank_of_trimBlanks (h : trimBlanks cs = ['1']) :
    ∀ c ∈ cs, isOneOrBlank c = true := by
  have hblank : ∀ {gap : List Char}, (∀ c ∈ gap, isBlank c = true) →
      ∀ c ∈ gap, isOneOrBlank c = true := fun hgap c hc => by rw [isOneOrBlank, hgap c hc]; rfl
  obtain ⟨gap, rest, hgap, hrest, rfl⟩ := trimBlanks_eq_one_iff.mp h
  rw [List.forall_mem_append, List.forall_mem_cons]
  exact ⟨hblank hgap, by decide, hblank hrest⟩

/-- The words for numbers of one bit or digit. -/
def oneDigitWords : List (List Char) :=
  ["tinyint".toList, "bit".toList]

theorem isWord_of_mem_oneDigitWords (h : word ∈ oneDigitWords) : IsWord word ∧ '(' ∉ word := by
  have hall : oneDigitWords.all
      (fun word => !word.isEmpty && word.all fun c => !isBlank c && c != '(') = true := by decide
  have hword := List.all_eq_true.mp hall word h
  rw [Bool.and_eq_true, Bool.not_eq_true', List.isEmpty_eq_false_iff, List.all_eq_true] at hword
  simp only [Bool.and_eq_true, Bool.not_eq_true', bne_iff_ne] at hword
  exact ⟨⟨hword.1, fun c hc => (hword.2 c hc).1⟩, fun hopen => (hword.2 _ hopen).2 rfl⟩

theorem exists_keyWords_iff :
    (∃ word ∈ oneDigitWords, keyWords key = [word]) ↔ key = "tinyint" ∨ key = "bit" := by
  constructor
  · rintro ⟨word, hword, h⟩
    rw [eq_of_keyWords h]
    exact (List.mem_pair.mp hword).imp (fun h => by rw [h]; rfl) fun h => by rw [h]; rfl
  · rintro (rfl | rfl)
    · exact ⟨_, List.mem_cons_self .., by decide⟩
    · exact ⟨_, List.mem_cons_of_mem _ (List.mem_singleton_self _), by decide⟩

/-- A number of one bit or digit, as it is spelled in lower case. -/
def OneDigitText (word cs : List Char) : Prop :=
  ∃ gap arguments, (∀ c ∈ gap, isBlank c = true) ∧ trimBlanks arguments = ['1'] ∧
    cs = word ++ (gap ++ '(' :: (arguments ++ [')']))

theorem isOneDigit_eq_true_iff (native : List Char) :
    isOneDigit native = true ↔ ∃ word ∈ oneDigitWords,
      OneDigitText word (lowerChars (trimBlanks native)) := by
  have hopen : isBlank '(' = false := by decide
  have hone : isBlank '1' = false := by decide
  have hclose : isBlank ')' = false := by decide
  rw [isOneDigit]
  generalize lowerChars (trimBlanks native) = text
  simp only [List.any_eq_true, Bool.and_eq_true, List.isPrefixOf_iff_prefix]
  refine exists_congr fun word => and_congr_right fun _ => ?_
  constructor
  · rintro ⟨⟨after, rfl⟩, h⟩
    rw [List.drop_left] at h
    split at h
    · rename_i rest hrest
      split at h
      · rename_i rest' hrest'
        split at h
        · rename_i hlast
          obtain ⟨gap, hgap, rfl⟩ := (trimLeftBy_eq_cons_iff hopen).mp hrest
          obtain ⟨gap', hgap', rfl⟩ := (trimLeftBy_eq_cons_iff hone).mp hrest'
          obtain ⟨gap'', hgap'', rfl⟩ := (trimLeftBy_eq_cons_iff hclose).mp hlast
          refine ⟨gap, gap' ++ '1' :: gap'', hgap, ?_, by simp⟩
          exact trimBlanks_eq_one_iff.mpr ⟨gap', gap'', hgap', hgap'', rfl⟩
        · exact Bool.noConfusion h
      · exact Bool.noConfusion h
    · exact Bool.noConfusion h
  · rintro ⟨gap, arguments, hgap, harguments, rfl⟩
    obtain ⟨gap', gap'', hgap', hgap'', rfl⟩ := trimBlanks_eq_one_iff.mp harguments
    have hskip : ∀ {gap c} xs, (∀ d ∈ gap, isBlank d = true) → isBlank c = false →
        trimLeftBy isBlank (gap ++ c :: xs) = c :: xs :=
      fun xs hgap hc => (trimLeftBy_eq_cons_iff hc).mpr ⟨_, hgap, rfl⟩
    refine ⟨⟨_, rfl⟩, ?_⟩
    rw [List.drop_left, List.append_assoc, List.cons_append]
    simp only [hskip _ hgap hopen, hskip _ hgap' hone, hskip _ hgap'' hclose]

/-- It is the word with nothing but a one between the parentheses, and with nothing behind them. -/
theorem oneDigitText_iff {image : List Char} (hword : '(' ∉ word)
    (hfront : '(' ∉ front) (hbehind : ')' ∉ behind) :
    OneDigitText word (front ++ '(' :: (image ++ ')' :: behind)) ↔
      (∃ gap, (∀ c ∈ gap, isBlank c = true) ∧ front = word ++ gap) ∧ trimBlanks image = ['1'] ∧
        behind = [] := by
  constructor
  · rintro ⟨gap, arguments, hgap, hone, heq⟩
    have hgap' : '(' ∉ gap := fun hmem => absurd (hgap _ hmem) (by decide)
    rw [← List.append_assoc] at heq
    obtain ⟨rfl, hrest⟩ := append_sign_inj hfront
      (by rw [List.mem_append, not_or]; exact ⟨hword, hgap'⟩) heq
    -- Nothing behind the last parenthesis closes another one.
    have hreverse : behind.reverse ++ ')' :: image.reverse = [] ++ ')' :: arguments.reverse := by
      have hrest := congrArg List.reverse hrest
      simpa using hrest
    obtain ⟨hnil, hsame⟩ :=
      append_sign_inj (mt List.mem_reverse.mp hbehind) List.not_mem_nil hreverse
    refine ⟨⟨gap, hgap, rfl⟩, ?_, List.reverse_eq_nil_iff.mp hnil⟩
    rw [List.reverse_injective hsame, hone]
  · rintro ⟨⟨gap, hgap, rfl⟩, hone, rfl⟩
    exact ⟨gap, image, hgap, hone, by rw [List.append_assoc]⟩

/-- The text in front of the parentheses has one word. -/
theorem exists_gap_iff (hfront : Words words front) (hword : IsWord word) :
    (∃ gap, (∀ c ∈ gap, isBlank c = true) ∧ lowered (trimLeftBy isBlank front) = word ++ gap) ↔
      words.map lowered = [word] := by
  constructor
  · rintro ⟨gap, hgap, heq⟩
    rw [← (words_lowered hfront.trimmedLeft).blankWords_eq, heq,
      blankWords_append_blanks hgap, blankWords_of_isWord hword]
  · intro h
    obtain ⟨w, rfl, rfl⟩ := List.map_eq_singleton_iff.mp h
    obtain ⟨gap, hgap, heq⟩ := hfront.exists_trimLeftBy_singleton
    refine ⟨lowered gap, ?_, by rw [heq, lowered, List.map_append]; rfl⟩
    intro c hc
    obtain ⟨d, hd, rfl⟩ := List.mem_map.mp hc
    rw [isBlank_asciiLower, hgap d hd]

/-- The text behind the parentheses has none. -/
theorem lowered_eq_nil_iff (hbehind : Words modifiers behind) :
    lowered (trimRightBy isBlank behind) = [] ↔ modifiers = [] := by
  rw [lowered, List.map_eq_nil_iff]
  constructor
  · intro h
    rw [← hbehind.trimmedRight.blankWords_eq, h]
    rfl
  · rintro rfl
    have hblank := fun c hc => hbehind.isBlank_of_nil c (List.mem_reverse.mp hc)
    rw [trimRightBy, List.dropWhile_eq_nil_iff.mpr hblank]
    rfl

theorem oneDigitText_parentheses (hfront : Words words front)
    (hwords : PlainWords (words.map lowered)) (hbehind : Words modifiers behind)
    (hmodifiers : PlainWords (modifiers.map lowered)) (arguments : List Char)
    (hword : word ∈ oneDigitWords) :
    OneDigitText word (lowerChars (trimBlanks (front ++ '(' :: (arguments ++ ')' :: behind)))) ↔
      words.map lowered = [word] ∧ trimBlanks arguments = ['1'] ∧ modifiers = [] := by
  obtain ⟨hisWord, hnone⟩ := isWord_of_mem_oneDigitWords hword
  have hopen := not_mem_of_words (words_lowered hfront.trimmedLeft) hwords (c := '(') (by decide)
    (by decide)
  have hclose := not_mem_of_words (words_lowered hbehind.trimmedRight) hmodifiers (c := ')')
    (by decide) (by decide)
  obtain ⟨image, hlower, hone⟩ := exists_lowerChars_parentheses hfront.trimmedLeft hwords
    hbehind.trimmedRight hmodifiers arguments
  have himage : trimBlanks image = ['1'] ↔ trimBlanks arguments = ['1'] :=
    ⟨fun h => hone (.inl (isOneOrBlank_of_trimBlanks h)) ▸ h,
      fun h => (hone (.inr (isOneOrBlank_of_trimBlanks h))).symm ▸ h⟩
  rw [trimBlanks_parentheses, hlower, oneDigitText_iff hnone hopen hclose,
    exists_gap_iff hfront hisWord, himage, lowered_eq_nil_iff hbehind]

/-- **A number of one bit or digit** is spelled with one of two words, with a one as its argument,
and without modifiers. -/
theorem isOneDigit_iff (hkey : PlainWords (keyWords key))
    (h : Spelling key arguments modifiers text) :
    isOneDigit text = true ↔ (key = "tinyint" ∨ key = "bit") ∧ modifiers = [] ∧
      arguments.map trimBlanks = some ['1'] := by
  rw [isOneDigit_eq_true_iff]
  cases h with
  | @bare words modifiers text hwords hmodifiers htext =>
      have hplain := plainWords_append hkey hwords hmodifiers
      have hopen := not_mem_of_words (words_lowered htext.trimmed) hplain (c := '(') (by decide)
        (by decide)
      rw [lowerChars, lowerAfter_of_words htext.trimmed hplain]
      constructor
      · rintro ⟨word, -, gap, arguments, -, -, heq⟩
        exact absurd (by rw [heq]; simp) hopen
      · rintro ⟨-, -, harguments⟩
        exact absurd harguments (Option.some_ne_none _).symm
  | @withArguments words modifiers front behind hwords hmodifiers hfront hbehind arguments =>
      have htext := fun {word} => @oneDigitText_parentheses _ _ word _ _ hfront (hwords ▸ hkey)
        hbehind (plainWords_modifiers hmodifiers) arguments
      constructor
      · rintro ⟨word, hword, h⟩
        obtain ⟨hsingle, hargument, hnil⟩ := (htext hword).mp h
        exact ⟨exists_keyWords_iff.mp ⟨word, hword, hwords ▸ hsingle⟩, hnil,
          congrArg some hargument⟩
      · rintro ⟨hname, hnil, hargument⟩
        obtain ⟨word, hword, hsingle⟩ := exists_keyWords_iff.mpr hname
        exact ⟨word, hword,
          (htext hword).mpr ⟨hwords.trans hsingle, Option.some.inj hargument, hnil⟩⟩

end OneDigit

section Tables

variable {table : TypeTable} {dialect : Dialect} {key native : String} {semantic : SemanticType}
variable {arguments : Option (List Char)} {modifiers : List (List Char)}

/-- What a spelling of a known type maps to: its semantic type, unless it is a number of one bit or
digit of MySQL. -/
def recognised (dialect : Dialect) (key : String) (semantic : SemanticType)
    (arguments : Option (List Char)) (modifiers : List (List Char)) : TypeMapping where
  semantic :=
    if dialect = .mysql ∧ (key = "tinyint" ∨ key = "bit") ∧ modifiers = [] ∧
        arguments.map trimBlanks = some ['1'] then .boolean
    else semantic
  base := key

/-- A type whose name has no modifiers is looked up under this name. -/
theorem map_of_spelling (hkey : PlainWords (keyWords key))
    (hmodifiers : ∀ w ∈ keyWords key, isModifier w = false)
    (hfind : table.find? dialect key = some semantic)
    (h : Spelling key arguments modifiers native.toList) :
    table.map dialect native = recognised dialect key semantic arguments modifiers := by
  have hkept : (keyWords key).filter (fun w => !isModifier w) = keyWords key :=
    List.filter_eq_self.mpr fun w hw => by rw [hmodifiers w hw]; rfl
  have hbase : nativeBase native = key := by
    rw [nativeBase, nativeBaseChars_of_spelling hkey h, keyBase, hkept, keyWords,
      joinBlank_splitOnChar, String.ofList_toList]
  have hone : (dialect == .mysql && isOneDigit native.toList) = true ↔ dialect = .mysql ∧
      (key = "tinyint" ∨ key = "bit") ∧ modifiers = [] ∧ arguments.map trimBlanks = some ['1'] := by
    rw [Bool.and_eq_true, beq_iff_eq, isOneDigit_iff hkey h]
  rw [TypeTable.map, hbase, hfind, recognised]
  simp only [hone]
  split_ifs
  · rfl
  · rfl

/-- What the built-in table has to be like: an entry is the one that is found, its name is made of
plain words, and none of these modifies a type, but for one entry. -/
def wellNamed (entry : (Dialect × String) × SemanticType) : Bool :=
  builtinTypes.find? entry.1.1 entry.1.2 == some entry.2 &&
    (keyWords entry.1.2).all (·.all isPlain) && entry.1.2 != "big int" &&
    (entry.1.2 == "unsigned big int" || (keyWords entry.1.2).all fun w => !isModifier w)

theorem wellNamed_builtinTypes : builtinTypes.all wellNamed = true := by decide +kernel

theorem wellNamed_of_mem (h : ((dialect, key), semantic) ∈ builtinTypes) :
    builtinTypes.find? dialect key = some semantic ∧ PlainWords (keyWords key) ∧ key ≠ "big int" ∧
      (key = "unsigned big int" ∨ ∀ w ∈ keyWords key, isModifier w = false) := by
  have hentry := List.all_eq_true.mp wellNamed_builtinTypes _ h
  simp only [wellNamed, Bool.and_eq_true, Bool.or_eq_true, beq_iff_eq, bne_iff_ne,
    List.all_eq_true, Bool.not_eq_true'] at hentry
  exact ⟨hentry.1.1.1, hentry.1.1.2, hentry.1.2, hentry.2⟩

/-- A modifier in the name of a type is lost, and what is left is no type of the table. -/
theorem map_of_unsignedBigInt (hkey : PlainWords (keyWords "unsigned big int"))
    (h : Spelling "unsigned big int" arguments modifiers native.toList) :
    builtinTypes.map dialect native =
      { semantic := .opaqueText, base := "big int", fallback := true } := by
  have hbase : nativeBase native = "big int" := by
    rw [nativeBase, nativeBaseChars_of_spelling hkey h]
    decide
  have hone : isOneDigit native.toList = false := by
    rw [Bool.eq_false_iff, Ne, isOneDigit_iff hkey h]
    exact fun hone => absurd hone.1 (by decide)
  have hfind : builtinTypes.find? dialect "big int" = none := by
    rw [TypeTable.find?, Option.map_eq_none_iff, List.find?_eq_none]
    rintro ⟨⟨dialect', key⟩, semantic⟩ hentry heq
    have hname := (wellNamed_of_mem (List.mem_reverse.mp hentry)).2.2.1
    exact hname (congrArg Prod.snd (beq_iff_eq.mp heq))
  rw [TypeTable.map, hbase, hone, hfind, Bool.and_false]
  rfl

/-- **Every type of the table is recognised in every spelling**, but for one: the modifier in the
name of an unsigned big integer is taken away with those behind it. -/
theorem spelled_types_recognised (hentry : ((dialect, key), semantic) ∈ builtinTypes)
    (h : Spelling key arguments modifiers native.toList) :
    builtinTypes.map dialect native =
      if key = "unsigned big int" then
        { semantic := .opaqueText, base := "big int", fallback := true }
      else recognised dialect key semantic arguments modifiers := by
  obtain ⟨hfind, hplain, -, hmodifiers⟩ := wellNamed_of_mem hentry
  split_ifs with hkey
  · obtain rfl := hkey
    exact map_of_unsignedBigInt hplain h
  · exact map_of_spelling hplain (hmodifiers.resolve_left hkey) hfind h

/-- A decimal with arguments and modifiers, and a number of one digit. -/
theorem spelled_types_of_numbers :
    Spelling "decimal" (some "10,2".toList) ["UNSIGNED".toList, "ZeroFill".toList]
      " Decimal (10,2) UNSIGNED\tZeroFill".toList ∧
    builtinTypes.map .mysql " Decimal (10,2) UNSIGNED\tZeroFill" =
      { semantic := .decimalText, base := "decimal" } ∧
    Spelling "tinyint" (some " 1".toList) [] "TinyInt( 1)".toList ∧
    builtinTypes.map .mysql "TinyInt( 1)" = { semantic := .boolean, base := "tinyint" } := by
  have hdecimal : Spelling "decimal" (some "10,2".toList) ["UNSIGNED".toList, "ZeroFill".toList]
      " Decimal (10,2) UNSIGNED\tZeroFill".toList :=
    @Spelling.withArguments _ ["Decimal".toList] _ " Decimal ".toList " UNSIGNED\tZeroFill".toList
      (by decide) (by decide) (words_iff.mpr (by decide)) (words_iff.mpr (by decide)) _
  have htinyint : Spelling "tinyint" (some " 1".toList) [] "TinyInt( 1)".toList :=
    @Spelling.withArguments _ ["TinyInt".toList] _ "TinyInt".toList [] (by decide) (by decide)
      (words_iff.mpr (by decide)) .nil _
  have hmapped := @spelled_types_recognised .mysql "decimal" _ .decimalText _ _
    (List.mem_of_getElem? (i := 11) rfl) hdecimal
  have hmapped' := @spelled_types_recognised .mysql "tinyint" _ .integer _ _
    (List.mem_of_getElem? (i := 0) rfl) htinyint
  exact ⟨hdecimal, hmapped.trans (by decide), htinyint, hmapped'.trans (by decide)⟩

/-- An unsigned big integer of SQLite is an integer in the table, but it is not recognised. -/
theorem map_of_declaredBigInt :
    ((Dialect.sqlite, "unsigned big int"), SemanticType.integer) ∈ builtinTypes ∧
    Spelling "unsigned big int" none [] "UNSIGNED BIG INT".toList ∧
    builtinTypes.map .sqlite "UNSIGNED BIG INT" =
      { semantic := .opaqueText, base := "big int", fallback := true } := by
  have hentry : ((Dialect.sqlite, "unsigned big int"), SemanticType.integer) ∈ builtinTypes :=
    List.mem_of_getElem? (i := 83) rfl
  have hspelling : Spelling "unsigned big int" none [] "UNSIGNED BIG INT".toList :=
    @Spelling.bare _ ["UNSIGNED".toList, "BIG".toList, "INT".toList] _ _ (by decide) (by decide)
      (words_iff.mpr (by decide))
  exact ⟨hentry, hspelling, map_of_unsignedBigInt (wellNamed_of_mem hentry).2.1 hspelling⟩

end Tables

end Schema
end TableCast
