import TableCast.Name.Scope
import TableCast.Proofs.Name.FileNames
import TableCast.Proofs.Name.FreshNames

/-!
# The characters of spelled names

Whatever stands in a raw name, the names spelled from it are made of few characters: only letters
and digits of the raw name are kept, in some letter case, and the characters that are added are
letters, digits and underscores.

**Alphabets.**  An `Alphabet` says which characters raw names are read in and which ones spelled
names are written in, with the closure properties that letter case must have.  There are two:
`everyText` allows all raw names, and its spelled names have no other ASCII characters than letters,
digits and underscores; `ascii` allows raw names in ASCII and spells them in ASCII.

**Results.**
* `mem_wordsOf`: the words of a text are made of its letters and digits.
* `Alphabet.spells_upperCamel` and its companions: spelled names stay in the alphabet.
* `Alphabet.spells_derivedName`, `Alphabet.spells_numberedName`: and so do names that are made
  unique.
-/

namespace TableCast
namespace Name

open Text

/-- The ASCII letters and digits and the underscore. -/
def isPlain (c : Char) : Bool :=
  isAsciiLetter c || isAsciiDigit c || c == '_'

/-- The plain characters and all characters beyond ASCII. -/
def isTame (c : Char) : Bool :=
  isPlain c || decide (128 ≤ c.toNat)

section Letters

variable {c d : Char}

theorem isAsciiDigit_iff : isAsciiDigit c = true ↔ 48 ≤ c.toNat ∧ c.toNat ≤ 57 := by
  simp only [isAsciiDigit, Bool.and_eq_true, decide_eq_true_eq, Char.le_def,
    UInt32.le_iff_toNat_le]
  exact Iff.rfl

theorem isAsciiLetter_iff :
    isAsciiLetter c = true ↔
      65 ≤ c.toNat ∧ c.toNat ≤ 90 ∨ 97 ≤ c.toNat ∧ c.toNat ≤ 122 := by
  rw [isAsciiLetter, Bool.or_eq_true, isAsciiUpper_iff, isAsciiLower_iff]

theorem isPlain_iff :
    isPlain c = true ↔
      (65 ≤ c.toNat ∧ c.toNat ≤ 90 ∨ 97 ≤ c.toNat ∧ c.toNat ≤ 122) ∨
        (48 ≤ c.toNat ∧ c.toNat ≤ 57) ∨ c = '_' := by
  rw [isPlain, Bool.or_eq_true, Bool.or_eq_true, isAsciiLetter_iff, isAsciiDigit_iff, beq_iff_eq,
    or_assoc]

theorem isTame_of_plain (h : isPlain c = true) : isTame c = true := by
  rw [isTame, h, Bool.true_or]

theorem isTame_of_beyond (h : 128 ≤ c.toNat) : isTame c = true := by
  rw [isTame, decide_eq_true h, Bool.or_true]

theorem toNat_lt_of_plain (h : isPlain c = true) : c.toNat < 128 := by
  rcases isPlain_iff.mp h with hletter | hdigit | rfl
  · omega
  · omega
  · decide

theorem isPlain_of_alphanumeric (hascii : c.toNat < 128) (h : isAlphanumeric c = true) :
    isPlain c = true := by
  rw [isAlphanumeric, inClass, if_pos hascii] at h
  rw [isPlain, h, Bool.true_or]

theorem isTame_of_alphanumeric (h : isAlphanumeric c = true) : isTame c = true := by
  by_cases hascii : c.toNat < 128
  · exact isTame_of_plain (isPlain_of_alphanumeric hascii h)
  · exact isTame_of_beyond (by omega)

theorem toNat_ofNat_of_lt {n : Nat} (h : n < 128) : (Char.ofNat n).toNat = n := by
  have hvalid : n.isValidChar := Or.inl (by omega)
  rw [Char.ofNat, dif_pos hvalid]
  exact Char.toNat_ofNatAux hvalid

theorem isPlain_asciiUpper (h : isPlain c = true) : isPlain (asciiUpper c) = true := by
  rw [asciiUpper]
  split_ifs with hlower
  · have hc := isAsciiLower_iff.mp hlower
    rw [isPlain_iff, toNat_ofNat_of_lt (by omega)]
    omega
  · exact h

theorem isPlain_asciiLower (h : isPlain c = true) : isPlain (asciiLower c) = true := by
  rw [asciiLower]
  split_ifs with hupper
  · have hc := isAsciiUpper_iff.mp hupper
    rw [isPlain_iff, toNat_ofNat_of_lt (by omega)]
    omega
  · exact h

end Letters

section LetterCase

variable {c d : Char}

/-- A table of runs maps every code point that it knows into a class. -/
def runsAll (p : Char → Bool) (runs : Array (Nat × Nat × Nat × Int)) : Bool :=
  runs.all fun (first, last, _, shift) =>
    (List.range' first (last + 1 - first)).all fun n => p (Char.ofNat ((n : Int) + shift).toNat)

/-- A run leads into the class, and so does the lack of one from inside the class. -/
theorem of_mapByRuns
    {p : Char → Bool} {runs : Array (Nat × Nat × Nat × Int)} (h : runsAll p runs = true)
    (hc : p c = true) : p (Char.ofNat ((mapByRuns runs c.toNat).getD c.toNat)) = true := by
  rw [mapByRuns]
  cases hfind : runs.find? fun (first, last, step, _) =>
      first ≤ c.toNat && c.toNat ≤ last && (c.toNat - first) % step == 0 with
  | none =>
      rw [Option.map_none, Option.getD_none, Char.ofNat_toNat]
      exact hc
  | some run =>
      obtain ⟨first, last, step, shift⟩ := run
      have hrun := Array.all_eq_true'.mp h _ (Array.mem_of_find?_eq_some hfind)
      have hin := Array.find?_some hfind
      simp only [Bool.and_eq_true, decide_eq_true_eq] at hin
      refine List.all_eq_true.mp hrun c.toNat ?_
      rw [List.mem_range'_1]
      omega

/-- The upper case form of a character is its own form in ASCII, or it is in every class that the
tables lead into. -/
theorem mem_upperChar_of_tables
    {p : Char → Bool}
    (hentries : ∀ entry ∈ Table.upperSequence, ∀ n ∈ entry.2, p (Char.ofNat n) = true)
    (hruns : runsAll p Table.upperRun = true) (hbeyond : 128 ≤ c.toNat → p c = true)
    (hd : d ∈ upperChar c) :
    c.toNat < 128 ∧ d = asciiUpper c ∨ p d = true := by
  simp only [upperChar] at hd
  split_ifs at hd with hascii
  · exact Or.inl ⟨hascii, List.mem_singleton.mp hd⟩
  · right
    cases hfind : Table.upperSequence.find? (·.1 == c.toNat) with
    | none =>
        rw [hfind] at hd
        rw [List.mem_singleton.mp hd]
        exact of_mapByRuns hruns (hbeyond (by omega))
    | some entry =>
        rw [hfind] at hd
        obtain ⟨n, hn, rfl⟩ := List.mem_map.mp hd
        exact hentries entry (Array.mem_of_find?_eq_some hfind) n hn

/-- The upper case form of a character is tame, unless the character is its own form in ASCII. -/
theorem mem_upperChar (hd : d ∈ upperChar c) :
    c.toNat < 128 ∧ d = asciiUpper c ∨ isTame d = true :=
  mem_upperChar_of_tables (by decide +kernel) (by decide +kernel) isTame_of_beyond hd

theorem mem_lowerChar (hd : d ∈ lowerChar c) :
    c.toNat < 128 ∧ d = asciiLower c ∨ isTame d = true := by
  simp only [lowerChar] at hd
  split_ifs at hd with hascii hdotted
  · exact Or.inl ⟨hascii, List.mem_singleton.mp hd⟩
  · have hall : ∀ d ∈ ['i', Char.ofNat 0x307], isTame d = true := List.all_eq_true.mp rfl
    exact Or.inr (hall d hd)
  · rw [List.mem_singleton.mp hd]
    exact Or.inr (of_mapByRuns (by decide +kernel) (isTame_of_beyond (by omega)))

theorem isTame_upperChar (h : isAlphanumeric c = true) (hd : d ∈ upperChar c) :
    isTame d = true := by
  rcases mem_upperChar hd with ⟨hascii, rfl⟩ | htame
  · exact isTame_of_plain (isPlain_asciiUpper (isPlain_of_alphanumeric hascii h))
  · exact htame

theorem isTame_lowerChar (h : isAlphanumeric c = true) (hd : d ∈ lowerChar c) :
    isTame d = true := by
  rcases mem_lowerChar hd with ⟨hascii, rfl⟩ | htame
  · exact isTame_of_plain (isPlain_asciiLower (isPlain_of_alphanumeric hascii h))
  · exact htame

/-- In lower case a character has one of its images, or is a small sigma. -/
theorem mem_lowerAfter {before cs : List Char} (hd : d ∈ lowerAfter before cs) :
    ∃ c ∈ cs, d ∈ lowerChar c ∨
      c.toNat = 0x3A3 ∧ (d = Char.ofNat 0x3C2 ∨ d = Char.ofNat 0x3C3) := by
  induction cs generalizing before with
  | nil => exact absurd hd List.not_mem_nil
  | cons c cs ih =>
      rw [lowerAfter] at hd
      rcases List.mem_append.mp hd with himage | hrest
      · refine ⟨c, List.mem_cons_self .., ?_⟩
        split_ifs at himage with hsigma
        · exact Or.inr ⟨beq_iff_eq.mp hsigma, Or.inl (List.mem_singleton.mp himage)⟩
        · exact Or.inr ⟨beq_iff_eq.mp hsigma, Or.inr (List.mem_singleton.mp himage)⟩
        · exact Or.inl himage
      · obtain ⟨c', hc', himage⟩ := ih hrest
        exact ⟨c', List.mem_cons_of_mem _ hc', himage⟩

end LetterCase

section Words

variable {c : Char} {w cs : List Char}

theorem mem_of_mem_runs {p : Char → Bool} :
    ∀ {cs w : List Char}, w ∈ runs p cs → c ∈ w → c ∈ cs ∧ p c = true
  | [], _, h, _ => absurd h List.not_mem_nil
  | [d], _, h, hc => by
      rw [runs] at h
      split_ifs at h with hd
      · rw [List.mem_singleton.mp h] at hc
        rw [List.mem_singleton.mp hc]
        exact ⟨List.mem_singleton_self d, hd⟩
      · exact absurd h List.not_mem_nil
  | d :: e :: cs, w, h, hc => by
      have ih : ∀ v ∈ runs p (e :: cs), c ∈ v → c ∈ d :: e :: cs ∧ p c = true :=
        fun v hv hcv => (mem_of_mem_runs hv hcv).imp_left (List.mem_cons_of_mem d)
      have hself : p d = true → c = d → c ∈ d :: e :: cs ∧ p c = true := by
        rintro hd rfl
        exact ⟨List.mem_cons_self .., hd⟩
      rw [runs] at h
      split_ifs at h with hd he
      · obtain ⟨run, rest, hruns⟩ := runs_cons_of_pos he cs
        rw [hruns] at h ih
        rcases List.mem_cons.mp h with rfl | h
        · rcases List.mem_cons.mp hc with hcd | hc
          · exact hself hd hcd
          · exact ih _ (List.mem_cons_self ..) hc
        · exact ih w (List.mem_cons_of_mem _ h) hc
      · rcases List.mem_cons.mp h with rfl | h
        · exact hself hd (List.mem_singleton.mp hc)
        · exact ih w h hc
      · exact ih w h hc

/-- Nothing but underscores is put into a text where it is cut. -/
theorem mem_breakCapitalized (inWord : Bool) (cs : List Char) :
    c ∈ breakCapitalized inWord cs → c ∈ cs ∨ c = '_' := by
  induction inWord, cs using breakCapitalized.induct with
  | case1 inWord =>
      rw [breakCapitalized.eq_1]
      exact Or.inl
  | case2 inWord d cs h ih =>
      rw [breakCapitalized_copy h, List.mem_cons, List.mem_cons, or_assoc]
      exact Or.imp_right ih
  | case3 inWord d h e f rest hcut ih =>
      rw [breakCapitalized_cut (Bool.eq_false_iff.mpr h) hcut]
      simp only [List.mem_cons] at ih ⊢
      tauto
  | case4 inWord d h e f rest hcut ih =>
      rw [breakCapitalized_pass (Bool.eq_false_iff.mpr h) (Bool.eq_false_iff.mpr hcut),
        List.mem_cons, List.mem_cons, or_assoc]
      exact Or.imp_right ih
  | case5 inWord d cs h hshort =>
      rcases cs with - | ⟨e, - | ⟨f, rest⟩⟩
      · rw [breakCapitalized_singleton]
        exact Or.inl
      · rw [breakCapitalized_pair]
        exact Or.inl
      · exact absurd rfl (hshort e f rest)

theorem mem_breakBeforeCapital :
    ∀ {cs : List Char}, c ∈ breakBeforeCapital cs → c ∈ cs ∨ c = '_'
  | [], h => Or.inl h
  | [_], h => Or.inl h
  | d :: e :: cs, h => by
      have ih : c ∈ breakBeforeCapital (e :: cs) → c ∈ e :: cs ∨ c = '_' := mem_breakBeforeCapital
      rw [breakBeforeCapital] at h
      split_ifs at h
      · simp only [List.mem_cons] at h ih ⊢
        tauto
      · simp only [List.mem_cons] at h ih ⊢
        tauto

/-- The words of a text are made of its letters and digits. -/
theorem mem_wordsOf (hw : w ∈ wordsOf cs) (hc : c ∈ w) : c ∈ cs ∧ isAlphanumeric c = true := by
  obtain ⟨hmem, hclass⟩ := mem_of_mem_runs hw hc
  have hgap : c ≠ '_' := by
    rintro rfl
    exact absurd hclass (by decide)
  have hcut := (mem_breakBeforeCapital hmem).resolve_right hgap
  exact ⟨(mem_breakCapitalized false cs hcut).resolve_right hgap, hclass⟩

theorem mem_joinUnderscore :
    ∀ {ws : List (List Char)}, c ∈ joinUnderscore ws → (∃ w ∈ ws, c ∈ w) ∨ c = '_'
  | [], h => absurd h List.not_mem_nil
  | [w], h => Or.inl ⟨w, List.mem_singleton_self w, h⟩
  | w :: v :: ws, h => by
      rw [joinUnderscore] at h
      rcases List.mem_append.mp h with h | h
      · exact Or.inl ⟨w, List.mem_cons_self .., h⟩
      · rcases List.mem_cons.mp h with h | h
        · exact Or.inr h
        · refine (mem_joinUnderscore h).imp_left ?_
          rintro ⟨u, hu, hc⟩
          exact ⟨u, List.mem_cons_of_mem w hu, hc⟩

theorem mem_withLeadingLetter (h : c ∈ withLeadingLetter cs) : c ∈ cs ∨ c = '_' := by
  cases cs with
  | nil => exact Or.inl h
  | cons d cs =>
      rw [withLeadingLetter] at h
      split_ifs at h
      · exact Or.inl h
      · exact (List.mem_cons.mp h).symm

theorem mem_collapseGaps {inGap : Bool} (h : c ∈ collapseGaps inGap cs) :
    c ∈ cs ∧ isAlphanumeric c = true ∨ c = '_' := by
  induction cs generalizing inGap with
  | nil => exact absurd h List.not_mem_nil
  | cons d cs ih =>
      have hkeep : ∀ {g}, c ∈ collapseGaps g cs → c ∈ d :: cs ∧ isAlphanumeric c = true ∨ c = '_' :=
        fun hc => (ih hc).imp_left (And.imp_left (List.mem_cons_of_mem d))
      rw [collapseGaps] at h
      split_ifs at h with hword hgap
      · rcases List.mem_cons.mp h with rfl | h
        · rw [isWordChar, Bool.or_eq_true, beq_iff_eq] at hword
          exact hword.imp_left fun hclass => ⟨List.mem_cons_self .., hclass⟩
        · exact hkeep h
      · exact hkeep h
      · exact (List.mem_cons.mp h).elim Or.inr hkeep

theorem mem_of_mem_trimBy {p : Char → Bool} (h : c ∈ trimBy p cs) : c ∈ cs := by
  rw [trimBy, trimRightBy, List.mem_reverse] at h
  have hleft := List.mem_reverse.mp ((List.dropWhile_sublist _).mem h)
  exact (List.dropWhile_sublist _).mem hleft

theorem mem_of_mem_trimRightBy {p : Char → Bool} (h : c ∈ trimRightBy p cs) : c ∈ cs := by
  rw [trimRightBy, List.mem_reverse] at h
  exact List.mem_reverse.mp ((List.dropWhile_sublist _).mem h)

end Words

theorem ne_sigma_of_lt {c : Char} (h : c.toNat < 128) : c.toNat ≠ 0x3A3 := by omega

/-- The characters of raw names and the characters of the names that are spelled from them. -/
structure Alphabet where
  /-- The characters of raw names. -/
  Raw : Char → Prop
  /-- The characters of spelled names. -/
  Spelled : Char → Prop
  /-- The dot is put between the names of a table and of a column. -/
  dot : Raw '.'
  /-- Spelled names may be spelled again. -/
  raw : ∀ {c}, Spelled c → Raw c
  /-- The characters that are added. -/
  plain : ∀ {c}, isPlain c = true → Spelled c
  /-- The characters that are kept. -/
  kept : ∀ {c}, Raw c → isAlphanumeric c = true → Spelled c
  /-- Their images in upper case. -/
  upper : ∀ {c}, Raw c → isAlphanumeric c = true → ∀ d ∈ upperChar c, Spelled d
  /-- Their images in lower case. -/
  lower : ∀ {c}, Raw c → isAlphanumeric c = true → ∀ d ∈ lowerChar c, Spelled d
  /-- The small sigmas, of which one is for the end of a word. -/
  sigma : ∀ {c}, Raw c → c.toNat = 0x3A3 →
    Spelled (Char.ofNat 0x3C2) ∧ Spelled (Char.ofNat 0x3C3)

/-- Raw names of any characters. -/
def everyText : Alphabet where
  Raw _ := True
  Spelled c := isTame c = true
  dot := trivial
  raw _ := trivial
  plain h := isTame_of_plain h
  kept _ h := isTame_of_alphanumeric h
  upper _ h _ hd := isTame_upperChar h hd
  lower _ h _ hd := isTame_lowerChar h hd
  sigma _ _ := by decide +kernel

/-- Raw names in ASCII. -/
def ascii : Alphabet where
  Raw c := c.toNat < 128
  Spelled c := isPlain c = true
  dot := by decide
  raw h := toNat_lt_of_plain h
  plain h := h
  kept hascii h := isPlain_of_alphanumeric hascii h
  upper hascii h d hd := by
    simp only [upperChar, if_pos hascii, List.mem_singleton] at hd
    exact hd ▸ isPlain_asciiUpper (isPlain_of_alphanumeric hascii h)
  lower hascii h d hd := by
    simp only [lowerChar, if_pos hascii, List.mem_singleton] at hd
    exact hd ▸ isPlain_asciiLower (isPlain_of_alphanumeric hascii h)
  sigma hascii hsigma := absurd hsigma (ne_sigma_of_lt hascii)

namespace Alphabet

/-- A raw name that is read in an alphabet. -/
def Reads (A : Alphabet) (name : String) : Prop := ∀ c ∈ name.toList, A.Raw c

/-- A name that is spelled in an alphabet. -/
def Spells (A : Alphabet) (name : String) : Prop := ∀ c ∈ name.toList, A.Spelled c

section Spellings

variable {A : Alphabet} {name other : String} {cs : List Char}

theorem Spells.reads (h : A.Spells name) : A.Reads name := fun c hc => A.raw (h c hc)

theorem Spells.append (h : A.Spells name) (hother : A.Spells other) : A.Spells (name ++ other) := by
  intro c hc
  rw [String.toList_append, List.mem_append] at hc
  exact hc.elim (h c) (hother c)

theorem Reads.append (h : A.Reads name) (hother : A.Reads other) : A.Reads (name ++ other) := by
  intro c hc
  rw [String.toList_append, List.mem_append] at hc
  exact hc.elim (h c) (hother c)

theorem spells_of_plain (h : name.toList.all isPlain = true) : A.Spells name :=
  fun c hc => A.plain (List.all_eq_true.mp h c hc)

theorem spells_ofList (h : ∀ c ∈ cs, A.Spelled c) : A.Spells (String.ofList cs) := by
  intro c hc
  rw [String.toList_ofList] at hc
  exact h c hc

theorem reads_everyText (name : String) : everyText.Reads name := fun _ _ => trivial

/-- What the words of a raw name are made of. -/
def Worded (A : Alphabet) (w : List Char) : Prop :=
  ∀ c ∈ w, A.Raw c ∧ isAlphanumeric c = true

theorem worded_of_mem_wordsOf (h : ∀ c ∈ cs, A.Raw c) {w : List Char} (hw : w ∈ wordsOf cs) :
    A.Worded w := by
  intro c hc
  obtain ⟨hmem, hclass⟩ := mem_wordsOf hw hc
  exact ⟨h c hmem, hclass⟩

theorem worded_of_mem_wordsOrUnnamed (h : ∀ c ∈ cs, A.Raw c) {w : List Char}
    (hw : w ∈ wordsOrUnnamed cs) : A.Worded w := by
  have hunnamed : ∀ c ∈ unnamed, (isPlain c && isAlphanumeric c) = true := List.all_eq_true.mp rfl
  rw [wordsOrUnnamed] at hw
  split at hw
  · rw [List.mem_singleton.mp hw]
    intro c hc
    obtain ⟨hplain, hclass⟩ := Bool.and_eq_true_iff.mp (hunnamed c hc)
    exact ⟨A.raw (A.plain hplain), hclass⟩
  · exact worded_of_mem_wordsOf h hw

theorem Worded.upperChars {w : List Char} (h : A.Worded w) : ∀ c ∈ upperChars w, A.Spelled c := by
  intro d hd
  obtain ⟨c, hc, hd⟩ := List.mem_flatMap.mp hd
  exact A.upper (h c hc).1 (h c hc).2 d hd

theorem Worded.lowerChars {w : List Char} (h : A.Worded w) : ∀ c ∈ lowerChars w, A.Spelled c := by
  intro d hd
  obtain ⟨c, hc, himage | ⟨hsigma, hd⟩⟩ := mem_lowerAfter hd
  · exact A.lower (h c hc).1 (h c hc).2 d himage
  · obtain ⟨hfinal, hmiddle⟩ := A.sigma (h c hc).1 hsigma
    rcases hd with rfl | rfl
    · exact hfinal
    · exact hmiddle

theorem Worded.capitalizeChars {w : List Char} (h : A.Worded w) :
    ∀ c ∈ capitalizeChars w, A.Spelled c := by
  cases w with
  | nil => exact fun c hc => absurd hc List.not_mem_nil
  | cons c w =>
      obtain ⟨hfirst, hrest⟩ := List.forall_mem_cons.mp h
      intro d hd
      rcases List.mem_append.mp hd with hd | hd
      · exact A.upper hfirst.1 hfirst.2 d hd
      · exact Worded.lowerChars hrest d hd

theorem spelled_withLeadingLetter (h : ∀ c ∈ cs, A.Spelled c) :
    ∀ c ∈ withLeadingLetter cs, A.Spelled c := by
  intro c hc
  rcases mem_withLeadingLetter hc with hc | rfl
  · exact h c hc
  · exact A.plain rfl

theorem spelled_joinUnderscore {ws : List (List Char)} (h : ∀ w ∈ ws, ∀ c ∈ w, A.Spelled c) :
    ∀ c ∈ joinUnderscore ws, A.Spelled c := by
  intro c hc
  rcases mem_joinUnderscore hc with ⟨w, hw, hc⟩ | rfl
  · exact h w hw c hc
  · exact A.plain rfl

theorem spells_upperCamel (h : A.Reads name) : A.Spells (upperCamel name) := by
  refine spells_ofList (spelled_withLeadingLetter fun c hc => ?_)
  obtain ⟨w, hw, hc⟩ := List.mem_flatMap.mp hc
  exact (worded_of_mem_wordsOrUnnamed h hw).capitalizeChars c hc

theorem spells_lowerCamel (h : A.Reads name) : A.Spells (lowerCamel name) := by
  have hworded := fun w => worded_of_mem_wordsOrUnnamed (w := w) h
  refine spells_ofList (spelled_withLeadingLetter fun c hc => ?_)
  split at hc
  · exact absurd hc List.not_mem_nil
  · rename_i w ws hwords
    rw [hwords] at hworded
    rcases List.mem_append.mp hc with hc | hc
    · exact (hworded w (List.mem_cons_self ..)).lowerChars c hc
    · obtain ⟨v, hv, hc⟩ := List.mem_flatMap.mp hc
      exact (hworded v (List.mem_cons_of_mem w hv)).capitalizeChars c hc

theorem spells_snake (h : A.Reads name) : A.Spells (snake name) := by
  refine spells_ofList (spelled_withLeadingLetter (spelled_joinUnderscore fun w hw => ?_))
  obtain ⟨v, hv, rfl⟩ := List.mem_map.mp hw
  exact (worded_of_mem_wordsOrUnnamed h hv).lowerChars

theorem spells_enumCase (h : A.Reads name) : A.Spells (enumCase name) := by
  have hempty : ∀ c ∈ emptyCase, isPlain c = true := List.all_eq_true.mp rfl
  refine spells_ofList fun c hc => ?_
  rw [enumCaseChars] at hc
  split at hc
  · exact A.plain (hempty c hc)
  · refine spelled_withLeadingLetter (spelled_joinUnderscore fun w hw => ?_) c hc
    obtain ⟨v, hv, rfl⟩ := List.mem_map.mp hw
    exact (worded_of_mem_wordsOf h hv).upperChars

theorem spells_sanitized (h : A.Reads name) : A.Spells (sanitized name) := by
  refine spells_ofList fun c hc => ?_
  rcases mem_collapseGaps (mem_of_mem_trimBy hc) with ⟨hmem, hclass⟩ | rfl
  · exact A.kept (h c hmem) hclass
  · exact A.plain rfl

end Spellings

section Routes

variable {A : Alphabet} {n : Normalizer} {name table column base raw : String}

theorem spells_unreserve (h : A.Spells name) : A.Spells (n.unreserve name) := by
  rw [Normalizer.unreserve]
  split_ifs
  · exact h.append (spells_of_plain rfl)
  · exact h

theorem spells_fieldName (h : A.Reads column) : A.Spells (n.fieldName column) :=
  spells_unreserve (spells_lowerCamel h)

theorem spells_caseName (h : A.Reads name) : A.Spells (n.caseName name) :=
  spells_unreserve (spells_enumCase h)

theorem spells_enumTypeName (htable : A.Reads table) (hcolumn : A.Reads column) :
    A.Spells (n.enumTypeName table column) := by
  have hunderscore : A.Reads "_" := Spells.reads (spells_of_plain rfl)
  have hname := spells_upperCamel ((htable.append hunderscore).append hcolumn)
  exact spells_unreserve (hname.append (spells_of_plain rfl))

theorem isPlain_of_isDigit {c : Char} (h : c.isDigit = true) : isPlain c = true := by
  rw [isPlain_iff]
  simp only [Char.isDigit, Bool.and_eq_true, decide_eq_true_eq, ge_iff_le,
    UInt32.le_iff_toNat_le] at h
  exact Or.inr (Or.inl h)

theorem spells_numberedName (h : A.Spells base) (k : Nat) :
    A.Spells (Scope.numberedName base k) := by
  refine h.append fun c hc => A.plain (isPlain_of_isDigit ?_)
  rw [show (toString k).toList = Nat.toDigits 10 k from Nat.toList_repr] at hc
  exact Nat.isDigit_of_mem_toDigits (by decide) (by decide) hc

theorem spells_derivedName (scope : Scope) (h : A.Spells base) (hraw : A.Reads raw) :
    A.Spells (Scope.derivedName scope base raw) := by
  have hnumbered : A.Spells (scope.numbered base) := by
    obtain ⟨k, -, hk, -⟩ := Scope.numbered_least scope base
    rw [hk]
    exact spells_numberedName h k
  rw [Scope.derivedName]
  split_ifs
  · exact hnumbered
  · exact h
  · exact hnumbered
  · exact (h.append (spells_of_plain rfl)).append (spells_sanitized hraw)

end Routes

end Alphabet
end Name
end TableCast
