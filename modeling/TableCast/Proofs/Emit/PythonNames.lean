import TableCast.Emit.TemplateSet
import TableCast.Proofs.Model.NameRules
import TableCast.Proofs.Name.Letters

/-!
# Names that Python accepts

Only some names are compared with the reserved words when they are made.  The others are safe by
their shape: a reserved word has nothing but small letters behind its first letter, and every name
that gets a number, an underscore or a capitalised word behind it has something else there.

**Results.**
* `Legal`: an identifier that is not reserved.
* `legal_of_mark`: a mark behind the first letter keeps an identifier from being reserved.
* `nameRule_legal`: every route by which names are made keeps them legal.
* `names_legal`: the names of every assembly from ASCII names are legal.
-/

namespace TableCast
namespace Emit

open Text Name Model Schema

/-- A letter or an underscore, with letters, digits and underscores behind it. -/
def isPlainIdentifier (name : String) : Bool :=
  match name.toList with
  | [] => false
  | c :: cs => (isAsciiLetter c || c == '_') && cs.all isPlain

/-- A name that generated Python code can use. -/
structure Legal (name : String) : Prop where
  identifier : isPlainIdentifier name = true
  free : name ∉ pythonSet.reserved

/-- A text of ASCII characters. -/
def IsAscii (name : String) : Prop := ∀ c ∈ name.toList, c.toNat < 128

instance (name : String) : Decidable (IsAscii name) := List.decidableBAll _ _

section Identifiers

variable {name other : String} {c : Char} {cs : List Char}

theorem isPlainIdentifier_iff :
    isPlainIdentifier name = true ↔
      ∃ c cs, name.toList = c :: cs ∧ (isAsciiLetter c || c == '_') = true ∧
        ∀ d ∈ cs, isPlain d = true := by
  rw [isPlainIdentifier]
  cases name.toList with
  | nil => simp
  | cons c cs => simp [List.all_eq_true]

theorem isPlainIdentifier_append (h : isPlainIdentifier name = true)
    (hother : ∀ c ∈ other.toList, isPlain c = true) :
    isPlainIdentifier (name ++ other) = true := by
  obtain ⟨c, cs, hname, hfirst, hrest⟩ := isPlainIdentifier_iff.mp h
  refine isPlainIdentifier_iff.mpr ⟨c, cs ++ other.toList, ?_, hfirst, fun d hd => ?_⟩
  · rw [String.toList_append, hname, List.cons_append]
  · exact (List.mem_append.mp hd).elim (hrest d) (hother d)

/-- A leading letter makes an identifier of plain characters. -/
theorem isPlainIdentifier_leading (hne : cs ≠ [])
    (h : ascii.Spells (String.ofList (withLeadingLetter cs))) :
    isPlainIdentifier (String.ofList (withLeadingLetter cs)) = true := by
  obtain ⟨c, cs, rfl⟩ := List.exists_cons_of_ne_nil hne
  rw [isPlainIdentifier_iff]
  rw [Alphabet.Spells] at h
  simp only [String.toList_ofList] at h ⊢
  rw [withLeadingLetter] at h ⊢
  split_ifs at h ⊢ with hletter
  · obtain ⟨hc, hcs⟩ := List.forall_mem_cons.mp h
    rw [isAlphabetic, inClass, if_pos (toNat_lt_of_plain hc)] at hletter
    exact ⟨c, cs, rfl, by rw [hletter, Bool.true_or], hcs⟩
  · exact ⟨'_', c :: cs, rfl, by decide, (List.forall_mem_cons.mp h).2⟩

/-- Behind its first letter a reserved word has small letters only. -/
theorem lower_of_reserved (h : name ∈ pythonSet.reserved) :
    ∀ c ∈ name.toList.tail, isAsciiLower c = true := by
  have hall : pythonSet.reserved.all (fun word => word.toList.tail.all isAsciiLower) = true := by
    decide +kernel
  exact List.all_eq_true.mp (List.all_eq_true.mp hall name h)

/-- An identifier with a character behind its first one that is no small letter is legal. -/
theorem legal_of_mark (h : isPlainIdentifier name = true) (hmem : c ∈ name.toList.tail)
    (hc : isAsciiLower c = false) : Legal name := by
  refine ⟨h, fun hreserved => ?_⟩
  rw [lower_of_reserved hreserved c hmem] at hc
  cases hc

/-- So is an identifier with a text behind it that does not start with a small letter. -/
theorem legal_append (h : isPlainIdentifier name = true) (hother : other.toList = c :: cs)
    (hc : isAsciiLower c = false) (hplain : ∀ d ∈ other.toList, isPlain d = true) :
    Legal (name ++ other) := by
  refine legal_of_mark (c := c) (isPlainIdentifier_append h hplain) ?_ hc
  obtain ⟨d, ds, hname, -, -⟩ := isPlainIdentifier_iff.mp h
  rw [String.toList_append, hname, hother]
  simp

end Identifiers

section Spellings

variable {name column : String} {c : Char}

theorem worded_first {cs : List Char} (h : ∀ c ∈ cs, c.toNat < 128) :
    ∃ c w ws, wordsOrUnnamed cs = (c :: w) :: ws ∧ c.toNat < 128 ∧ isAlphanumeric c = true := by
  obtain ⟨c, w, ws, hwords⟩ := wordsOrUnnamed_cons cs
  have hworded : ascii.Worded (c :: w) :=
    Alphabet.worded_of_mem_wordsOrUnnamed h (hwords ▸ List.mem_cons_self ..)
  exact ⟨c, w, ws, hwords, hworded c (List.mem_cons_self ..)⟩

theorem asciiLower_ne_underscore (h : isAlphanumeric c = true) : asciiLower c ≠ '_' := by
  rw [asciiLower]
  split_ifs with hupper
  · have hc := isAsciiUpper_iff.mp hupper
    intro heq
    have hcode := congrArg Char.toNat heq
    rw [toNat_ofNat_of_lt (by omega)] at hcode
    have : ('_' : Char).toNat = 95 := rfl
    omega
  · rintro rfl
    exact absurd h (by decide)

theorem upperCamel_first (h : IsAscii name) :
    isPlainIdentifier (upperCamel name) = true ∧
      ∃ c cs, (upperCamel name).toList = c :: cs ∧ isAsciiLower c = false := by
  obtain ⟨c, w, ws, hwords, hascii, -⟩ := worded_first h
  have hchars : upperCamelChars name.toList =
      withLeadingLetter (asciiUpper c :: (lowerChars w ++ ws.flatMap capitalizeChars)) := by
    rw [upperCamelChars, hwords, List.flatMap_cons, capitalizeChars, upperChar]
    simp [hascii]
  have hspells := Alphabet.spells_upperCamel (A := ascii) h
  refine ⟨?_, upperCamel_cons name⟩
  rw [upperCamel, hchars] at hspells ⊢
  exact isPlainIdentifier_leading (List.cons_ne_nil _ _) hspells

theorem lowerCamel_letter (h : IsAscii name) :
    isPlainIdentifier (lowerCamel name) = true ∧ ∃ c ∈ (lowerCamel name).toList, c ≠ '_' := by
  obtain ⟨c, w, ws, hwords, hascii, hclass⟩ := worded_first h
  have himage : lowerChars (c :: w) = asciiLower c :: lowerAfter [c] w := by
    have hsigma : (c.toNat == 0x3A3) = false := by
      rw [beq_eq_false_iff_ne]
      omega
    rw [lowerChars, lowerAfter, hsigma, lowerChar]
    simp [hascii]
  have hchars : lowerCamelChars name.toList =
      withLeadingLetter (asciiLower c :: (lowerAfter [c] w ++ ws.flatMap capitalizeChars)) := by
    rw [lowerCamelChars, hwords]
    show withLeadingLetter (lowerChars (c :: w) ++ _) = _
    rw [himage, List.cons_append]
  have hspells := Alphabet.spells_lowerCamel (A := ascii) h
  rw [lowerCamel, hchars] at hspells ⊢
  refine ⟨isPlainIdentifier_leading (List.cons_ne_nil _ _) hspells, asciiLower c, ?_,
    asciiLower_ne_underscore hclass⟩
  rw [String.toList_ofList, withLeadingLetter]
  split_ifs
  · exact List.mem_cons_self ..
  · exact List.mem_cons_of_mem _ (List.mem_cons_self ..)

theorem isPlainIdentifier_enumCase (h : IsAscii name) :
    isPlainIdentifier (enumCase name) = true := by
  have hspells := Alphabet.spells_enumCase (A := ascii) h
  rw [enumCase, enumCaseChars] at hspells ⊢
  cases hwords : wordsOf name.toList with
  | nil => decide +kernel
  | cons w ws =>
      rw [hwords] at hspells
      refine isPlainIdentifier_leading ?_ hspells
      obtain ⟨c, w, rfl⟩ := List.exists_cons_of_ne_nil
        (ne_nil_of_mem_runs (hwords ▸ List.mem_cons_self ..))
      have hfirst : upperChars (c :: w) ≠ [] := by
        rw [upperChars, List.flatMap_cons]
        exact List.append_ne_nil_of_left_ne_nil (upperChar_ne_nil c) _
      cases ws with
      | nil => exact hfirst
      | cons v vs => exact List.append_ne_nil_of_left_ne_nil hfirst _

end Spellings

section Routes

variable {name column base raw : String}

theorem legal_unreserve (h : isPlainIdentifier name = true) :
    Legal ((pythonSet.normalizer false).unreserve name) := by
  rw [Normalizer.unreserve]
  split_ifs with hreserved
  · exact legal_append h (show ("_" : String).toList = '_' :: [] from rfl) (by decide)
      (List.all_eq_true.mp rfl)
  · exact ⟨h, fun hmem => hreserved (List.contains_iff_mem.mpr hmem)⟩

theorem legal_numberedName (k : Nat) (h : Legal base) : Legal (Scope.numberedName base k) := by
  have hdigits : ∀ c ∈ (toString k).toList, isAsciiDigit c = true := by
    intro c hc
    rw [show (toString k).toList = Nat.toDigits 10 k from Nat.toList_repr] at hc
    rw [isAsciiDigit_iff]
    exact isAsciiDigit_iff.mp (Nat.isDigit_of_mem_toDigits (by decide) (by decide) hc)
  have hne : (toString k).toList ≠ [] := by
    rw [show (toString k).toList = Nat.toDigits 10 k from Nat.toList_repr]
    exact Nat.toDigits_ne_nil
  obtain ⟨c, cs, hchars⟩ := List.exists_cons_of_ne_nil hne
  have hfirst := isAsciiDigit_iff.mp (hdigits c (hchars ▸ List.mem_cons_self ..))
  refine legal_append h.identifier hchars ?_ fun d hd => ?_
  · rw [Bool.eq_false_iff, ne_eq, isAsciiLower_iff]
    omega
  · rw [isPlain, hdigits d hd, Bool.or_true, Bool.true_or]

theorem legal_derivedName (scope : Scope) (h : Legal base) (hraw : IsAscii raw) :
    Legal (Scope.derivedName scope base raw) := by
  rcases Scope.derivedName_route scope base raw with heq | heq | ⟨k, heq⟩
  · rw [heq]
    exact h
  · rw [heq, String.append_assoc]
    have hbehind : ("_" ++ sanitized raw).toList = '_' :: (sanitized raw).toList := by
      rw [String.toList_append]
      rfl
    exact legal_append h.identifier hbehind (by decide)
      ((Alphabet.spells_of_plain rfl).append (Alphabet.spells_sanitized (A := ascii) hraw))
  · rw [heq]
    exact legal_numberedName k h

/-- The underscores at the end of a field name are not all of it. -/
theorem isPlainIdentifier_trimmed (h : isPlainIdentifier name = true)
    (hletter : ∃ c ∈ name.toList, c ≠ '_') :
    isPlainIdentifier (String.ofList (trimRightBy (· == '_') name.toList)) = true := by
  have hne : name.toList.rdropWhile (· == '_') ≠ [] := by
    obtain ⟨c, hc, hunderscore⟩ := hletter
    rw [ne_eq, List.rdropWhile_eq_nil_iff]
    exact fun hall => hunderscore (beq_iff_eq.mp (hall c hc))
  obtain ⟨c, cs, hname, hfirst, hrest⟩ := isPlainIdentifier_iff.mp h
  obtain ⟨d, ds, htrim⟩ := List.exists_cons_of_ne_nil hne
  have hkept := List.rdropWhile_prefix (· == '_') name.toList
  rw [htrim, hname, List.cons_prefix_cons] at hkept
  refine isPlainIdentifier_iff.mpr ⟨d, ds, ?_, hkept.1 ▸ hfirst, fun e he => ?_⟩
  · rw [String.toList_ofList]
    exact htrim
  · exact hrest e (hkept.2.subset he)

/-- A column name in front of a type name cannot be mistaken for a reserved word. -/
theorem legal_joined {typeName : String} (hcolumn : IsAscii column) (htype : IsAscii typeName) :
    Legal (String.ofList (trimRightBy (· == '_')
      ((pythonSet.normalizer false).fieldName column).toList) ++ upperCamel typeName) := by
  obtain ⟨hidentifier, c, hc, hletter⟩ := lowerCamel_letter hcolumn
  have hfield : ∃ c ∈ ((pythonSet.normalizer false).fieldName column).toList, c ≠ '_' := by
    refine ⟨c, ?_, hletter⟩
    rw [Normalizer.fieldName, Normalizer.unreserve]
    split_ifs
    · rw [String.toList_append]
      exact List.mem_append_left _ hc
    · exact hc
  obtain ⟨-, d, ds, hchars, hd⟩ := upperCamel_first htype
  exact legal_append (isPlainIdentifier_trimmed (legal_unreserve hidentifier).identifier hfield)
    hchars hd (Alphabet.spells_upperCamel (A := ascii) htype)

theorem legal_ascii (h : Legal name) : IsAscii name := by
  obtain ⟨c, cs, hname, hfirst, hrest⟩ := isPlainIdentifier_iff.mp h.identifier
  intro d hd
  rw [hname, List.mem_cons] at hd
  rcases hd with rfl | hd
  · refine toNat_lt_of_plain ?_
    rw [Bool.or_eq_true] at hfirst
    rw [isPlain]
    rcases hfirst with hletter | hunderscore
    · rw [hletter, Bool.true_or, Bool.true_or]
    · rw [hunderscore, Bool.or_true]
  · exact toNat_lt_of_plain (hrest d hd)

/-- Every route by which names are made from ASCII names keeps them legal. -/
theorem nameRule_legal : NameRule (pythonSet.normalizer false) IsAscii Legal where
  scopeKey htable hcolumn := by
    have hdot : IsAscii "." := by decide
    have hfront := Alphabet.Reads.append (A := ascii) htable hdot
    exact Alphabet.Reads.append (A := ascii) hfront hcolumn
  typeName htable hname := Except.ok.inj hname ▸ legal_unreserve (upperCamel_first htable).1
  enumTypeName htable hcolumn := by
    have hunderscore : IsAscii "_" := by decide
    have hjoined := Alphabet.Reads.append (A := ascii)
      (Alphabet.Reads.append (A := ascii) htable hunderscore) hcolumn
    exact legal_unreserve
      (isPlainIdentifier_append (upperCamel_first hjoined).1 (List.all_eq_true.mp rfl))
  fieldName hcolumn := legal_unreserve (lowerCamel_letter hcolumn).1
  caseName hvalue := legal_unreserve (isPlainIdentifier_enumCase hvalue)
  derivedName scope := legal_derivedName scope
  numberedName k := legal_numberedName k
  stem hcolumn hstem := reads_stem? (A := ascii) hcolumn hstem
  instanceName htype := legal_unreserve (lowerCamel_letter (legal_ascii htype)).1
  joined hcolumn htype := legal_joined hcolumn (legal_ascii htype)
  parent h := by
    obtain ⟨-, c, cs, hchars, hc⟩ := upperCamel_first (legal_ascii h)
    exact legal_append (by decide) hchars hc
      (Alphabet.spells_upperCamel (A := ascii) (legal_ascii h))

end Routes

section Runs

variable {a : Assembler} {tables : List Table}

/-- The normalizer of the built-in set for Python makes legal names only: the assembly of any tables
with ASCII names finishes, and every type name, field name, association name and case name of its
entities is legal. -/
theorem names_legal
    (hnormalizer : a.normalizer = pythonSet.normalizer false)
    (hraw : ∀ table ∈ tables, RawNames IsAscii table)
    (hsources : ∀ table ∈ tables, ∀ key ∈ table.foreignKeys, key.sourceColumns ≠ [])
    (names : List String) (failures : List (String × String)) :
    ∃ result, a.assemble names tables failures = .ok result ∧
      ∀ e ∈ result.entities, GoodNames Legal e := by
  have htotal : a.normalizer.singularize = false := by rw [hnormalizer]; rfl
  obtain ⟨result, h⟩ := Assembler.assemble_total (typeName_total htotal) hsources names failures
  have hrule : NameRule a.normalizer IsAscii Legal := by
    rw [hnormalizer]
    exact nameRule_legal
  exact ⟨result, h, fun e he => goodNames_of_mem hrule hraw h he⟩

/-- A table whose names are reserved words, marks or nothing. -/
def reservedTable : Table :=
  { name := "none"
    columns := [
      { name := "class", nativeType := "int" },
      { name := "", nativeType := "text" },
      { name := "?!", nativeType := "text" }]
    foreignKeys := [
      { name := "", sourceColumns := ["class"], targetTable := "none", targetColumns := ["class"] },
      { name := "", sourceColumns := ["?!"], targetTable := "7", targetColumns := [] }]
    valueLists := [{ column := "", values := ["from", "", "1"] }] }

theorem considered_reservedTable :
    consideredLists reservedTable = [{ column := "", values := ["from", "", "1"] }] := by
  simp [consideredLists, reservedTable, isDeclaredColumn]

theorem enumCases_reservedTable (table column : Option String) :
    (pythonSet.normalizer false).enumCases ["from", "", "1"] table column =
      .ok [("from", "FROM"), ("", "EMPTY_VALUE"), ("1", "_1")] := by cbv

theorem names_legal_of_reservedTable :
    ∃ result, ({ dialect := .mysql, normalizer := pythonSet.normalizer false } :
        Assembler).assemble ["none"] [reservedTable] [] = .ok result ∧
      ∃ e ∈ result.entities, e.name = "none" ∧ GoodNames Legal e := by
  have hraw : ∀ table ∈ [reservedTable], RawNames IsAscii table := by
    intro table htable
    rw [List.mem_singleton.mp htable]
    exact ⟨by decide, by decide, by decide, by decide, by decide⟩
  obtain ⟨result, h, hall⟩ := names_legal
    (a := { dialect := .mysql, normalizer := pythonSet.normalizer false }) rfl hraw (by decide)
    ["none"] []
  obtain ⟨e, he, hname⟩ := Assembler.exists_entity h
    (show keptTable? [reservedTable] reservedTable.name = some reservedTable from rfl) (by
    intro typeNames
    rw [Assembler.tablesByName_singleton, Assembler.extract, Assembler.tableEnums, enumTypes,
      considered_reservedTable]
    simp only [List.foldlM_cons, List.foldlM_nil, enumTypeOf, reservedTable,
      enumCases_reservedTable]
    exact ⟨_, rfl⟩)
  exact ⟨result, h, e, he, hname, hall e he⟩

end Runs

end Emit
end TableCast
