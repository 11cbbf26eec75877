import TableCast.Catalog.Mysql
import TableCast.Proofs.Schema.StaticDefaults

/-!
# Literal defaults without quotes

MySQL shows a literal default without its quotes, and marks expressions.  The default is put between
quotes again, so that it is a literal like those of other engines, and then read as one.  Whatever
its characters are, it comes back unchanged: a text that looks like a cast, a parenthesised
expression or a null value is harmless between quotes.

**Hypotheses.**  `PlainDefault` are the defaults that are shown without quotes: they are no null
value, do not open with the word for the current time, and do not stand between quotes.

**Results.**
* `startsWith_upper_iff`: which texts open with a word in any letter case.
* `defaultExpression_of_plain`: such a default is put between quotes.
* `plain_defaults_read`: it is read as itself, or as the integer that it spells.
-/

namespace TableCast
namespace Catalog
namespace Mysql

open Schema Text Number

/-- The text opens with a spelling of the word, in whatever letter case. -/
def OpensInAnyCase (word text : List Char) : Prop :=
  ∃ front rest, text = front ++ rest ∧ upperChars front = word

/-- A default that is shown without quotes, and the properties that are shown with it. -/
structure PlainDefault (v extra : String) : Prop where
  not_null : v ≠ "NULL"
  not_timestamp : ¬ OpensInAnyCase "CURRENT_TIMESTAMP".toList v.toList
  not_quoted : ∀ body, v.toList ≠ '\'' :: (body ++ ['\''])
  not_generated : ¬ "default_generated".toList <:+: extra.toList

section Openings

variable {word cs : List Char} {d : Char}

/-- A character whose upper case form has a `P` in it is a `p`: no entry of the table has one. -/
theorem upperChar_of_mem {c : Char} (h : 'P' ∈ upperChar c) : upperChar c = ['P'] := by
  have hentries : ∀ entry ∈ Table.upperSequence, ∀ n ∈ entry.2, Char.ofNat n ≠ 'P' := by
    decide +kernel
  have hlone : ∀ d : Char, 'P' ∈ [d] → [d] = ['P'] := fun d hd => by
    rw [List.mem_singleton.mp hd]
  simp only [upperChar] at h ⊢
  split_ifs at h ⊢
  · exact hlone _ h
  · cases hfind : Table.upperSequence.find? (·.1 == c.toNat) with
    | none =>
        rw [hfind] at h
        exact hlone _ h
    | some entry =>
        rw [hfind] at h
        obtain ⟨n, hn, heq⟩ := List.mem_map.mp h
        exact absurd heq (hentries entry (Array.mem_of_find?_eq_some hfind) n hn)

/-- Where the upper case form of a text starts with a word, the word ends with the form of a
character, not inside it. -/
theorem opensInAnyCase_of_start (hd : ∀ c, d ∈ upperChar c → upperChar c = [d])
    (h : word ++ [d] <+: upperChars cs) : OpensInAnyCase (word ++ [d]) cs := by
  induction cs generalizing word with
  | nil =>
      have hnil := List.prefix_nil.mp h
      exact absurd hnil (List.append_ne_nil_of_right_ne_nil _ (List.cons_ne_nil _ _))
  | cons c cs ih =>
      obtain ⟨rest, hrest⟩ := h
      have hsplit : (word ++ [d]) ++ rest = upperChar c ++ upperChars cs := hrest
      obtain ⟨more, hmore, -⟩ | ⟨more, hmore, htail⟩ := List.append_eq_append_iff.mp hsplit
      · -- The word ends inside the form of the first character, which is then the last sign itself.
        have hform := hd c (by rw [hmore]; simp)
        have hlength := congrArg List.length hmore
        rw [hform] at hlength
        have hmore_nil : more = [] := List.eq_nil_of_length_eq_zero (by simp at hlength; omega)
        refine ⟨[c], cs, rfl, ?_⟩
        rw [upperChars, List.flatMap_singleton, hmore, hmore_nil, List.append_nil]
      · rcases List.eq_nil_or_concat more with rfl | ⟨left, last, rfl⟩
        · refine ⟨[c], cs, rfl, ?_⟩
          rw [upperChars, List.flatMap_singleton, hmore, List.append_nil]
        · rw [List.concat_eq_append, ← List.append_assoc] at hmore
          obtain ⟨hword, hlast⟩ := List.append_inj' hmore rfl
          obtain rfl := (List.cons.inj hlast).1
          rw [List.concat_eq_append] at htail
          obtain ⟨front, back, rfl, hfront⟩ := ih ⟨rest, htail.symm⟩
          refine ⟨c :: front, back, rfl, ?_⟩
          rw [upperChars, List.flatMap_cons, ← upperChars, hfront, hword, List.append_assoc]

/-- The texts that open with the word for the current time, in any letter case. -/
theorem startsWith_upper_iff {v : String} :
    startsWith (upper v) "CURRENT_TIMESTAMP" = true ↔
      OpensInAnyCase "CURRENT_TIMESTAMP".toList v.toList := by
  have hupper : (upper v).toList = upperChars v.toList := String.toList_ofList
  rw [startsWith, List.isPrefixOf_iff_prefix, hupper]
  constructor
  · intro h
    exact @opensInAnyCase_of_start "CURRENT_TIMESTAM".toList v.toList 'P'
      (fun _ => upperChar_of_mem) h
  · rintro ⟨front, rest, hv, hfront⟩
    rw [hv, ← hfront, upperChars, upperChars, List.flatMap_append]
    exact List.prefix_append _ _

theorem occursIn_iff {part : List Char} : occursIn part cs = true ↔ part <:+: cs := by
  induction cs with
  | nil => rw [occursIn, List.isEmpty_iff, List.infix_nil]
  | cons c cs ih =>
      rw [occursIn, Bool.or_eq_true, List.isPrefixOf_iff_prefix, ih, List.infix_cons_iff]

end Openings

section Defaults

variable {v extra : String} {cs : List Char}

theorem isQuoted_iff : isQuoted cs = true ↔ ∃ body, cs = '\'' :: (body ++ ['\'']) := by
  constructor
  · intro h
    simp only [isQuoted, Bool.and_eq_true, decide_eq_true_eq, beq_iff_eq] at h
    obtain ⟨⟨hlength, hhead⟩, hlast⟩ := h
    cases cs with
    | nil => cases hhead
    | cons c rest =>
        obtain rfl := Option.some.inj hhead
        cases rest with
        | nil => simp at hlength
        | cons d rest =>
            rw [List.getLast?_cons_cons] at hlast
            exact ⟨(d :: rest).dropLast, by rw [List.dropLast_append_getLast? _ hlast]⟩
  · rintro ⟨body, rfl⟩
    rw [isQuoted, ← List.cons_append, List.getLast?_concat]
    simp

/-- Which defaults are plain can be tested. -/
theorem plainDefault_iff :
    PlainDefault v extra ↔
      (v == "NULL") = false ∧
      (contains extra "default_generated" || startsWith (upper v) "CURRENT_TIMESTAMP") = false ∧
      isQuoted v.toList = false := by
  rw [beq_eq_false_iff_ne, Bool.or_eq_false_iff, Bool.eq_false_iff, Bool.eq_false_iff,
    Bool.eq_false_iff, ne_eq, ne_eq, ne_eq, ne_eq, contains, occursIn_iff, startsWith_upper_iff,
    isQuoted_iff, not_exists]
  exact ⟨fun h => ⟨h.not_null, ⟨h.not_generated, h.not_timestamp⟩, h.not_quoted⟩,
    fun ⟨hnull, ⟨hgenerated, htimestamp⟩, hquoted⟩ => ⟨hnull, htimestamp, hquoted, hgenerated⟩⟩

instance : Decidable (PlainDefault v extra) := decidable_of_iff _ plainDefault_iff.symm

/-- **A plain default is put between quotes.** -/
theorem defaultExpression_of_plain (h : PlainDefault v extra) :
    defaultExpression (some v) extra = some (quoteLiteral v) := by
  obtain ⟨hnull, hexpression, hquoted⟩ := plainDefault_iff.mp h
  simp only [defaultExpression, hnull, hexpression, hquoted, Bool.false_eq_true, if_false]

/-- **Plain defaults reach the column unchanged.**  For a text, a point in time and an enum value
the static default is the default itself, whatever its characters are; and for an integer it is the
number that the default spells in decimal. -/
theorem plain_defaults_read (h : PlainDefault v extra) :
    (∀ t ∈ quotedTypes,
      staticDefault (defaultExpression (some v) extra) t = .ok (some (.text v))) ∧
    ∀ n, Spells v.toList n →
      staticDefault (defaultExpression (some v) extra) .integer = .ok (some (.int n)) := by
  rw [defaultExpression_of_plain h]
  constructor
  · intro t ht
    rw [staticDefault_quoted_iff ht]
    refine ⟨doubleQuotes v.toList, ?_, ?_⟩
    · rw [toList_quoteLiteral]
      exact .core
    · rw [undoubleQuotes_doubleQuotes, String.ofList_toList]
  · intro n hn
    refine staticDefault_integer hn (.inr ?_)
    have hquote : '\'' ∉ v.toList := fun hmem =>
      absurd (hn.forall_mem (p := (· != '\'')) (by decide) _ hmem) (by decide)
    rw [toList_quoteLiteral, doubleQuotes_of_not_mem hquote]
    exact .core

/-- A default with the signs of an expression, and one that is a number. -/
theorem plain_defaults_of_signs :
    PlainDefault "('it''s null')::text" "on update" ∧
    staticDefault (defaultExpression (some "('it''s null')::text") "on update") .enumerated =
      .ok (some (.text "('it''s null')::text")) ∧
    PlainDefault "-07" "" ∧ Spells "-07".toList (-7) ∧
    staticDefault (defaultExpression (some "-07") "") .integer = .ok (some (.int (-7))) := by
  have hsigns : PlainDefault "('it''s null')::text" "on update" := by decide +kernel
  have hnumber : PlainDefault "-07" "" := by decide +kernel
  have hspells : Spells "-07".toList (-7) :=
    @Spells.negative [0, 7] ⟨by decide, by decide, by decide⟩
  exact ⟨hsigns, (plain_defaults_read hsigns).1 _ (by decide), hnumber, hspells,
    (plain_defaults_read hnumber).2 _ hspells⟩

end Defaults

end Mysql
end Catalog
end TableCast
