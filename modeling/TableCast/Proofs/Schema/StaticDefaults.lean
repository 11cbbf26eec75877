import TableCast.Proofs.Number.IntegerSpellings
import TableCast.Proofs.Schema.Layers
import TableCast.Proofs.Text.DoubledQuotes

/-!
# Which defaults are static

A text, a point in time and a value of an enum have a static default when the core of the default
expression stands between quotes.  The core is then a literal, unless the literal that it starts
with ends before its last quote: an expression that starts with one literal and ends with another is
taken for a single one.

**Results.**
* `undoubleQuotes_doubleQuotes`, `quotedBody?_eq_some`: how a literal is read.
* `isBare_quoted`, `isBare_of_spells`: quoted texts and integers have no layers of their own.
* `staticDefault_quoted_iff`: the static defaults of texts.
* `static_texts_iff`: when a static default is the value of a literal, and when it is not.
* `static_text_of_concatenation`: two literals that are taken for one.
* `static_defaults_of_layered`: layers around a literal or an integer do not change its value.
-/

namespace TableCast
namespace Schema

open Text Number

/-- The types whose static values are quoted texts. -/
def quotedTypes : List SemanticType :=
  [.text, .uuid, .opaqueText, .date, .datetime, .time, .enumerated]

section Literals

variable {cs body : List Char} {c : Char}

theorem undoubleQuotes_pair (cs : List Char) :
    undoubleQuotes ('\'' :: '\'' :: cs) = '\'' :: undoubleQuotes cs := by
  have hprefix : ['\'', '\''].isPrefixOf ('\'' :: '\'' :: cs) = true := rfl
  rw [undoubleQuotes, replaceAll, replaceFrom, hprefix]
  rfl

theorem undoubleQuotes_of_ne (h : c ≠ '\'') (cs : List Char) :
    undoubleQuotes (c :: cs) = c :: undoubleQuotes cs := by
  have hprefix : ['\'', '\''].isPrefixOf (c :: cs) = false := by
    rw [List.isPrefixOf, beq_eq_false_iff_ne.mpr h.symm, Bool.false_and]
  rw [undoubleQuotes, replaceAll, replaceFrom, hprefix, Bool.false_and,
    if_neg Bool.false_ne_true]
  rfl

/-- A value is read back from its literal. -/
theorem undoubleQuotes_doubleQuotes (cs : List Char) : undoubleQuotes (doubleQuotes cs) = cs := by
  induction cs with
  | nil => rfl
  | cons c cs ih =>
      by_cases hc : c = '\''
      · obtain rfl := hc
        rw [doubleQuotes_quote, undoubleQuotes_pair, ih]
      · rw [doubleQuotes_of_ne hc, undoubleQuotes_of_ne hc, ih]

/-- A text without quotes is its own value. -/
theorem doubleQuotes_of_not_mem (h : '\'' ∉ cs) : doubleQuotes cs = cs := by
  induction cs with
  | nil => rfl
  | cons c cs ih =>
      rw [List.mem_cons, not_or] at h
      rw [doubleQuotes_of_ne (Ne.symm h.1), ih h.2]

theorem quotedBody?_eq_some : quotedBody? cs = some body ↔ cs = '\'' :: (body ++ ['\'']) := by
  constructor
  · intro h
    rw [quotedBody?.eq_def] at h
    split at h
    · next rest =>
        split_ifs at h with hlast
        obtain rfl := Option.some.inj h
        rw [List.dropLast_append_getLast? _ (by simpa using hlast)]
    · cases h
  · rintro rfl
    simp [quotedBody?]

/-- A text between quotes has no layers of its own. -/
theorem isBare_quoted (body : List Char) : IsBare ('\'' :: (body ++ ['\''])) := by
  constructor
  · refine trimBy_of_ends (fun c hc => ?_) fun c hc => ?_
    · obtain rfl := Option.some.inj hc
      decide
    · rw [← List.cons_append, List.getLast?_concat] at hc
      obtain rfl := Option.some.inj hc
      decide
  · rw [unwrapOnce?, ← List.cons_append, beforeCast?_eq_none (by decide)]
    rfl

/-- Neither has an integer. -/
theorem isBare_of_spells {n : Int} (h : Spells cs n) : IsBare cs := by
  have hsigns : ∀ c ∈ cs, (c != ':' && c != '(') = true := h.forall_mem (by decide)
  refine ⟨h.trimBlanks, Option.eq_none_iff_forall_ne_some.mpr fun inner hstep => ?_⟩
  rcases unwrapOnce?_eq_some hstep with ⟨front, type, rfl, -, -, -⟩ | ⟨body, rfl, -⟩
  · exact absurd (hsigns ':' (List.mem_append_right _ (List.mem_cons_self ..))) (by decide)
  · exact absurd (hsigns '(' (List.mem_cons_self ..)) (by decide)

end Literals

section Values

variable {t : SemanticType} {e : String} {text body : List Char} {c : Char}

theorem not_null (hc : upperChar c = [c]) (hne : c ≠ 'N') (rest : List Char) :
    (String.ofList (upperChars (c :: rest)) == "NULL") = false := by
  rw [beq_eq_false_iff_ne]
  intro h
  have hlist := congrArg String.toList h
  rw [String.toList_ofList, upperChars, List.flatMap_cons, hc] at hlist
  exact hne (List.cons.inj hlist).1

/-- The static value of an expression that is not the null value. -/
theorem staticDefault_of_core {rest : List Char} (hcore : unwrap e.toList = c :: rest)
    (hc : upperChar c = [c]) (hne : c ≠ 'N') (t : SemanticType) :
    staticDefault (some e) t = literalValue (c :: rest) t := by
  simp only [staticDefault, hcore, List.isEmpty_cons, not_null hc hne, Bool.or_false,
    Bool.false_eq_true, if_false]

theorem literalValue_of_quotedTypes (ht : t ∈ quotedTypes) (text : List Char) :
    literalValue text t =
      .ok ((quotedBody? text).map fun body => .text (String.ofList (undoubleQuotes body))) := by
  simp only [quotedTypes, List.mem_cons, List.not_mem_nil, or_false] at ht
  cases hquoted : quotedBody? text with
  | none => rcases ht with rfl | rfl | rfl | rfl | rfl | rfl | rfl <;> simp [literalValue, hquoted]
  | some body =>
      rcases ht with rfl | rfl | rfl | rfl | rfl | rfl | rfl <;> simp [literalValue, hquoted]

/-- The static default of a text is what stands between the quotes of the core. -/
theorem staticDefault_of_quotedTypes (ht : t ∈ quotedTypes) (e : String) :
    staticDefault (some e) t = .ok ((quotedBody? (unwrap e.toList)).map fun body =>
      .text (String.ofList (undoubleQuotes body))) := by
  cases hquoted : quotedBody? (unwrap e.toList) with
  | none =>
      simp only [staticDefault, literalValue_of_quotedTypes ht, hquoted, Option.map_none, ite_self]
  | some body =>
      have hcore := quotedBody?_eq_some.mp hquoted
      rw [staticDefault_of_core hcore (by decide) (by decide), literalValue_of_quotedTypes ht,
        ← hcore, hquoted]

/-- The static defaults of texts: the core stands between quotes. -/
theorem staticDefault_quoted_iff (ht : t ∈ quotedTypes) {v : String} :
    staticDefault (some e) t = .ok (some (.text v)) ↔
      ∃ body, Layered ('\'' :: (body ++ ['\''])) e.toList ∧
        v = String.ofList (undoubleQuotes body) := by
  rw [staticDefault_of_quotedTypes ht, Except.ok.injEq, Option.map_eq_some_iff]
  refine exists_congr fun body => ?_
  rw [quotedBody?_eq_some, layered_iff_of_bare (isBare_quoted body), Value.text.injEq,
    eq_comm (a := v)]

end Values

section Integers

variable {e : String} {text : List Char} {n : Int}

theorem isIntegerText_of_spells (h : Spells text n) : isIntegerText text = true := by
  have hend : withoutLineEnd text = text := by
    rw [withoutLineEnd, if_neg]
    intro hlast
    have hmem := List.mem_of_getLast? (beq_iff_eq.mp hlast)
    exact absurd (h.forall_mem (p := (· != '\n')) (by decide) _ hmem) (by decide)
  obtain ⟨negative, digits, hdigits, hsplit, -⟩ := h.exists_splitSign
  have hall : (digitChars digits).all isDecimalChar = true := by
    refine List.all_eq_true.mpr fun c hc => ?_
    obtain ⟨d, hd, rfl⟩ := mem_digitChars hdigits.lt_ten hc
    rw [isDecimalChar, decimalValue?_digitChar hd]
    rfl
  have hne : (digitChars digits).isEmpty = false := by
    rw [List.isEmpty_eq_false_iff]
    exact fun hnil => hdigits.ne_nil (List.map_eq_nil_iff.mp hnil)
  simp only [isIntegerText, hend, hsplit, hne, hall, Bool.not_false, Bool.and_self]

/-- What stands between quotes, or the text itself, is read as an integer. -/
theorem literalValue_integer {literal : List Char}
    (h : quotedBody? text = none ∧ literal = text ∨
      ∃ body, quotedBody? text = some body ∧ literal = undoubleQuotes body) :
    literalValue text .integer =
      if isIntegerText literal then (readInteger literal).map fun n => some (.int n)
      else .ok none := by
  rcases h with ⟨hquoted, rfl⟩ | ⟨body, hquoted, rfl⟩
  · simp only [literalValue, hquoted]
  · simp only [literalValue, hquoted]

/-- An integer in decimal, quoted or not, is the static default of a number. -/
theorem staticDefault_integer (h : Spells text n)
    (hlayered : Layered text e.toList ∨ Layered ('\'' :: (text ++ ['\''])) e.toList) :
    staticDefault (some e) .integer = .ok (some (.int n)) := by
  have hquote : '\'' ∉ text := fun hmem =>
    absurd (h.forall_mem (p := (· != '\'')) (by decide) _ hmem) (by decide)
  have hvalue : (if isIntegerText text then (readInteger text).map fun n => some (Value.int n)
      else .ok none) = .ok (some (.int n)) := by
    rw [if_pos (isIntegerText_of_spells h), readInteger_of_spells h]
    rfl
  rcases hlayered with hlayered | hlayered
  · have hcore := (layered_iff_of_bare (isBare_of_spells h)).mp hlayered
    have hunquoted : quotedBody? text = none := by
      refine Option.eq_none_iff_forall_ne_some.mpr fun body hbody => hquote ?_
      rw [quotedBody?_eq_some.mp hbody]
      exact List.mem_cons_self ..
    obtain ⟨c, rest, htext⟩ := List.exists_cons_of_ne_nil h.ne_nil
    have hc := h.forall_mem (p := fun c => upperChar c == [c] && c != 'N') (by decide) c
      (htext ▸ List.mem_cons_self ..)
    rw [Bool.and_eq_true, beq_iff_eq, bne_iff_ne] at hc
    rw [staticDefault_of_core (hcore.trans htext) hc.1 hc.2, ← htext,
      literalValue_integer (.inl ⟨hunquoted, rfl⟩), hvalue]
  · have hcore := (layered_iff_of_bare (isBare_quoted text)).mp hlayered
    have hliteral : text = undoubleQuotes text := by
      conv_rhs => rw [← doubleQuotes_of_not_mem hquote]
      exact (undoubleQuotes_doubleQuotes text).symm
    rw [staticDefault_of_core hcore (by decide) (by decide),
      literalValue_integer (.inr ⟨text, quotedBody?_eq_some.mpr rfl, hliteral⟩), hvalue]

end Integers

section Results

/-- The expression is the literal of a value with layers around it. -/
def IsLiteral (e v : String) : Prop := Layered (quoteLiteral v).toList e.toList

/-- Without its layers the expression stands between quotes, but the literal that it starts with
ends before the last one. -/
def OutrunsLiteral (e : String) (body : List Char) : Prop :=
  ClosesEarly body ∧ Layered ('\'' :: (body ++ ['\''])) e.toList

variable {t : SemanticType} {e v : String} {body : List Char}

theorem isLiteral_iff :
    IsLiteral e v ↔ unwrap e.toList = '\'' :: (doubleQuotes v.toList ++ ['\'']) := by
  rw [IsLiteral, toList_quoteLiteral, layered_iff_of_bare (isBare_quoted _)]

/-- An expression is not both. -/
theorem not_outrunsLiteral (h : IsLiteral e v) : ¬ OutrunsLiteral e body := by
  rintro ⟨hearly, hlayered⟩
  rw [layered_iff_of_bare (isBare_quoted _), isLiteral_iff.mp h] at hlayered
  rw [← List.append_cancel_right (List.cons.inj hlayered).2] at hearly
  exact not_closesEarly_doubleQuotes v.toList hearly

/-- **Which static defaults are values of literals.**  A text has a static default exactly when the
expression is a literal with layers around it, and then it is the value of the literal, or when the
expression only starts with a literal and ends with another quote; and never both.  Every other
expression gives none. -/
theorem static_texts_iff (ht : t ∈ quotedTypes) (e : String) :
    (∀ v, staticDefault (some e) t = .ok (some (.text v)) ↔
      IsLiteral e v ∨ ∃ body, OutrunsLiteral e body ∧ v = String.ofList (undoubleQuotes body)) ∧
    (∀ v body, ¬ (IsLiteral e v ∧ OutrunsLiteral e body)) ∧
    (staticDefault (some e) t = .ok none ∨
      ∃ v, staticDefault (some e) t = .ok (some (.text v))) := by
  refine ⟨fun v => ?_, fun v body h => not_outrunsLiteral h.1 h.2, ?_⟩
  · rw [staticDefault_quoted_iff ht]
    constructor
    · rintro ⟨body, hlayered, rfl⟩
      rcases exists_doubled_or_closesEarly body with ⟨value, rfl⟩ | hearly
      · rw [undoubleQuotes_doubleQuotes]
        left
        rw [IsLiteral, toList_quoteLiteral, String.toList_ofList]
        exact hlayered
      · exact .inr ⟨body, ⟨hearly, hlayered⟩, rfl⟩
    · rintro (hliteral | ⟨body, ⟨-, hlayered⟩, rfl⟩)
      · refine ⟨doubleQuotes v.toList, ?_, ?_⟩
        · rwa [IsLiteral, toList_quoteLiteral] at hliteral
        · rw [undoubleQuotes_doubleQuotes, String.ofList_toList]
      · exact ⟨body, hlayered, rfl⟩
  · rw [staticDefault_of_quotedTypes ht]
    cases quotedBody? (unwrap e.toList) with
    | none => exact .inl rfl
    | some body => exact .inr ⟨_, rfl⟩

/-- The static default of a literal with a cast in parentheses. -/
theorem static_text_of_cast :
    SemanticType.date ∈ quotedTypes ∧
    staticDefault (some "('it''s' :: text)") .date = .ok (some (.text "it's")) :=
  ⟨by decide, ((static_texts_iff (by decide) _).1 _).mpr
    (.inl (isLiteral_iff.mpr (by decide +kernel)))⟩

/-- Two literals that the database puts together are taken for a single one. -/
theorem static_text_of_concatenation :
    SemanticType.text ∈ quotedTypes ∧
    staticDefault (some "'a' || 'b'") .text = .ok (some (.text "a' || 'b")) ∧
    ∀ v, ¬ IsLiteral "'a' || 'b'" v := by
  have hlayered : Layered ('\'' :: ("a' || 'b".toList ++ ['\''])) "'a' || 'b'".toList :=
    (layered_iff_of_bare (isBare_quoted _)).mpr (by decide +kernel)
  have hearly : ClosesEarly "a' || 'b".toList := ⟨['a'], " || 'b".toList, by decide, by decide⟩
  refine ⟨by decide, ?_, fun v h => not_outrunsLiteral h ⟨hearly, hlayered⟩⟩
  exact (staticDefault_quoted_iff (by decide)).mpr ⟨_, hlayered, by decide +kernel⟩

/-- **Static defaults of wrapped expressions.**  Every layer that is taken away makes the expression
shorter, so that in the end none is left; and layers around a literal, or around an integer in
decimal with quotes or without them, do not change the static default. -/
theorem static_defaults_of_layered :
    (∀ cs inner, unwrapOnce? cs = some inner → inner.length < cs.length) ∧
    (∀ cs, IsBare (unwrap cs) ∧ Layered (unwrap cs) cs) ∧
    (∀ t ∈ quotedTypes, ∀ e v, Layered (quoteLiteral v).toList e.toList →
      staticDefault (some e) t = .ok (some (.text v))) ∧
    ∀ (core e : String) (n : Int), Spells core.toList n →
      Layered core.toList e.toList ∨ Layered (quoteLiteral core).toList e.toList →
        staticDefault (some e) .integer = .ok (some (.int n)) := by
  refine ⟨fun cs inner h => length_unwrapOnce?_lt h,
    fun cs => ⟨isBare_unwrap cs, layered_unwrap cs⟩, fun t ht e v h => ?_,
    fun core e n hspells h => ?_⟩
  · rw [toList_quoteLiteral] at h
    rw [staticDefault_quoted_iff ht]
    exact ⟨_, h, by rw [undoubleQuotes_doubleQuotes, String.ofList_toList]⟩
  · refine staticDefault_integer hspells (h.imp_right fun hquoted => ?_)
    have hquote : '\'' ∉ core.toList := fun hmem =>
      absurd (hspells.forall_mem (p := (· != '\'')) (by decide) _ hmem) (by decide)
    rwa [toList_quoteLiteral, doubleQuotes_of_not_mem hquote] at hquoted

/-- A literal that holds the signs of layers itself, and an integer, each with several layers. -/
theorem static_defaults_of_nested :
    IsLiteral "( ('it''s (a::b)' :: text )::\"My Type\"[]\n)" "it's (a::b)" ∧
    staticDefault (some "( ('it''s (a::b)' :: text )::\"My Type\"[]\n)") .enumerated =
      .ok (some (.text "it's (a::b)")) ∧
    Spells "-07".toList (-7) ∧
    staticDefault (some "('-07'::int4)") .integer = .ok (some (.int (-7))) := by
  obtain ⟨-, -, htexts, hintegers⟩ := static_defaults_of_layered
  have hliteral : IsLiteral "( ('it''s (a::b)' :: text )::\"My Type\"[]\n)" "it's (a::b)" :=
    isLiteral_iff.mpr (by decide +kernel)
  have hspells : Spells "-07".toList (-7) :=
    @Spells.negative [0, 7] ⟨by decide, by decide, by decide⟩
  refine ⟨hliteral, htexts _ (by decide) _ _ hliteral, hspells, hintegers _ _ _ hspells (.inr ?_)⟩
  exact isLiteral_iff.mpr (by decide +kernel)

end Results

end Schema
end TableCast
