import TableCast.Proofs.Fallible
import TableCast.Proofs.Text.OneLine
import TableCast.Text.QuotedList

/-!
# Which texts are lists of literals

The literals of a list stand one behind the other with commas between them.  Each stands in quotes
or without them, blanks may stand in front of it, and nothing but line ends may stand behind the
last one.  This is a grammar of texts; the reading of a list follows it character by character and
keeps a place in it.

A line end that stands between two literals is not part of the grammar.

**Grammar.**  `Literal` relates the text of a literal to its value, `Lists` a text to the values of
its literals.

**Results.**
* `foldlM_literal`, `foldlM_lists`: the reading of a text that follows the grammar.
* `follows`: a text that can be read follows it, from every place on.
* `read_eq_ok_iff`: both together, the lists that can be read and their values.
* `isList_of_unbroken`: a text on one line is a list.
-/

namespace TableCast
namespace Text
namespace QuotedList

open Fallible

/-- The characters that may stand in a literal outside of quotes. -/
def isBare (c : Char) : Bool := c != ',' && !isBreak c

/-- A literal as it stands in a list, and its value. -/
inductive Literal : List Char → List Char → Prop
  /-- Without quotes, it starts neither with a blank nor with a quote. -/
  | bare {cs : List Char} (hfirst : cs.head? ≠ some ' ' ∧ cs.head? ≠ some '\'')
      (hbare : ∀ c ∈ cs, isBare c = true) : Literal cs cs
  /-- In quotes, with the quotes of the body written twice; more may stand behind the last one. -/
  | quoted {body tail : List Char} (hfirst : tail.head? ≠ some '\'')
      (hbare : ∀ c ∈ tail, isBare c = true) :
      Literal ('\'' :: (doubleQuotes body ++ '\'' :: tail)) (body ++ tail)

/-- A list of literals, and their values. -/
inductive Lists : List Char → List (List Char) → Prop
  | blank {cs : List Char} {values : List (List Char)} (hrest : Lists cs values) :
      Lists (' ' :: cs) values
  /-- Line ends may stand behind the last literal. -/
  | last {text value ends : List Char} (hliteral : Literal text value)
      (hends : ∀ c ∈ ends, isBreak c = true) : Lists (text ++ ends) [value]
  /-- The quotes of the last literal may stay open. -/
  | unclosed (body : List Char) : Lists ('\'' :: doubleQuotes body) [body]
  | more {text value rest : List Char} {values : List (List Char)}
      (hliteral : Literal text value) (hrest : Lists rest values) :
      Lists (text ++ ',' :: rest) (value :: values)

/-- The values are not longer than literals may be. -/
def Short (values : List (List Char)) : Prop := ∀ v ∈ values, v.length ≤ maxLiteralLength

/-- A list that is being read, at a place of its grammar. -/
def progressAt (place : Place) (literal : List Char) (done : List (List Char)) : Progress :=
  { place := place, literal := literal, size := literal.length, done := done }

/-- A literal may end here. -/
def Place.mayEnd (place : Place) : Prop :=
  place = .beforeLiteral ∨ place = .inPlain ∨ place = .afterQuote

section Steps

variable {place next : Place} {literal : List Char} {done : List (List Char)} {c : Char}

theorem add_progressAt :
    (progressAt place literal done).add next c =
      if maxLiteralLength ≤ literal.length then .error .tooLong
      else .ok (progressAt next (c :: literal) done) :=
  rfl

theorem add_progressAt_of_lt (h : literal.length < maxLiteralLength) :
    (progressAt place literal done).add next c = .ok (progressAt next (c :: literal) done) := by
  rw [add_progressAt, if_neg (Nat.not_le.mpr h)]

theorem lt_of_add_progressAt {p : Progress}
    (h : (progressAt place literal done).add next c = .ok p) :
    literal.length < maxLiteralLength ∧ p = progressAt next (c :: literal) done := by
  rw [add_progressAt] at h
  split_ifs at h with hlong
  exact ⟨Nat.lt_of_not_le hlong, (Except.ok.inj h).symm⟩

theorem isBare_iff : isBare c = true ↔ c ≠ ',' ∧ isBreak c = false := by
  rw [isBare, Bool.and_eq_true, bne_iff_ne, Bool.not_eq_true']

theorem step_bare (h : isBare c = true) :
    step (progressAt .inPlain literal done) c =
      (progressAt .inPlain literal done).add .inPlain c := by
  obtain ⟨hcomma, hbreak⟩ := isBare_iff.mp h
  rw [isBreak] at hbreak
  simp [step, progressAt, hbreak, hcomma]

theorem step_quoted (h : c ≠ '\'') :
    step (progressAt .inQuoted literal done) c =
      (progressAt .inQuoted literal done).add .inQuoted c := by
  simp [step, progressAt, h]

theorem step_quote :
    step (progressAt .inQuoted literal done) '\'' = .ok (progressAt .afterQuote literal done) :=
  rfl

theorem step_afterQuote (hquote : c ≠ '\'') (hbare : isBare c = true) :
    step (progressAt .afterQuote literal done) c =
      (progressAt .afterQuote literal done).add .inPlain c := by
  obtain ⟨hcomma, hbreak⟩ := isBare_iff.mp hbare
  rw [isBreak] at hbreak
  simp [step, progressAt, hbreak, hcomma, hquote]

theorem step_beforeLiteral (hblank : c ≠ ' ') (hquote : c ≠ '\'') (hbare : isBare c = true) :
    step (progressAt .beforeLiteral literal done) c =
      (progressAt .beforeLiteral literal done).add .inPlain c := by
  obtain ⟨hcomma, hbreak⟩ := isBare_iff.mp hbare
  rw [isBreak] at hbreak
  simp [step, beforeStep, progressAt, hbreak, hcomma, hquote, hblank]

theorem step_comma (h : place.mayEnd) :
    step (progressAt place literal done) ',' =
      .ok (progressAt .beforeLiteral [] (literal.reverse :: done)) := by
  rcases h with rfl | rfl | rfl <;> rfl

theorem step_break (h : place.mayEnd) (hbreak : isBreak c = true) :
    step (progressAt place literal done) c =
      .ok (progressAt .afterLine [] (literal.reverse :: done)) := by
  have hquote : c ≠ '\'' := by
    rintro rfl
    cases hbreak
  have hcomma : c ≠ ',' := by
    rintro rfl
    cases hbreak
  rw [isBreak] at hbreak
  rcases h with rfl | rfl | rfl <;>
    simp [step, beforeStep, progressAt, Progress.save, hbreak, hquote, hcomma]

/-- Behind the end of the line nothing may come but line ends. -/
theorem step_afterLine :
    step (progressAt .afterLine literal done) c =
      if isBreak c then .ok (progressAt .afterLine literal done) else .error .lineBreak :=
  rfl

theorem finish_of_mayEnd (h : place.mayEnd) :
    finish (progressAt place literal done) = done.reverse ++ [literal.reverse] := by
  rcases h with rfl | rfl | rfl <;> simp [finish, progressAt, Progress.save]

end Steps

section Grammar

variable {literal cs text value : List Char} {done values : List (List Char)} {p : Progress}

/-- Characters outside of quotes are added to the literal. -/
theorem foldlM_bare
    (hbare : ∀ c ∈ cs, isBare c = true) (hshort : literal.length + cs.length ≤ maxLiteralLength) :
    cs.foldlM step (progressAt .inPlain literal done) =
      .ok (progressAt .inPlain (cs.reverse ++ literal) done) := by
  induction cs generalizing literal with
  | nil => rfl
  | cons c cs ih =>
      obtain ⟨hc, hcs⟩ := List.forall_mem_cons.mp hbare
      rw [List.length_cons] at hshort
      rw [List.foldlM_cons, step_bare hc, add_progressAt_of_lt (by omega)]
      show cs.foldlM step (progressAt .inPlain (c :: literal) done) = _
      rw [ih hcs (by rw [List.length_cons]; omega), List.reverse_cons, List.append_assoc]
      rfl

/-- And so are the characters of a quoted body. -/
theorem foldlM_quoted
    (hshort : literal.length + cs.length ≤ maxLiteralLength) :
    (doubleQuotes cs).foldlM step (progressAt .inQuoted literal done) =
      .ok (progressAt .inQuoted (cs.reverse ++ literal) done) := by
  induction cs generalizing literal with
  | nil => rfl
  | cons c cs ih =>
      rw [List.length_cons] at hshort
      have hadd : ∀ place, (progressAt place literal done).add .inQuoted c =
          .ok (progressAt .inQuoted (c :: literal) done) := fun _ =>
        add_progressAt_of_lt (by omega)
      have hrest := @ih (c :: literal) (by rw [List.length_cons]; omega)
      rw [List.reverse_cons, List.append_assoc, List.singleton_append, ← hrest, doubleQuotes]
      split_ifs with hc
      · -- The first of two quotes ends the body, the second one opens it again.
        obtain rfl := beq_iff_eq.mp hc
        rw [List.foldlM_cons, step_quote]
        show (step (progressAt .afterQuote literal done) '\'' >>= _) = _
        rw [show step (progressAt .afterQuote literal done) '\'' =
          (progressAt .afterQuote literal done).add .inQuoted '\'' from rfl, hadd]
        rfl
      · rw [List.foldlM_cons, step_quoted (fun heq => hc (beq_iff_eq.mpr heq)), hadd]
        rfl

/-- A literal is read to a place where it may end. -/
theorem foldlM_literal (done : List (List Char))
    (h : Literal text value) (hshort : value.length ≤ maxLiteralLength) :
    ∃ place, place.mayEnd ∧
      text.foldlM step (progressAt .beforeLiteral [] done) =
        .ok (progressAt place value.reverse done) := by
  cases h with
  | bare hfirst hbare =>
      cases text with
      | nil => exact ⟨.beforeLiteral, .inl rfl, rfl⟩
      | cons c cs =>
          obtain ⟨hc, hcs⟩ := List.forall_mem_cons.mp hbare
          rw [List.length_cons] at hshort
          have hblank : c ≠ ' ' := fun heq => hfirst.1 (by rw [heq]; rfl)
          have hquote : c ≠ '\'' := fun heq => hfirst.2 (by rw [heq]; rfl)
          refine ⟨.inPlain, .inr (.inl rfl), ?_⟩
          rw [List.foldlM_cons, step_beforeLiteral hblank hquote hc,
            add_progressAt_of_lt (Nat.lt_of_lt_of_le (Nat.succ_pos _) hshort)]
          show cs.foldlM step (progressAt .inPlain [c] done) = _
          rw [foldlM_bare hcs (by rw [List.length_singleton]; omega), List.reverse_cons]
  | @quoted body tail hfirst hbare =>
      rw [List.length_append] at hshort
      have hbody : ('\'' :: (doubleQuotes body ++ '\'' :: tail)).foldlM step
          (progressAt .beforeLiteral [] done) =
            tail.foldlM step (progressAt .afterQuote body.reverse done) := by
        show (doubleQuotes body ++ '\'' :: tail).foldlM step (progressAt .inQuoted [] done) = _
        rw [List.foldlM_append, foldlM_quoted (by rw [List.length_nil]; omega), List.append_nil]
        rfl
      rw [hbody]
      cases tail with
      | nil =>
          rw [List.append_nil]
          exact ⟨.afterQuote, .inr (.inr rfl), rfl⟩
      | cons c cs =>
          obtain ⟨hc, hcs⟩ := List.forall_mem_cons.mp hbare
          rw [List.length_cons] at hshort
          have hquote : c ≠ '\'' := fun heq => hfirst (by rw [heq]; rfl)
          refine ⟨.inPlain, .inr (.inl rfl), ?_⟩
          rw [List.foldlM_cons, step_afterQuote hquote hc,
            add_progressAt_of_lt (by rw [List.length_reverse]; omega)]
          show cs.foldlM step (progressAt .inPlain (c :: body.reverse) done) = _
          rw [foldlM_bare hcs (by rw [List.length_cons, List.length_reverse]; omega),
            List.reverse_append, List.reverse_cons, List.append_assoc]
          rfl

theorem foldlM_breaks (hbreaks : ∀ c ∈ cs, isBreak c = true) :
    cs.foldlM step (progressAt .afterLine literal done) =
      .ok (progressAt .afterLine literal done) := by
  induction cs with
  | nil => rfl
  | cons c cs ih =>
      obtain ⟨hc, hcs⟩ := List.forall_mem_cons.mp hbreaks
      rw [List.foldlM_cons, step_afterLine, if_pos hc]
      exact ih hcs

/-- A text that follows the grammar is read, with its values. -/
theorem foldlM_lists (h : Lists cs values) (hshort : Short values) :
    ∃ p, cs.foldlM step (progressAt .beforeLiteral [] done) = .ok p ∧
      finish p = done.reverse ++ values := by
  induction h generalizing done with
  | blank _ ih => exact ih hshort
  | @last text value ends hliteral hends =>
      obtain ⟨place, hplace, hread⟩ :=
        foldlM_literal done hliteral (hshort value (List.mem_singleton_self _))
      rw [List.foldlM_append, hread]
      cases ends with
      | nil =>
          refine ⟨_, rfl, ?_⟩
          rw [finish_of_mayEnd hplace, List.reverse_reverse]
      | cons c ends =>
          obtain ⟨hc, hrest⟩ := List.forall_mem_cons.mp hends
          refine ⟨progressAt .afterLine [] (value :: done), ?_, List.reverse_cons⟩
          show (c :: ends).foldlM step (progressAt place value.reverse done) = _
          rw [List.foldlM_cons, step_break hplace hc, List.reverse_reverse]
          exact foldlM_breaks hrest
  | unclosed body =>
      have hbody := hshort body (List.mem_singleton_self _)
      refine ⟨progressAt .inQuoted (body.reverse ++ []) done, ?_, ?_⟩
      · show (doubleQuotes body).foldlM step (progressAt .inQuoted [] done) = _
        exact foldlM_quoted (by rw [List.length_nil]; omega)
      · simp [finish, progressAt, Progress.save]
  | @more text value rest values hliteral _ ih =>
      obtain ⟨hvalue, hvalues⟩ := List.forall_mem_cons.mp hshort
      obtain ⟨place, hplace, hread⟩ := foldlM_literal done hliteral hvalue
      obtain ⟨p, hrest, hfinish⟩ := @ih (value :: done) hvalues
      refine ⟨p, ?_, by rw [hfinish, List.reverse_cons, List.append_assoc]; rfl⟩
      rw [List.foldlM_append, hread]
      show (',' :: rest).foldlM step (progressAt place value.reverse done) = _
      rw [List.foldlM_cons, step_comma hplace, List.reverse_reverse]
      exact hrest

end Grammar

/-- What may stand behind a literal, and the values of the list from this literal on. -/
inductive Behind (value : List Char) : List Char → List (List Char) → Prop
  | ends {cs : List Char} (hends : ∀ c ∈ cs, isBreak c = true) : Behind value cs [value]
  | comma {cs : List Char} {values : List (List Char)} (hrest : Lists cs values) :
      Behind value (',' :: cs) (value :: values)

/-- What may still stand at a place behind the part of a literal that was read, and the values of
the list from this literal on.  The part that was read stands last character first. -/
inductive Rest : Place → List Char → List Char → List (List Char) → Prop
  | afterLine {cs : List Char} (hends : ∀ c ∈ cs, isBreak c = true) : Rest .afterLine [] cs []
  | beforeLiteral {cs : List Char} {values : List (List Char)} (hlists : Lists cs values) :
      Rest .beforeLiteral [] cs values
  | inPlain {literal cs : List Char} {values : List (List Char)} (tail : List Char)
      (hbare : ∀ c ∈ tail, isBare c = true) (hbehind : Behind (literal.reverse ++ tail) cs values) :
      Rest .inPlain literal (tail ++ cs) values
  | unclosed {literal : List Char} (body : List Char) :
      Rest .inQuoted literal (doubleQuotes body) [literal.reverse ++ body]
  | inQuoted {literal tail cs : List Char} {values : List (List Char)} (body : List Char)
      (hfirst : tail.head? ≠ some '\'') (hbare : ∀ c ∈ tail, isBare c = true)
      (hbehind : Behind (literal.reverse ++ body ++ tail) cs values) :
      Rest .inQuoted literal (doubleQuotes body ++ '\'' :: (tail ++ cs)) values
  | afterQuote {literal cs : List Char} {values : List (List Char)} (tail : List Char)
      (hfirst : tail.head? ≠ some '\'') (hbare : ∀ c ∈ tail, isBare c = true)
      (hbehind : Behind (literal.reverse ++ tail) cs values) :
      Rest .afterQuote literal (tail ++ cs) values
  | reopened {literal cs : List Char} {values : List (List Char)}
      (hrest : Rest .inQuoted ('\'' :: literal) cs values) :
      Rest .afterQuote literal ('\'' :: cs) values

/-- The literals that may be under way at a place. -/
def Fits : Place → List Char → Prop
  | .start, _ => False
  | .beforeLiteral, literal => literal = []
  | .afterLine, literal => literal = []
  | _, literal => literal.length ≤ maxLiteralLength

/-- What stands behind a place is its rest, and the reading ends with the values of it. -/
def Yields (place : Place) (literal : List Char) (done : List (List Char)) (cs : List Char)
    (p : Progress) : Prop :=
  ∃ values, Rest place literal cs values ∧ finish p = done.reverse ++ values ∧ Short values

/-- A text that is read to its end follows the grammar, from whichever place on. -/
def Follows (cs : List Char) (p : Progress) : Prop :=
  ∀ place literal done, Fits place literal →
    cs.foldlM step (progressAt place literal done) = .ok p → Yields place literal done cs p

section Soundness

variable {place : Place} {literal cs text value : List Char} {values done : List (List Char)}
  {c : Char} {p : Progress}

theorem Literal.lists (h : Literal text value) (hbehind : Behind value cs values) :
    Lists (text ++ cs) values := by
  cases hbehind with
  | ends hends => exact .last h hends
  | comma hrest => exact .more h hrest

theorem Rest.inPlain_cons (hc : isBare c = true) (h : Rest .inPlain (c :: literal) cs values) :
    Rest .inPlain literal (c :: cs) values := by
  cases h with
  | inPlain tail hbare hbehind =>
      rw [List.reverse_cons, List.append_assoc] at hbehind
      exact .inPlain (c :: tail) (List.forall_mem_cons.mpr ⟨hc, hbare⟩) hbehind

theorem Rest.afterQuote_cons (hquote : c ≠ '\'') (hc : isBare c = true)
    (h : Rest .inPlain (c :: literal) cs values) : Rest .afterQuote literal (c :: cs) values := by
  cases h with
  | inPlain tail hbare hbehind =>
      rw [List.reverse_cons, List.append_assoc] at hbehind
      exact .afterQuote (c :: tail) (fun heq => hquote (Option.some.inj heq))
        (List.forall_mem_cons.mpr ⟨hc, hbare⟩) hbehind

theorem Rest.inQuoted_cons (hc : c ≠ '\'') (h : Rest .inQuoted (c :: literal) cs values) :
    Rest .inQuoted literal (c :: cs) values := by
  have hdouble : ∀ body, doubleQuotes (c :: body) = c :: doubleQuotes body := fun body => by
    rw [doubleQuotes, if_neg (fun heq => hc (beq_iff_eq.mp heq))]
  cases h with
  | unclosed body =>
      rw [← hdouble, List.reverse_cons, List.append_assoc]
      exact .unclosed (c :: body)
  | @inQuoted _ tail cs _ body hfirst hbare hbehind =>
      rw [List.reverse_cons, List.append_assoc literal.reverse] at hbehind
      rw [← List.cons_append, ← hdouble]
      exact .inQuoted (c :: body) hfirst hbare hbehind

/-- A quote ends the body, or it is the first of two that stand for one. -/
theorem Rest.inQuoted_quote (h : Rest .afterQuote literal cs values) :
    Rest .inQuoted literal ('\'' :: cs) values := by
  cases h with
  | afterQuote tail hfirst hbare hbehind =>
      exact .inQuoted [] hfirst hbare (by rwa [List.append_nil])
  | reopened hrest =>
      cases hrest with
      | unclosed body =>
          rw [List.reverse_cons, List.append_assoc]
          exact .unclosed ('\'' :: body)
      | inQuoted body hfirst hbare hbehind =>
          rw [List.reverse_cons, List.append_assoc literal.reverse] at hbehind
          exact .inQuoted ('\'' :: body) hfirst hbare hbehind

theorem Rest.lists_plain (hblank : c ≠ ' ') (hquote : c ≠ '\'') (hc : isBare c = true)
    (h : Rest .inPlain [c] cs values) : Lists (c :: cs) values := by
  cases h with
  | inPlain tail hbare hbehind =>
      have hliteral : Literal (c :: tail) (c :: tail) :=
        .bare ⟨fun heq => hblank (Option.some.inj heq), fun heq => hquote (Option.some.inj heq)⟩
          (List.forall_mem_cons.mpr ⟨hc, hbare⟩)
      exact hliteral.lists hbehind

theorem Rest.lists_quoted (h : Rest .inQuoted [] cs values) : Lists ('\'' :: cs) values := by
  cases h with
  | unclosed body => exact .unclosed body
  | @inQuoted _ tail cs _ body hfirst hbare hbehind =>
      have hliteral : Literal ('\'' :: (doubleQuotes body ++ '\'' :: tail)) (body ++ tail) :=
        .quoted hfirst hbare
      have hlists := hliteral.lists hbehind
      rwa [List.cons_append, List.append_assoc, List.cons_append] at hlists

theorem literal_nil : Literal [] [] :=
  .bare ⟨nofun, nofun⟩ fun _ hc => absurd hc List.not_mem_nil

theorem short_singleton : Short [value] ↔ value.length ≤ maxLiteralLength :=
  List.forall_mem_singleton

theorem follows_nil : Follows [] p := by
  intro place literal done hfits hread
  obtain rfl := pure_eq_ok.mp hread
  have hends : ∀ c ∈ ([] : List Char), isBreak c = true := fun _ hc => absurd hc List.not_mem_nil
  have hbare : ∀ c ∈ ([] : List Char), isBare c = true := fun _ hc => absurd hc List.not_mem_nil
  have hbehind : Behind (literal.reverse ++ []) [] [literal.reverse] := by
    rw [List.append_nil]
    exact .ends hends
  have hshort : literal.length ≤ maxLiteralLength → Short [literal.reverse] := fun h =>
    short_singleton.mpr (by rwa [List.length_reverse])
  cases place with
  | start => exact hfits.elim
  | beforeLiteral =>
      obtain rfl := hfits
      exact ⟨[[]], .beforeLiteral (.last literal_nil hends), finish_of_mayEnd (.inl rfl),
        short_singleton.mpr (Nat.zero_le _)⟩
  | inPlain =>
      exact ⟨_, .inPlain [] hbare hbehind, finish_of_mayEnd (.inr (.inl rfl)), hshort hfits⟩
  | inQuoted =>
      refine ⟨[literal.reverse], ?_, ?_, hshort hfits⟩
      · have hrest : Rest .inQuoted literal [] [literal.reverse ++ []] := .unclosed []
        rwa [List.append_nil] at hrest
      · simp [finish, progressAt, Progress.save]
  | afterQuote =>
      exact ⟨_, .afterQuote [] nofun hbare hbehind, finish_of_mayEnd (.inr (.inr rfl)),
        hshort hfits⟩
  | afterLine =>
      obtain rfl := hfits
      exact ⟨[], .afterLine hends, (List.append_nil _).symm, fun _ hv => absurd hv List.not_mem_nil⟩

/-- A comma or a line end, where the literal may end. -/
theorem Follows.behind (ih : Follows cs p) (hplace : place.mayEnd) (hc : isBare c = false)
    (hshort : literal.length ≤ maxLiteralLength)
    (hread : (c :: cs).foldlM step (progressAt place literal done) = .ok p) :
    ∃ values, Behind literal.reverse (c :: cs) values ∧ finish p = done.reverse ++ values ∧
      Short values := by
  have hvalue : literal.reverse.length ≤ maxLiteralLength := by rwa [List.length_reverse]
  rw [List.foldlM_cons] at hread
  by_cases hcomma : c = ','
  · obtain rfl := hcomma
    rw [step_comma hplace] at hread
    obtain ⟨values, hrest, hfinish, hvalues⟩ :=
      ih .beforeLiteral [] (literal.reverse :: done) rfl hread
    cases hrest with
    | beforeLiteral hlists =>
        refine ⟨literal.reverse :: values, .comma hlists, ?_,
          List.forall_mem_cons.mpr ⟨hvalue, hvalues⟩⟩
        rw [hfinish, List.reverse_cons, List.append_assoc]
        rfl
  · have hbreak : isBreak c = true := by
      rw [← Bool.not_eq_false]
      intro hbreak
      rw [isBare_iff.mpr ⟨hcomma, hbreak⟩] at hc
      cases hc
    rw [step_break hplace hbreak] at hread
    obtain ⟨values, hrest, hfinish, -⟩ := ih .afterLine [] (literal.reverse :: done) rfl hread
    cases hrest with
    | afterLine hends =>
        refine ⟨[literal.reverse], .ends (List.forall_mem_cons.mpr ⟨hbreak, hends⟩), ?_,
          short_singleton.mpr hvalue⟩
        rw [hfinish, List.reverse_cons, List.append_nil]

/-- A character that is added to the literal. -/
theorem Follows.add (ih : Follows cs p) {next : Place} (hnext : next = .inPlain ∨ next = .inQuoted)
    (hread : ((progressAt place literal done).add next c >>= cs.foldlM step) = .ok p) :
    Yields next (c :: literal) done cs p := by
  obtain ⟨q, hadd, hread⟩ := bind_eq_ok.mp hread
  obtain ⟨hlt, rfl⟩ := lt_of_add_progressAt hadd
  refine ih next (c :: literal) done ?_ hread
  rcases hnext with rfl | rfl <;> exact hlt

theorem Follows.beforeLiteral (ih : Follows cs p)
    (hread : (c :: cs).foldlM step (progressAt .beforeLiteral [] done) = .ok p) :
    Yields .beforeLiteral [] done (c :: cs) p := by
  cases hc : isBare c with
  | false =>
      obtain ⟨values, hbehind, hvalues⟩ := ih.behind (.inl rfl) hc (Nat.zero_le _) hread
      exact ⟨values, .beforeLiteral (literal_nil.lists hbehind), hvalues⟩
  | true =>
      by_cases hblank : c = ' '
      · obtain rfl := hblank
        obtain ⟨values, hrest, hvalues⟩ := ih .beforeLiteral [] done rfl hread
        cases hrest with
        | beforeLiteral hlists => exact ⟨values, .beforeLiteral (.blank hlists), hvalues⟩
      by_cases hquote : c = '\''
      · obtain rfl := hquote
        obtain ⟨values, hrest, hvalues⟩ := ih .inQuoted [] done (Nat.zero_le _) hread
        exact ⟨values, .beforeLiteral hrest.lists_quoted, hvalues⟩
      rw [List.foldlM_cons, step_beforeLiteral hblank hquote hc] at hread
      obtain ⟨values, hrest, hvalues⟩ := ih.add (.inl rfl) hread
      exact ⟨values, .beforeLiteral (hrest.lists_plain hblank hquote hc), hvalues⟩

theorem Follows.inPlain (ih : Follows cs p) (hshort : literal.length ≤ maxLiteralLength)
    (hread : (c :: cs).foldlM step (progressAt .inPlain literal done) = .ok p) :
    Yields .inPlain literal done (c :: cs) p := by
  cases hc : isBare c with
  | false =>
      obtain ⟨values, hbehind, hvalues⟩ := ih.behind (.inr (.inl rfl)) hc hshort hread
      refine ⟨values, .inPlain [] nofun ?_, hvalues⟩
      rwa [List.append_nil]
  | true =>
      rw [List.foldlM_cons, step_bare hc] at hread
      obtain ⟨values, hrest, hvalues⟩ := ih.add (.inl rfl) hread
      exact ⟨values, hrest.inPlain_cons hc, hvalues⟩

theorem Follows.inQuoted (ih : Follows cs p) (hshort : literal.length ≤ maxLiteralLength)
    (hread : (c :: cs).foldlM step (progressAt .inQuoted literal done) = .ok p) :
    Yields .inQuoted literal done (c :: cs) p := by
  by_cases hquote : c = '\''
  · obtain rfl := hquote
    rw [List.foldlM_cons, step_quote] at hread
    obtain ⟨values, hrest, hvalues⟩ := ih .afterQuote literal done hshort hread
    exact ⟨values, hrest.inQuoted_quote, hvalues⟩
  · rw [List.foldlM_cons, step_quoted hquote] at hread
    obtain ⟨values, hrest, hvalues⟩ := ih.add (.inr rfl) hread
    exact ⟨values, hrest.inQuoted_cons hquote, hvalues⟩

theorem Follows.afterQuote (ih : Follows cs p) (hshort : literal.length ≤ maxLiteralLength)
    (hread : (c :: cs).foldlM step (progressAt .afterQuote literal done) = .ok p) :
    Yields .afterQuote literal done (c :: cs) p := by
  by_cases hquote : c = '\''
  · obtain rfl := hquote
    have hadd : ((progressAt .afterQuote literal done).add .inQuoted '\'' >>= cs.foldlM step) =
        .ok p := hread
    obtain ⟨values, hrest, hvalues⟩ := ih.add (.inr rfl) hadd
    exact ⟨values, .reopened hrest, hvalues⟩
  cases hc : isBare c with
  | false =>
      obtain ⟨values, hbehind, hvalues⟩ := ih.behind (.inr (.inr rfl)) hc hshort hread
      refine ⟨values, .afterQuote [] nofun nofun ?_, hvalues⟩
      rwa [List.append_nil]
  | true =>
      rw [List.foldlM_cons, step_afterQuote hquote hc] at hread
      obtain ⟨values, hrest, hvalues⟩ := ih.add (.inl rfl) hread
      exact ⟨values, hrest.afterQuote_cons hquote hc, hvalues⟩

theorem Follows.afterLine (ih : Follows cs p)
    (hread : (c :: cs).foldlM step (progressAt .afterLine [] done) = .ok p) :
    Yields .afterLine [] done (c :: cs) p := by
  rw [List.foldlM_cons, step_afterLine] at hread
  split_ifs at hread with hbreak
  · obtain ⟨values, hrest, hvalues⟩ := ih .afterLine [] done rfl hread
    cases hrest with
    | afterLine hends =>
        exact ⟨[], .afterLine (List.forall_mem_cons.mpr ⟨hbreak, hends⟩), hvalues⟩
  · cases hread

/-- A text that can be read follows the grammar. -/
theorem follows (cs : List Char) (p : Progress) : Follows cs p := by
  induction cs with
  | nil => exact follows_nil
  | cons c cs ih =>
      intro place literal done hfits hread
      cases place with
      | start => exact hfits.elim
      | beforeLiteral =>
          obtain rfl := hfits
          exact ih.beforeLiteral hread
      | inPlain => exact ih.inPlain hfits hread
      | inQuoted => exact ih.inQuoted hfits hread
      | afterQuote => exact ih.afterQuote hfits hread
      | afterLine =>
          obtain rfl := hfits
          exact ih.afterLine hread

end Soundness

section Read

variable {c : Char} {cs : List Char} {values : List (List Char)} {p : Progress}

/-- At the start a line end ends an empty line; every other character starts the list. -/
theorem step_start (h : isBreak c = false) :
    step {} c = step (progressAt .beforeLiteral [] []) c := by
  rw [isBreak] at h
  simp [step, beforeStep, progressAt, Progress.save, Progress.add, h]

theorem foldlM_start (h : isBreak c = false) :
    (c :: cs).foldlM step {} = (c :: cs).foldlM step (progressAt .beforeLiteral [] []) := by
  rw [List.foldlM_cons, List.foldlM_cons, step_start h]

theorem isBlank_of_isBreak (h : isBreak c = true) : isBlank c = true := by
  rw [isBreak, Bool.or_eq_true, beq_iff_eq, beq_iff_eq] at h
  rcases h with rfl | rfl <;> rfl

theorem trimBlanks_of_breaks (h : ∀ c ∈ cs, isBreak c = true) : trimBlanks cs = [] := by
  rw [trimBlanks, trimBy, trimLeftBy,
    List.dropWhile_eq_nil_iff.mpr fun c hc => isBlank_of_isBreak (h c hc)]
  rfl

/-- A list does not start with a line end, unless nothing else stands in it. -/
theorem Lists.breaks_of_head (h : Lists (c :: cs) values) (hc : isBreak c = true) :
    ∀ d ∈ c :: cs, isBreak d = true := by
  have hblank : c ≠ ' ' := by
    rintro rfl
    cases hc
  have hquote : c ≠ '\'' := by
    rintro rfl
    cases hc
  have hcomma : c ≠ ',' := by
    rintro rfl
    cases hc
  have hnone : ∀ {text value rest}, Literal text value → c :: cs = text ++ rest → text = [] := by
    intro text value rest hliteral heq
    cases hliteral with
    | quoted _ _ => exact absurd (List.cons.inj heq).1 hquote
    | bare _ hbare =>
        cases text with
        | nil => rfl
        | cons d text =>
            obtain rfl := (List.cons.inj heq).1
            rw [(isBare_iff.mp (hbare _ (List.mem_cons_self ..))).2] at hc
            cases hc
  generalize htext : c :: cs = text at h
  cases h with
  | blank _ => exact absurd (List.cons.inj htext).1 hblank
  | unclosed _ => exact absurd (List.cons.inj htext).1 hquote
  | last hliteral hends =>
      rw [hnone hliteral htext]
      exact hends
  | more hliteral _ =>
      rw [hnone hliteral htext] at htext
      exact absurd (List.cons.inj htext).1 hcomma

/-- Nor does a text that can be read. -/
theorem breaks_of_foldlM (hread : (c :: cs).foldlM step {} = .ok p) (hc : isBreak c = true) :
    ∀ d ∈ c :: cs, isBreak d = true := by
  have hstep : step {} c = .ok (progressAt .afterLine [] []) := by
    rw [isBreak] at hc
    simp [step, progressAt, hc]
  rw [List.foldlM_cons, hstep] at hread
  obtain ⟨values, hrest, -⟩ := follows cs p .afterLine [] [] rfl hread
  cases hrest with
  | afterLine hends => exact List.forall_mem_cons.mpr ⟨hc, hends⟩

/-- **The lists that can be read**, and their values: nothing but blanks, or the literals of the
grammar, each of them short enough. -/
theorem read_eq_ok_iff :
    read cs = .ok values ↔
      trimBlanks cs = [] ∧ values = [] ∨ trimBlanks cs ≠ [] ∧ Lists cs values ∧ Short values := by
  rw [read]
  by_cases htrim : trimBlanks cs = []
  · rw [htrim, List.isEmpty_nil, if_pos rfl]
    simp [eq_comm]
  rw [if_neg (by rwa [List.isEmpty_iff]), map_eq_ok]
  cases cs with
  | nil => exact absurd rfl htrim
  | cons c cs =>
      constructor
      · rintro ⟨p, hread, rfl⟩
        by_cases hc : isBreak c = true
        · exact absurd (trimBlanks_of_breaks (breaks_of_foldlM hread hc)) htrim
        rw [foldlM_start (Bool.not_eq_true _ ▸ hc)] at hread
        obtain ⟨values, hrest, hfinish, hshort⟩ := follows _ p .beforeLiteral [] [] rfl hread
        cases hrest with
        | beforeLiteral hlists => exact .inr ⟨htrim, hfinish ▸ hlists, hfinish ▸ hshort⟩
      · rintro (⟨hblank, -⟩ | ⟨-, hlists, hshort⟩)
        · exact absurd hblank htrim
        by_cases hc : isBreak c = true
        · exact absurd (trimBlanks_of_breaks (hlists.breaks_of_head hc)) htrim
        rw [foldlM_start (Bool.not_eq_true _ ▸ hc)]
        exact foldlM_lists hlists hshort

/-- A text is a list when it holds nothing but blanks, or the literals of the grammar, each of them
short enough. -/
def IsList (cs : List Char) : Prop :=
  trimBlanks cs = [] ∨ ∃ values, Lists cs values ∧ Short values

theorem exists_read_iff : (∃ values, read cs = .ok values) ↔ IsList cs := by
  constructor
  · rintro ⟨values, hread⟩
    rcases read_eq_ok_iff.mp hread with ⟨hblank, -⟩ | ⟨-, hlists⟩
    · exact .inl hblank
    · exact .inr ⟨values, hlists⟩
  · intro h
    by_cases htrim : trimBlanks cs = []
    · exact ⟨[], read_eq_ok_iff.mpr (.inl ⟨htrim, rfl⟩)⟩
    · obtain ⟨values, hlists⟩ := h.resolve_left htrim
      exact ⟨values, read_eq_ok_iff.mpr (.inr ⟨htrim, hlists⟩)⟩

/-- The lists in the texts that catalogs show. -/
theorem exists_readQuotedList_iff :
    (∃ values, readQuotedList (String.ofList cs) = .ok values) ↔ IsList cs := by
  rw [readQuotedList, String.toList_ofList, ← exists_read_iff]
  constructor
  · rintro ⟨_, h⟩
    obtain ⟨values, hread, -⟩ := map_eq_ok.mp h
    exact ⟨values, hread⟩
  · rintro ⟨values, hread⟩
    exact ⟨_, map_eq_ok.mpr ⟨values, hread, rfl⟩⟩

end Read

section Unbroken

variable {place : Place} {cs : List Char} {c : Char}

/-- A character that ends no line is read wherever the line has not ended: it is added, it ends the
literal, or it only moves the place. -/
theorem exists_step_of_unbroken (literal : List Char) (done : List (List Char))
    (hplace : place ≠ .afterLine) (hc : isBreak c = false)
    (hshort : literal.length < maxLiteralLength) :
    ∃ next literal' done', next ≠ .afterLine ∧ literal'.length ≤ literal.length + 1 ∧
      step (progressAt place literal done) c = .ok (progressAt next literal' done') := by
  have hadd : ∀ next, next ≠ .afterLine → ∃ next' literal' done', next' ≠ .afterLine ∧
      literal'.length ≤ literal.length + 1 ∧
        (progressAt place literal done).add next c = .ok (progressAt next' literal' done') :=
    fun next hnext => ⟨next, c :: literal, done, hnext, Nat.le_refl _, add_progressAt_of_lt hshort⟩
  have hbefore : ∃ next literal' done', next ≠ .afterLine ∧
      literal'.length ≤ literal.length + 1 ∧
        beforeStep (progressAt place literal done) c = .ok (progressAt next literal' done') := by
    rw [isBreak] at hc
    rw [beforeStep, hc, if_neg Bool.false_ne_true]
    split_ifs
    · exact ⟨.inQuoted, literal, done, by decide, Nat.le_succ _, rfl⟩
    · exact ⟨.beforeLiteral, literal, done, by decide, Nat.le_succ _, rfl⟩
    · exact ⟨.beforeLiteral, [], literal.reverse :: done, by decide, Nat.zero_le _, rfl⟩
    · exact hadd .inPlain (by decide)
  cases place with
  | start =>
      have hstart : step (progressAt .start literal done) c =
          beforeStep (progressAt .start literal done) c := by
        rw [isBreak] at hc
        simp [step, progressAt, hc]
      rwa [hstart]
  | beforeLiteral => exact hbefore
  | inPlain =>
      by_cases hcomma : c = ','
      · obtain rfl := hcomma
        exact ⟨.beforeLiteral, [], _, by decide, Nat.zero_le _, step_comma (.inr (.inl rfl))⟩
      · rw [step_bare (isBare_iff.mpr ⟨hcomma, hc⟩)]
        exact hadd .inPlain (by decide)
  | inQuoted =>
      by_cases hquote : c = '\''
      · obtain rfl := hquote
        exact ⟨.afterQuote, literal, _, by decide, Nat.le_succ _, step_quote⟩
      · rw [step_quoted hquote]
        exact hadd .inQuoted (by decide)
  | afterQuote =>
      by_cases hquote : c = '\''
      · obtain rfl := hquote
        exact hadd .inQuoted (by decide)
      by_cases hcomma : c = ','
      · obtain rfl := hcomma
        exact ⟨.beforeLiteral, [], _, by decide, Nat.zero_le _, step_comma (.inr (.inr rfl))⟩
      · rw [step_afterQuote hquote (isBare_iff.mpr ⟨hcomma, hc⟩)]
        exact hadd .inPlain (by decide)
  | afterLine => exact absurd rfl hplace

/-- A text on one line is read. -/
theorem exists_foldlM_of_unbroken (literal : List Char) (done : List (List Char))
    (hplace : place ≠ .afterLine) (hunbroken : Unbroken cs)
    (hshort : literal.length + cs.length ≤ maxLiteralLength) :
    ∃ p, cs.foldlM step (progressAt place literal done) = .ok p := by
  induction cs generalizing place literal done with
  | nil => exact ⟨_, rfl⟩
  | cons c cs ih =>
      obtain ⟨hc, hcs⟩ := unbroken_cons.mp hunbroken
      rw [List.length_cons] at hshort
      obtain ⟨next, literal', done', hnext, hlength, hstep⟩ :=
        exists_step_of_unbroken literal done hplace hc (by omega)
      rw [List.foldlM_cons, hstep]
      exact ih literal' done' hnext hcs (by omega)

/-- **A text on one line is a list**, if it is not longer than a literal may be. -/
theorem isList_of_unbroken (hunbroken : Unbroken cs) (hshort : cs.length ≤ maxLiteralLength) :
    IsList cs := by
  rw [← exists_read_iff, read]
  split_ifs
  · exact ⟨[], rfl⟩
  · obtain ⟨p, hread⟩ := exists_foldlM_of_unbroken [] [] (nofun : Place.start ≠ .afterLine)
      hunbroken (by rwa [List.length_nil, Nat.zero_add])
    exact ⟨finish p, map_eq_ok.mpr ⟨p, hread, rfl⟩⟩

end Unbroken

end QuotedList
end Text
end TableCast
