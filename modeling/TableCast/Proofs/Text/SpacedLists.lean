import TableCast.Proofs.Text.DoubledQuotes
import TableCast.Proofs.Text.QuotedLists
import TableCast.Proofs.Text.Trimming

/-!
# Lists of literals with gaps

A list of quoted literals may have blanks, tabs and line ends in front of every literal and behind
it.  The reader of lists skips only the blanks proper in front of a literal; what else stands
between a literal and the next comma becomes part of a literal or ends the list.

**Layouts.**  `Spaced` is a literal with the gaps around it, `spacedText` the text of a list of
them, and `Plain` are the gaps that are skipped.

**Results.**
* `lists_quote`, `lists_bare`: what a list that starts with a quote, or with a literal outside of
  quotes, is made of.
* `lists_literal_iff`: one literal with gaps is read as its value, and the list goes on behind it.
* `lists_spaced_iff`, `read_spaced_iff`: the gaps with which all literals are read as their values.
-/

namespace TableCast
namespace Text
namespace QuotedList

/-- A quoted literal in a list, and what stands between it and the commas. -/
structure Spaced where
  before : List Char := []
  value : List Char
  after : List Char := []

/-- The text from one comma to the next. -/
def Spaced.text (s : Spaced) : List Char :=
  s.before ++ '\'' :: (doubleQuotes s.value ++ '\'' :: s.after)

/-- Only blanks, tabs, line ends and the like stand around the literal. -/
structure Spaced.Blank (s : Spaced) : Prop where
  before : ∀ c ∈ s.before, isBlank c = true
  after : ∀ c ∈ s.after, isBlank c = true

/-- The text of a list of literals. -/
def spacedText : List Spaced → List Char
  | [] => []
  | [s] => s.text
  | s :: t :: rest => s.text ++ ',' :: spacedText (t :: rest)

/-- Blanks proper stand in front of each literal, and nothing stands behind it but line ends behind
the last one. -/
def Plain : List Spaced → Prop
  | [] => True
  | [s] => (∀ c ∈ s.before, c = ' ') ∧ ∀ c ∈ s.after, isBreak c = true
  | s :: t :: rest => (∀ c ∈ s.before, c = ' ') ∧ s.after = [] ∧ Plain (t :: rest)

section Inversion

variable {c : Char} {cs : List Char} {values : List (List Char)}

/-- The text of a literal outside of quotes starts neither with a blank nor with a sign that may
not stand in it. -/
theorem Literal.eq_nil_of_cons {text value rest : List Char} (h : Literal text value)
    (heq : c :: cs = text ++ rest) (hc : isBare c = false ∨ c = ' ') (hquote : c ≠ '\'') :
    text = [] := by
  cases h with
  | quoted _ _ => exact absurd (List.cons.inj heq).1 hquote
  | bare hfirst hbare =>
      cases text with
      | nil => rfl
      | cons d text =>
          obtain rfl := (List.cons.inj heq).1
          rcases hc with hc | rfl
          · rw [hbare c (List.mem_cons_self ..)] at hc
            cases hc
          · exact absurd rfl hfirst.1

/-- A blank in front of a list is skipped. -/
theorem lists_blank_iff : Lists (' ' :: cs) values ↔ Lists cs values := by
  refine ⟨fun h => ?_, .blank⟩
  generalize htext : ' ' :: cs = text at h
  cases h with
  | blank hrest =>
      obtain rfl := (List.cons.inj htext).2
      exact hrest
  | @last first value ends hliteral hends =>
      obtain rfl := hliteral.eq_nil_of_cons htext (.inr rfl) (by decide)
      rw [List.nil_append] at htext
      exact absurd (hends ' ' (htext ▸ List.mem_cons_self ..)) (by decide)
  | unclosed _ => exact absurd (List.cons.inj htext).1 (by decide)
  | @more first value rest values hliteral _ =>
      obtain rfl := hliteral.eq_nil_of_cons htext (.inr rfl) (by decide)
      exact absurd (List.cons.inj htext).1 (by decide)

theorem lists_blanks_iff {gap : List Char} (hgap : ∀ c ∈ gap, c = ' ') :
    Lists (gap ++ cs) values ↔ Lists cs values := by
  induction gap with
  | nil => exact Iff.rfl
  | cons c gap ih =>
      obtain ⟨rfl, hrest⟩ := List.forall_mem_cons.mp hgap
      exact lists_blank_iff.trans (ih hrest)

/-- What stands behind a literal does not start with a quote. -/
theorem Behind.head?_ne {value behind : List Char} (h : Behind value behind values) :
    behind.head? ≠ some '\'' := by
  cases h with
  | ends hends => exact fun heq => absurd (hends '\'' (List.mem_of_mem_head? heq)) (by decide)
  | comma _ => exact fun heq => absurd (Option.some.inj heq) (by decide)

theorem Behind.value_eq {value first behind : List Char}
    (h : Behind value behind (first :: values)) : first = value := by
  cases h <;> rfl

/-- A list has a value. -/
theorem Lists.ne_nil (h : Lists cs values) : values ≠ [] := by
  induction h with
  | blank _ ih => exact ih
  | last _ _ => exact List.cons_ne_nil _ _
  | unclosed _ => exact List.cons_ne_nil _ _
  | more _ _ _ => exact List.cons_ne_nil _ _

/-- Behind the last literal only line ends stand. -/
theorem behind_last_iff {value behind : List Char} :
    Behind value behind [value] ↔ ∀ c ∈ behind, isBreak c = true := by
  refine ⟨fun h => ?_, .ends⟩
  cases h with
  | ends hends => exact hends
  | comma hrest => exact absurd rfl hrest.ne_nil

/-- Behind every other literal the comma stands at once, where no other comma can. -/
theorem behind_more_iff {value gap : List Char} (hgap : ∀ c ∈ gap, isBlank c = true)
    (hvalues : values ≠ []) :
    Behind value (gap ++ ',' :: cs) (value :: values) ↔ gap = [] ∧ Lists cs values := by
  constructor
  · intro h
    generalize hbehind : gap ++ ',' :: cs = behind at h
    cases h with
    | ends _ => exact absurd rfl hvalues
    | comma hrest =>
        cases gap with
        | nil => exact ⟨rfl, (List.cons.inj hbehind).2 ▸ hrest⟩
        | cons c gap =>
            obtain rfl := (List.cons.inj hbehind).1
            exact absurd (hgap ',' (List.mem_cons_self ..)) (by decide)
  · rintro ⟨rfl, hrest⟩
    exact .comma hrest

/-- A list that starts with a quote: the literal, what stands behind it, and the rest. -/
theorem lists_quote (h : Lists ('\'' :: cs) values) :
    (∃ body, cs = doubleQuotes body) ∨
    ∃ body tail behind, cs = doubleQuotes body ++ '\'' :: (tail ++ behind) ∧
      tail.head? ≠ some '\'' ∧ Behind (body ++ tail) behind values := by
  have hquoted : ∀ {text value behind : List Char}, Literal text value →
      '\'' :: cs = text ++ behind → Behind value behind values →
      ∃ body tail behind, cs = doubleQuotes body ++ '\'' :: (tail ++ behind) ∧
        tail.head? ≠ some '\'' ∧ Behind (body ++ tail) behind values := by
    intro text value behind hliteral heq hbehind
    cases hliteral with
    | bare hfirst _ =>
        cases text with
        | nil => exact absurd (by rw [← List.nil_append behind, ← heq]; rfl) hbehind.head?_ne
        | cons d text =>
            obtain rfl := (List.cons.inj heq).1
            exact absurd rfl hfirst.2
    | @quoted body tail hfirst _ =>
        refine ⟨body, tail, behind, ?_, hfirst, hbehind⟩
        rw [List.cons_append, List.append_assoc] at heq
        exact (List.cons.inj heq).2
  generalize htext : '\'' :: cs = text at h
  cases h with
  | blank _ => exact absurd (List.cons.inj htext).1 (by decide)
  | last hliteral hends => exact .inr (hquoted hliteral htext (.ends hends))
  | unclosed body => exact .inl ⟨body, (List.cons.inj htext).2⟩
  | more hliteral hrest => exact .inr (hquoted hliteral htext (.comma hrest))

/-- A list that starts with a literal outside of quotes. -/
theorem lists_bare (hc : isBare c = true) (hblank : c ≠ ' ') (hquote : c ≠ '\'')
    (h : Lists (c :: cs) values) :
    ∃ tail behind, cs = tail ++ behind ∧ (∀ d ∈ c :: tail, isBare d = true) ∧
      Behind (c :: tail) behind values := by
  obtain ⟨hcomma, hbreak⟩ := isBare_iff.mp hc
  have hliteral : ∀ {text value behind : List Char}, Literal text value →
      c :: cs = text ++ behind → Behind value behind values →
      ∃ tail behind, cs = tail ++ behind ∧ (∀ d ∈ c :: tail, isBare d = true) ∧
        Behind (c :: tail) behind values := by
    intro text value behind hliteral heq hbehind
    cases hliteral with
    | quoted _ _ => exact absurd (List.cons.inj heq).1 hquote
    | bare _ hbare =>
        cases text with
        | cons d text =>
            obtain ⟨rfl, hcs⟩ := List.cons.inj heq
            exact ⟨text, behind, hcs, hbare, hbehind⟩
        | nil =>
            obtain rfl : c :: cs = behind := heq
            cases hbehind with
            | ends hends =>
                rw [hends c (List.mem_cons_self ..)] at hbreak
                cases hbreak
            | comma _ => exact absurd rfl hcomma
  generalize htext : c :: cs = text at h
  cases h with
  | blank _ => exact absurd (List.cons.inj htext).1 hblank
  | last hfirst hends => exact hliteral hfirst htext (.ends hends)
  | unclosed _ => exact absurd (List.cons.inj htext).1 hquote
  | more hfirst hrest => exact hliteral hfirst htext (.comma hrest)

end Inversion

section Layouts

variable {gap v after : List Char} {s : Spaced} {spaced : List Spaced}
variable {values : List (List Char)}

theorem literal_quoted (v : List Char) : Literal ('\'' :: (doubleQuotes v ++ ['\''])) v := by
  have hquoted : Literal ('\'' :: (doubleQuotes v ++ '\'' :: [])) (v ++ []) :=
    .quoted nofun (fun _ hc => absurd hc List.not_mem_nil)
  rwa [List.append_nil] at hquoted

theorem isBare_of_isBlank {c : Char} (h : isBlank c = true) (hbreak : isBreak c = false) :
    isBare c = true := by
  refine isBare_iff.mpr ⟨?_, hbreak⟩
  rintro rfl
  exact absurd h (by decide)

/-- A literal outside of quotes, which ends at the first comma, ends too early to have the value of a
literal in quotes behind it. -/
theorem not_behind_of_quoted {c : Char} {tail behind : List Char}
    (hgap : ∀ d ∈ gap, isBlank d = true) (hbare : ∀ d ∈ c :: tail, isBare d = true)
    (htext : gap ++ '\'' :: (doubleQuotes (c :: tail) ++ '\'' :: after) = tail ++ behind) :
    ¬ Behind (c :: tail) behind values := by
  intro hbehind
  have hlength : tail.length < (gap ++ '\'' :: doubleQuotes (c :: tail)).length := by
    have hle := length_le_doubleQuotes (c :: tail)
    rw [List.length_cons] at hle
    rw [List.length_append, List.length_cons]
    omega
  have hsplit : (gap ++ '\'' :: doubleQuotes (c :: tail)) ++ '\'' :: after = tail ++ behind := by
    rw [← htext, List.append_assoc]
    rfl
  obtain ⟨middle, hfront, -⟩ | ⟨middle, hfront, hrest⟩ := List.append_eq_append_iff.mp hsplit
  · have hlong := congrArg List.length hfront
    rw [List.length_append] at hlong
    omega
  cases hbehind with
  | ends hends => exact absurd (hends '\'' (hrest ▸ by simp)) (by decide)
  | comma _ =>
      cases middle with
      | nil =>
          rw [hfront, List.append_nil] at hlength
          omega
      | cons d middle =>
          -- So a comma stands in the gap, or the value holds one.
          obtain rfl := (List.cons.inj hrest).1
          have hmem : ',' ∈ gap ++ '\'' :: doubleQuotes (c :: tail) := hfront ▸ by simp
          rw [List.mem_append, List.mem_cons, mem_doubleQuotes] at hmem
          rcases hmem with hmem | hmem | hmem
          · exact absurd (hgap ',' hmem) (by decide)
          · exact absurd hmem (by decide)
          · exact absurd (hbare ',' hmem) (by decide)

/-- Where a literal in quotes is read as its value, only blanks proper stand in front of it: another
sign would start a literal outside of quotes. -/
theorem blanks_of_lists (hgap : ∀ c ∈ gap, isBlank c = true)
    (h : Lists (gap ++ '\'' :: (doubleQuotes v ++ '\'' :: after)) (v :: values)) :
    ∀ c ∈ gap, c = ' ' := by
  induction gap with
  | nil => exact fun _ hc => absurd hc List.not_mem_nil
  | cons c gap ih =>
      obtain ⟨hc, hrest⟩ := List.forall_mem_cons.mp hgap
      by_cases hblank : c = ' '
      · obtain rfl := hblank
        exact List.forall_mem_cons.mpr ⟨rfl, ih hrest (lists_blank_iff.mp h)⟩
      exfalso
      cases hbreak : isBreak c with
      | true => exact absurd (h.breaks_of_head hbreak '\'' (by simp)) (by decide)
      | false =>
          have hquote : c ≠ '\'' := by
            rintro rfl
            exact absurd hc (by decide)
          obtain ⟨tail, behind, htext, hbare, hbehind⟩ :=
            lists_bare (isBare_of_isBlank hc hbreak) hblank hquote h
          obtain rfl := hbehind.value_eq
          exact not_behind_of_quoted hrest hbare htext hbehind

/-- **A literal with gaps** is read as its value when only blanks proper stand in front of it and
the list goes on right behind it. -/
theorem lists_literal_iff (hgap : ∀ c ∈ gap, isBlank c = true) (hafter : after.head? ≠ some '\'') :
    Lists (gap ++ '\'' :: (doubleQuotes v ++ '\'' :: after)) (v :: values) ↔
      (∀ c ∈ gap, c = ' ') ∧ Behind v after (v :: values) := by
  constructor
  · intro h
    have hblanks := blanks_of_lists hgap h
    refine ⟨hblanks, ?_⟩
    obtain ⟨body, hbody⟩ | ⟨body, tail, behind, heq, htail, hbehind⟩ :=
      lists_quote ((lists_blanks_iff hblanks).mp h)
    · exact absurd hbody.symm (doubleQuotes_ne hafter)
    have hhead : (tail ++ behind).head? ≠ some '\'' := by
      cases tail with
      | nil => exact hbehind.head?_ne
      | cons c tail => exact htail
    obtain ⟨rfl, rfl⟩ := doubleQuotes_quote_inj hafter hhead heq
    obtain rfl := List.self_eq_append_right.mp hbehind.value_eq
    rwa [List.append_nil] at hbehind
  · rintro ⟨hblanks, hbehind⟩
    have hlists := (literal_quoted v).lists hbehind
    rw [List.cons_append, List.append_assoc] at hlists
    exact (lists_blanks_iff hblanks).mpr hlists

theorem head?_ne_of_blank {rest : List Char} (h : ∀ c ∈ after, isBlank c = true)
    (hrest : rest.head? ≠ some '\'') : (after ++ rest).head? ≠ some '\'' := by
  cases after with
  | nil => exact hrest
  | cons c after =>
      intro heq
      obtain rfl := Option.some.inj heq
      exact absurd (h '\'' (List.mem_cons_self ..)) (by decide)

/-- **The gaps that a list may have**, so that its literals are read as their values. -/
theorem lists_spaced_iff (hne : spaced ≠ []) (hblank : ∀ s ∈ spaced, s.Blank) :
    Lists (spacedText spaced) (spaced.map (·.value)) ↔ Plain spaced := by
  induction spaced with
  | nil => exact absurd rfl hne
  | cons s rest ih =>
      obtain ⟨hs, hrest⟩ := List.forall_mem_cons.mp hblank
      cases rest with
      | nil =>
          have hafter : (s.after ++ []).head? ≠ some '\'' := head?_ne_of_blank hs.after nofun
          rw [List.append_nil] at hafter
          exact (lists_literal_iff hs.before hafter).trans
            (and_congr_right fun _ => behind_last_iff)
      | cons t rest =>
          have htext : spacedText (s :: t :: rest) =
              s.before ++ '\'' ::
                (doubleQuotes s.value ++ '\'' :: (s.after ++ ',' :: spacedText (t :: rest))) := by
            simp only [spacedText, Spaced.text, List.append_assoc, List.cons_append]
          have hafter : (s.after ++ ',' :: spacedText (t :: rest)).head? ≠ some '\'' :=
            head?_ne_of_blank hs.after fun heq => absurd (Option.some.inj heq) (by decide)
          rw [htext]
          refine (lists_literal_iff hs.before hafter).trans (and_congr_right fun _ => ?_)
          exact (behind_more_iff hs.after (List.cons_ne_nil _ _)).trans
            (and_congr_right fun _ => ih (List.cons_ne_nil _ _) hrest)

theorem quote_mem_spacedText (hne : spaced ≠ []) : '\'' ∈ spacedText spaced := by
  cases spaced with
  | nil => exact absurd rfl hne
  | cons s rest => cases rest <;> simp [spacedText, Spaced.text]

/-- **The layouts that the reader of lists reads as the values of the literals.** -/
theorem read_spaced_iff (hne : spaced ≠ []) (hblank : ∀ s ∈ spaced, s.Blank) :
    read (spacedText spaced) = .ok (spaced.map (·.value)) ↔
      Plain spaced ∧ Short (spaced.map (·.value)) := by
  have htrim : trimBlanks (spacedText spaced) ≠ [] := fun h =>
    absurd (trimBy_eq_nil_iff.mp h '\'' (quote_mem_spacedText hne)) (by decide)
  rw [read_eq_ok_iff, lists_spaced_iff hne hblank]
  constructor
  · rintro (⟨h, -⟩ | ⟨-, h⟩)
    · exact absurd h htrim
    · exact h
  · exact fun h => .inr ⟨htrim, h⟩

end Layouts

end QuotedList
end Text
end TableCast
