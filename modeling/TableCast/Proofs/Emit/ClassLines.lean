import Mathlib
import TableCast.Emit.Doctrine.Entity

/-!
# The lines of a Doctrine entity

The class of an entity is written line by line, and every kind of line has a start of its own.  So
what a line declares can be told from its start, and the blocks of a class that have no line with a
start can be passed over when that kind of line is read.

**Results.**
* `begins_fileHead` and its neighbours: the starts of the lines of each block.
* `ReadsBehind.filterMap_of_begins`: nothing is read from lines with other starts.
* `ReadsBehind.filterMap_entityLines`: what is read from a class when only its properties have a
  start.
-/

namespace TableCast
namespace Emit
namespace Doctrine

open Text Model

/-- A line is empty or has one of the starts. -/
def Begun (starts : List String) (line : String) : Prop :=
  line = "" ∨ ∃ start ∈ starts, start.toList <+: line.toList

/-- Every line is empty or has one of the starts. -/
def Begins (starts lines : List String) : Prop := ∀ line ∈ lines, Begun starts line

/-- Two texts of which neither starts with the other. -/
def apart (cs ds : List Char) : Bool := !(cs.isPrefixOf ds || ds.isPrefixOf cs)

section Starts

variable {starts lines others : List String} {start line : String}

theorem begins_nil : Begins starts [] := fun _ h => absurd h List.not_mem_nil

theorem begins_cons :
    Begins starts (line :: lines) ↔ Begun starts line ∧ Begins starts lines :=
  List.forall_mem_cons

theorem begins_append :
    Begins starts (lines ++ others) ↔ Begins starts lines ∧ Begins starts others :=
  List.forall_mem_append

theorem begins_map {α : Type} {xs : List α} {f : α → String} (h : ∀ x ∈ xs, Begun starts (f x)) :
    Begins starts (xs.map f) := by
  intro line hline
  obtain ⟨x, hx, rfl⟩ := List.mem_map.mp hline
  exact h x hx

theorem begins_flatMap {α : Type} {xs : List α} {f : α → List String}
    (h : ∀ x ∈ xs, Begins starts (f x)) : Begins starts (xs.flatMap f) := by
  intro line hline
  obtain ⟨x, hx, hline⟩ := List.mem_flatMap.mp hline
  exact h x hx line hline

theorem Begins.mono (h : Begins starts lines) (hsub : starts ⊆ others) : Begins others lines :=
  fun line hline => (h line hline).imp_right fun ⟨start, hstart, hprefix⟩ =>
    ⟨start, hsub hstart, hprefix⟩

/-- One of the starts is at the front of a text. -/
def isBegun (starts : List String) (text : String) : Bool :=
  starts.any fun start => start.toList.isPrefixOf text.toList

/-- The text at the front of a line decides. -/
theorem begun_append {text : String} (h : isBegun starts text = true) (rest : String) :
    Begun starts (text ++ rest) := by
  obtain ⟨start, hstart, hprefix⟩ := List.any_eq_true.mp h
  refine Or.inr ⟨start, hstart, (List.isPrefixOf_iff_prefix.mp hprefix).trans ?_⟩
  rw [String.toList_append]
  exact List.prefix_append _ _

theorem begun_self {text : String} (h : isBegun starts text = true) : Begun starts text := by
  simpa using begun_append h ""

theorem begun_empty : Begun starts "" := Or.inl rfl

/-- A text with a start that is apart from another one does not have the other one. -/
theorem dropPrefix?_of_apart {cs ds line : List Char} (h : apart cs ds = true)
    (hbegin : ds <+: line) : line.dropPrefix? cs = none := by
  rw [apart, Bool.not_eq_true', Bool.or_eq_false_iff, Bool.eq_false_iff, Bool.eq_false_iff, ne_eq,
    ne_eq, List.isPrefixOf_iff_prefix, List.isPrefixOf_iff_prefix] at h
  rw [Option.eq_none_iff_forall_not_mem]
  intro tail htail
  obtain ⟨front, hsplit, hfront⟩ := List.dropPrefix?_eq_some_iff.mp htail
  rw [eq_of_beq hfront] at hsplit
  have hprefix : cs <+: line := ⟨tail, hsplit.symm⟩
  exact (List.prefix_or_prefix_of_prefix hprefix hbegin).elim h.1 h.2

/-- A line that is put together from a start and something else is read behind the start. -/
theorem dropPrefix?_append (start rest : String) :
    (start ++ rest).toList.dropPrefix? start.toList = some rest.toList :=
  List.dropPrefix?_eq_some_iff.mpr
    ⟨start.toList, by rw [String.toList_append], beq_iff_eq.mpr rfl⟩

end Starts

section Blocks

/-- The starts of the lines in front of the members of a class. -/
def headStarts : List String :=
  ["<?php", "declare(", "namespace ", "use ", "/**", " *", "#[ORM\\", "class ", "\x7b"]

/-- The starts of the lines of constants. -/
def constantStarts : List String := ["    public const "]

/-- The starts of the lines that mark a key column. -/
def idStarts : List String := ["    #[ORM\\Id]", "    #[ORM\\GeneratedValue]"]

/-- The starts of the lines of properties. -/
def memberStarts : List String := ["    #[ORM\\", "    private "]

/-- The starts of the lines of methods. -/
def methodStarts : List String :=
  ["    public function ", "    \x7b", "        ", "    \x7d"]

/-- The starts of all lines but those of properties. -/
def frameStarts : List String := headStarts ++ constantStarts ++ methodStarts ++ ["\x7d"]

theorem begins_fileHead (name : String) : Begins headStarts (fileHead name) := by
  simp only [fileHead, begins_cons, String.append_assoc]
  exact ⟨begun_self (by decide), begun_empty, begun_self (by decide), begun_empty,
    begun_append (by decide) _, begun_empty, begins_nil⟩

theorem begins_useLines (context : RenderContext) (e : Entity) :
    Begins headStarts (useLines context e) := by
  simp only [useLines, begins_append, begins_cons, String.append_assoc]
  refine ⟨⟨?_, ?_⟩, begun_self (by decide), begun_self (by decide), begun_empty, begins_nil⟩
  · split_ifs
    · exact begins_map fun t _ => begun_append (by decide) _
    · exact begins_nil
  · split_ifs
    · exact begins_cons.mpr ⟨begun_append (by decide) _, begins_nil⟩
    · exact begins_nil

theorem begins_classHead (context : RenderContext) (e : Entity) :
    Begins headStarts (classHead context e) := by
  simp only [classHead, begins_append, begins_cons, String.append_assoc]
  refine ⟨⟨⟨begun_self (by decide), begun_append (by decide) _, begun_self (by decide),
    begun_self (by decide), begun_self (by decide), ?_, begun_append (by decide) _,
    begins_nil⟩, ?_⟩, begun_append (by decide) _, begun_self (by decide), begins_nil⟩
  · split_ifs
    · exact begun_append (by decide) _
    · exact begun_self (by decide)
  · refine begins_map fun i _ => ?_
    simp only [indexLine, String.append_assoc]
    exact begun_append (by decide) _

theorem begins_constantLines (c : Column) : Begins constantStarts (constantLines c) := by
  rw [constantLines]
  split_ifs
  · exact begins_nil
  · refine begins_append.mpr ⟨begins_map fun v _ => ?_, begins_cons.mpr ⟨begun_empty, begins_nil⟩⟩
    simp only [String.append_assoc]
    exact begun_append (by decide) _

theorem begins_idLines (c : Column) :
    Begins idStarts (if c.isPrimary then
      "    #[ORM\\Id]" :: (if c.autoIncrement then ["    #[ORM\\GeneratedValue]"] else [])
      else []) := by
  split_ifs
  · simp only [begins_cons]
    exact ⟨begun_self (by decide), begun_self (by decide), begins_nil⟩
  · exact begins_cons.mpr ⟨begun_self (by decide), begins_nil⟩
  · exact begins_nil

theorem begins_propertyLines (c : Column) : Begins memberStarts (propertyLines c) := by
  simp only [propertyLines, begins_append, begins_cons, String.append_assoc]
  refine ⟨?_, begun_append (by decide) _, begun_append (by decide) _, begun_empty, begins_nil⟩
  split_ifs
  · simp only [begins_cons]
    exact ⟨begun_self (by decide), begun_self (by decide), begins_nil⟩
  · exact begins_cons.mpr ⟨begun_self (by decide), begins_nil⟩
  · exact begins_nil

theorem begins_associationLines (l : Association) : Begins memberStarts (associationLines l) := by
  simp only [associationLines, begins_append, begins_cons, String.append_assoc]
  refine ⟨⟨⟨begun_append (by decide) _, begins_nil⟩, begins_map fun pair _ => ?_⟩,
    begun_append (by decide) _, begun_empty, begins_nil⟩
  -- The equation of this definition is slow to make.
  delta joinLine
  simp only [String.append_assoc]
  exact begun_append (by decide) _

theorem begins_getterLines (member type : String) :
    Begins methodStarts (getterLines member type) := by
  simp only [getterLines, begins_cons, String.append_assoc]
  exact ⟨begun_append (by decide) _, begun_self (by decide), begun_append (by decide) _,
    begun_self (by decide), begun_empty, begins_nil⟩

theorem begins_setterLines (member type : String) :
    Begins methodStarts (setterLines member type) := by
  simp only [setterLines, begins_cons, String.append_assoc]
  exact ⟨begun_append (by decide) _, begun_self (by decide), begun_append (by decide) _,
    begun_empty, begun_self (by decide), begun_self (by decide), begun_empty, begins_nil⟩

theorem begins_columnAccessors (c : Column) : Begins methodStarts (columnAccessors c) := by
  rw [columnAccessors, begins_append]
  refine ⟨begins_getterLines _ _, ?_⟩
  split_ifs
  · exact begins_setterLines _ _
  · exact begins_nil

theorem begins_associationAccessors (l : Association) :
    Begins methodStarts (associationAccessors l) :=
  begins_append.mpr ⟨begins_getterLines _ _, begins_setterLines _ _⟩

end Blocks

section Reading

variable {α : Type} {start : List Char} {read : String → Option α} {starts lines : List String}

/-- A reader of the lines that have a start. -/
structure ReadsBehind (start : List Char) (read : String → Option α) : Prop where
  /-- The empty line does not have it. -/
  nonempty : start ≠ []
  /-- Nothing is read from any other line. -/
  silent : ∀ line : String, line.toList.dropPrefix? start = none → read line = none

theorem ReadsBehind.of_empty (hread : ReadsBehind start read) : read "" = none := by
  refine hread.silent "" ?_
  obtain ⟨c, rest, rfl⟩ := List.exists_cons_of_ne_nil hread.nonempty
  rfl

/-- Nothing is read from a line that another text is at the front of. -/
theorem ReadsBehind.of_append {text : String} (hread : ReadsBehind start read)
    (h : apart start text.toList = true) (rest : String) : read (text ++ rest) = none := by
  refine hread.silent _ (dropPrefix?_of_apart h ?_)
  rw [String.toList_append]
  exact List.prefix_append _ _

/-- Nothing is read from lines with other starts. -/
theorem ReadsBehind.filterMap_of_begins (hread : ReadsBehind start read)
    (hbegins : Begins starts lines)
    (hapart : ∀ s ∈ starts, apart start s.toList = true) : lines.filterMap read = [] := by
  refine List.filterMap_eq_nil_iff.mpr fun line hline => ?_
  rcases hbegins line hline with rfl | ⟨other, hother, hbegin⟩
  · exact hread.of_empty
  · exact hread.silent line (dropPrefix?_of_apart (hapart other hother) hbegin)

/-- What is read from the lines with a start is read from the properties of a class, when no other
line has it. -/
theorem ReadsBehind.filterMap_entityLines (hread : ReadsBehind start read)
    (hapart : ∀ s ∈ frameStarts, apart start s.toList = true)
    (context : RenderContext) (e : Entity) :
    (entityLines context e).filterMap read =
      (declaredColumns e).flatMap (fun c => (propertyLines c).filterMap read) ++
        (linkedAssociations e).flatMap (fun l => (associationLines l).filterMap read) := by
  have hheads : headStarts ⊆ frameStarts := by simp [frameStarts]
  have hconstants : constantStarts ⊆ frameStarts := fun s hs => by simp [frameStarts, hs]
  have hmethods : methodStarts ⊆ frameStarts := fun s hs => by simp [frameStarts, hs]
  have hfront : Begins frameStarts
      (fileHead (context.moduleOf .entity) ++ useLines context e ++ classHead context e ++
        e.columns.flatMap constantLines) := by
    simp only [begins_append]
    exact ⟨⟨⟨(begins_fileHead _).mono hheads, (begins_useLines context e).mono hheads⟩,
      (begins_classHead context e).mono hheads⟩,
      begins_flatMap fun c _ => (begins_constantLines c).mono hconstants⟩
  have hback : Begins frameStarts
      ((declaredColumns e).flatMap columnAccessors ++
        ((linkedAssociations e).flatMap associationAccessors ++ ["\x7d"])) := by
    simp only [begins_append]
    exact ⟨begins_flatMap fun c _ => (begins_columnAccessors c).mono hmethods,
      begins_flatMap fun l _ => (begins_associationAccessors l).mono hmethods,
      begins_cons.mpr ⟨begun_self (by decide), begins_nil⟩⟩
  rw [entityLines, List.append_assoc, List.append_assoc, List.append_assoc, List.append_assoc,
    List.filterMap_append, hread.filterMap_of_begins hfront hapart, List.nil_append,
    List.filterMap_append, List.filterMap_append, hread.filterMap_of_begins hback hapart,
    List.append_nil, List.filterMap_flatMap, List.filterMap_flatMap]

end Reading

end Doctrine
end Emit
end TableCast
