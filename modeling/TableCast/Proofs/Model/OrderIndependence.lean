import TableCast.Proofs.Model.RowOrder
import TableCast.Proofs.Model.Completion

/-!
# Assemblies do not depend on the order of the catalog

The columns of a table are arranged when they are read, the tables of a run when the assembly
starts.  After that, tables with the same rows are alike, and the passes of the assembly give
the same for them.

**Results.**
* `alike_arranged`: tables with the same rows are alike once their columns are arranged.
* `tablesByName_of_perm`, `tablesByName_of_alike`: a run takes its tables in one order.
* `entities_of_reordered`: two readings of the same rows give the same entities.
-/

namespace TableCast
namespace Model

open Name Schema Fallible Reordering

/-- A table as it is read: with its columns arranged. -/
def arranged (t : Table) : Table :=
  Table.ofFacts t.name t.columns t.foreignKeys t.indexes t.valueLists

/-- Two readings have the same tables with the same rows, in any order. -/
def SameTables (ts us : List Table) : Prop :=
  ∃ vs, List.Forall₂ SameRows ts vs ∧ vs.Perm us

section Arranging

/-- Columns are compared by their positions and then by their names. -/
theorem columnLe_eq_true_iff {c d : Schema.Column} :
    columnLe c d = true ↔ toLex (c.ordinal, c.name) ≤ toLex (d.ordinal, d.name) := by
  rw [Prod.Lex.toLex_le_toLex, columnLe]
  simp

theorem columnLe_trans (b c d : Schema.Column) :
    columnLe b c = true → columnLe c d = true → columnLe b d = true := by
  simp only [columnLe_eq_true_iff]
  exact le_trans

theorem columnLe_total (c d : Schema.Column) : (columnLe c d || columnLe d c) = true := by
  rw [Bool.or_eq_true, columnLe_eq_true_iff, columnLe_eq_true_iff]
  exact le_total _ _

/-- Tables with the same rows are alike once their columns are arranged. -/
theorem alike_arranged
    {t u : Table} (h : SameRows t u) (hdistinct : DistinctRows t) :
    Alike (arranged t) (arranged u) := by
  have hcolumns : t.columns.mergeSort columnLe = u.columns.mergeSort columnLe := by
    refine mergeSort_eq_of_perm columnLe_trans columnLe_total ?_ h.columns
    intro c hc d hd hcd hdc
    have hpair := le_antisymm (columnLe_eq_true_iff.mp hcd) (columnLe_eq_true_iff.mp hdc)
    have hname : c.name = d.name := congrArg Prod.snd (toLex.injective hpair)
    exact List.inj_on_of_nodup_map hdistinct.columns hc hd hname
  refine ⟨⟨h.name, ?_, h.foreignKeys, h.indexes, h.valueLists⟩, ⟨?_, hdistinct.foreignKeys,
    hdistinct.indexes, hdistinct.primary, hdistinct.valueLists⟩, hcolumns⟩
  · show (t.columns.mergeSort columnLe).Perm (u.columns.mergeSort columnLe)
    rw [hcolumns]
  · have hnames := (List.mergeSort_perm t.columns columnLe).map (·.name)
    exact hnames.nodup_iff.mpr hdistinct.columns

end Arranging

section Tables

variable {ts us : List Table}

/-- A run takes tables with different names in one order. -/
theorem tablesByName_of_perm
    (hnames : (ts.map (·.name)).Nodup) (h : ts.Perm us) :
    Assembler.tablesByName ts = Assembler.tablesByName us := by
  have hsorted : Scope.sortedDistinct (ts.map (·.name)) = Scope.sortedDistinct (us.map (·.name)) :=
    Scope.sortedDistinct_congr fun name => (h.map (·.name)).mem_iff
  have hkept : keptTable? ts = keptTable? us := by
    funext name
    refine find?_eq_of_perm ?_ ((List.reverse_perm _).trans (h.trans (List.reverse_perm _).symm))
    intro t ht u hu hnt hnu
    have hname : t.name = u.name := (beq_iff_eq.mp hnt).trans (beq_iff_eq.mp hnu).symm
    exact List.inj_on_of_nodup_map hnames (List.mem_reverse.mp ht) (List.mem_reverse.mp hu) hname
  show (Scope.sortedDistinct (ts.map (·.name))).filterMap (keptTable? ts) =
    (Scope.sortedDistinct (us.map (·.name))).filterMap (keptTable? us)
  rw [hsorted, hkept]

theorem map_name_of_alike (h : List.Forall₂ Alike ts us) : ts.map (·.name) = us.map (·.name) := by
  induction h with
  | nil => rfl
  | cons hfirst _ ih => rw [List.map_cons, List.map_cons, ih, hfirst.rows.name]

/-- A run takes alike tables alike. -/
theorem tablesByName_of_alike (h : List.Forall₂ Alike ts us) :
    List.Forall₂ Alike (Assembler.tablesByName ts) (Assembler.tablesByName us) := by
  have hkept : ∀ name, Option.Rel Alike (keptTable? ts name) (keptTable? us name) :=
    tableNamed?_of_alike (List.forall₂_reverse_iff.mpr h)
  have hall : ∀ names : List String,
      List.Forall₂ Alike (names.filterMap (keptTable? ts)) (names.filterMap (keptTable? us)) := by
    intro names
    induction names with
    | nil => exact List.Forall₂.nil
    | cons name names ih =>
        have hname := hkept name
        rw [List.filterMap_cons, List.filterMap_cons]
        generalize keptTable? ts name = t at hname ⊢
        generalize keptTable? us name = u at hname ⊢
        cases hname with
        | none => exact ih
        | some hfirst => exact List.Forall₂.cons hfirst ih
  show List.Forall₂ Alike ((Scope.sortedDistinct (ts.map (·.name))).filterMap (keptTable? ts))
    ((Scope.sortedDistinct (us.map (·.name))).filterMap (keptTable? us))
  rw [map_name_of_alike h]
  exact hall _

end Tables

section Assemblies

/-- The passes of an assembly decide which entities it has, and why it stops. -/
theorem entities_eq_passes (a : Assembler) (names : List String) (tables : List Table)
    (failures : List (String × String)) :
    ((a.assemble names tables failures).mapError (·.error)).map (·.entities) =
      (a.passes (Assembler.tablesByName tables)).map fun linked => linked.map (·.1.closed) := by
  rcases a.assemble_cases names tables failures with
    ⟨stop, hpasses, hstop⟩ | ⟨-, linked, result, -, -, hpasses, hresult, hentities, -⟩
  · rw [hpasses, hstop]
    rfl
  · rw [hpasses, hresult]
    show Except.ok result.entities = Except.ok (linked.map (·.1.closed))
    rw [hentities]

/-- Two readings of the same tables give the same entities: the same tables succeed, and each
has the same type name, columns, primary key, indexes, enum types and associations, in the same
order.  If the assembly of one reading stops, that of the other stops for the same reason. -/
theorem entities_of_reordered
    (a : Assembler) (names : List String) (failures : List (String × String))
    {ts us : List Table}
    (hnames : (ts.map (·.name)).Nodup)
    (hdistinct : ∀ t ∈ ts, DistinctRows t)
    (h : SameTables ts us) :
    ((a.assemble names (ts.map arranged) failures).mapError (·.error)).map (·.entities) =
      ((a.assemble names (us.map arranged) failures).mapError (·.error)).map (·.entities) := by
  obtain ⟨vs, hrows, hperm⟩ := h
  -- First the rows are exchanged inside each table, then the tables.
  have halike : List.Forall₂ Alike (ts.map arranged) (vs.map arranged) := by
    rw [List.forall₂_map_left_iff, List.forall₂_map_right_iff]
    refine ((List.forall₂_and_left _ _).mpr ⟨hdistinct, hrows⟩).imp ?_
    rintro t v ⟨ht, htv⟩
    exact alike_arranged htv ht
  have hvs : ((vs.map arranged).map (·.name)).Nodup := by
    rw [← map_name_of_alike halike, List.map_map]
    exact hnames
  rw [entities_eq_passes, entities_eq_passes, passes_of_alike (tablesByName_of_alike halike),
    tablesByName_of_perm hvs (hperm.map arranged)]

/-- A table with one column. -/
def office : Table :=
  { name := "office", columns := [{ name := "id", nativeType := "int" }] }

/-- A table with its columns and its foreign keys turned around. -/
def turnedStaff : Table :=
  { Assembler.staff with
    columns := Assembler.staff.columns.reverse
    foreignKeys := Assembler.staff.foreignKeys.reverse }

/-- Two tables read in either order, one of them with its rows turned around. -/
theorem entities_of_turned_reading :
    (∀ t ∈ [Assembler.staff, office], DistinctRows t) ∧
    SameTables [Assembler.staff, office] [office, turnedStaff] ∧
    ((Assembler.withoutEnums.assemble ["staff", "office"]
        ([Assembler.staff, office].map arranged) []).mapError (·.error)).map (·.entities) =
      ((Assembler.withoutEnums.assemble ["staff", "office"]
        ([office, turnedStaff].map arranged) []).mapError (·.error)).map (·.entities) := by
  have hstaff : SameRows Assembler.staff turnedStaff :=
    ⟨rfl, (List.reverse_perm _).symm, (List.reverse_perm _).symm, List.Perm.refl _,
      List.Perm.refl _⟩
  have hoffice : SameRows office office :=
    ⟨rfl, List.Perm.refl _, List.Perm.refl _, List.Perm.refl _, List.Perm.refl _⟩
  have hdistinct : ∀ t ∈ [Assembler.staff, office], DistinctRows t := by decide
  have hsame : SameTables [Assembler.staff, office] [office, turnedStaff] :=
    ⟨[turnedStaff, office],
      List.Forall₂.cons hstaff (List.Forall₂.cons hoffice List.Forall₂.nil),
      List.Perm.swap _ _ _⟩
  exact ⟨hdistinct, hsame, entities_of_reordered Assembler.withoutEnums ["staff", "office"] []
    (by decide) hdistinct hsame⟩

end Assemblies

end Model
end TableCast
