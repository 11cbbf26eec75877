import TableCast.Proofs.Model.EnumTypes

/-!
# The cases of enum types

Every value of an enum type has a case of its own.  Case names are spelled from the values, and the
spelling may lose what tells two values apart; then the enum type is refused.  So the look-ups of an
enum type that is not refused are inverse to each other.

**Results.**
* `enumCases_eq_ok_iff`, `collision_of_enumCases`: the cases of a list of values, and what is
  reported when there are none.
* `enumTypes_refused_iff`: the tables whose enum types are refused.
* `invertible_of_enumOf`: the look-ups of an enum type.
* `enum_types_invertible_or_refused`: all together, for the enum types of a table.
-/

namespace TableCast
namespace Model

open Name Schema Fallible Reordering

/-- A value list of a table gives an enum type: its column exists and it has values. -/
structure Considered (table : Table) (values : ValueList) : Prop where
  listed : values ∈ table.valueLists
  column : values.column ∈ table.columns.map (·.name)
  nonempty : values.values ≠ []

/-- Two places of a list hold values with the same case name. -/
def Collides (n : Normalizer) (values : List String) : Prop :=
  ∃ (i j : Nat) (first second : String), i < j ∧ values[i]? = some first ∧
    values[j]? = some second ∧ n.caseName first = n.caseName second

/-- Every declared value has one case, and every case one value. -/
structure EnumType.Invertible (e : EnumType) : Prop where
  /-- What a value is mapped to is mapped back to it. -/
  inverse : ∀ value name, e.caseNameFor? value = some name ↔ e.rawValueFor? name = some value
  values : ∀ value, value ∈ e.rawValues ↔ ∃ name, e.caseNameFor? value = some name
  names : ∀ name, name ∈ e.caseNames ↔ ∃ value, e.rawValueFor? name = some value

theorem mem_consideredLists_iff {table : Table} {values : ValueList} :
    values ∈ consideredLists table ↔ Considered table values := by
  rw [consideredLists, List.mem_mergeSort, List.mem_filter, isDeclaredColumn, Bool.and_eq_true,
    List.any_eq_true, Bool.not_eq_true', List.isEmpty_eq_false_iff]
  constructor
  · rintro ⟨hlisted, ⟨c, hc, hname⟩, hnonempty⟩
    exact ⟨hlisted, List.mem_map.mpr ⟨c, hc, beq_iff_eq.mp hname⟩, hnonempty⟩
  · rintro ⟨hlisted, hcolumn, hnonempty⟩
    obtain ⟨c, hc, hname⟩ := List.mem_map.mp hcolumn
    exact ⟨hlisted, ⟨c, hc, beq_iff_eq.mpr hname⟩, hnonempty⟩

section Cases

variable {n : Normalizer} {table column : Option String} {values : List String}
variable {built cases : List (String × String)} {collision : EnumCollision}

/-- The values together with their case names. -/
def casesOf (n : Normalizer) (values : List String) : List (String × String) :=
  values.map fun value => (value, n.caseName value)

theorem names_casesOf (n : Normalizer) (values : List String) :
    (casesOf n values).map (·.2) = values.map n.caseName := by
  rw [casesOf, List.map_map]
  rfl

theorem values_casesOf (n : Normalizer) (values : List String) :
    (casesOf n values).map (·.1) = values := by
  rw [casesOf, List.map_map]
  exact List.map_id _

/-- One more value: its name is new, or it collides with a case that was built. -/
theorem casesAfter_cons (value : String) (values : List String) :
    (n.caseName value ∉ built.map (·.2) ∧
      n.casesAfter table column built (value :: values) =
        n.casesAfter table column (built ++ [(value, n.caseName value)]) values) ∨
    ∃ first, (first, n.caseName value) ∈ built ∧
      n.casesAfter table column built (value :: values) = .error {
        caseName := n.caseName value, first := first, second := value
        table := table, column := column } := by
  rw [Normalizer.casesAfter]
  cases hfind : built.find? (·.2 == n.caseName value) with
  | none =>
      refine .inl ⟨fun hmem => ?_, rfl⟩
      obtain ⟨pair, hpair, hname⟩ := List.mem_map.mp hmem
      exact absurd (beq_iff_eq.mpr hname) (List.find?_eq_none.mp hfind pair hpair)
  | some pair =>
      obtain ⟨first, name⟩ := pair
      obtain rfl : name = n.caseName value := by simpa using List.find?_some hfind
      exact .inr ⟨first, List.mem_of_find?_eq_some hfind, rfl⟩

/-- The cases are built exactly when all names are new and distinct. -/
theorem casesAfter_eq_ok_iff :
    n.casesAfter table column built values = .ok cases ↔
      (values.map n.caseName).Nodup ∧ (∀ value ∈ values, n.caseName value ∉ built.map (·.2)) ∧
        cases = built ++ casesOf n values := by
  induction values generalizing built with
  | nil =>
      simp [Normalizer.casesAfter, casesOf, eq_comm]
  | cons value values ih =>
      rw [List.map_cons, List.nodup_cons, List.forall_mem_cons]
      rcases @casesAfter_cons n table column built value values with
        ⟨hnew, hstep⟩ | ⟨first, hfirst, hstep⟩
      · have hnames : ∀ other, n.caseName other ∉ (built ++ [(value, n.caseName value)]).map (·.2) ↔
            n.caseName other ∉ built.map (·.2) ∧ n.caseName other ≠ n.caseName value := by
          intro other
          rw [List.map_append, List.mem_append, not_or, List.map_singleton, List.mem_singleton]
        have hrest : n.caseName value ∉ values.map n.caseName ↔
            ∀ other ∈ values, n.caseName other ≠ n.caseName value := by
          rw [List.mem_map]
          push Not
          exact Iff.rfl
        rw [hstep, ih, List.append_assoc, hrest]
        simp only [hnames]
        show _ ↔ (_ ∧ _) ∧ _ ∧ cases = built ++ (value, n.caseName value) :: casesOf n values
        constructor
        · rintro ⟨hnodup, hapart, hcases⟩
          exact ⟨⟨fun other hother => (hapart other hother).2, hnodup⟩,
            ⟨hnew, fun other hother => (hapart other hother).1⟩, hcases⟩
        · rintro ⟨⟨hapart, hnodup⟩, ⟨-, hbuilt⟩, hcases⟩
          exact ⟨hnodup, fun other hother => ⟨hbuilt other hother, hapart other hother⟩, hcases⟩
      · rw [hstep]
        constructor
        · exact nofun
        · rintro ⟨-, ⟨hnew, -⟩, -⟩
          exact absurd (List.mem_map.mpr ⟨_, hfirst, rfl⟩) hnew

theorem enumCases_eq_ok_iff :
    n.enumCases values table column = .ok cases ↔
      (values.map n.caseName).Nodup ∧ cases = casesOf n values := by
  rw [Normalizer.enumCases, casesAfter_eq_ok_iff, List.nil_append]
  simp

theorem collides_iff : Collides n values ↔ ¬ (values.map n.caseName).Nodup := by
  rw [List.nodup_iff_getElem?_ne_getElem?]
  push Not
  constructor
  · rintro ⟨i, j, first, second, hij, hfirst, hsecond, hname⟩
    refine ⟨i, j, hij, ?_, ?_⟩
    · rw [List.length_map]
      exact (List.getElem?_eq_some_iff.mp hsecond).1
    · rw [List.getElem?_map, List.getElem?_map, hfirst, hsecond, Option.map_some, Option.map_some,
        hname]
  · rintro ⟨i, j, hij, hj, hname⟩
    rw [List.length_map] at hj
    rw [List.getElem?_map, List.getElem?_map, List.getElem?_eq_getElem hj,
      List.getElem?_eq_getElem (hij.trans hj)] at hname
    exact ⟨i, j, _, _, hij, List.getElem?_eq_getElem _, List.getElem?_eq_getElem _,
      Option.some.inj hname⟩

/-- What is reported when the cases are not built: a value and one before it, or a case that was
built already, with the same case name. -/
theorem exists_of_casesAfter_error (h : n.casesAfter table column built values = .error collision) :
    ∃ before after, values = before ++ collision.second :: after ∧
      (collision.first, collision.caseName) ∈ built ++ casesOf n before ∧
      collision.caseName = n.caseName collision.second ∧
      collision.table = table ∧ collision.column = column := by
  induction values generalizing built with
  | nil => cases h
  | cons value values ih =>
      rcases @casesAfter_cons n table column built value values with
        ⟨-, hstep⟩ | ⟨first, hfirst, hstep⟩
      · rw [hstep] at h
        obtain ⟨before, after, rfl, hmem, hreport⟩ := ih h
        refine ⟨value :: before, after, rfl, ?_, hreport⟩
        rwa [List.append_assoc] at hmem
      · rw [hstep] at h
        obtain rfl := Except.error.inj h
        exact ⟨[], values, rfl, List.mem_append_left _ hfirst, rfl, rfl, rfl⟩

/-- A collision names two values with the same case name, the one that is declared first first. -/
structure Reports (n : Normalizer) (values : List String) (collision : EnumCollision) : Prop where
  declared : ∃ i j : Nat, i < j ∧ values[i]? = some collision.first ∧
    values[j]? = some collision.second
  first : collision.caseName = n.caseName collision.first
  second : collision.caseName = n.caseName collision.second

theorem reports_of_enumCases (h : n.enumCases values table column = .error collision) :
    Reports n values collision ∧ collision.table = table ∧ collision.column = column := by
  obtain ⟨before, after, rfl, hmem, hname, hreport⟩ := exists_of_casesAfter_error h
  obtain ⟨first, hfirst, hcase⟩ := List.mem_map.mp (List.nil_append (casesOf n before) ▸ hmem)
  obtain ⟨rfl, hcase⟩ := Prod.mk.inj hcase
  obtain ⟨i, hi, hget⟩ := List.getElem_of_mem hfirst
  refine ⟨⟨⟨i, before.length, hi, ?_, ?_⟩, hcase.symm, hname⟩, hreport⟩
  · rw [List.getElem?_append_left hi, List.getElem?_eq_getElem hi, hget]
  · rw [List.getElem?_append_right (Nat.le_refl _), Nat.sub_self]
    rfl

end Cases

section Lookups

variable {α : Type} {key : α → String} {xs : List α} {x : α} {k : String}

/-- Where keys are distinct, a search by key finds the only element that has it. -/
theorem find?_key_eq_some_iff (h : (xs.map key).Nodup) :
    xs.find? (key · == k) = some x ↔ x ∈ xs ∧ key x = k := by
  constructor
  · intro hfind
    exact ⟨List.mem_of_find?_eq_some hfind, by simpa using List.find?_some hfind⟩
  · rintro ⟨hx, rfl⟩
    cases hfind : xs.find? (key · == key x) with
    | none => exact absurd (List.find?_eq_none.mp hfind x hx) (by simp)
    | some y =>
        have hkey : key y = key x := by simpa using List.find?_some hfind
        rw [List.inj_on_of_nodup_map h (List.mem_of_find?_eq_some hfind) hx hkey]

variable {e : EnumType} {value name : String}

theorem caseNameFor?_eq_some_iff (h : e.rawValues.Nodup) :
    e.caseNameFor? value = some name ↔ (value, name) ∈ e.cases := by
  rw [EnumType.caseNameFor?, Option.map_eq_some_iff]
  simp only [find?_key_eq_some_iff h]
  constructor
  · rintro ⟨⟨v, m⟩, ⟨hmem, rfl⟩, rfl⟩
    exact hmem
  · exact fun hmem => ⟨(value, name), ⟨hmem, rfl⟩, rfl⟩

theorem rawValueFor?_eq_some_iff (h : e.caseNames.Nodup) :
    e.rawValueFor? name = some value ↔ (value, name) ∈ e.cases := by
  rw [EnumType.rawValueFor?, Option.map_eq_some_iff]
  simp only [find?_key_eq_some_iff h]
  constructor
  · rintro ⟨⟨v, m⟩, ⟨hmem, rfl⟩, rfl⟩
    exact hmem
  · exact fun hmem => ⟨(value, name), ⟨hmem, rfl⟩, rfl⟩

/-- The look-ups of an enum type are inverse when neither a value nor a case name is repeated. -/
theorem invertible_of_nodup (hvalues : e.rawValues.Nodup) (hnames : e.caseNames.Nodup) :
    e.Invertible := by
  refine ⟨fun value name => ?_, fun value => ?_, fun name => ?_⟩
  · rw [caseNameFor?_eq_some_iff hvalues, rawValueFor?_eq_some_iff hnames]
  · simp [caseNameFor?_eq_some_iff hvalues, EnumType.rawValues]
  · simp [rawValueFor?_eq_some_iff hnames, EnumType.caseNames]

end Lookups

section Types

variable {n : Normalizer} {typeNames : List (String × String)} {table : Table}
variable {values : ValueList} {e : EnumType} {built : List EnumType} {collision : EnumCollision}

/-- What the cases of an enum type are: they list the values of a list, in order. -/
theorem cases_of_enumOf (h : EnumOf n typeNames table values e) :
    e.cases = casesOf n values.values ∧ e.caseNames.Nodup := by
  obtain ⟨hnodup, hcases⟩ := enumCases_eq_ok_iff.mp h.cases
  rw [EnumType.caseNames, hcases, names_casesOf]
  exact ⟨rfl, hnodup⟩

theorem rawValues_of_enumOf (h : EnumOf n typeNames table values e) :
    e.rawValues = values.values := by
  rw [EnumType.rawValues, (cases_of_enumOf h).1, values_casesOf]

/-- A value that is repeated would repeat its case name. -/
theorem invertible_of_enumOf (h : EnumOf n typeNames table values e) : e.Invertible := by
  obtain ⟨hcases, hnames⟩ := cases_of_enumOf h
  refine invertible_of_nodup ?_ hnames
  rw [EnumType.caseNames, hcases, names_casesOf] at hnames
  rw [rawValues_of_enumOf h]
  exact hnames.of_map

/-- The checks on the cases of an enum type all pass. -/
theorem make_of_enumOf (h : EnumOf n typeNames table values e) (hvalues : values.values ≠ []) :
    e.make = .ok e := by
  obtain ⟨hcases, hnames⟩ := cases_of_enumOf h
  have hsome : e.cases.isEmpty = false := by
    rw [hcases, List.isEmpty_eq_false_iff]
    exact fun hnil => hvalues (List.map_eq_nil_iff.mp hnil)
  rw [EnumType.make, hsome, if_neg Bool.false_ne_true, eraseDups_of_nodup hnames, bne_self_eq_false,
    if_neg Bool.false_ne_true]

/-- The enum types of a table are refused because of two values of one considered list. -/
theorem reports_of_enumTypes (h : enumTypes n typeNames table = .error collision) :
    ∃ values, Considered table values ∧ Reports n values.values collision ∧
      collision.table = some table.name ∧ collision.column = some values.column := by
  obtain ⟨values, hvalues, built, hstep⟩ := exists_of_foldlM_error h
  have hcases : n.enumCases values.values (some table.name) (some values.column) =
      .error collision := by
    cases hcases : n.enumCases values.values (some table.name) (some values.column) with
    | error other =>
        simp only [enumTypeOf, hcases] at hstep
        exact congrArg Except.error (Except.error.inj hstep)
    | ok cases =>
        simp only [enumTypeOf, hcases] at hstep
        cases hstep
  exact ⟨values, mem_consideredLists_iff.mp hvalues, reports_of_enumCases hcases⟩

/-- Every considered list of a table that is not refused has given an enum type. -/
theorem exists_enumOf (h : enumTypes n typeNames table = .ok built)
    (hvalues : Considered table values) : ∃ e, EnumOf n typeNames table values e := by
  have hall : ∀ values ∈ consideredLists table, ∃ e, EnumOf n typeNames table values e := by
    refine foldlM_ok_induction
      (motive := fun before (_ : List EnumType) => ∀ values ∈ before,
        ∃ e, EnumOf n typeNames table values e) (fun _ h => absurd h List.not_mem_nil) ?_ h
    intro before values built next _ hbefore hnext
    obtain ⟨e, he, -⟩ := bind_eq_ok.mp hnext
    refine List.forall_mem_append.mpr ⟨hbefore, fun other hother => ?_⟩
    rw [List.mem_singleton.mp hother]
    exact ⟨e, enumTypeOf_ok he⟩
  exact hall values (mem_consideredLists_iff.mpr hvalues)

theorem not_collides_of_enumOf (h : EnumOf n typeNames table values e) :
    ¬ Collides n values.values := by
  rw [collides_iff, not_not]
  exact (enumCases_eq_ok_iff.mp h.cases).1

theorem Reports.collides {values : List String} (h : Reports n values collision) :
    Collides n values := by
  obtain ⟨i, j, hij, hfirst, hsecond⟩ := h.declared
  exact ⟨i, j, _, _, hij, hfirst, hsecond, h.first.symm.trans h.second⟩

/-- The tables whose enum types are refused. -/
theorem enumTypes_refused_iff :
    (∃ collision, enumTypes n typeNames table = .error collision) ↔
      ∃ values, Considered table values ∧ Collides n values.values := by
  constructor
  · rintro ⟨collision, h⟩
    obtain ⟨values, hvalues, hreports, -⟩ := reports_of_enumTypes h
    exact ⟨values, hvalues, hreports.collides⟩
  · rintro ⟨values, hvalues, hcollides⟩
    cases h : enumTypes n typeNames table with
    | error collision => exact ⟨collision, rfl⟩
    | ok built =>
        obtain ⟨e, he⟩ := exists_enumOf h hvalues
        exact absurd hcollides (not_collides_of_enumOf he)

/-- **The enum types of a table are refused or invertible.**  They are refused exactly when two
places of one considered value list hold values with the same case name, and then two such values
are reported.  Otherwise every column with a considered value list has one enum type; its values are
those of such a list in order, its case names are distinct, and its look-ups are inverse to each
other. -/
theorem enum_types_invertible_or_refused (n : Normalizer) (typeNames : List (String × String))
    (table : Table) :
    ((∃ collision, enumTypes n typeNames table = .error collision) ↔
      ∃ values, Considered table values ∧ Collides n values.values) ∧
    (∀ collision, enumTypes n typeNames table = .error collision →
      ∃ values, Considered table values ∧ Reports n values.values collision ∧
        collision.table = some table.name ∧ collision.column = some values.column) ∧
    ∀ built, enumTypes n typeNames table = .ok built →
      (built.map (·.column)).Nodup ∧
      (∀ column, column ∈ built.map (·.column) ↔
        ∃ values, Considered table values ∧ values.column = column) ∧
      ∀ e ∈ built, e.make = .ok e ∧ e.caseNames.Nodup ∧ e.Invertible ∧
        ∃ values, Considered table values ∧ values.column = e.column ∧
          e.rawValues = values.values := by
  refine ⟨enumTypes_refused_iff, fun collision h => reports_of_enumTypes h, fun built h => ?_⟩
  have hbuilt := enumTypes_ok h
  refine ⟨hbuilt.distinct, fun column => ?_, fun e he => ?_⟩
  · rw [hbuilt.columns, List.mem_map]
    simp only [mem_consideredLists_iff]
  · obtain ⟨values, hvalues, hof⟩ := hbuilt.sound e he
    rw [mem_consideredLists_iff] at hvalues
    exact ⟨make_of_enumOf hof hvalues.nonempty, (cases_of_enumOf hof).2, invertible_of_enumOf hof,
      values, hvalues, hof.column.symm, rawValues_of_enumOf hof⟩

/-- A table with a column for the stage of a task. -/
def tasks (stages : List String) : Table :=
  { name := "task"
    columns := [{ name := "stage", nativeType := "text" }]
    valueLists := [{ column := "stage", values := stages }] }

/-- Two stages that differ in their separators only, and two that do not. -/
theorem enumTypes_of_tasks :
    (∃ collision, enumTypes {} [] (tasks ["draft", "in review", "in-review"]) =
      .error collision) ∧
    ∃ built, enumTypes {} [] (tasks ["draft", "in review"]) = .ok built ∧
      ∀ e ∈ built, e.rawValues = ["draft", "in review"] ∧ e.Invertible := by
  constructor
  · have hconsidered : Considered (tasks ["draft", "in review", "in-review"])
        { column := "stage", values := ["draft", "in review", "in-review"] } :=
      ⟨List.mem_singleton_self _, List.mem_singleton_self _, List.cons_ne_nil _ _⟩
    have hcollides : Collides {} ["draft", "in review", "in-review"] :=
      ⟨1, 2, "in review", "in-review", by decide, rfl, rfl, by cbv⟩
    exact (enum_types_invertible_or_refused {} [] _).1.mpr ⟨_, hconsidered, hcollides⟩
  · obtain ⟨hrefused, -, hbuilt⟩ :=
      enum_types_invertible_or_refused {} [] (tasks ["draft", "in review"])
    cases h : enumTypes {} [] (tasks ["draft", "in review"]) with
    | error collision =>
        obtain ⟨values, hvalues, hcollides⟩ := hrefused.mp ⟨collision, h⟩
        rw [List.mem_singleton.mp hvalues.listed, collides_iff] at hcollides
        have hnames : (["draft", "in review"].map ({} : Normalizer).caseName) =
            ["DRAFT", "IN_REVIEW"] := by cbv
        rw [hnames] at hcollides
        exact absurd (by decide) hcollides
    | ok built =>
        refine ⟨built, rfl, fun e he => ?_⟩
        obtain ⟨-, -, hinvertible, values, hvalues, -, hraw⟩ := (hbuilt built h).2.2 e he
        rw [List.mem_singleton.mp hvalues.listed] at hraw
        exact ⟨hraw, hinvertible⟩

end Types

end Model
end TableCast
