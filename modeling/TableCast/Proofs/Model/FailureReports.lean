import TableCast.Proofs.Model.OrderIndependence
import TableCast.Proofs.Model.Siblings

/-!
# What is recorded about a table when rows come in another order

A catalog may return the foreign keys, indexes and value lists of a table in any order.  A table
with refused foreign keys is excluded for the first one that is met, so what is recorded about it
depends on the order as soon as two of them are reported differently, and on nothing else.

**Reports.**  `TableError.report` is what an error is recorded as, `OneReport` says that all refused
foreign keys of a table have the same report, `SameReport` that two assemblies record the same
about a table.

**Results.**
* `extract_of_oneReport`: a table in two orders, when its refused foreign keys have one report.
* `sameReport_of_alike`: what two assemblies record about it.
* `keyNote_mem_iff`, `reason_of_refused`: the only key error that is recorded about a table is that
  of its first refused foreign key.
* `sameReport_iff`: the tables about which the same is recorded in every order.
-/

namespace TableCast
namespace Model

open Name Schema Fallible

/-- The code and the message that an error is recorded with. -/
def TableError.report (e : TableError) : String × String :=
  (lowerCode e.fault.code, e.fault.message)

/-- A foreign key of a table is refused for an error. -/
def RefusesKey (tables : List Table) (t : Table) (e : KeyError) : Prop :=
  ∃ key ∈ t.foreignKeys, targetColumns key t.name (tableNamed? tables key.targetTable) = .error e

/-- All refused foreign keys of a table have the same report. -/
def OneReport (tables : List Table) (t : Table) : Prop :=
  ∀ e e', RefusesKey tables t e → RefusesKey tables t e' →
    (TableError.key e).report = (TableError.key e').report

/-- The same is recorded about two outcomes of an extraction. -/
inductive SameOutcome : Except TableError Entity → Except TableError Entity → Prop
  | ok (entity : Entity) : SameOutcome (.ok entity) (.ok entity)
  | error {e e' : TableError} (h : e.report = e'.report) : SameOutcome (.error e) (.error e')

/-- Two assemblies record the same about a table: why it failed, and what was noted. -/
structure SameReport (name : String) (r s : Assembly) : Prop where
  reason : lookup? r.failures name = lookup? s.failures name
  notes : r.diagnostics.filter (·.table == some name) =
    s.diagnostics.filter (·.table == some name)

/-- Two readings have the same tables, the foreign keys, indexes and value lists of each of them
in any order. -/
def Reordered (ts us : List Table) : Prop :=
  ∃ vs, List.Forall₂ (fun t v => SameRows t v ∧ t.columns = v.columns) ts vs ∧ vs.Perm us

section Outcomes

variable {a : Assembler} {typeNames : List (String × String)}
variable {ts us : List Table} {t u : Table} {e : KeyError}

theorem SameOutcome.refl (outcome : Except TableError Entity) : SameOutcome outcome outcome := by
  cases outcome with
  | ok entity => exact .ok entity
  | error e => exact .error rfl

theorem refusesKey_of_validateKeys (h : validateKeys t ts = .error e) : RefusesKey ts t e := by
  obtain ⟨key, hkey, herror⟩ := exists_of_forM_error h
  refine ⟨key, hkey, ?_⟩
  cases hcolumns : targetColumns key t.name (tableNamed? ts key.targetTable) with
  | error e' =>
      rw [hcolumns] at herror
      exact congrArg Except.error (Except.error.inj herror)
  | ok columns =>
      rw [hcolumns] at herror
      cases herror

/-- Alike tables have the same refused foreign keys. -/
theorem refusesKey_of_alike (h : List.Forall₂ Alike ts us) (htable : Alike t u)
    (hrefuses : RefusesKey us u e) : RefusesKey ts t e := by
  obtain ⟨key, hkey, herror⟩ := hrefuses
  refine ⟨key, htable.rows.foreignKeys.mem_iff.mpr hkey, ?_⟩
  rw [htable.rows.name, targetColumns_of_alike (tableNamed?_of_alike h key.targetTable), herror]

theorem extract_refused (h : validateKeys t ts = .error e) :
    a.extract typeNames ts t = ([], .error (.key e)) := by
  rw [Assembler.extract, h]

/-- A table in two orders: it gets its columns alike, or it is refused with the one report that its
refused foreign keys have. -/
theorem extract_of_oneReport (a : Assembler) (typeNames : List (String × String))
    (h : List.Forall₂ Alike ts us) (htable : Alike t u) (hone : OneReport ts t) :
    (a.extract typeNames ts t).1 = (a.extract typeNames us u).1 ∧
      SameOutcome (a.extract typeNames ts t).2 (a.extract typeNames us u).2 := by
  cases ht : validateKeys t ts with
  | ok _ =>
      rw [extract_eq_of_alike h htable ht]
      exact ⟨rfl, .refl _⟩
  | error e =>
      cases hu : validateKeys u us with
      | ok _ =>
          rw [(validateKeys_of_alike h htable).mpr hu] at ht
          cases ht
      | error e' =>
          rw [extract_refused ht, extract_refused hu]
          exact ⟨rfl, .error (hone e e' (refusesKey_of_validateKeys ht)
            (refusesKey_of_alike h htable (refusesKey_of_validateKeys hu)))⟩

end Outcomes

namespace Assembler

section Notes

variable {a : Assembler} {typeNames : List (String × String)}
variable {ts us : List Table} {t u : Table} {name : String}

theorem extractionNotes_of_oneReport (h : List.Forall₂ Alike ts us) (htable : Alike t u)
    (hone : OneReport ts t) :
    a.extractionNotes typeNames ts t = a.extractionNotes typeNames us u := by
  obtain ⟨hwarnings, houtcome⟩ := extract_of_oneReport a typeNames h htable hone
  rw [extractionNotes, extractionNotes, hwarnings, htable.rows.name]
  generalize (a.extract typeNames ts t).2 = outcome at houtcome
  generalize (a.extract typeNames us u).2 = outcome' at houtcome
  cases houtcome with
  | ok entity => rfl
  | error hreport =>
      obtain ⟨hcode, hmessage⟩ := Prod.mk.inj hreport
      dsimp only
      rw [Diagnostic.ofFault, Diagnostic.ofFault, hcode, hmessage]

/-- The failure that the first pass records for a table. -/
def entryOf (a : Assembler) (typeNames : List (String × String)) (tables : List Table)
    (t : Table) : List (String × String) :=
  (a.exclusionOf typeNames tables t).toList.map Exclusion.entry

theorem fst_of_mem_entryOf {entry : String × String} (h : entry ∈ a.entryOf typeNames ts t) :
    entry.1 = t.name := by
  obtain ⟨x, hx, rfl⟩ := List.mem_map.mp h
  exact (table_of_exclusionOf (Option.mem_toList.mp hx)).1

theorem entryOf_of_oneReport (h : List.Forall₂ Alike ts us) (htable : Alike t u)
    (hone : OneReport ts t) : a.entryOf typeNames ts t = a.entryOf typeNames us u := by
  obtain ⟨-, houtcome⟩ := extract_of_oneReport a typeNames h htable hone
  rw [entryOf, entryOf, exclusionOf, exclusionOf, htable.rows.name]
  generalize (a.extract typeNames ts t).2 = outcome at houtcome
  generalize (a.extract typeNames us u).2 = outcome' at houtcome
  cases houtcome with
  | ok entity => rfl
  | error hreport =>
      obtain ⟨-, hmessage⟩ := Prod.mk.inj hreport
      show [(u.name, _)] = [(u.name, _)]
      rw [hmessage]

theorem map_entry_exclusions (tables : List Table) :
    (a.exclusions typeNames tables).map Exclusion.entry =
      tables.flatMap (a.entryOf typeNames tables) := by
  rw [exclusions, List.filterMap_eq_flatMap_toList, List.map_flatMap]
  rfl

/-- The failure of a table after the first pass, from what the first pass records. -/
theorem lookup?_firstPass_entries
    (tables : List Table) (candidates failures : List (String × String)) (name : String) :
    lookup? (a.firstPass tables candidates failures).failures name =
      ((tables.flatMap (a.entryOf (runTypeNames candidates) tables)).filter (·.1 == name)).foldl
        (fun _ entry => some entry.2) (lookup? (readingFailures failures) name) := by
  rw [lookup?_firstPass, ← map_entry_exclusions, List.filter_map, List.foldl_map]
  rfl

/-- What is collected under a name from alike tables is the same, if it is for the table of that
name. -/
theorem filter_flatMap_of_alike
    {γ : Type} {f g : Table → List γ} {owner : γ → Bool} {xs ys : List Table}
    (h : List.Forall₂ Alike xs ys)
    (hf : ∀ v, v.name ≠ name → ∀ x ∈ f v, owner x = false)
    (hg : ∀ v, v.name ≠ name → ∀ x ∈ g v, owner x = false)
    (hfg : ∀ v ∈ xs, v.name = name → ∀ w, Alike v w → f v = g w) :
    (xs.flatMap f).filter owner = (ys.flatMap g).filter owner := by
  rw [List.filter_flatMap, List.filter_flatMap]
  refine flatMap_of_forall₂ h fun v hv w hvw => ?_
  by_cases hname : v.name = name
  · rw [hfg v hv hname w hvw]
  · have hname' : w.name ≠ name := hvw.rows.name ▸ hname
    rw [List.filter_eq_nil_iff.mpr fun x hx => Bool.eq_false_iff.mp (hf v hname x hx),
      List.filter_eq_nil_iff.mpr fun x hx => Bool.eq_false_iff.mp (hg w hname' x hx)]

end Notes

section Assemblies

variable {a : Assembler} {names : List String} {failures : List (String × String)}
variable {ts us : List Table} {r s : Assembly} {name : String}

/-- Two assemblies of alike tables record the same about a table whose refused foreign keys have
one report. -/
theorem sameReport_of_alike
    (h : List.Forall₂ Alike (tablesByName ts) (tablesByName us))
    (hr : a.assemble names ts failures = .ok r) (hs : a.assemble names us failures = .ok s)
    (hone : ∀ t ∈ tablesByName ts, t.name = name → OneReport (tablesByName ts) t) :
    SameReport name r s := by
  obtain ⟨candidates, linked, hcandidates, hlinked, hentities, hfailures, hnotes⟩ :=
    assemble_passes hr
  obtain ⟨candidates', linked', hcandidates', hlinked', hentities', hfailures', hnotes'⟩ :=
    assemble_passes hs
  rw [typeCandidates_of_alike h, hcandidates'] at hcandidates
  rw [passes_of_alike h, hlinked'] at hlinked
  obtain rfl := Except.ok.inj hcandidates
  obtain rfl := Except.ok.inj hlinked
  have hsame : r.entities = s.entities := hentities.trans hentities'.symm
  have hfirst : lookup? (a.firstPass (tablesByName ts) candidates' failures).failures name =
      lookup? (a.firstPass (tablesByName us) candidates' failures).failures name := by
    rw [lookup?_firstPass_entries, lookup?_firstPass_entries]
    rw [filter_flatMap_of_alike h ?_ ?_ fun t ht hname u htu =>
      entryOf_of_oneReport h htu (hone t ht hname)]
    · exact fun t hne x hx => beq_eq_false_iff_ne.mpr (fst_of_mem_entryOf hx ▸ hne)
    · exact fun t hne x hx => beq_eq_false_iff_ne.mpr (fst_of_mem_entryOf hx ▸ hne)
  have hmissing : (missingNames names r.entities
        (a.firstPass (tablesByName ts) candidates' failures).failures).filter (· == name) =
      (missingNames names s.entities
        (a.firstPass (tablesByName us) candidates' failures).failures).filter (· == name) :=
    filter_missingNames (by rw [hsame]) hfirst
  constructor
  case reason =>
    have hlast := lookup?_foldl_putFailure (fun n : String => n)
      fun n => (TableError.unfinished n .pending).fault.message
    rw [hfailures, hfailures', hlast, hlast, hmissing, hfirst]
  case notes =>
    have hnoted : ∀ missing : List String,
        (missing.map missingNote).filter (·.table == some name) =
          (missing.filter (· == name)).map missingNote := fun missing => by
      rw [List.filter_map]
      rfl
    rw [hnotes, hnotes', List.filter_append, List.filter_append, List.filter_append,
      List.filter_append, hnoted, hnoted, hmissing]
    rw [filter_flatMap_of_alike h ?_ ?_ fun t ht hname u htu =>
      extractionNotes_of_oneReport h htu (hone t ht hname)]
    · intro t hne d hd
      rw [table_of_extractionNotes hd]
      exact beq_eq_false_iff_ne.mpr fun heq => hne (Option.some.inj heq)
    · intro t hne d hd
      rw [table_of_extractionNotes hd]
      exact beq_eq_false_iff_ne.mpr fun heq => hne (Option.some.inj heq)

theorem code_key (e : KeyError) :
    (TableError.key e).fault.code = FaultKind.partialKey.code ∨
      (TableError.key e).fault.code = FaultKind.schemaRead.code := by
  cases e with
  | fewerColumns key source target targetKey =>
      exact .inl (by simp [TableError.fault, KeyError.fault, partialKeyFault])
  | countMismatch key source targets =>
      exact .inr (by simp [TableError.fault, KeyError.fault])
  | partOfKey key source target targetKey =>
      exact .inl (by simp [TableError.fault, KeyError.fault, partialKeyFault])

/-- The note about a refused foreign key, as it is recorded about its table. -/
def keyNote (t : Table) (e : KeyError) : Diagnostic :=
  Diagnostic.ofFault (some t.name) (TableError.key e).fault none

theorem keyNote_ne_missingNote {t : Table} {e : KeyError} : keyNote t e ≠ missingNote name := by
  intro h
  have hcode : lowerCode (TableError.key e).fault.code =
      lowerCode (TableError.unfinished name .pending).fault.code := congrArg Diagnostic.code h
  have hmissing : (TableError.unfinished name .pending).fault.code =
      FaultKind.metadataExtraction.code := by
    simp [TableError.fault, extractionFault]
  rw [hmissing] at hcode
  rcases code_key e with hkey | hkey
  · rw [hkey] at hcode
    exact absurd hcode (by decide)
  · rw [hkey] at hcode
    exact absurd hcode (by decide)

/-- The only error of a foreign key that is recorded about a table is that of the first one that is
refused. -/
theorem keyNote_mem_iff {t : Table} {e e' : KeyError}
    (hr : a.assemble names ts failures = .ok r) (ht : t ∈ tablesByName ts)
    (hvalid : validateKeys t (tablesByName ts) = .error e) :
    keyNote t e' ∈ r.diagnostics ↔ (TableError.key e').report = (TableError.key e).report := by
  obtain ⟨candidates, linked, -, hlinked, -, -, hnotes⟩ := assemble_firstPass hr
  have hown : a.extractionNotes (runTypeNames candidates) (tablesByName ts) t = [keyNote t e] := by
    rw [extractionNotes, extract_refused hvalid]
    rfl
  have hsame : keyNote t e' = keyNote t e ↔
      (TableError.key e').report = (TableError.key e).report := by
    constructor
    · intro h
      exact Prod.ext (congrArg Diagnostic.code h) (congrArg Diagnostic.message h)
    · intro h
      obtain ⟨hcode, hmessage⟩ := Prod.mk.inj h
      rw [keyNote, keyNote, Diagnostic.ofFault, Diagnostic.ofFault, hcode, hmessage]
  rw [hnotes, ← hsame]
  constructor
  · intro hmem
    rcases List.mem_append.mp hmem with hmem | hmem
    · rcases List.mem_append.mp hmem with hmem | hmem
      · obtain ⟨u, hu, hmem⟩ := List.mem_flatMap.mp hmem
        have hname : t.name = u.name := Option.some.inj (table_of_extractionNotes hmem)
        obtain rfl := List.inj_on_of_nodup_map (nodup_map_name_tablesByName ts) ht hu hname
        rw [hown] at hmem
        exact List.mem_singleton.mp hmem
      · have hwarning := (warning_of_linked hlinked hmem).1
        cases hwarning
    · obtain ⟨missing, -, hmissing⟩ := List.mem_map.mp hmem
      exact absurd hmissing.symm keyNote_ne_missingNote
  · intro heq
    refine List.mem_append_left _ (List.mem_append_left _ (List.mem_flatMap.mpr ⟨t, ht, ?_⟩))
    rw [hown, heq]
    exact List.mem_singleton_self _

/-- And the table fails for that reason. -/
theorem reason_of_refused {t : Table} {e : KeyError}
    (hr : a.assemble names ts failures = .ok r) (ht : t ∈ tablesByName ts)
    (hvalid : validateKeys t (tablesByName ts) = .error e) :
    lookup? r.failures t.name = some (TableError.key e).fault.message := by
  obtain ⟨candidates, linked, -, -, -, hfailures, -⟩ := assemble_passes hr
  have hown : a.entryOf (runTypeNames candidates) (tablesByName ts) t =
      [(t.name, (TableError.key e).fault.message)] := by
    rw [entryOf, exclusionOf, extract_refused hvalid]
    rfl
  have hentries : ((tablesByName ts).flatMap
      (a.entryOf (runTypeNames candidates) (tablesByName ts))).filter (·.1 == t.name) =
        [(t.name, (TableError.key e).fault.message)] := by
    rw [Reordering.filter_flatMap_of_owner ht (nodup_map_name_tablesByName ts), hown]
    · exact fun entry hentry => beq_iff_eq.mpr (fst_of_mem_entryOf hentry)
    · exact fun u _ hne entry hentry => beq_eq_false_iff_ne.mpr (fst_of_mem_entryOf hentry ▸ hne)
  have hfirst : lookup? (a.firstPass (tablesByName ts) candidates failures).failures t.name =
      some (TableError.key e).fault.message := by
    rw [lookup?_firstPass_entries, hentries]
    rfl
  have hmissing : (missingNames names r.entities
      (a.firstPass (tablesByName ts) candidates failures).failures).filter (· == t.name) = [] := by
    refine List.filter_eq_nil_iff.mpr fun other hother heq => ?_
    obtain rfl := beq_iff_eq.mp heq
    exact (mem_missingNames.mp hother).2.2
      (lookup?_isSome_iff.mp (Option.isSome_of_mem hfirst))
  have hlast := lookup?_foldl_putFailure (fun n : String => n)
    fun n => (TableError.unfinished n .pending).fault.message
  rw [hfailures, hlast, hmissing, hfirst]
  rfl

end Assemblies

section Orders

variable {ts us : List Table} {t : Table} {key : ForeignKey}

/-- Tables whose rows come in another order are alike. -/
theorem alike_of_reordered (hnames : (ts.map (·.name)).Nodup)
    (hdistinct : ∀ t ∈ ts, DistinctRows t) (h : Reordered ts us) :
    List.Forall₂ Alike (tablesByName ts) (tablesByName us) := by
  obtain ⟨vs, hrows, hperm⟩ := h
  have halike : List.Forall₂ Alike ts vs := by
    refine ((List.forall₂_and_left _ _).mpr ⟨hdistinct, hrows⟩).imp ?_
    rintro t v ⟨ht, htv, hcolumns⟩
    exact ⟨htv, ht, hcolumns⟩
  have hvs : (vs.map (·.name)).Nodup := map_name_of_alike halike ▸ hnames
  rw [← tablesByName_of_perm hvs hperm]
  exact tablesByName_of_alike halike

theorem tableNamed?_of_nodup (hnames : (ts.map (·.name)).Nodup) :
    tableNamed? (tablesByName ts) = tableNamed? ts := by
  funext name
  rw [tableNamed?_tablesByName]
  refine Reordering.find?_eq_of_perm ?_ (List.reverse_perm _)
  intro t ht u hu hnt hnu
  have hname : t.name = u.name := (beq_iff_eq.mp hnt).trans (beq_iff_eq.mp hnu).symm
  exact List.inj_on_of_nodup_map hnames (List.mem_reverse.mp ht) (List.mem_reverse.mp hu) hname

theorem mem_tablesByName_of_nodup (hnames : (ts.map (·.name)).Nodup) :
    t ∈ tablesByName ts ↔ t ∈ ts := by
  refine ⟨mem_of_mem_tablesByName, fun ht => ?_⟩
  rw [mem_tablesByName, ← tableNamed?_tablesByName, tableNamed?_of_nodup hnames]
  exact tableNamed?_of_mem hnames ht

theorem refusesKey_tablesByName (hnames : (ts.map (·.name)).Nodup) {e : KeyError} :
    RefusesKey (tablesByName ts) t e ↔ RefusesKey ts t e := by
  rw [RefusesKey, RefusesKey, tableNamed?_of_nodup hnames]

/-- A table with one of its foreign keys in front of the others. -/
def keyFirst (key : ForeignKey) (t : Table) : Table :=
  { t with foreignKeys := key :: t.foreignKeys.erase key }

/-- The tables, one of them with one of its foreign keys in front. -/
def withKeyFirst (ts : List Table) (name : String) (key : ForeignKey) : List Table :=
  ts.map fun u => if u.name = name then keyFirst key u else u

theorem reordered_withKeyFirst (hnames : (ts.map (·.name)).Nodup) (ht : t ∈ ts)
    (hkey : key ∈ t.foreignKeys) : Reordered ts (withKeyFirst ts t.name key) := by
  refine ⟨_, ?_, List.Perm.refl _⟩
  rw [withKeyFirst, List.forall₂_map_right_iff, List.forall₂_same]
  intro u hu
  split_ifs with hname
  · obtain rfl := List.inj_on_of_nodup_map hnames hu ht hname
    exact ⟨⟨rfl, .refl _, List.perm_cons_erase hkey, .refl _, .refl _⟩, rfl⟩
  · exact ⟨⟨rfl, .refl _, .refl _, .refl _, .refl _⟩, rfl⟩

/-- Then this is the foreign key that the table is refused for. -/
theorem validateKeys_keyFirst {e : KeyError}
    (h : targetColumns key t.name (tableNamed? us key.targetTable) = .error e) :
    validateKeys (keyFirst key t) us = .error e := by
  show ((do let _ ← targetColumns key t.name (tableNamed? us key.targetTable); return ()) >>= _) = _
  rw [h]
  rfl

end Orders

section Reports

variable {a : Assembler} {names : List String} {failures : List (String × String)}
variable {ts : List Table} {r s : Assembly} {t : Table}

theorem mem_diagnostics_iff {d : Diagnostic} {name : String} (h : SameReport name r s)
    (hd : d.table = some name) : d ∈ r.diagnostics ↔ d ∈ s.diagnostics := by
  have hown : (d.table == some name) = true := beq_iff_eq.mpr hd
  have hfilter : d ∈ r.diagnostics.filter (·.table == some name) ↔
      d ∈ s.diagnostics.filter (·.table == some name) := by rw [h.notes]
  rwa [List.mem_filter, List.mem_filter, and_iff_left hown, and_iff_left hown] at hfilter

/-- When the same is recorded in every order, it is the error of any refused foreign key. -/
theorem keyNote_mem_of_sameReport {e e' : KeyError} (hnames : (ts.map (·.name)).Nodup)
    (hdistinct : ∀ t ∈ ts, DistinctRows t) (ht : t ∈ ts)
    (hsame : ∀ us, Reordered ts us →
      ∃ s, a.assemble names us failures = .ok s ∧ SameReport t.name r s)
    (hrefuses : RefusesKey ts t e) :
    keyNote t e' ∈ r.diagnostics ↔ (TableError.key e').report = (TableError.key e).report := by
  obtain ⟨key, hkey, herror⟩ := hrefuses
  have hreordered := reordered_withKeyFirst hnames ht hkey
  have halike := alike_of_reordered hnames hdistinct hreordered
  obtain ⟨s, hs, hreport⟩ := hsame _ hreordered
  have hmem : keyFirst key t ∈ tablesByName (withKeyFirst ts t.name key) := by
    obtain ⟨u, hu, hpair⟩ := exists_of_mem_left halike ((mem_tablesByName_of_nodup hnames).mpr ht)
    obtain ⟨v, hv, rfl⟩ := List.mem_map.mp (mem_of_mem_tablesByName hu)
    split_ifs at hu hpair with hname
    · obtain rfl := List.inj_on_of_nodup_map hnames hv ht hname
      exact hu
    · exact absurd hpair.rows.name.symm hname
  have hvalid : validateKeys (keyFirst key t) (tablesByName (withKeyFirst ts t.name key)) =
      .error e := by
    refine validateKeys_keyFirst ?_
    rw [← targetColumns_of_alike (tableNamed?_of_alike halike key.targetTable),
      tableNamed?_of_nodup hnames, herror]
  have hfirst : keyNote (keyFirst key t) e' ∈ s.diagnostics ↔
      (TableError.key e').report = (TableError.key e).report := keyNote_mem_iff hs hmem hvalid
  rw [mem_diagnostics_iff hreport rfl]
  exact hfirst

/-- **The same is recorded about a table in every order** of the foreign keys, indexes and value
lists of all tables exactly when its refused foreign keys have one report. -/
theorem sameReport_iff (hnames : (ts.map (·.name)).Nodup) (hdistinct : ∀ t ∈ ts, DistinctRows t)
    (hr : a.assemble names ts failures = .ok r) (name : String) :
    (∀ us, Reordered ts us → ∃ s, a.assemble names us failures = .ok s ∧ SameReport name r s) ↔
      ∀ t ∈ ts, t.name = name → OneReport ts t := by
  constructor
  · rintro hsame t ht rfl e e' he he'
    have hmem := (keyNote_mem_of_sameReport hnames hdistinct ht hsame he).mpr rfl
    exact (keyNote_mem_of_sameReport hnames hdistinct ht hsame he').mp hmem
  · intro hone us hreordered
    have halike := alike_of_reordered hnames hdistinct hreordered
    obtain ⟨-, linked, -, hlinked, -⟩ := assemble_passes hr
    obtain ⟨s, hs⟩ := exists_assemble_of_passes (passes_of_alike halike ▸ hlinked) names failures
    refine ⟨s, hs, sameReport_of_alike halike hr hs fun t ht hname e e' he he' => ?_⟩
    rw [refusesKey_tablesByName hnames] at he he'
    exact hone t ((mem_tablesByName_of_nodup hnames).mp ht) hname e e' he he'

/-- A table with at most one refused foreign key has one report. -/
theorem oneReport_of_lone
    (h : ∀ k ∈ t.foreignKeys, ∀ l ∈ t.foreignKeys, ∀ e e',
      targetColumns k t.name (tableNamed? ts k.targetTable) = .error e →
        targetColumns l t.name (tableNamed? ts l.targetTable) = .error e' → k = l) :
    OneReport ts t := by
  rintro e e' ⟨k, hk, he⟩ ⟨l, hl, he'⟩
  obtain rfl := h k hk l hl e e' he he'
  rw [Except.error.inj (he.symm.trans he')]

/-- A table with one key column. -/
def stage : Table :=
  { name := "stage"
    columns := [{ name := "id", nativeType := "int" }]
    indexes := [{ name := "stage_pkey", columns := ["id"], unique := true, primary := true }] }

/-- A foreign key that has more columns than it references. -/
def wideKey (name : String) (sources : List String) : ForeignKey :=
  { name := name, sourceColumns := sources, targetTable := "stage", targetColumns := ["id"] }

/-- A table with some foreign keys and two columns for them. -/
def actors (keys : List ForeignKey) : Table :=
  { name := "actors"
    columns := [{ name := "x", nativeType := "int" }, { name := "y", nativeType := "int" }]
    foreignKeys := keys }

theorem sources_actors (keys : List ForeignKey) (hkeys : ∀ key ∈ keys, key.sourceColumns ≠ []) :
    ∀ table ∈ [actors keys, stage], ∀ key ∈ table.foreignKeys, key.sourceColumns ≠ [] := by
  intro table htable key hkey
  rcases List.mem_pair.mp htable with rfl | rfl
  · exact hkeys key hkey
  · exact absurd hkey List.not_mem_nil

theorem exists_assemble_actors (keys : List ForeignKey)
    (hkeys : ∀ key ∈ keys, key.sourceColumns ≠ []) :
    ∃ r, withoutEnums.assemble ["actors"] [actors keys, stage] [] = .ok r :=
  assemble_total (typeName_total rfl) (sources_actors keys hkeys) ["actors"] []

/-- The same is recorded in every order about a table with one refused foreign key. -/
theorem sameReport_of_wideKey :
    ∃ r, withoutEnums.assemble ["actors"] [actors [wideKey "p" ["x", "y"]], stage] [] = .ok r ∧
      ∀ us, Reordered [actors [wideKey "p" ["x", "y"]], stage] us →
        ∃ s, withoutEnums.assemble ["actors"] us [] = .ok s ∧ SameReport "actors" r s := by
  obtain ⟨r, hr⟩ := exists_assemble_actors [wideKey "p" ["x", "y"]] (by decide)
  refine ⟨r, hr, (sameReport_iff (by decide) (by decide) hr "actors").mpr ?_⟩
  rintro t ht -
  refine oneReport_of_lone fun k hk l hl e e' _ _ => ?_
  rcases List.mem_pair.mp ht with rfl | rfl
  · exact (List.mem_singleton.mp hk).trans (List.mem_singleton.mp hl).symm
  · exact absurd hk List.not_mem_nil

/-- Two foreign keys that are refused differently. -/
def twoWideKeys : List ForeignKey := [wideKey "p" ["x", "y"], wideKey "q" ["y", "x"]]

theorem validateKeys_twoWideKeys :
    validateKeys (actors twoWideKeys) (tablesByName [actors twoWideKeys, stage]) =
      .error (.countMismatch (wideKey "p" ["x", "y"]) "actors" 1) := by
  cbv

theorem validateKeys_turnedKeys :
    validateKeys (actors twoWideKeys.reverse) (tablesByName [actors twoWideKeys.reverse, stage]) =
      .error (.countMismatch (wideKey "q" ["y", "x"]) "actors" 1) := by
  cbv

/-- A table with two refused foreign keys fails for the one that the catalog returns first. -/
theorem reports_of_turned_keys :
    (∀ t ∈ [actors twoWideKeys, stage], DistinctRows t) ∧
      Reordered [actors twoWideKeys, stage] [actors twoWideKeys.reverse, stage] ∧
      ∃ r s, withoutEnums.assemble ["actors"] [actors twoWideKeys, stage] [] = .ok r ∧
        withoutEnums.assemble ["actors"] [actors twoWideKeys.reverse, stage] [] = .ok s ∧
        lookup? r.failures "actors" =
          some "Foreign key p on 'actors' has 2 source columns but 1 target columns" ∧
        lookup? s.failures "actors" =
          some "Foreign key q on 'actors' has 2 source columns but 1 target columns" ∧
        r.diagnostics ≠ s.diagnostics := by
  have hreordered : Reordered [actors twoWideKeys, stage] [actors twoWideKeys.reverse, stage] := by
    refine ⟨[actors twoWideKeys.reverse, stage], ?_, .refl _⟩
    refine .cons ⟨⟨rfl, .refl _, (List.reverse_perm _).symm, .refl _, .refl _⟩, rfl⟩ ?_
    exact .cons ⟨⟨rfl, .refl _, .refl _, .refl _, .refl _⟩, rfl⟩ .nil
  obtain ⟨r, hr⟩ := exists_assemble_actors twoWideKeys (by decide)
  obtain ⟨s, hs⟩ := exists_assemble_actors twoWideKeys.reverse (by decide)
  have hmem : ∀ keys, actors keys ∈ tablesByName [actors keys, stage] := fun keys => by
    have hnames : ([actors keys, stage].map (·.name)).Nodup := by
      show ["actors", "stage"].Nodup
      decide
    exact (mem_tablesByName_of_nodup hnames).mpr (List.mem_cons_self ..)
  have hp := reason_of_refused hr (hmem _) validateKeys_twoWideKeys
  have hq := reason_of_refused hs (hmem _) validateKeys_turnedKeys
  refine ⟨by decide, hreordered, r, s, hr, hs, hp.trans (by cbv), hq.trans (by cbv), fun heq => ?_⟩
  have hnoted := (keyNote_mem_iff hr (hmem _) validateKeys_twoWideKeys).mpr rfl
  rw [heq] at hnoted
  have hreport := (keyNote_mem_iff hs (hmem _) validateKeys_turnedKeys).mp hnoted
  exact absurd hreport (by decide)

end Reports

end Assembler
end Model
end TableCast
