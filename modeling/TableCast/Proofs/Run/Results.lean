import TableCast.Proofs.Run.Endings
import TableCast.Proofs.Run.Statuses

/-!
# Results of runs that nothing stops

A run asks for every selected table, assembles those that it has read, and emits those that it has
assembled.  Its result is made from three lists, which errors reach in different ways: the statuses
of tables, the records of artifacts and the diagnostics.

**Results.**
* `records_of_over`, `error_of_diagnostic`: what an emission leaves in the account.
* `mem_excluded`, `exists_error`, `excluded_of_error`: exclusions and the errors noted about them.
* `complete_of_over`: the result when every worker is done, whatever turns they took.
* `undisturbed_run_accounts_for_every_table`: what a whole run accounts for.
-/

namespace TableCast
namespace Run

open Schema Model Emit Files Fallible Reordering

section Over

variable {w : Workshop} {entities : List Entity} {disk : Disk} {token : Token} {e : Emission}

namespace Emission

/-- The aggregation of an emission takes all of its messages. -/
theorem account_of_over
    (hover : e.isOver = true) (hsound : Sound w entities disk e) (hquiet : Calm token e) :
    e.account =
      { artifacts := e.shared.messages.filterMap Message.record?
        diagnostics := e.shared.messages.filterMap Message.diagnostic? } := by
  have huncut : e.shared.messages.filterMap Message.cut? = [] :=
    List.filterMap_eq_nil_iff.mpr hquiet.uncut
  rw [account_of_told hover hsound, huncut]

/-- The records of a table are what became of the artifacts of its plan. -/
theorem records_of_over
    (hover : e.isOver = true) (hsound : Sound w entities disk e) (hquiet : Calm token e)
    {entity : Entity} (hentity : entity ∈ entities) :
    ∃ outcomes, List.Forall₂ (Records w) (plan w.set w.options entity) outcomes ∧
      (e.shared.messages.filterMap Message.record?).filter (·.table == entity.name) =
        outcomes.map (·.1) := by
  obtain ⟨outcomes, htold⟩ := told_of_calm hover hsound hquiet hentity
  exact ⟨outcomes, htold.records, records_of_told htold⟩

/-- Behind each diagnostic of an emission there is an artifact in error. -/
theorem error_of_diagnostic
    (hover : e.isOver = true) (hsound : Sound w entities disk e) (hquiet : Calm token e)
    {d : Diagnostic} (hd : d ∈ e.shared.messages.filterMap Message.diagnostic?) :
    ∃ r ∈ e.shared.messages.filterMap Message.record?, r.status = .error := by
  obtain ⟨m, hm, hdiagnostic⟩ := List.mem_filterMap.mp hd
  obtain ⟨entity, hentity, hname⟩ := List.mem_map.mp (hsound.owned m hm)
  obtain ⟨outcomes, htold⟩ := told_of_calm hover hsound hquiet hentity
  have hown : m ∈ e.shared.messages.filter (·.table == entity.name) :=
    List.mem_filter.mpr ⟨hm, beq_iff_eq.mpr hname.symm⟩
  rw [htold.messages, List.mem_append, List.mem_append] at hown
  rcases hown with (hown | hown) | hown
  · obtain ⟨o, ho, rfl⟩ := List.mem_map.mp hown
    obtain ⟨p, -, hrecord⟩ := exists_of_mem_right htold.records ho
    refine ⟨o.1, List.mem_filterMap.mpr ⟨_, hm, rfl⟩, hrecord.noted.mp ?_⟩
    exact Option.isSome_of_mem hdiagnostic
  · rw [(mem_cutMessages.mp hown).2] at hdiagnostic
    cases hdiagnostic
  · rw [List.mem_singleton.mp hown] at hdiagnostic
    cases hdiagnostic

end Emission

end Over

section Undisturbed

/-- Names in the order in which their tables are read. -/
def sortedNames (names : List String) : List String :=
  names.mergeSort fun a b => decide (a ≤ b)

/-- The assembly of the tables that a source has for some names. -/
def assemblyOf (a : Assembler) (source : Source) (names : List String) :
    Except AssemblyStop Assembly :=
  a.assemble names (tablesRead source (sortedNames names)) (failuresRead source (sortedNames names))

/-- A run that can begin, that nothing stops, and whose tables are read or cannot be read. -/
structure Undisturbed (options : Options) (source : Source) (token : Token) (disk : Disk)
    (set : TemplateSet) (dialect : Dialect) (names : List String) : Prop where
  checked : options.check = .ok ()
  plain : options.singularize = false
  calm : token.look.fired = false
  loaded : loadTemplateSet disk options.templateSet = .ok set
  connected : source.connect = .ok dialect
  listed : source.names options.selection = .ok names
  answered : ∀ name ∈ names, Answered source name
  sources : ∀ name ∈ names, ∀ table, source.table name = .ok table →
    ∀ key ∈ table.foreignKeys, key.sourceColumns ≠ []

variable {options : Options} {source : Source} {token : Token} {disk : Disk}
variable {set : TemplateSet} {dialect : Dialect} {names : List String}

theorem mem_sortedNames {name : String} : name ∈ sortedNames names ↔ name ∈ names :=
  List.mem_mergeSort

theorem mem_failures {name : String} :
    name ∈ (failuresRead source (sortedNames names)).map (·.1) ↔
      name ∈ names ∧ ∃ fault, source.table name = .error (.fault fault) := by
  rw [mem_keys_failuresRead, mem_sortedNames]

namespace Undisturbed

theorem tokenFor_eq (h : Undisturbed options source token disk set dialect names) :
    tokenFor options token = token := by
  have hchecked := h.checked
  rw [Options.check] at hchecked
  rw [tokenFor]
  split_ifs at hchecked
  cases htimeout : options.timeout with
  | none => rfl
  | some timeout =>
      rw [htimeout] at hchecked
      dsimp only at hchecked ⊢
      split_ifs at hchecked with hover
      rw [Token.setTimeout, if_neg hover]

theorem limit_pos (h : Undisturbed options source token disk set dialect names) :
    1 ≤ (workshopFor set options).limit := by
  have hchecked := h.checked
  rw [Options.check] at hchecked
  split_ifs at hchecked with hworkers
  show 1 ≤ options.workers.toNat
  omega

theorem table_name (h : Undisturbed options source token disk set dialect names) {name : String}
    (hname : name ∈ names) {table : Table} (htable : source.table name = .ok table) :
    table.name = name := by
  cases h.answered name hname with
  | read table' hread hname' =>
      obtain rfl := Except.ok.inj (htable.symm.trans hread)
      exact hname'
  | unreadable fault hread _ =>
      rw [hread] at htable
      cases htable

/-- The tables that are read have their own names. -/
theorem mem_tables (h : Undisturbed options source token disk set dialect names) {table : Table} :
    table ∈ tablesRead source (sortedNames names) ↔
      table.name ∈ names ∧ source.table table.name = .ok table := by
  rw [mem_tablesRead]
  constructor
  · rintro ⟨name, hname, htable⟩
    rw [mem_sortedNames] at hname
    rw [h.table_name hname htable]
    exact ⟨hname, htable⟩
  · rintro ⟨hname, htable⟩
    exact ⟨table.name, mem_sortedNames.mpr hname, htable⟩

theorem mem_tablesByName (h : Undisturbed options source token disk set dialect names)
    {table : Table} :
    table ∈ Assembler.tablesByName (tablesRead source (sortedNames names)) ↔
      table.name ∈ names ∧ source.table table.name = .ok table := by
  rw [Assembler.mem_tablesByName]
  constructor
  · intro hkept
    exact h.mem_tables.mp (Assembler.mem_of_keptTable? hkept)
  · intro htable
    have hmem := h.mem_tables.mpr htable
    obtain ⟨kept, hkept⟩ := Assembler.keptTable?_isSome (List.mem_map_of_mem hmem)
    have hread := (h.mem_tables.mp (Assembler.mem_of_keptTable? hkept)).2
    rw [Assembler.name_of_keptTable? hkept, htable.2] at hread
    rw [hkept, Except.ok.inj hread]

theorem disjoint (h : Undisturbed options source token disk set dialect names) :
    ∀ table ∈ tablesRead source (sortedNames names),
      table.name ∉ (failuresRead source (sortedNames names)).map (·.1) := by
  intro table htable hfailed
  obtain ⟨-, fault, hfault⟩ := mem_failures.mp hfailed
  rw [(h.mem_tables.mp htable).2] at hfault
  cases hfault

theorem read_or_failed (h : Undisturbed options source token disk set dialect names) :
    ∀ name ∈ names, name ∈ (tablesRead source (sortedNames names)).map (·.name) ∨
      name ∈ (failuresRead source (sortedNames names)).map (·.1) := by
  intro name hname
  cases h.answered name hname with
  | read table hread htable =>
      left
      refine List.mem_map.mpr ⟨table, h.mem_tables.mpr ?_, htable⟩
      rw [htable]
      exact ⟨hname, hread⟩
  | unreadable fault hread _ => exact .inr (mem_failures.mpr ⟨hname, fault, hread⟩)

theorem reading (h : Undisturbed options source token disk set dialect names) :
    ReadSoFar source token (sortedNames names)
      (readTables source .never token (sortedNames names)) :=
  readTables_of_calm h.calm fun name hname => h.answered name (mem_sortedNames.mp hname)

theorem assembly_total (h : Undisturbed options source token disk set dialect names) :
    ∃ assembly, assemblyOf (assemblerFor set options dialect) source names = .ok assembly := by
  have hsingular : (assemblerFor set options dialect).normalizer.singularize = false := h.plain
  refine Assembler.assemble_total (typeName_total hsingular) ?_ _ _
  intro table htable
  obtain ⟨hname, hread⟩ := h.mem_tables.mp htable
  exact h.sources table.name hname table hread

/-- A run comes to the outcome of its emission. -/
theorem outcome_generate
    (h : Undisturbed options source token disk set dialect names) {assembly : Assembly}
    (hassembly : assemblyOf (assemblerFor set options dialect) source names = .ok assembly) :
    (generate options source .never token disk).outcome =
      emissionOutcome .never
        (emitEntities (workshopFor set options) .never assembly.entities disk token)
        (readTables source .never token (sortedNames names)) assembly := by
  have hreading := h.reading
  have hassemble : (assemblerFor set options dialect).assemble names
      (readTables source .never token (sortedNames names)).tables
      (readTables source .never token (sortedNames names)).failures = .ok assembly := by
    rw [hreading.tables, hreading.failures]
    exact hassembly
  simp only [generate, h.tokenFor_eq, h.loaded, generateWith, h.connected, h.listed, readAndEmit]
  unfold sortedNames at hreading hassemble ⊢
  simp only [hreading.problem, hreading.cancelled, Bool.false_eq_true, if_false, assembleAndEmit,
    hassemble, hreading.token]

end Undisturbed

/-- Everything that was selected is accounted for in a result. -/
structure Complete (a : Assembler) (w : Workshop) (source : Source) (names : List String)
    (assembly : Assembly) (result : Result) : Prop where
  /-- The tables of the result are the selected ones, once each. -/
  once : (result.tables.map (·.table)).Nodup
  selected : ∀ name, name ∈ result.tables.map (·.table) ↔ name ∈ names
  /-- A table fails when it cannot be read or when it is refused. -/
  failed : ∀ name ∈ names, name ∈ result.failedTables ↔
    (∃ fault, source.table name = .error (.fault fault)) ∨
    ∃ table, source.table name = .ok table ∧
      a.Refuses (tablesRead source (sortedNames names)) table
  /-- Then there is an error about it, and no record. -/
  noted : ∀ name ∈ result.failedTables,
    (∃ d ∈ result.diagnostics, d.table = some name ∧ d.isError = true) ∧
      ∀ r ∈ result.artifacts, r.table ≠ name
  /-- Every other table has one record for each artifact of its plan. -/
  recorded : ∀ name ∈ result.succeededTables, ∃ entity ∈ assembly.entities, entity.name = name ∧
    ∃ outcomes, List.Forall₂ (Records w) (plan w.set w.options entity) outcomes ∧
      (result.artifacts.filter (·.table == name)).Perm (outcomes.map (·.1))
  /-- The outcome of the run tells what failed. -/
  reflects : result.Reflects

section Complete

variable {assembly : Assembly} {e : Emission} {name : String}

/-- A table fails when the source has none of that name, or when the assembly refuses it. -/
theorem Undisturbed.mem_excluded (h : Undisturbed options source token disk set dialect names)
    (hassembly : assemblyOf (assemblerFor set options dialect) source names = .ok assembly)
    (hname : name ∈ names) :
    name ∈ assembly.excluded ↔
      (∃ fault, source.table name = .error (.fault fault)) ∨
      ∃ table, source.table name = .ok table ∧
        (assemblerFor set options dialect).Refuses (tablesRead source (sortedNames names)) table := by
  rw [Assembler.mem_excluded_iff_of_assemble hassembly h.disjoint h.read_or_failed, mem_failures]
  refine or_congr (and_iff_right hname) ?_
  constructor
  · rintro ⟨table, htable, rfl, hrefused⟩
    exact ⟨table, (h.mem_tablesByName.mp htable).2, hrefused⟩
  · rintro ⟨table, hread, hrefused⟩
    have htable := h.table_name hname hread
    refine ⟨table, h.mem_tablesByName.mpr ?_, htable, hrefused⟩
    rw [htable]
    exact ⟨hname, hread⟩

/-- An error is noted about every table that is excluded, when it is read or when it is
assembled. -/
theorem Undisturbed.exists_error
    (h : Undisturbed options source token disk set dialect names)
    (hassembly : assemblyOf (assemblerFor set options dialect) source names = .ok assembly)
    (hname : name ∈ assembly.excluded) :
    ∃ d ∈ diagnosticsRead source (sortedNames names) ++ assembly.diagnostics,
      d.table = some name ∧ d.isError = true := by
  by_cases hread : name ∈ (failuresRead source (sortedNames names)).map (·.1)
  · obtain ⟨hselected, fault, hfault⟩ := mem_failures.mp hread
    refine ⟨Diagnostic.ofFault (some name) fault none, List.mem_append_left _ ?_, rfl, rfl⟩
    exact mem_diagnosticsRead.mpr ⟨name, mem_sortedNames.mpr hselected, fault, hfault, rfl⟩
  · obtain ⟨entry, hentry, rfl⟩ := List.mem_map.mp hname
    obtain ⟨d, hd, -⟩ := (Assembler.accounts_of_assemble hassembly h.disjoint).noted _ _ hentry hread
    have hmem : d ∈ assembly.errorsAbout entry.1 := hd ▸ List.mem_singleton_self d
    obtain ⟨hmem, habout⟩ := List.mem_filter.mp hmem
    obtain ⟨herror, htable⟩ := Bool.and_eq_true_iff.mp habout
    exact ⟨d, List.mem_append_right _ hmem, beq_iff_eq.mp htable, herror⟩

/-- Every error that is noted before the emission is about a table that is excluded. -/
theorem Undisturbed.excluded_of_error
    (h : Undisturbed options source token disk set dialect names)
    (hassembly : assemblyOf (assemblerFor set options dialect) source names = .ok assembly)
    {d : Diagnostic} (hd : d ∈ diagnosticsRead source (sortedNames names) ++ assembly.diagnostics)
    (herror : d.isError = true) : ∃ name, name ∈ assembly.excluded := by
  obtain ⟨candidates, missing, -, -, hxs⟩ :=
    Assembler.exclusions_of_assemble hassembly h.disjoint
  rcases List.mem_append.mp hd with hd | hd
  · obtain ⟨name, hname, fault, hfault, -⟩ := mem_diagnosticsRead.mp hd
    refine ⟨name, hxs.mem_excluded.mpr (.inl (mem_failures.mpr ⟨?_, fault, hfault⟩))⟩
    exact mem_sortedNames.mp hname
  · have hmem : d ∈ assembly.diagnostics.filter Diagnostic.isError :=
      List.mem_filter.mpr ⟨hd, herror⟩
    rw [hxs.errors] at hmem
    obtain ⟨x, hx, -⟩ := List.mem_map.mp hmem
    exact ⟨x.table, hxs.mem_excluded.mpr (.inr (List.mem_map_of_mem hx))⟩

/-- The result of a run when every worker is done and nothing stopped it. -/
def resultOver (source : Source) (names : List String) (assembly : Assembly) (e : Emission) :
    Result :=
  Account.result
    { artifacts := e.shared.messages.filterMap Message.record?
      diagnostics := diagnosticsRead source (sortedNames names) ++ assembly.diagnostics ++
        e.shared.messages.filterMap Message.diagnostic? }
    assembly.assembled assembly.failures false

/-- A table of the result fails when it is excluded, since none is cut short. -/
theorem mem_failedTables_resultOver :
    name ∈ (resultOver source names assembly e).failedTables ↔ name ∈ assembly.excluded := by
  rw [resultOver, Account.mem_failedTables_result]
  exact or_iff_left fun h => absurd h.2 List.not_mem_nil

theorem mem_succeededTables_resultOver :
    name ∈ (resultOver source names assembly e).succeededTables ↔ name ∈ assembly.assembled := by
  rw [resultOver, Account.mem_succeededTables_result]
  exact and_iff_left List.not_mem_nil

theorem tables_resultOver (source : Source) (names : List String) (assembly : Assembly)
    (e : Emission) :
    ((resultOver source names assembly e).tables.map (·.table)).Perm
      (assembly.excluded ++ assembly.assembled) :=
  Account.map_table_result _ _ _ _

theorem artifacts_resultOver (source : Source) (names : List String) (assembly : Assembly)
    (e : Emission) :
    (resultOver source names assembly e).artifacts.Perm
      (e.shared.messages.filterMap Message.record?) :=
  List.mergeSort_perm _ _

theorem diagnostics_resultOver (source : Source) (names : List String) (assembly : Assembly)
    (e : Emission) :
    (resultOver source names assembly e).diagnostics.Perm
      (diagnosticsRead source (sortedNames names) ++ assembly.diagnostics ++
        e.shared.messages.filterMap Message.diagnostic?) :=
  List.mergeSort_perm _ _

theorem emissionOutcome_of_over
    (h : Undisturbed options source token disk set dialect names) {w : Workshop}
    (hover : e.isOver = true) (hsound : e.Sound w assembly.entities disk) (hquiet : e.Calm token) :
    emissionOutcome .never e (readTables source .never token (sortedNames names)) assembly =
      .ok (resultOver source names assembly e) := by
  have htables : e.tables = assembly.assembled := hsound.tables_eq
  rw [emissionOutcome, Emission.problem?_of_fine hsound.fine,
    Emission.account_of_over hover hsound hquiet, h.reading.diagnostics, htables]
  rfl

theorem selected_resultOver
    (h : Undisturbed options source token disk set dialect names)
    (hassembly : assemblyOf (assemblerFor set options dialect) source names = .ok assembly) :
    name ∈ (resultOver source names assembly e).tables.map (·.table) ↔ name ∈ names := by
  have haccounts := Assembler.accounts_of_assemble hassembly h.disjoint
  rw [(tables_resultOver source names assembly e).mem_iff, List.mem_append, or_comm,
    ← haccounts.everyName]
  constructor
  · rintro (hname | hname | hname)
    · exact hname
    · obtain ⟨table, htable, rfl⟩ := List.mem_map.mp hname
      exact (h.mem_tables.mp htable).1
    · exact (mem_failures.mp hname).1
  · exact Or.inl

theorem reflects_resultOver
    (h : Undisturbed options source token disk set dialect names)
    (hassembly : assemblyOf (assemblerFor set options dialect) source names = .ok assembly)
    {w : Workshop} (hover : e.isOver = true) (hsound : e.Sound w assembly.entities disk)
    (hquiet : e.Calm token) : (resultOver source names assembly e).Reflects := by
  have hcancelled : (resultOver source names assembly e).cancelled = false := by
    simp [resultOver, Account.result]
  refine Result.reflects hcancelled fun d hd herror => ?_
  rcases List.mem_append.mp ((diagnostics_resultOver source names assembly e).mem_iff.mp hd)
    with hd | hd
  · left
    obtain ⟨name, hname⟩ := h.excluded_of_error hassembly hd herror
    have hfailed : name ∈ (resultOver source names assembly e).failedTables :=
      mem_failedTables_resultOver.mpr hname
    obtain ⟨t, ht, -⟩ := List.mem_map.mp hfailed
    obtain ⟨ht, hnot⟩ := List.mem_filter.mp ht
    exact ⟨t, ht, by simpa using hnot⟩
  · right
    obtain ⟨r, hr, hstatus⟩ := Emission.error_of_diagnostic hover hsound hquiet hd
    exact ⟨r, (artifacts_resultOver source names assembly e).mem_iff.mpr hr, hstatus⟩

/-- When every worker is done, the result of the run is complete. -/
theorem complete_of_over
    (h : Undisturbed options source token disk set dialect names)
    (hassembly : assemblyOf (assemblerFor set options dialect) source names = .ok assembly)
    (hover : e.isOver = true)
    (hsound : e.Sound (workshopFor set options) assembly.entities disk)
    (hquiet : e.Calm token) :
    Complete (assemblerFor set options dialect) (workshopFor set options) source names assembly
      (resultOver source names assembly e) := by
  have haccounts := Assembler.accounts_of_assemble hassembly h.disjoint
  have hartifacts := artifacts_resultOver source names assembly e
  have hdiagnostics := diagnostics_resultOver source names assembly e
  constructor
  case once =>
    rw [(tables_resultOver source names assembly e).nodup_iff, List.nodup_append]
    refine ⟨haccounts.excludedOnce, haccounts.assembledOnce, fun x hx y hy heq => ?_⟩
    exact haccounts.notBoth y hy (heq ▸ hx)
  case selected => exact fun name => selected_resultOver h hassembly
  case failed =>
    intro name hname
    rw [mem_failedTables_resultOver, h.mem_excluded hassembly hname]
  case noted =>
    intro name hname
    rw [mem_failedTables_resultOver] at hname
    constructor
    · obtain ⟨d, hd, habout⟩ := h.exists_error hassembly hname
      exact ⟨d, hdiagnostics.mem_iff.mpr (List.mem_append_left _ hd), habout⟩
    · intro r hr htable
      obtain ⟨m, hm, hrecord⟩ := List.mem_filterMap.mp (hartifacts.mem_iff.mp hr)
      have hassembled : name ∈ assembly.assembled := by
        rw [← htable, ← Message.table_of_record? hrecord]
        exact hsound.owned m hm
      exact haccounts.notBoth name hassembled hname
  case recorded =>
    intro name hname
    obtain ⟨entity, hentity, rfl⟩ := List.mem_map.mp (mem_succeededTables_resultOver.mp hname)
    obtain ⟨outcomes, hrecords, hfilter⟩ :=
      Emission.records_of_over hover hsound hquiet hentity
    exact ⟨entity, hentity, rfl, outcomes, hrecords, hfilter ▸ hartifacts.filter _⟩
  case reflects => exact reflects_resultOver h hassembly hover hsound hquiet

/-- A run that nothing stops comes to a result, in which every selected table is accounted for.
It does in whatever way the workers take turns, once all of them are done. -/
theorem undisturbed_run_accounts_for_every_table
    (h : Undisturbed options source token disk set dialect names)
    (hserves : ∀ assembly,
      assemblyOf (assemblerFor set options dialect) source names = .ok assembly →
        (workshopFor set options).Serves assembly.entities disk) :
    ∃ assembly, assemblyOf (assemblerFor set options dialect) source names = .ok assembly ∧
      (∃ result, (generate options source .never token disk).outcome = .ok result ∧
        Complete (assemblerFor set options dialect) (workshopFor set options) source names assembly
          result) ∧
      ∀ schedule : List Turn, (∀ t ∈ schedule, ∃ i, t = .step i) →
        ∀ e, (Emission.start assembly.entities disk token).play (workshopFor set options) schedule =
            e → e.isOver = true →
          ∃ result,
            emissionOutcome .never e (readTables source .never token (sortedNames names))
              assembly = .ok result ∧
            Complete (assemblerFor set options dialect) (workshopFor set options) source names
              assembly result := by
  obtain ⟨assembly, hassembly⟩ := h.assembly_total
  have hnames := (Assembler.accounts_of_assemble hassembly h.disjoint).assembledOnce
  have hserves := hserves assembly hassembly
  have hsound := Emission.Sound.start (workshopFor set options) assembly.entities disk token
  have hquiet := Emission.Calm.start assembly.entities disk token
  refine ⟨assembly, hassembly, ?_, ?_⟩
  · obtain ⟨hover, hsound, hquiet⟩ := Emission.isOver_oneByOne hnames hserves h.calm h.limit_pos
    refine ⟨_, ?_, complete_of_over h hassembly hover hsound hquiet⟩
    rw [h.outcome_generate hassembly, emitEntities, Emission.playWith_never,
      emissionOutcome_of_over h hover hsound hquiet]
  · rintro schedule hsteps e rfl hover
    have hend := hsound.play hnames hserves schedule
    have hstill := hquiet.play hsound hnames hserves h.calm hsteps
    exact ⟨_, emissionOutcome_of_over h hover hend hstill,
      complete_of_over h hassembly hover hend hstill⟩

/-- One table and the name of another one, which is gone. -/
def oneGone : Source := .ofTables .sqlite [Assembler.staff] [] ["gone"] false

/-- A run that only plans what it would write. -/
def planOnly : Options := { policy := .dryRun }

/-- A disk without any file. -/
def bareDisk : Disk := { tree := {}, working := [] }

/-- Where the manifest of the set for Python stands. -/
def pythonManifest : Path := { names := ["python", "manifest.yaml"] }

theorem walk_pythonManifest (d : Disk) :
    d.walk pythonManifest =
      (d.walkFrom d.working ["python", "manifest.yaml"]).mapError (.system · pythonManifest) := by
  have hnull : Disk.hasNull pythonManifest = false := by cbv
  have htext : pythonManifest.text = "python/manifest.yaml" := by cbv
  have hshort : ¬pythonManifest.text.utf8ByteSize ≥ longestPath := by
    rw [htext]
    show ¬20 ≥ 4096
    omega
  rw [Disk.walk, if_neg (by rw [hnull]; exact Bool.false_ne_true), if_neg hshort]
  rfl

theorem walkFrom_builtinDisk :
    builtinDisk.walkFrom ["templates"] ["python", "manifest.yaml"] =
      .ok ["templates", "python", "manifest.yaml"] := by
  cbv

theorem builtinSet?_python : builtinSet? { names := ["python"] } = some pythonSet := by
  have hwalk : builtinDisk.walk pythonManifest = .ok ["templates", "python", "manifest.yaml"] := by
    rw [walk_pythonManifest]
    show Except.mapError _ (builtinDisk.walkFrom ["templates"] ["python", "manifest.yaml"]) = _
    rw [walkFrom_builtinDisk]
    rfl
  have hchild : Path.child { names := ["python"] } manifestName = pythonManifest := rfl
  rw [builtinSet?, hchild, hwalk]
  rfl

/-- Where there is no file, the name of a built-in set leads to that set. -/
theorem loadTemplateSet_bareDisk :
    loadTemplateSet bareDisk planOnly.templateSet = .ok pythonSet := by
  have hpath : Path.ofText planOnly.templateSet = { names := ["python"] } := by cbv
  have hchild : Path.child { names := ["python"] } manifestName = pythonManifest := rfl
  have hnone : bareDisk.content? pythonManifest = none := by
    rw [Disk.content?, Disk.status, walk_pythonManifest]
    rfl
  rw [loadTemplateSet, hpath, hchild, hnone, builtinSet?_python]

theorem names_oneGone : oneGone.names planOnly.selection = .ok ["gone", "staff"] := by
  cbv

theorem table_oneGone_staff :
    ∃ table, oneGone.table "staff" = .ok table ∧ table.name = "staff" ∧
      table.foreignKeys = Assembler.staff.foreignKeys := ⟨_, rfl, rfl, rfl⟩

theorem table_oneGone_gone :
    oneGone.table "gone" = .error (.fault (Source.goneFault "gone")) := by
  cbv

theorem undisturbed_oneGone :
    Undisturbed planOnly oneGone {} bareDisk pythonSet .sqlite ["gone", "staff"] := by
  obtain ⟨table, hstaff, hname, hkeys⟩ := table_oneGone_staff
  refine ⟨rfl, rfl, rfl, loadTemplateSet_bareDisk, rfl, names_oneGone, ?_, ?_⟩
  · intro name hmem
    rcases List.mem_pair.mp hmem with rfl | rfl
    · exact .unreadable _ table_oneGone_gone rfl
    · exact .read table hstaff hname
  · intro name hmem table' hread
    rcases List.mem_pair.mp hmem with rfl | rfl
    · rw [table_oneGone_gone] at hread
      cases hread
    · obtain rfl := Except.ok.inj (hstaff.symm.trans hread)
      rw [hkeys]
      decide

/-- The run goes on without the table that is gone, and its outcome tells of it. -/
theorem generate_oneGone :
    ∃ result, (generate planOnly oneGone .never {} bareDisk).outcome = .ok result ∧
      "gone" ∈ result.failedTables ∧ result.status ≠ .success := by
  have hserves : ∀ assembly,
      assemblyOf (assemblerFor pythonSet planOnly .sqlite) oneGone ["gone", "staff"] =
        .ok assembly → (workshopFor pythonSet planOnly).Serves assembly.entities bareDisk :=
    fun assembly _ => Workshop.serves_of_dryRun assembly.entities bareDisk rfl
  obtain ⟨assembly, -, ⟨result, houtcome, hcomplete⟩, -⟩ :=
    undisturbed_run_accounts_for_every_table undisturbed_oneGone hserves
  have hfailed : "gone" ∈ result.failedTables :=
    (hcomplete.failed "gone" List.mem_cons_self).mpr (.inl ⟨_, table_oneGone_gone⟩)
  refine ⟨result, houtcome, hfailed, fun hstatus => ?_⟩
  obtain ⟨⟨d, hd, -, herror⟩, -⟩ := hcomplete.noted "gone" hfailed
  rw [hcomplete.reflects.clean hstatus d hd] at herror
  cases herror

end Complete

end Undisturbed

end Run
end TableCast
