import TableCast.Proofs.Model.KeyLinks
import TableCast.Proofs.Model.Variants

/-!
# The tables beside one that differs

Two readings differ at one table.  The tables beside it get the same type names and columns, or
fail for the same reason, whether that table is assembled or not.  Their foreign keys become the
same associations, up to the names and, where they reference that table, up to what they found.

A foreign key whose target has no type name ends the whole run, so a version of a table with such
a key does take the other tables with it.

**Relations.**  `KeepsLink` and `KeepsEntity` relate an association and an entity of one run to
those of the other, `KeepsSiblings` two assemblies.

**Results.**
* `keepsLink_of_keyLinks`: what one foreign key becomes in both runs.
* `keepsEntity_of_linkedFrom`: what one table becomes in both runs.
* `keepsSiblings_of_assemble`: what the tables beside the one that differs become.
* `finishes_iff_of_assemble`: when the other run finishes as well.
* `siblings_undisturbed`: both together.
-/

namespace TableCast
namespace Model

open Name Schema Fallible

/-- Two associations of one foreign key.  They may differ in their names and, when they reference
the given table, in what they found there. -/
structure KeepsLink (f : String) (l m : Association) : Prop where
  same : m = { l with name := m.name, target := m.target, unresolved := m.unresolved }
  found : l.targetTable ≠ f → m.target = l.target ∧ m.unresolved = l.unresolved

/-- Two entities of one table.  They may differ in their associations only, which correspond one
to one. -/
structure KeepsEntity (f : String) (e d : Entity) : Prop where
  same : d = { e with associations := d.associations }
  associations : List.Forall₂ (KeepsLink f) e.associations d.associations

/-- Two assemblies agree on every table but the given one. -/
structure KeepsSiblings (f : String) (r s : Assembly) : Prop where
  /-- A table has an entity in both or in neither. -/
  entities : ∀ name, name ≠ f → Option.Rel (KeepsEntity f) (r.entity? name) (s.entity? name)
  /-- It failed for the same reason in both, or in neither. -/
  reasons : ∀ name, name ≠ f → lookup? r.failures name = lookup? s.failures name

section Links

variable {n : Normalizer} {f : String} {ts us : List Table}
variable {owner : Entity} {entities entities' : List Entity}

theorem keyTarget_of_ne
    (hentities : ∀ name, name ≠ f →
      entities.find? (·.name == name) = entities'.find? (·.name == name))
    {key : ForeignKey} (htarget : key.targetTable ≠ f) :
    keyTarget owner entities key = keyTarget owner entities' key := by
  rw [keyTarget, keyTarget, hentities key.targetTable htarget]

/-- One foreign key becomes an association of its own in both runs. -/
theorem keepsLink_of_keyLinks
    (h : List.Forall₂ (Counterpart f) ts us)
    (hentities : ∀ name, name ≠ f →
      entities.find? (·.name == name) = entities'.find? (·.name == name))
    {key : ForeignKey} {l m : Association}
    (hl : KeyLink n owner entities ts key l) (hm : KeyLink n owner entities' us key m) :
    KeepsLink f l m := by
  obtain ⟨columns, hcolumns, hleft⟩ := hl.links
  obtain ⟨columns', hcolumns', hright⟩ := hm.links
  rw [targetColumns_of_counterparts h, hcolumns'] at hcolumns
  obtain rfl := Except.ok.inj hcolumns
  generalize l.name = name at hleft
  generalize m.name = name' at hright
  rw [hleft, hright]
  refine ⟨rfl, fun htarget => ?_⟩
  have hfound : keyTarget owner entities key = keyTarget owner entities' key :=
    keyTarget_of_ne hentities htarget
  exact ⟨hfound.symm, congrArg Option.isNone hfound.symm⟩

end Links

namespace Assembler

section Runs

variable {a : Assembler} {typeNames : List (String × String)}
variable {f : String} {ts us : List Table}

/-- The extracted entities of the other tables are the same. -/
theorem find?_extracted_of_counterparts
    (h : List.Forall₂ (Counterpart f) ts us) {name : String} (hname : name ≠ f) :
    (a.extracted typeNames ts).find? (·.name == name) =
      (a.extracted typeNames us).find? (·.name == name) := by
  have hextract : a.extract typeNames ts = a.extract typeNames us :=
    funext (extract_of_counterparts h)
  have hkey : ∀ (t : Table) (e : Entity),
      (a.extract typeNames us t).2.toOption = some e → e.name = t.name := by
    intro t e he
    cases hresult : (a.extract typeNames us t).2 with
    | error x =>
        rw [hresult] at he
        cases he
    | ok d =>
        rw [hresult] at he
        obtain rfl := Option.some.inj he
        exact name_of_extract hresult
  have hfilter := congrArg List.head? (filter_filterMap_of_counterparts h hname hkey)
  rw [List.head?_filter, List.head?_filter] at hfilter
  rw [extracted, extracted, hextract]
  exact hfilter

/-- The exclusions of the other tables are the same. -/
theorem exclusions_of_counterparts
    (h : List.Forall₂ (Counterpart f) ts us) {name : String} (hname : name ≠ f) :
    (a.exclusions typeNames ts).filter (·.table == name) =
      (a.exclusions typeNames us).filter (·.table == name) := by
  have hexclusion : a.exclusionOf typeNames ts = a.exclusionOf typeNames us := by
    funext t
    rw [exclusionOf, exclusionOf, extract_of_counterparts h]
  rw [exclusions, exclusions, hexclusion]
  exact filter_filterMap_of_counterparts h hname fun t x hx => (table_of_exclusionOf hx).1

/-- One table becomes the same entity in both runs, up to what its foreign keys found. -/
theorem keepsEntity_of_linkedFrom
    (h : List.Forall₂ (Counterpart f) ts us)
    {table : Table} {source : Entity} {left right : Entity × List Diagnostic}
    (hleft : LinkedFrom a typeNames ts table source left)
    (hright : LinkedFrom a typeNames us table source right) :
    KeepsEntity f left.1.closed right.1.closed := by
  rw [hleft.closed, hright.closed]
  refine ⟨rfl, ?_⟩
  refine forall₂_of_common (fun key l m hl hm => ?_) (keyLinks_of_link hleft.link)
    (keyLinks_of_link hright.link)
  exact keepsLink_of_keyLinks h (fun name hname => find?_extracted_of_counterparts h hname) hl hm

/-- The entity that a run has under a name was linked from the one that was extracted under it. -/
theorem linkedFrom_find?
    {extracted : List Entity} {linked : List (Entity × List Diagnostic)}
    (h : List.Forall₂ (fun source pair => ∃ table, LinkedFrom a typeNames ts table source pair)
      extracted linked) (name : String) :
    Option.Rel
      (fun source e => ∃ table pair,
        LinkedFrom a typeNames ts table source pair ∧ e = pair.1.closed)
      (extracted.find? (·.name == name)) ((linked.map (·.1.closed)).find? (·.name == name)) := by
  have hclosed : List.Forall₂
      (fun source e => ∃ table pair,
        LinkedFrom a typeNames ts table source pair ∧ e = pair.1.closed)
      extracted (linked.map (·.1.closed)) := by
    rw [List.forall₂_map_right_iff]
    exact h.imp fun source pair ⟨table, hfrom⟩ => ⟨table, pair, hfrom, rfl⟩
  refine find?_of_forall₂ hclosed ?_
  rintro source e ⟨table, pair, hfrom, rfl⟩
  rw [hfrom.closed]

/-- Under every other name both runs have an entity of the same table, or none. -/
theorem keepsEntity_of_linked
    (h : DifferAt f ts us) {left right : List (Entity × List Diagnostic)}
    (hleft : List.Forall₂
      (fun source pair => ∃ table, LinkedFrom a typeNames (tablesByName ts) table source pair)
      (a.extracted typeNames (tablesByName ts)) left)
    (hright : List.Forall₂
      (fun source pair => ∃ table, LinkedFrom a typeNames (tablesByName us) table source pair)
      (a.extracted typeNames (tablesByName us)) right)
    {name : String} (hname : name ≠ f) :
    Option.Rel (KeepsEntity f) ((left.map (·.1.closed)).find? (·.name == name))
      ((right.map (·.1.closed)).find? (·.name == name)) := by
  have htables := counterparts_tablesByName h
  have hl := linkedFrom_find? hleft name
  have hr := linkedFrom_find? hright name
  rw [find?_extracted_of_counterparts htables hname] at hl
  generalize (left.map (·.1.closed)).find? (·.name == name) = e at hl ⊢
  generalize (right.map (·.1.closed)).find? (·.name == name) = d at hr ⊢
  cases hsource : (a.extracted typeNames (tablesByName us)).find? (·.name == name) with
  | none =>
      rw [hsource] at hl hr
      cases hl
      cases hr
      exact .none
  | some source =>
      have hnamed : source.name = name := by simpa using List.find?_some hsource
      rw [hsource] at hl hr
      obtain ⟨table, pair, hfrom, rfl⟩ := hl
      obtain ⟨table', pair', hfrom', rfl⟩ := hr
      -- Both entities were extracted from the table that both readings have under the name.
      have hkept := mem_tablesByName.mp hfrom.table_mem
      have hkept' := mem_tablesByName.mp hfrom'.table_mem
      rw [← name_of_extract hfrom.extract, hnamed, h.others name hname] at hkept
      rw [← name_of_extract hfrom'.extract, hnamed, hkept] at hkept'
      obtain rfl := Option.some.inj hkept'
      exact .some (keepsEntity_of_linkedFrom htables hfrom hfrom')

end Runs

section Whole

variable {a : Assembler} {names : List String} {failures : List (String × String)}
variable {f : String} {ts us : List Table} {r s : Assembly}

/-- A failure after the first pass is that of an exclusion, else that of the reading. -/
theorem lookup?_firstPass
    (a : Assembler) (tables : List Table) (candidates failures : List (String × String))
    (name : String) :
    lookup? (a.firstPass tables candidates failures).failures name =
      ((a.exclusions (runTypeNames candidates) tables).filter (·.table == name)).foldl
        (fun _ x => some x.error.fault.message) (lookup? (readingFailures failures) name) := by
  have hput := lookup?_foldl_putFailure Exclusion.table (·.error.fault.message)
    (a.exclusions (runTypeNames candidates) tables) (readingFailures failures) name
  rw [firstPass, failures_foldl_extractInto]
  exact hput

/-- A name is missing in both runs when both have an entity or neither, and a failure or none. -/
theorem filter_missingNames
    {entities entities' : List Entity} {before before' : List (String × String)} {name : String}
    (hentities : (entities.find? (·.name == name)).isSome =
      (entities'.find? (·.name == name)).isSome)
    (hbefore : lookup? before name = lookup? before' name) :
    (missingNames names entities before).filter (· == name) =
      (missingNames names entities' before').filter (· == name) := by
  have hlookup : ∀ all : List (String × String),
      all.any (·.1 == name) = (lookup? all name).isSome := by
    intro all
    rw [lookup?, Option.isSome_map, List.isSome_find?]
  rw [missingNames, missingNames, List.filter_filter, List.filter_filter]
  refine List.filter_congr fun other _ => ?_
  by_cases hother : other = name
  · subst hother
    rw [hlookup, hlookup, hbefore, ← List.isSome_find?, hentities, List.isSome_find?]
  · rw [beq_eq_false_iff_ne.mpr hother, Bool.false_and, Bool.false_and]

/-- Of two runs over readings that differ at one table, the other tables get the same from both. -/
theorem keepsSiblings_of_assemble
    (h : DifferAt f ts us)
    (hr : a.assemble names ts failures = .ok r) (hs : a.assemble names us failures = .ok s) :
    KeepsSiblings f r s := by
  obtain ⟨candidates, left, hcandidates, hleft, hentities, hfailures, -⟩ := assemble_firstPass hr
  obtain ⟨candidates', right, hcandidates', hright, hentities', hfailures', -⟩ :=
    assemble_firstPass hs
  have htables := counterparts_tablesByName h
  obtain ⟨found, hfound, hnames⟩ := runTypeNames_of_counterparts htables hcandidates
  obtain rfl := Except.ok.inj (hfound.symm.trans hcandidates')
  rw [hnames] at hleft
  have hkeeps : ∀ name, name ≠ f →
      Option.Rel (KeepsEntity f) (r.entity? name) (s.entity? name) := by
    intro name hname
    rw [Assembly.entity?, Assembly.entity?, hentities, hentities']
    exact keepsEntity_of_linked h hleft hright hname
  refine ⟨hkeeps, fun name hname => ?_⟩
  have hfirst : lookup? (a.firstPass (tablesByName ts) candidates failures).failures name =
      lookup? (a.firstPass (tablesByName us) found failures).failures name := by
    rw [lookup?_firstPass, lookup?_firstPass, hnames, exclusions_of_counterparts htables hname]
  have hassembled : (r.entity? name).isSome = (s.entity? name).isSome :=
    isSome_eq_of_rel (hkeeps name hname)
  have hlast := lookup?_foldl_putFailure (fun n : String => n)
    fun n => (TableError.unfinished n .pending).fault.message
  rw [hfailures, hfailures', hlast, hlast, filter_missingNames hassembled hfirst, hfirst]

/-- When one run finishes, the other one does exactly when its version of the table is refused or
has foreign keys that can be named. -/
theorem finishes_iff_of_assemble
    (h : DifferAt f ts us) (hr : a.assemble names ts failures = .ok r) :
    (∃ s, a.assemble names us failures = .ok s) ↔
      ∀ u, keptTable? us f = some u → ¬ a.Refuses us u → Nameable a.normalizer u := by
  obtain ⟨candidates, hcandidates, hkeys⟩ := assemble_finishes_iff.mp ⟨r, hr⟩
  have htables := counterparts_tablesByName h
  obtain ⟨found, hfound, hnames⟩ := runTypeNames_of_counterparts htables hcandidates
  constructor
  · intro hs u hkept hrefused
    obtain ⟨candidates', hcandidates', hkeys'⟩ := assemble_finishes_iff.mp hs
    have hmem : u ∈ tablesByName us :=
      mem_tablesByName.mpr ((name_of_keptTable? hkept).symm ▸ hkept)
    cases hextract : (a.extract (runTypeNames candidates') (tablesByName us) u).2 with
    | error e => exact absurd ⟨candidates', e, hcandidates', hextract⟩ hrefused
    | ok entity => exact hkeys' u hmem entity hextract
  · intro hversion
    refine assemble_finishes_iff.mpr ⟨found, hfound, fun u hu entity hextract => ?_⟩
    by_cases hname : u.name = f
    · refine hversion u (hname ▸ mem_tablesByName.mp hu) ?_
      rintro ⟨candidates', e, hcandidates', herror⟩
      obtain rfl := Except.ok.inj (hfound.symm.trans hcandidates')
      rw [hextract] at herror
      cases herror
    · obtain ⟨t, ht, hpair⟩ := exists_of_mem_right htables hu
      obtain rfl := hpair.same (hpair.variant.name ▸ hname)
      rw [← hnames, ← extract_of_counterparts htables] at hextract
      exact hkeys t ht entity hextract

/-- A table does not disturb the tables beside it.  Of two readings that differ at one table, every
other table gets the same entity from both runs, up to the names of its associations and what
they found in that table, or fails for the same reason.  When one run finishes, so does the other,
unless its version of the table gets its columns and has a foreign key that cannot be named. -/
theorem siblings_undisturbed
    (h : DifferAt f ts us) (hr : a.assemble names ts failures = .ok r) :
    (∀ s, a.assemble names us failures = .ok s → KeepsSiblings f r s) ∧
    ((∃ s, a.assemble names us failures = .ok s) ↔
      ∀ u, keptTable? us f = some u → ¬ a.Refuses us u → Nameable a.normalizer u) :=
  ⟨fun _ hs => keepsSiblings_of_assemble h hr hs, finishes_iff_of_assemble h hr⟩

/-- The torn table without the foreign key that is not valid. -/
def mended : Table := { torn with foreignKeys := [] }

theorem torn_not_assembled
    (hr : withoutEnums.assemble names [staff, torn] failures = .ok r) :
    r.entity? "torn" = none := by
  cases hfind : r.entity? "torn" with
  | none => rfl
  | some e =>
      have hname : e.name = "torn" := by simpa using List.find?_some hfind
      obtain ⟨candidates, -, hall⟩ := exists_linkedFrom hr
      obtain ⟨table, source, pair, hfrom, rfl⟩ := hall e (List.mem_of_find?_eq_some hfind)
      have hkept := mem_tablesByName.mp hfrom.table_mem
      rw [← hfrom.name, hname] at hkept
      obtain rfl : torn = table := Option.some.inj hkept
      obtain ⟨columns, hcolumns⟩ := targetColumns_of_validateKeys (extract_ok hfrom.extract).1
        (List.mem_singleton_self _)
      rw [tableNamed?_tablesByName] at hcolumns
      cases hcolumns

/-- A table fails in one run and is assembled in the other, and the table beside it is assembled
alike. -/
theorem siblings_of_torn :
    ∃ r, withoutEnums.assemble ["staff"] [staff, torn] [] = .ok r ∧ r.entity? "torn" = none ∧
      ∃ s, withoutEnums.assemble ["staff"] [staff, mended] [] = .ok s ∧
        (∃ e ∈ s.entities, e.name = "torn") ∧ KeepsSiblings "torn" r s := by
  have hvariant : Variant torn mended := ⟨rfl, rfl, rfl, fun _ => Iff.rfl⟩
  have hsources : ∀ table ∈ [staff, torn], ∀ key ∈ table.foreignKeys, key.sourceColumns ≠ [] := by
    decide
  obtain ⟨r, hr⟩ := assemble_total (a := withoutEnums) (typeName_total rfl) hsources ["staff"] []
  obtain ⟨hkeeps, hfinishes⟩ := siblings_undisturbed (hvariant.differAt [staff]) hr
  have hmended : ∃ s, withoutEnums.assemble ["staff"] [staff, mended] [] = .ok s := by
    refine hfinishes.mpr fun u hu _ => ?_
    obtain rfl : mended = u := Option.some.inj hu
    exact fun key hkey => absurd hkey List.not_mem_nil
  obtain ⟨s, hs⟩ := hmended
  have hassembled : ∃ e ∈ s.entities, e.name = mended.name :=
    exists_entity hs rfl fun typeNames =>
      ⟨_, (rfl : (withoutEnums.extract typeNames (tablesByName [staff, mended]) mended).2 = _)⟩
  exact ⟨r, hr, torn_not_assembled hr, s, hs, hassembled, hkeeps s hs⟩

/-- An assembler that makes table names singular. -/
def singularizing : Assembler :=
  { dialect := .postgresql
    normalizer := { reserved := pythonReserved, singularize := true }
    emitEnums := false }

def authors : Table :=
  { name := "authors", columns := [{ name := "id", nativeType := "integer" }] }

def posts : Table :=
  { name := "posts", columns := [{ name := "tag_id", nativeType := "integer" }] }

/-- The posts with a reference to a table that is not read and whose name has no singular. -/
def taggedPosts : Table :=
  { posts with
    foreignKeys := [
      { name := ""
        sourceColumns := ["tag_id"]
        targetTable := "tags_"
        targetColumns := [] }] }

/-- Without the reference both tables are assembled. -/
theorem authors_assembled :
    ∃ r, singularizing.assemble ["authors", "posts"] [authors, posts] [] = .ok r ∧
      ∃ e, r.entity? "authors" = some e := by
  have hread : ∀ table ∈ tablesByName [authors, posts], table ∈ [authors, posts] :=
    fun _ htable => mem_of_mem_tablesByName htable
  have hnames : ∀ table ∈ [authors, posts],
      (singularizing.normalizer.typeName table.name).isOk = true := by decide +kernel
  have hkeys : ∀ table ∈ [authors, posts], table.foreignKeys = [] := by decide
  obtain ⟨candidates, hcandidates⟩ : ∃ candidates,
      singularizing.typeCandidates (tablesByName [authors, posts]) = .ok candidates :=
    typeCandidates_finishes_iff.mpr fun table htable =>
      exists_of_isOk (hnames table (hread table htable))
  obtain ⟨r, hr⟩ : ∃ r,
      singularizing.assemble ["authors", "posts"] [authors, posts] [] = .ok r := by
    refine assemble_finishes_iff.mpr ⟨candidates, hcandidates, fun table htable _ _ key hkey => ?_⟩
    rw [hkeys table (hread table htable)] at hkey
    exact absurd hkey List.not_mem_nil
  obtain ⟨e, he, hname⟩ := exists_entity hr rfl fun typeNames =>
    ⟨_, (rfl : (singularizing.extract typeNames (tablesByName [authors, posts]) authors).2 = _)⟩
  have hfound : r.entity? authors.name = some e := hname ▸ entity?_of_mem hr he
  exact ⟨r, hr, e, hfound⟩

/-- The reference is valid, since the table that it references was not read. -/
theorem taggedPosts_not_refused : ¬ singularizing.Refuses [authors, taggedPosts] taggedPosts := by
  have hvalid : validateKeys taggedPosts (tablesByName [authors, taggedPosts]) = .ok () := by
    refine forM_eq_ok.mpr fun key hkey => ?_
    obtain rfl := List.mem_singleton.mp hkey
    rw [tableNamed?_tablesByName]
    rfl
  rintro ⟨candidates, e, -, herror⟩
  rw [extract, hvalid] at herror
  cases herror

/-- A table takes the one beside it with it: one run assembles both, the other none. -/
theorem siblings_of_taggedPosts :
    DifferAt "posts" [authors, posts] [authors, taggedPosts] ∧
    (∃ r, singularizing.assemble ["authors", "posts"] [authors, posts] [] = .ok r ∧
      ∃ e, r.entity? "authors" = some e) ∧
    ∀ s, singularizing.assemble ["authors", "posts"] [authors, taggedPosts] [] ≠ .ok s := by
  have hvariant : Variant posts taggedPosts := ⟨rfl, rfl, rfl, fun _ => Iff.rfl⟩
  have hdiffer : DifferAt "posts" [authors, posts] [authors, taggedPosts] :=
    hvariant.differAt [authors]
  refine ⟨hdiffer, authors_assembled, fun s hs => ?_⟩
  obtain ⟨r, hr, -⟩ := authors_assembled
  obtain ⟨-, typeName, htype⟩ := (finishes_iff_of_assemble hdiffer hr).mp ⟨s, hs⟩ taggedPosts rfl
    taggedPosts_not_refused _ (List.mem_singleton_self _)
  -- The last word of the name, behind its underscore, is empty and has no singular.
  cases htype

end Whole

end Assembler
end Model
end TableCast
