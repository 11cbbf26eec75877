import TableCast.Proofs.Reordering
import TableCast.Proofs.Run.Interleaving
import TableCast.Schema.KeyRow

/-!
# Grouping the rows of foreign keys

The rows of one constraint make one foreign key, wherever they stand among the rows of the others.
Its columns are those of all of its rows, in their order, and the rest is told by the first one.  So
foreign keys that are written out row by row are put together again, in whatever way their rows are
mixed.

**Rows.**  `keyOfRows` is the foreign key of the rows of one constraint, `ForeignKey.rows` are the
rows of a foreign key.

**Results.**
* `keysByName_eq`, `groupKeys_eq`: the foreign keys of all rows, each from its own.
* `keyOfRows_rows`: a foreign key is made of its own rows again.
* `groupKeys_of_interleave`: so are foreign keys whose rows are mixed.
-/

namespace TableCast
namespace Schema

open Reordering Run

/-- The foreign key that the rows of one constraint make. -/
def keyOfRows (rows : List KeyRow) : ForeignKey :=
  { name := (rows.head?.bind (·.name)).getD ""
    sourceColumns := rows.map (·.source)
    targetTable := (rows.head?.map (·.targetTable)).getD ""
    targetColumns := rows.filterMap (·.target)
    onDelete := canonicalAction (rows.head?.bind (·.onDelete))
    onUpdate := canonicalAction (rows.head?.bind (·.onUpdate)) }

/-- The row of a foreign key at a position. -/
def ForeignKey.row (key : ForeignKey) (position : Nat) (source : String) : KeyRow :=
  { name := some key.name
    source := source
    targetTable := key.targetTable
    target := key.targetColumns[position]?
    onDelete := some key.onDelete
    onUpdate := some key.onUpdate }

/-- One row for each position of a foreign key, without a target when it has no target columns. -/
def ForeignKey.rows (key : ForeignKey) : List KeyRow :=
  key.sourceColumns.mapIdx key.row

/-- A foreign key as catalogs show it: it has columns, a target for each of them or for none, and
its actions are spelled canonically. -/
structure Canonical (key : ForeignKey) : Prop where
  sources_ne : key.sourceColumns ≠ []
  targets : key.targetColumns = [] ∨ key.targetColumns.length = key.sourceColumns.length
  onDelete : key.onDelete ∈ actionNames
  onUpdate : key.onUpdate ∈ actionNames

section Grouping

variable {rows : List KeyRow} {row : KeyRow} {names : List (Option String)}
variable {f : Option String → ForeignKey}

theorem keyOfRows_singleton (row : KeyRow) : keyOfRows [row] = row.firstKey := by
  cases htarget : row.target <;> simp [keyOfRows, KeyRow.firstKey, htarget]

/-- One more row of the constraint. -/
theorem keyOfRows_concat (hrows : rows ≠ []) (row : KeyRow) :
    keyOfRows (rows ++ [row]) = (keyOfRows rows).addRow row := by
  obtain ⟨first, rest, rfl⟩ := List.exists_cons_of_ne_nil hrows
  have htargets : ((first :: rest) ++ [row]).filterMap (·.target) =
      (first :: rest).filterMap (·.target) ++ row.target.toList := by
    rw [List.filterMap_append]
    cases htarget : row.target <;> simp [htarget]
  rw [keyOfRows, htargets, List.map_append]
  rfl

/-- A row of a constraint that has rows already is added to its foreign key. -/
theorem insertRow_of_mem (hnodup : names.Nodup) (hmem : row.name ∈ names) :
    insertRow row (names.map fun name => (name, f name)) =
      names.map fun name => (name, if name = row.name then (f name).addRow row else f name) := by
  induction names with
  | nil => exact absurd hmem List.not_mem_nil
  | cons name names ih =>
      obtain ⟨hname, hrest⟩ := List.nodup_cons.mp hnodup
      rw [List.map_cons, List.map_cons, insertRow]
      by_cases heq : name = row.name
      · have hothers : ∀ other ∈ names, (other, f other) =
            (other, if other = row.name then (f other).addRow row else f other) := by
          intro other hother
          rw [if_neg fun hsame => hname (by rwa [heq, ← hsame])]
        rw [if_pos (beq_iff_eq.mpr heq), if_pos heq, List.map_congr_left hothers]
      · rw [if_neg (by rwa [beq_iff_eq]), if_neg heq,
          ih hrest (List.mem_of_ne_of_mem (Ne.symm heq) hmem)]

/-- The first row of a constraint starts its foreign key. -/
theorem insertRow_of_not_mem (hmem : row.name ∉ names) :
    insertRow row (names.map fun name => (name, f name)) =
      (names.map fun name => (name, f name)) ++ [(row.name, row.firstKey)] := by
  induction names with
  | nil => rfl
  | cons name names ih =>
      rw [List.mem_cons, not_or] at hmem
      rw [List.map_cons, insertRow, if_neg (by rw [beq_iff_eq]; exact Ne.symm hmem.1), ih hmem.2]
      rfl

/-- **Every constraint has the foreign key of its own rows**, and the constraints stand in the order
of their first rows. -/
theorem keysByName_eq (rows : List KeyRow) :
    keysByName rows = (rows.map (·.name)).eraseDups.map fun name =>
      (name, keyOfRows (rows.filter (·.name == name))) := by
  induction rows using List.reverseRecOn with
  | nil => simp [keysByName]
  | append_singleton rows row ih =>
      have hstep : keysByName (rows ++ [row]) = insertRow row (keysByName rows) :=
        List.foldl_concat ..
      have hother : ∀ {name}, name ≠ row.name →
          (rows ++ [row]).filter (·.name == name) = rows.filter (·.name == name) := by
        intro name hne
        rw [List.filter_append, List.filter_singleton,
          show (row.name == name) = false from beq_eq_false_iff_ne.mpr hne.symm]
        exact List.append_nil _
      have hself : (rows ++ [row]).filter (·.name == row.name) =
          rows.filter (·.name == row.name) ++ [row] := by
        rw [List.filter_append, List.filter_singleton, beq_self_eq_true]
        rfl
      rw [hstep, ih, List.map_append, List.map_singleton, eraseDups_concat]
      split_ifs with hmem
      · rw [insertRow_of_mem (nodup_eraseDups _) (List.mem_eraseDups.mpr hmem)]
        refine List.map_congr_left fun name _ => ?_
        split_ifs with heq
        · obtain rfl := heq
          obtain ⟨first, hfirst, hname⟩ := List.mem_map.mp hmem
          have hne : rows.filter (·.name == row.name) ≠ [] :=
            List.ne_nil_of_mem (List.mem_filter.mpr ⟨hfirst, beq_iff_eq.mpr hname⟩)
          rw [hself, keyOfRows_concat hne]
        · rw [hother heq]
      · rw [insertRow_of_not_mem (mt List.mem_eraseDups.mp hmem), List.map_append,
          List.map_singleton]
        have hnone : rows.filter (·.name == row.name) = [] :=
          List.filter_eq_nil_iff.mpr fun r hr heq =>
            hmem (List.mem_map.mpr ⟨r, hr, beq_iff_eq.mp heq⟩)
        rw [hself, hnone, List.nil_append, keyOfRows_singleton]
        refine congrArg (· ++ _) (List.map_congr_left fun name hname => ?_)
        rw [hother fun heq => hmem (heq ▸ List.mem_eraseDups.mp hname)]

theorem groupKeys_eq (rows : List KeyRow) :
    groupKeys rows = (rows.map (·.name)).eraseDups.map fun name =>
      keyOfRows (rows.filter (·.name == name)) := by
  rw [groupKeys, keysByName_eq, List.map_map]
  rfl

end Grouping

section Flattening

variable {keys : List ForeignKey} {key : ForeignKey} {rows : List KeyRow}

/-- A canonical action is spelled as it is. -/
theorem canonicalAction_of_mem {action : String} (h : action ∈ actionNames) :
    canonicalAction (some action) = action := by
  have hall : ∀ action ∈ actionNames, canonicalAction (some action) = action := by decide +kernel
  exact hall action h

theorem name_of_mem_rows {row : KeyRow} (h : row ∈ key.rows) : row.name = some key.name := by
  obtain ⟨position, _, rfl⟩ := List.mem_mapIdx.mp h
  rfl

theorem map_source_rows (key : ForeignKey) : key.rows.map (·.source) = key.sourceColumns := by
  refine List.ext_getElem (by simp [ForeignKey.rows]) fun i _ _ => ?_
  simp [ForeignKey.rows, ForeignKey.row]

theorem filterMap_target_rows
    (h : key.targetColumns = [] ∨ key.targetColumns.length = key.sourceColumns.length) :
    key.rows.filterMap (·.target) = key.targetColumns := by
  rcases h with hnone | hlength
  · rw [hnone, List.filterMap_eq_nil_iff]
    intro row hrow
    obtain ⟨position, _, rfl⟩ := List.mem_mapIdx.mp hrow
    rw [ForeignKey.row, hnone]
    rfl
  · have htargets : key.rows.map (·.target) = key.targetColumns.map some := by
      refine List.ext_getElem (by simp [ForeignKey.rows, hlength]) fun i _ hi => ?_
      rw [List.length_map] at hi
      simp [ForeignKey.rows, ForeignKey.row, hi]
    calc key.rows.filterMap (·.target)
        = (key.rows.map (·.target)).filterMap id := by rw [List.filterMap_map]; rfl
      _ = (key.targetColumns.map some).filterMap id := by rw [htargets]
      _ = key.targetColumns := by rw [List.filterMap_map]; exact List.filterMap_some

/-- **A foreign key is made of its own rows again.** -/
theorem keyOfRows_rows (h : Canonical key) : keyOfRows key.rows = key := by
  obtain ⟨source, sources, hsources⟩ := List.exists_cons_of_ne_nil h.sources_ne
  have hhead : key.rows.head? = some (key.row 0 source) := by
    rw [ForeignKey.rows, hsources, List.mapIdx_cons]
    rfl
  rw [keyOfRows, hhead, map_source_rows, filterMap_target_rows h.targets]
  simp only [ForeignKey.row, Option.bind_some, Option.map_some, Option.getD_some,
    canonicalAction_of_mem h.onDelete, canonicalAction_of_mem h.onUpdate]

/-- What an interleaving has of one foreign key are its rows, in their order. -/
theorem filter_of_interleave (hnodup : (keys.map (·.name)).Nodup)
    (h : Interleave (keys.map ForeignKey.rows) rows) (hkey : key ∈ keys) :
    rows.filter (·.name == some key.name) = key.rows := by
  obtain ⟨k, hk⟩ := List.mem_iff_getElem?.mp hkey
  have hnames : (keys.map fun key => some key.name).Nodup := by
    have hsome := hnodup.map (Option.some_injective String)
    rwa [List.map_map] at hsome
  have howned : ∀ (k : Nat) (q : List KeyRow), (keys.map ForeignKey.rows)[k]? = some q →
      ∀ row ∈ q, (keys.map fun key => some key.name)[k]? = some row.name := by
    intro k q hq row hrow
    rw [List.getElem?_map, Option.map_eq_some_iff] at hq
    obtain ⟨key, hkey, rfl⟩ := hq
    rw [List.getElem?_map, hkey, name_of_mem_rows hrow]
    rfl
  have hrows : rows.filter (·.name == some key.name) = (keys.map ForeignKey.rows)[k]?.getD [] :=
    h.filter_owner hnames howned (by rw [List.getElem?_map, hk]; rfl)
  rw [hrows, List.getElem?_map, hk]
  rfl

theorem exists_of_mem_interleave (h : Interleave (keys.map ForeignKey.rows) rows) {row : KeyRow}
    (hrow : row ∈ rows) : ∃ key ∈ keys, row.name = some key.name := by
  obtain ⟨q, hq, hmem⟩ := List.mem_flatten.mp (h.perm.mem_iff.mp hrow)
  obtain ⟨key, hkey, rfl⟩ := List.mem_map.mp hq
  exact ⟨key, hkey, name_of_mem_rows hmem⟩

/-- The rows of a foreign key among the others make it again. -/
theorem keyOfRows_of_interleave (hnodup : (keys.map (·.name)).Nodup)
    (hcanonical : ∀ key ∈ keys, Canonical key) (h : Interleave (keys.map ForeignKey.rows) rows)
    (hkey : key ∈ keys) : keyOfRows (rows.filter (·.name == some key.name)) = key := by
  rw [filter_of_interleave hnodup h hkey, keyOfRows_rows (hcanonical key hkey)]

/-- The foreign keys come by the names of their rows, each one once. -/
theorem map_name_groupKeys (hnodup : (keys.map (·.name)).Nodup)
    (hcanonical : ∀ key ∈ keys, Canonical key) (h : Interleave (keys.map ForeignKey.rows) rows) :
    (groupKeys rows).map (fun key => some key.name) = (rows.map (·.name)).eraseDups := by
  have hself : ∀ name ∈ (rows.map (·.name)).eraseDups,
      some (keyOfRows (rows.filter (·.name == name))).name = name := by
    intro name hname
    obtain ⟨row, hrow, rfl⟩ := List.mem_map.mp (List.mem_eraseDups.mp hname)
    obtain ⟨key, hkey, heq⟩ := exists_of_mem_interleave h hrow
    rw [heq, keyOfRows_of_interleave hnodup hcanonical h hkey]
  rw [groupKeys_eq, List.map_map]
  exact (List.map_congr_left hself).trans (List.map_id _)

theorem mem_groupKeys_iff (hnodup : (keys.map (·.name)).Nodup)
    (hcanonical : ∀ key ∈ keys, Canonical key) (h : Interleave (keys.map ForeignKey.rows) rows) :
    key ∈ groupKeys rows ↔ key ∈ keys := by
  rw [groupKeys_eq, List.mem_map]
  constructor
  · rintro ⟨name, hname, rfl⟩
    obtain ⟨row, hrow, rfl⟩ := List.mem_map.mp (List.mem_eraseDups.mp hname)
    obtain ⟨key, hkey, heq⟩ := exists_of_mem_interleave h hrow
    rwa [heq, keyOfRows_of_interleave hnodup hcanonical h hkey]
  · intro hkey
    obtain ⟨source, sources, hsources⟩ :=
      List.exists_cons_of_ne_nil (hcanonical key hkey).sources_ne
    have hown : key.row 0 source ∈ key.rows := by
      rw [ForeignKey.rows, hsources, List.mapIdx_cons]
      exact List.mem_cons_self ..
    rw [← filter_of_interleave hnodup h hkey] at hown
    have hname : some key.name ∈ rows.map (·.name) :=
      List.mem_map.mpr ⟨_, (List.mem_filter.mp hown).1, rfl⟩
    exact ⟨some key.name, List.mem_eraseDups.mpr hname,
      keyOfRows_of_interleave hnodup hcanonical h hkey⟩

/-- Where the first row of a foreign key stands. -/
def firstRow (rows : List KeyRow) (key : ForeignKey) : Nat :=
  (rows.map (·.name)).idxOf (some key.name)

/-- **Foreign keys whose rows are mixed are put together again**, and come in the order of their
first rows. -/
theorem groupKeys_of_interleave (hnodup : (keys.map (·.name)).Nodup)
    (hcanonical : ∀ key ∈ keys, Canonical key) (h : Interleave (keys.map ForeignKey.rows) rows) :
    (groupKeys rows).Perm keys ∧
      (groupKeys rows).Pairwise fun a b => firstRow rows a < firstRow rows b := by
  have hnames := map_name_groupKeys hnodup hcanonical h
  have hdistinct : ((groupKeys rows).map fun key => some key.name).Nodup :=
    hnames ▸ nodup_eraseDups _
  have hordered : ((groupKeys rows).map fun key => some key.name).Pairwise fun a b =>
      (rows.map (·.name)).idxOf a < (rows.map (·.name)).idxOf b :=
    hnames ▸ pairwise_idxOf_eraseDups _
  constructor
  · exact (List.perm_ext_iff_of_nodup (hdistinct.of_map _) (hnodup.of_map _)).mpr fun _ =>
      mem_groupKeys_iff hnodup hcanonical h
  · rw [List.pairwise_map] at hordered
    exact hordered

end Flattening

end Schema
end TableCast
