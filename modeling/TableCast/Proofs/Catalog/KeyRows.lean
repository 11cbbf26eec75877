import TableCast.Catalog.Sqlite
import TableCast.Proofs.Schema.KeyGroups

/-!
# The order of the rows of keys

Catalogs list keys row by row.  Foreign keys are put together from their rows by the name of the
constraint, whatever stands between these.  SQLite numbers the rows of a key, and they are sorted
by their numbers first, so the order in which they are listed does not matter at all.

**Orders.**  `InPairOrder` and `InKeyOrder` are the foreign keys and the primary key that rows make
when their numbers alone decide.

**Results.**
* `foreignKeys_eq_of_perm`, `primaryKey_eq_of_perm`: the order of the rows does not matter.
* `inPairOrder_foreignKeys`, `inKeyOrder_primaryKey`: the columns stand by their numbers.
* `keys_of_rows`: keys are put together from rows in any order.
-/

namespace TableCast
namespace Catalog
namespace Sqlite

open Schema Reordering Run

/-- The primary key that the rows of its columns make: the columns by their position in it. -/
def InKeyOrder (rows : List ColumnRow) (names : List String) : Prop :=
  ∃ key : List ColumnRow, key.Perm (rows.filter (·.isKey)) ∧
    key.Pairwise (·.keyPosition < ·.keyPosition) ∧ names = key.map (·.name)

/-- The foreign keys that rows make: one for each number, by their numbers, and each one made of
the rows of its number by their positions. -/
def InPairOrder (table : String) (rows : List ForeignKeyRow) (keys : List ForeignKey) : Prop :=
  ∃ (numbers : List Int) (pairs : Int → List ForeignKeyRow),
    numbers.Pairwise (· < ·) ∧ (∀ i, i ∈ numbers ↔ ∃ row ∈ rows, row.id = i) ∧
    (∀ i, (pairs i).Perm (rows.filter (·.id == i)) ∧
      (pairs i).Pairwise (·.position < ·.position)) ∧
    keys = numbers.map fun i => keyOfRows ((pairs i).map (ForeignKeyRow.toKeyRow table))

section PrimaryKeys

variable {rows rows' : List ColumnRow}

/-- The columns of a key are sorted by their positions, and then by their names. -/
theorem keyLe_iff (a b : ColumnRow) :
    a.keyLe b = true ↔ toLex (a.keyPosition, a.name) ≤ toLex (b.keyPosition, b.name) := by
  rw [Prod.Lex.toLex_le_toLex]
  simp only [ColumnRow.keyLe, Bool.or_eq_true, Bool.and_eq_true, beq_iff_eq, decide_eq_true_eq,
    Bool.not_eq_true', decide_eq_false_iff_not, not_lt]

/-- No two columns have the same position in the primary key. -/
def DistinctPositions (rows : List ColumnRow) : Prop :=
  ((rows.filter (·.isKey)).map (·.keyPosition)).Nodup

theorem nodup_keys (hdistinct : DistinctPositions rows) :
    ((rows.filter (·.isKey)).map fun row => toLex (row.keyPosition, row.name)).Nodup := by
  refine List.Nodup.of_map (fun key => (ofLex key).1) ?_
  rwa [List.map_map]

/-- **The order of the columns does not matter** for the primary key. -/
theorem primaryKey_eq_of_perm (hdistinct : DistinctPositions rows) (h : rows.Perm rows') :
    primaryKey rows' = primaryKey rows := by
  rw [primaryKey, primaryKey, mergeSort_eq_of_keys keyLe_iff (nodup_keys hdistinct) (h.filter _)]

/-- Its columns stand by their positions. -/
theorem inKeyOrder_primaryKey (hdistinct : DistinctPositions rows) :
    InKeyOrder rows (primaryKey rows) := by
  have hperm := List.mergeSort_perm (rows.filter (·.isKey)) ColumnRow.keyLe
  have hsorted := pairwise_mergeSort_of_keys keyLe_iff (nodup_keys hdistinct)
  have hpositions := List.pairwise_map.mp
    ((hperm.map fun row : ColumnRow => row.keyPosition).nodup_iff.mpr hdistinct)
  refine ⟨_, hperm, (hsorted.and hpositions).imp fun ⟨hlt, hne⟩ => ?_, rfl⟩
  exact (Prod.Lex.toLex_lt_toLex.mp hlt).resolve_right fun heq => hne heq.1

end PrimaryKeys

section ForeignKeys

variable {table : String} {rows rows' : List ForeignKeyRow}

/-- The rows of foreign keys are sorted by their numbers, and then by their positions. -/
theorem pairLe_iff (a b : ForeignKeyRow) :
    a.le b = true ↔ toLex (a.id, a.position) ≤ toLex (b.id, b.position) := by
  rw [Prod.Lex.toLex_le_toLex]
  simp [ForeignKeyRow.le]

/-- No two rows have the same number and the same position. -/
def DistinctPairs (rows : List ForeignKeyRow) : Prop :=
  (rows.map fun row => (row.id, row.position)).Nodup

/-- **The order of the rows does not matter** for the foreign keys. -/
theorem foreignKeys_eq_of_perm (hdistinct : DistinctPairs rows) (h : rows.Perm rows') :
    foreignKeys table rows' = foreignKeys table rows := by
  rw [foreignKeys, foreignKeys, mergeSort_eq_of_keys pairLe_iff hdistinct h]

/-- The name that the constraint with a number has. -/
theorem keyName_injective (table : String) :
    Function.Injective fun i : Int => some (table ++ "_fk_" ++ toString i) := by
  intro i j h
  have hnumbers := (String.append_right_inj _).mp (Option.some.inj h)
  rw [Int.toString_eq_repr, Int.toString_eq_repr] at hnumbers
  exact Int.repr_injective hnumbers

/-- The foreign keys of sorted rows, each made of the rows of its number. -/
theorem foreignKeys_eq (table : String) (rows : List ForeignKeyRow) :
    foreignKeys table rows =
      (((rows.mergeSort ForeignKeyRow.le).map (·.id)).eraseDups).map fun i =>
        keyOfRows (((rows.mergeSort ForeignKeyRow.le).filter (·.id == i)).map
          (ForeignKeyRow.toKeyRow table)) := by
  have hinjective := keyName_injective table
  rw [foreignKeys, groupKeys_eq]
  generalize rows.mergeSort ForeignKeyRow.le = sorted
  have hnames : (sorted.map (ForeignKeyRow.toKeyRow table)).map (·.name) =
      (sorted.map (·.id)).map fun i => some (table ++ "_fk_" ++ toString i) := by
    rw [List.map_map, List.map_map]
    rfl
  rw [hnames, eraseDups_map hinjective, List.map_map]
  refine List.map_congr_left fun i _ => ?_
  have hrows : ∀ row ∈ sorted, ((ForeignKeyRow.toKeyRow table row).name ==
      some (table ++ "_fk_" ++ toString i)) = (row.id == i) := by
    intro row _
    rw [Bool.eq_iff_iff, beq_iff_eq, beq_iff_eq]
    exact hinjective.eq_iff
  rw [Function.comp_apply, List.filter_map, Function.comp_def, List.filter_congr hrows]

/-- They come by their numbers, and their columns stand by their positions. -/
theorem inPairOrder_foreignKeys (hdistinct : DistinctPairs rows) :
    InPairOrder table rows (foreignKeys table rows) := by
  have hperm := List.mergeSort_perm rows ForeignKeyRow.le
  have hsorted : (rows.mergeSort ForeignKeyRow.le).Pairwise fun a b =>
      a.id < b.id ∨ a.id = b.id ∧ a.position < b.position :=
    (pairwise_mergeSort_of_keys pairLe_iff hdistinct).imp Prod.Lex.toLex_lt_toLex.mp
  refine ⟨_, _, ?_, fun i => ?_, fun i => ⟨hperm.filter _, ?_⟩, foreignKeys_eq table rows⟩
  · have hnumbers : ((rows.mergeSort ForeignKeyRow.le).map (·.id)).Pairwise (· ≤ ·) :=
      List.pairwise_map.mpr (hsorted.imp fun h => h.elim le_of_lt fun heq => le_of_eq heq.1)
    have hkept := (hnumbers.sublist (eraseDups_sublist _)).and (nodup_eraseDups _)
    exact hkept.imp fun ⟨hle, hne⟩ => lt_of_le_of_ne hle hne
  · rw [List.mem_eraseDups, List.mem_map]
    exact exists_congr fun row => and_congr_left fun _ => hperm.mem_iff
  · refine (hsorted.filter (·.id == i)).imp_of_mem fun {a b} ha hb h => ?_
    have hid : a.id = b.id := (beq_iff_eq.mp (List.mem_filter.mp ha).2).trans
      (beq_iff_eq.mp (List.mem_filter.mp hb).2).symm
    exact (h.resolve_left fun hlt => absurd hid hlt.ne).2

end ForeignKeys

/-- **Keys are put together from their rows.**  Foreign keys with different names that are written
out row by row come back as they were, in the order of their first rows, in whatever way the rows of
different ones are mixed.  The foreign keys and the primary key of a table in SQLite do not depend
on the order of the rows at all: their columns stand by their positions. -/
theorem keys_of_rows :
    (∀ (keys : List ForeignKey) (rows : List KeyRow), (keys.map (·.name)).Nodup →
      (∀ key ∈ keys, Canonical key) → Interleave (keys.map ForeignKey.rows) rows →
        (groupKeys rows).Perm keys ∧
          (groupKeys rows).Pairwise fun a b => firstRow rows a < firstRow rows b) ∧
    (∀ (table : String) (rows : List ForeignKeyRow), DistinctPairs rows →
      (∀ rows', rows.Perm rows' → foreignKeys table rows' = foreignKeys table rows) ∧
        InPairOrder table rows (foreignKeys table rows)) ∧
    ∀ rows : List ColumnRow, DistinctPositions rows →
      (∀ rows', rows.Perm rows' → primaryKey rows' = primaryKey rows) ∧
        InKeyOrder rows (primaryKey rows) :=
  ⟨fun _ _ hnodup hcanonical h => groupKeys_of_interleave hnodup hcanonical h,
    fun _ _ hdistinct =>
      ⟨fun _ h => foreignKeys_eq_of_perm hdistinct h, inPairOrder_foreignKeys hdistinct⟩,
    fun _ hdistinct =>
      ⟨fun _ h => primaryKey_eq_of_perm hdistinct h, inKeyOrder_primaryKey hdistinct⟩⟩

/-- A foreign key of two columns whose rows have the one row of another foreign key between them. -/
def mixedKeys : List ForeignKey × List KeyRow :=
  let pair := ForeignKey.mk "pair" ["a", "b"] "other" ["x", "y"] "CASCADE" "NO ACTION"
  let lone := ForeignKey.mk "lone" ["c"] "other" [] "SET NULL" "RESTRICT"
  ([lone, pair], [pair.row 0 "a", lone.row 0 "c", pair.row 1 "b"])

/-- The rows of a foreign key in SQLite, the last one first. -/
def turnedRows : List ForeignKeyRow :=
  [{ id := 0, position := 1, targetTable := "other", source := "b", target := some "y",
     onUpdate := none, onDelete := some "CASCADE" },
   { id := 0, position := 0, targetTable := "other", source := "a", target := some "x",
     onUpdate := none, onDelete := some "CASCADE" }]

/-- The rows of a primary key in SQLite, the last one first, and of a column outside of it. -/
def turnedColumns : List ColumnRow :=
  [{ position := 0, name := "b", declaredType := none, notNull := true, default := none,
     keyPosition := 2 },
   { position := 1, name := "a", declaredType := none, notNull := true, default := none,
     keyPosition := 1 },
   { position := 2, name := "c", declaredType := none, notNull := true, default := none,
     keyPosition := 0 }]

/-- Mixed and turned rows, all of them put together. -/
theorem keys_of_mixed_rows :
    ((groupKeys mixedKeys.2).Perm mixedKeys.1 ∧ (groupKeys mixedKeys.2).Pairwise fun a b =>
      firstRow mixedKeys.2 a < firstRow mixedKeys.2 b) ∧
    (foreignKeys "t" turnedRows.reverse = foreignKeys "t" turnedRows ∧
      InPairOrder "t" turnedRows (foreignKeys "t" turnedRows)) ∧
    primaryKey turnedColumns.reverse = primaryKey turnedColumns ∧
      InKeyOrder turnedColumns (primaryKey turnedColumns) := by
  obtain ⟨hgroups, hkeys, hprimary⟩ := keys_of_rows
  have hcanonical : ∀ key ∈ mixedKeys.1, Canonical key := by
    intro key hkey
    rcases List.mem_pair.mp hkey with rfl | rfl <;> constructor <;> decide
  have hmixed : Interleave (mixedKeys.1.map ForeignKey.rows) mixedKeys.2 :=
    .next (k := 1) rfl <| .next (k := 0) rfl <| .next (k := 1) rfl <| .done (by decide)
  have hpairs := hkeys "t" turnedRows (by unfold DistinctPairs; decide)
  have hcolumns := hprimary turnedColumns (by unfold DistinctPositions; decide)
  have hturned := turnedRows.reverse_perm.symm
  exact ⟨hgroups _ _ (by decide) hcanonical hmixed, ⟨hpairs.1 _ hturned, hpairs.2⟩,
    hcolumns.1 _ turnedColumns.reverse_perm.symm, hcolumns.2⟩

end Sqlite
end Catalog
end TableCast
