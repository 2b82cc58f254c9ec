import Mathlib.Data.List.Basic
import Mathlib.Data.List.Pairwise
import SqlCompose.Catalog.Reflector
import SqlCompose.Proofs.Catalog.Folding
import SqlCompose.Proofs.Catalog.Inquiry

/-!
# Well-formed tables

A table is put together from the rows that several queries find, and nothing makes these rows agree
with each other. A loaded table is well formed all the same, whatever is found
(`Loader.wellFormed_of_course`): its columns know whether they are in the primary key, and no key or
index is without columns.

SQLite tells of each column which place it has in the primary key. So the key can be read off the
rows in the order of these places, of which there is just one (`Sqlite.Ranked.unique`), and it
consists of columns of the table.
-/

namespace SqlCompose.Catalog

/-! ## What holds of every table -/

namespace Table

/-- A table whose parts agree with each other. -/
structure WellFormed (t : Table) : Prop where
  /-- The columns know whether they belong to the primary key. -/
  flags : ∀ c ∈ t.columns, c.primaryKey = true ↔ c.name ∈ t.primaryKey
  /-- A foreign key has columns, each of which refers to one. -/
  references : ∀ {name key}, t.foreignKeys.get? name = some key →
    key.columns ≠ [] ∧ key.refColumns.length = key.columns.length
  /-- An index has columns. -/
  indexes : ∀ {name index}, t.indexes.get? name = some index → index.columns ≠ []

/-- The table of columns, a primary key, and entries of foreign keys and of indexes. -/
def assembled (name : String) (columns : List Column) (key : List String)
    (references : List ReferenceEntry) (entries : List IndexEntry) : Table :=
  (⟨name, columns, [], collectReferences references, collectIndexes entries⟩ : Table).withPrimaryKey
    key

variable (name : String) (columns : List Column) (key : List String)
  (references : List ReferenceEntry) (entries : List IndexEntry)

/-- An assembled table has the columns it was given. -/
theorem columnNames_assembled :
    (assembled name columns key references entries).columnNames = columns.map (·.name) := by
  rw [columnNames, assembled, withPrimaryKey, List.map_map]
  rfl

/-- An assembled table is well formed. -/
theorem wellFormed_assembled : (assembled name columns key references entries).WellFormed where
  flags c hc := by
    obtain ⟨c, -, rfl⟩ := List.mem_map.1 hc
    exact List.contains_iff_mem
  references {refName found} h := by
    have hfound : (collectReferences references).get? refName = some found := h
    rw [get?_collectReferences] at hfound
    split at hfound
    · cases hfound
    · cases hfound
      exact ⟨List.cons_ne_nil _ _, by rw [List.length_map, List.length_map]⟩
  indexes {indexName found} h := by
    have hfound : (collectIndexes entries).get? indexName = some found := h
    rw [get?_collectIndexes] at hfound
    split at hfound
    · cases hfound
    · cases hfound
      exact List.cons_ne_nil _ _

end Table

/-! ## Primary keys of SQLite -/

namespace Sqlite

/-- The place in the primary key that a row tells; zero, if it tells none. -/
def keyPlace (row : Row) : Int64 :=
  (row.int? "pk").getD 0

/-- Whether a row describes a column of the primary key. -/
def inKey (row : Row) : Bool :=
  (row.plain? "name").isSome && 0 < keyPlace row

/-- Rows in the order of their places are determined by the rows of each place. -/
theorem eq_of_filter_eq {rows rows' : List Row} (hrows : rows.Pairwise (keyPlace · ≤ keyPlace ·))
    (hrows' : rows'.Pairwise (keyPlace · ≤ keyPlace ·))
    (h : ∀ place, rows.filter (keyPlace · == place) = rows'.filter (keyPlace · == place)) :
    rows = rows' := by
  induction rows generalizing rows' with
  | nil =>
    cases rows' with
    | nil => rfl
    | cons b rest' => simpa using h (keyPlace b)
  | cons a rest ih =>
    cases rows' with
    | nil => simpa using h (keyPlace a)
    | cons b rest' =>
      obtain ⟨hfirst, hrest⟩ := List.pairwise_cons.1 hrows
      obtain ⟨hfirst', hrest'⟩ := List.pairwise_cons.1 hrows'
      have ha : a ∈ b :: rest' := by
        have hmem : a ∈ (a :: rest).filter (keyPlace · == keyPlace a) := by simp
        exact List.mem_of_mem_filter (h _ ▸ hmem)
      have hb : b ∈ a :: rest := by
        have hmem : b ∈ (b :: rest').filter (keyPlace · == keyPlace b) := by simp
        exact List.mem_of_mem_filter (h _ ▸ hmem)
      -- Each of the first rows is in the other list, so neither place is behind the other.
      have hle : keyPlace a ≤ keyPlace b := by
        rcases List.mem_cons.1 hb with rfl | hb
        exacts [Int64.le_refl _, hfirst b hb]
      have hge : keyPlace b ≤ keyPlace a := by
        rcases List.mem_cons.1 ha with rfl | ha
        exacts [Int64.le_refl _, hfirst' a ha]
      have hplace : keyPlace a = keyPlace b := Int64.le_antisymm hle hge
      obtain rfl : a = b := by
        have hsame := h (keyPlace a)
        rw [List.filter_cons_of_pos (by simp), List.filter_cons_of_pos (by simp [hplace])] at hsame
        exact (List.cons.inj hsame).1
      refine congrArg (a :: ·) (ih hrest hrest' fun place => ?_)
      have hsame := h place
      rw [List.filter_cons, List.filter_cons] at hsame
      split at hsame
      exacts [(List.cons.inj hsame).2, hsame]

/-- The rows that describe columns of the primary key, by their places in it; rows that tell the
same place keep their order. -/
structure Ranked (rows ranked : List Row) : Prop where
  ascending : ranked.Pairwise (keyPlace · ≤ keyPlace ·)
  samePlace : ∀ place, ranked.filter (keyPlace · == place) =
    rows.filter fun row => inKey row && keyPlace row == place

/-- There is at most one list of the rows in this order. -/
theorem Ranked.unique {rows ranked ranked' : List Row} (h : Ranked rows ranked)
    (h' : Ranked rows ranked') : ranked = ranked' :=
  eq_of_filter_eq h.ascending h'.ascending fun place =>
    (h.samePlace place).trans (h'.samePlace place).symm

/-- Whether the place of a row is not behind that of another one. -/
def placeLe (a b : Row) : Bool :=
  keyPlace a ≤ keyPlace b

theorem placeLe_trans (a b c : Row) (hab : placeLe a b = true) (hbc : placeLe b c = true) :
    placeLe a c = true :=
  decide_eq_true (Int64.le_trans (of_decide_eq_true hab) (of_decide_eq_true hbc))

/-- Of two rows, one is not behind the other. -/
theorem placeLe_total (a b : Row) : (placeLe a b || placeLe b a) = true := by
  simpa [placeLe] using Int64.le_total (keyPlace a) (keyPlace b)

/-- The rows of the primary key, sorted by their places. -/
def rankedRows (rows : List Row) : List Row :=
  (rows.filter inKey).mergeSort placeLe

/-- The sorted rows are rows of the primary key. -/
theorem inKey_of_mem_rankedRows {rows : List Row} {row : Row} (h : row ∈ rankedRows rows) :
    row ∈ rows ∧ inKey row = true :=
  List.mem_filter.1 (List.mem_mergeSort.1 h)

/-- Sorting leaves the rows of one place as they stand. -/
theorem filter_mergeSort_placeLe (rows : List Row) (place : Int64) :
    (rows.mergeSort placeLe).filter (keyPlace · == place) =
      rows.filter (keyPlace · == place) := by
  have hsame : (rows.filter (keyPlace · == place)).Pairwise (placeLe · · = true) := by
    refine List.pairwise_of_forall_mem_list fun a ha b hb => ?_
    have hplace (row : Row) (h : row ∈ rows.filter (keyPlace · == place)) : keyPlace row = place :=
      LawfulBEq.eq_of_beq (List.mem_filter.1 h).2
    rw [placeLe, hplace a ha, hplace b hb]
    exact decide_eq_true (Int64.le_refl place)
  have hsub : (rows.filter (keyPlace · == place)).Sublist
      ((rows.mergeSort placeLe).filter (keyPlace · == place)) := by
    have hsorted := List.sublist_mergeSort placeLe_trans placeLe_total hsame List.filter_sublist
    simpa [List.filter_filter] using hsorted.filter (keyPlace · == place)
  have hperm := (List.mergeSort_perm rows placeLe).filter (keyPlace · == place)
  exact (hsub.eq_of_length hperm.length_eq.symm).symm

/-- Sorting the rows of the primary key puts them into the order of their places. -/
theorem ranked_rankedRows (rows : List Row) : Ranked rows (rankedRows rows) where
  ascending := (List.pairwise_mergeSort placeLe_trans placeLe_total _).imp of_decide_eq_true
  samePlace place := by
    rw [rankedRows, filter_mergeSort_placeLe, List.filter_filter]
    exact List.filter_congr fun _ _ => Bool.and_comm _ _

/-- The name of a column is that of its row. -/
theorem map_name_column? (row : Row) :
    (column? row).map (·.1.name) = row.plain? "name" := by
  cases hname : row.plain? "name" <;> simp [column?, hname, Column.new]

/-- The name and the place that a row tells. -/
def namedPlace (row : Row) : String × Int64 :=
  ((row.plain? "name").getD "", keyPlace row)

/-- The columns with a place in the primary key are those of the rows that have one. -/
theorem map_filter_column? (rows : List Row) :
    ((rows.filterMap column?).filter (0 < ·.2)).map (fun c => (c.1.name, c.2)) =
      (rows.filter inKey).map namedPlace := by
  rw [List.filter_filterMap, List.map_filterMap, ← List.filterMap_eq_map, List.filterMap_filter]
  refine List.filterMap_congr fun row _ => ?_
  cases hname : row.plain? "name" with
  | none => simp [column?, inKey, hname]
  | some name =>
    obtain ⟨c, hc, rfl⟩ : ∃ c, column? row = some (c, keyPlace row) ∧ c.name = name := by
      simp [column?, hname, keyPlace, Column.new]
    by_cases hplace : 0 < keyPlace row <;>
      simp [hc, inKey, namedPlace, hname, hplace, Option.filter]

/-- The sorted rows tell the names of the primary key, in its order. -/
theorem map_namedPlace_rankedRows (rows : List Row) :
    (rankedRows rows).map (fun row => (namedPlace row).1) =
      (rankedRows rows).filterMap (·.plain? "name") := by
  rw [← List.filterMap_eq_map]
  refine List.filterMap_congr fun row hrow => ?_
  have hname : (row.plain? "name").isSome = true :=
    (Bool.and_eq_true_iff.1 (inKey_of_mem_rankedRows hrow).2).1
  obtain ⟨name, hname⟩ := Option.isSome_iff_exists.1 hname
  simp [namedPlace, hname]

/-- The primary key consists of the columns that the ranked rows describe. -/
theorem primaryKey_eq (rows : List Row) :
    primaryKey (rows.filterMap column?) = (rankedRows rows).filterMap (·.plain? "name") := by
  let named (c : Column × Int64) : String × Int64 := (c.1.name, c.2)
  let le (x y : String × Int64) : Bool := x.2 ≤ y.2
  calc primaryKey (rows.filterMap column?)
      = ((((rows.filterMap column?).filter (0 < ·.2)).mergeSort fun a b => a.2 ≤ b.2).map
          named).map (·.1) := by rw [primaryKey, List.map_map]; rfl
    _ = (((rows.filter inKey).map namedPlace).mergeSort le).map (·.1) := by
        rw [List.map_mergeSort (s := le) fun _ _ _ _ => rfl, map_filter_column?]
    _ = ((rankedRows rows).map namedPlace).map (·.1) := by
        have hle (a : Row) (_ : a ∈ rows.filter inKey) (b : Row) (_ : b ∈ rows.filter inKey) :
            placeLe a b = le (namedPlace a) (namedPlace b) := rfl
        rw [rankedRows, List.map_mergeSort hle]
    _ = (rankedRows rows).filterMap (·.plain? "name") := by
        rw [List.map_map]
        exact map_namedPlace_rankedRows rows

end Sqlite

/-! ## Loaded tables -/

namespace Loader

/-- The query for the columns of a table. -/
def columnQuery : Loader → String → String
  | .sqlite, name => "PRAGMA table_info(" ++ backticked name ++ ")"
  | .postgreSql defaultSchema, name =>
    let (schema, table) := PostgreSql.split defaultSchema name
    PostgreSql.columnQuery schema table
  | .mySql, name => "SHOW FULL COLUMNS FROM " ++ MySql.qualified name

/-- Where the rows that describe columns have their names. -/
def columnField : Loader → String
  | .sqlite => "name"
  | .postgreSql _ => "column_name"
  | .mySql => "Field"

/-- A table is assembled from columns that rows describe, one by one, and from keys and indexes that
are folded from entries. -/
def Assembles (l : Loader) (name : String) (rows : List Row) (t : Table) : Prop :=
  ∃ columns key references entries,
    columns.map Column.name = rows.filterMap (·.plain? l.columnField) ∧
    (l = .sqlite → key = Sqlite.primaryKey (rows.filterMap Sqlite.column?)) ∧
    t = Table.assembled name columns key references entries

end Loader

variable {log : List (String × List Row)} {name : String} {t : Table}

/-- The indexes of a table are collected from entries. -/
theorem Loader.exists_entries_of_course {l : Loader} {m : NameMap Index}
    (h : (l.indexes name).Course log m) : ∃ entries, m = collectIndexes entries := by
  cases l with
  | sqlite =>
    obtain ⟨list, _, _, -, hlist, -⟩ := h.of_bind
    obtain ⟨entries, _, _, -, hentries, -⟩ := hlist.of_bind
    exact ⟨entries, Inquiry.eq_of_course_pure hentries⟩
  | postgreSql | mySql =>
    obtain ⟨rows, _, _, -, hrows, -⟩ := h.of_bind
    exact ⟨_, Inquiry.eq_of_course_pure hrows⟩

namespace Sqlite

/-- A table of SQLite is assembled from the rows of its columns. -/
theorem assembles_of_course (h : (table name).Course log (some t)) :
    ∃ rows, (Loader.sqlite.columnQuery name, rows) ∈ log ∧
      Loader.sqlite.Assembles name rows t := by
  obtain ⟨rows, log₁, log₂, hrows, hrest, rfl⟩ := h.of_bind
  have hmem := Inquiry.mem_of_course_rows hrows
  refine ⟨rows, List.mem_append_left log₂ hmem, ?_⟩
  split at hrest
  · cases Inquiry.eq_of_course_pure hrest
  obtain ⟨keys, _, _, -, hkeys, -⟩ := hrest.of_bind
  obtain ⟨m, _, _, hindexes, htable, -⟩ := hkeys.of_bind
  obtain ⟨entries, rfl⟩ := Loader.sqlite.exists_entries_of_course hindexes
  refine ⟨_, _, _, entries, ?_, fun _ => rfl, Option.some.inj (Inquiry.eq_of_course_pure htable)⟩
  rw [List.map_map, List.map_filterMap]
  exact List.filterMap_congr fun row _ => map_name_column? row

end Sqlite

namespace PostgreSql

/-- The name of a column is that of its row. -/
theorem map_name_column? (row : Row) :
    (column? row).map (·.name) = row.plain? "column_name" := by
  cases hname : row.plain? "column_name" <;> simp [column?, hname, Column.new]

/-- A table of PostgreSQL is assembled from the rows of its columns. -/
theorem assembles_of_course {defaultSchema : String}
    (h : (table defaultSchema name).Course log (some t)) :
    ∃ rows, ((Loader.postgreSql defaultSchema).columnQuery name, rows) ∈ log ∧
      (Loader.postgreSql defaultSchema).Assembles name rows t := by
  obtain ⟨rows, log₁, log₂, hrows, hrest, rfl⟩ := h.of_bind
  have hmem := Inquiry.mem_of_course_rows hrows
  refine ⟨rows, List.mem_append_left log₂ hmem, ?_⟩
  split at hrest
  · cases Inquiry.eq_of_course_pure hrest
  obtain ⟨m, _, _, hindexes, hkeys, -⟩ := hrest.of_bind
  obtain ⟨keys, _, _, -, hforeign, -⟩ := hkeys.of_bind
  obtain ⟨foreign, _, _, -, htable, -⟩ := hforeign.of_bind
  obtain ⟨entries, rfl⟩ := (Loader.postgreSql defaultSchema).exists_entries_of_course hindexes
  refine ⟨_, _, _, entries, ?_, nofun, Option.some.inj (Inquiry.eq_of_course_pure htable)⟩
  rw [List.map_filterMap]
  exact List.filterMap_congr fun row _ => map_name_column? row

end PostgreSql

namespace MySql

/-- The name of a column is that of its row. -/
theorem map_name_column? (row : Row) :
    (column? row).map (·.1.name) = row.plain? "Field" := by
  cases hname : row.plain? "Field" <;> simp [column?, hname, Column.new]

/-- A table of MySQL is assembled from the rows of its columns. -/
theorem assembles_of_course (h : (table name).Course log (some t)) :
    ∃ rows, (Loader.mySql.columnQuery name, rows) ∈ log ∧
      Loader.mySql.Assembles name rows t := by
  obtain ⟨count, log₁, log₂, -, hcount, rfl⟩ := h.of_bind
  split at hcount
  · cases Inquiry.eq_of_course_pure hcount
  obtain ⟨rows, log₃, log₄, hrows, hrest, rfl⟩ := hcount.of_bind
  have hmem := Inquiry.mem_of_course_rows hrows
  refine ⟨rows, List.mem_append_right log₁ (List.mem_append_left log₄ hmem), ?_⟩
  obtain ⟨m, _, _, hindexes, hforeign, -⟩ := hrest.of_bind
  obtain ⟨foreign, _, _, -, htable, -⟩ := hforeign.of_bind
  obtain ⟨entries, rfl⟩ := Loader.mySql.exists_entries_of_course hindexes
  refine ⟨_, _, _, entries, ?_, nofun, Option.some.inj (Inquiry.eq_of_course_pure htable)⟩
  rw [List.map_map, List.map_filterMap]
  exact List.filterMap_congr fun row _ => map_name_column? row

end MySql

namespace Loader

/-- Whatever rows are found for the queries of a loader, a table that it comes to is well formed,
and has the columns that the rows of the column query describe, in their order. With SQLite the
primary key consists of the columns with a positive place, by their places, and so of columns of the
table. -/
theorem wellFormed_of_course {l : Loader} (h : (l.table name).Course log (some t)) :
    t.WellFormed ∧ ∃ rows, (l.columnQuery name, rows) ∈ log ∧
      t.columnNames = rows.filterMap (·.plain? l.columnField) ∧
      (l = .sqlite →
        (∃! ranked, Sqlite.Ranked rows ranked) ∧
        (∀ ranked, Sqlite.Ranked rows ranked →
          t.primaryKey = ranked.filterMap (·.plain? "name")) ∧
        ∀ column ∈ t.primaryKey, column ∈ t.columnNames) := by
  obtain ⟨rows, hmem, columns, key, references, entries, hcolumns, hkey, rfl⟩ :
      ∃ rows, (l.columnQuery name, rows) ∈ log ∧ l.Assembles name rows t := by
    cases l with
    | sqlite => exact Sqlite.assembles_of_course h
    | postgreSql defaultSchema => exact PostgreSql.assembles_of_course h
    | mySql => exact MySql.assembles_of_course h
  have hnames : (Table.assembled name columns key references entries).columnNames =
      rows.filterMap (·.plain? l.columnField) :=
    (Table.columnNames_assembled name columns key references entries).trans hcolumns
  refine ⟨Table.wellFormed_assembled .., rows, hmem, hnames, ?_⟩
  rintro rfl
  have hranked := Sqlite.ranked_rankedRows rows
  have hkey : key = (Sqlite.rankedRows rows).filterMap (·.plain? "name") :=
    (hkey rfl).trans (Sqlite.primaryKey_eq rows)
  refine ⟨⟨_, hranked, fun other hother => hother.unique hranked⟩, fun other hother => ?_,
    fun column hcolumn => ?_⟩
  · rw [hother.unique hranked]
    exact hkey
  · obtain ⟨row, hrow, hname⟩ := List.mem_filterMap.1 (hkey ▸ hcolumn)
    rw [hnames]
    exact List.mem_filterMap.2 ⟨row, (Sqlite.inKey_of_mem_rankedRows hrow).1, hname⟩

/-- Of a table whose rows tell the places of a key out of order, one of them as text, and one of
them without the name of a column. -/
theorem wellFormed_of_course_places :
    let row (name place : Value) : Row := ⟨[("name", name), ("pk", place)]⟩
    let rows := [row (.text "a") (.int 2), row (.text "b") (.text " 1"), row .null (.int 1),
      row (.text "c") (.int 2), row (.text "d") (.int 0), row (.text "e") .null]
    let d := Driver.answering "sqlite" [(Loader.sqlite.columnQuery "t", rows)]
    ∃ log t, (Loader.sqlite.table "t").Course log (some t) ∧
      (∀ e ∈ log, d.queryAll e.1 = .ok e.2) ∧ t.WellFormed ∧
      t.columnNames = ["a", "b", "c", "d", "e"] ∧ t.primaryKey = ["b", "a", "c"] := by
  intro row rows d
  obtain ⟨t, ht⟩ : ∃ t, ((Loader.sqlite.table "t").run d).outcome = .ok (some t) := ⟨_, rfl⟩
  obtain ⟨log, hcourse, hlog⟩ := Inquiry.exists_course_of_run ht
  obtain ⟨hwell, found, hfound, hcolumns, hkey⟩ := wellFormed_of_course hcourse
  obtain rfl : rows = found := by
    have hrows : d.queryAll (Loader.sqlite.columnQuery "t") = .ok rows := by decide +kernel
    exact Except.ok.inj (hrows.symm.trans (hlog _ hfound))
  obtain ⟨-, hnames, -⟩ := hkey rfl
  have hkeyRows : rows.filter Sqlite.inKey =
      [row (.text "a") (.int 2), row (.text "b") (.text " 1"), row (.text "c") (.int 2)] := by
    decide +kernel
  have ha : Sqlite.keyPlace (row (.text "a") (.int 2)) = 2 := by decide +kernel
  have hb : Sqlite.keyPlace (row (.text "b") (.text " 1")) = 1 := by decide +kernel
  have hc : Sqlite.keyPlace (row (.text "c") (.int 2)) = 2 := by decide +kernel
  have hsorted : Sqlite.rankedRows rows =
      [row (.text "b") (.text " 1"), row (.text "a") (.int 2), row (.text "c") (.int 2)] := by
    rw [Sqlite.rankedRows, hkeyRows]
    simp [List.mergeSort, Sqlite.placeLe, ha, hb, hc]
  refine ⟨log, t, hcourse, hlog, hwell, hcolumns.trans (by decide +kernel), ?_⟩
  rw [hnames _ (Sqlite.ranked_rankedRows rows), hsorted]
  decide +kernel

end Loader

end SqlCompose.Catalog
