import Mathlib.Data.List.Basic
import Mathlib.Data.Set.Function
import SqlCompose.Proofs.Catalog.UniqueIndexes

/-!
# The foreign keys of SQLite

SQLite reports a foreign key as rows, one for each of its columns, under the number of the key. The
column that is referred to is null where the primary key of the other table is meant without naming
it. A reflected table keeps all that the rows with a named target report (`Sqlite.keeps_complete`),
so it loses nothing just if each row names its target (`Sqlite.keeps_iff_targeted`). A key that
refers to a primary key implicitly is lost as a whole (`Sqlite.not_keeps_implicit_target`).
-/

namespace SqlCompose.Catalog.Sqlite

/-- The name of the foreign key of a number. -/
def keyName (id : Int64) : String :=
  "fk_" ++ Decimal.int64Text id

/-- Different numbers have different names. -/
theorem keyName_injective : Function.Injective keyName := by
  intro id other h
  exact Decimal.int64Text_inj (String.append_right_inj "fk_" |>.1 h)

/-- The rows that report the foreign key of a number, in their order. -/
def rowsOf (id : Int64) (rows : List Row) : List Row :=
  rows.filter (·.int? "id" == some id)

/-- A row that tells which foreign key it belongs to, from which column and to which table. -/
def Identified (row : Row) : Prop :=
  row.int? "id" ≠ none ∧ row.plain? "from" ≠ none ∧ row.plain? "table" ≠ none

instance (row : Row) : Decidable (Identified row) :=
  inferInstanceAs (Decidable (_ ∧ _))

/-- The foreign keys that rows report, with nothing lost: one for each number, over the columns of
its rows in their order, and to the table that they tell. -/
structure Keeps (rows : List Row) (keys : NameMap Reference) : Prop where
  /-- One entry for each number, and no others. -/
  names : Set.BijOn keyName {id | rowsOf id rows ≠ []} {name | keys.contains name}
  columns : ∀ {id key}, keys.get? (keyName id) = some key →
    key.columns.map some = (rowsOf id rows).map (·.plain? "from")
  /-- The first row of a key stands for all of them. -/
  refTable : ∀ {id key}, keys.get? (keyName id) = some key →
    some key.refTable = (rowsOf id rows).head?.bind (·.plain? "table")

/-! ## Rows and entries -/

/-- An entry is made of a row that is identified and names its target. -/
theorem reference?_eq_some_iff {row : Row} {e : ReferenceEntry} :
    reference? row = some e ↔ ∃ id, row.int? "id" = some id ∧ e.key = keyName id ∧
      row.plain? "from" = some e.column ∧ row.plain? "table" = some e.refTable ∧
      row.plain? "to" = some e.refColumn := by
  simp only [reference?, Option.bind_eq_bind, Option.bind_eq_some_iff, Option.some.injEq]
  constructor
  · rintro ⟨id, hid, column, hcolumn, table, htable, target, htarget, rfl⟩
    exact ⟨id, hid, rfl, hcolumn, htable, htarget⟩
  · rintro ⟨id, hid, hkey, hcolumn, htable, htarget⟩
    exact ⟨id, hid, _, hcolumn, _, htable, _, htarget, by rw [keyName] at hkey; rw [← hkey]⟩

/-- A row that tells its key, its column and its table is passed over just if it has no target. -/
theorem reference?_eq_none_iff {row : Row} (hrow : Identified row) :
    reference? row = none ↔ row.plain? "to" = none := by
  obtain ⟨hid, hcolumn, htable⟩ := hrow
  obtain ⟨id, hid⟩ := Option.ne_none_iff_exists'.1 hid
  obtain ⟨column, hcolumn⟩ := Option.ne_none_iff_exists'.1 hcolumn
  obtain ⟨table, htable⟩ := Option.ne_none_iff_exists'.1 htable
  cases htarget : row.plain? "to" <;> simp [reference?, hid, hcolumn, htable, htarget]

/-- The entries of a key are made of the rows of its number. -/
theorem filter_key_filterMap (id : Int64) (rows : List Row) :
    (rows.filterMap reference?).filter (·.key == keyName id) =
      (rowsOf id rows).filterMap reference? := by
  rw [List.filter_filterMap, rowsOf, List.filterMap_filter]
  refine List.filterMap_congr fun row _ => ?_
  cases hentry : reference? row with
  | none => simp
  | some e =>
    obtain ⟨other, hother, hkey, -⟩ := reference?_eq_some_iff.1 hentry
    by_cases hid : other = id
    · simp [hother, hkey, hid]
    · simp [hother, hkey, hid, keyName_injective.ne hid]

/-- The foreign key of a number is made of the rows of this number. -/
theorem get?_keyName (id : Int64) (rows : List Row) :
    (collectReferences (rows.filterMap reference?)).get? (keyName id) =
      match (rowsOf id rows).filterMap reference? with
      | [] => none
      | e :: es => some ⟨(e :: es).map (·.column), e.refTable, (e :: es).map (·.refColumn)⟩ := by
  cases hentries : (rowsOf id rows).filterMap reference? <;>
    rw [get?_collectReferences, filter_key_filterMap, hentries]

/-- A foreign key that is found is made of at least one entry. -/
theorem exists_entries_of_get? {rows : List Row} {id : Int64} {key : Reference}
    (h : (collectReferences (rows.filterMap reference?)).get? (keyName id) = some key) :
    ∃ e es, (rowsOf id rows).filterMap reference? = e :: es ∧
      key = ⟨(e :: es).map (·.column), e.refTable, (e :: es).map (·.refColumn)⟩ := by
  rw [get?_keyName] at h
  cases hcase : (rowsOf id rows).filterMap reference? with
  | nil =>
    rw [hcase] at h
    cases h
  | cons e es =>
    rw [hcase] at h
    cases h
    exact ⟨e, es, rfl, rfl⟩

/-- Every foreign key has the name of a number that some row tells. -/
theorem exists_of_contains {rows : List Row} {name : String}
    (h : (collectReferences (rows.filterMap reference?)).contains name) :
    ∃ id, rowsOf id rows ≠ [] ∧ keyName id = name := by
  rw [NameMap.contains, get?_collectReferences] at h
  cases hentries : (rows.filterMap reference?).filter (·.key == name) with
  | nil =>
    rw [hentries] at h
    cases h
  | cons e es =>
    have he : e ∈ (rows.filterMap reference?).filter (·.key == name) :=
      hentries ▸ List.mem_cons_self
    obtain ⟨he, hname⟩ := List.mem_filter.1 he
    obtain ⟨row, hrow, hentry⟩ := List.mem_filterMap.1 he
    obtain ⟨id, hid, hkey, -⟩ := reference?_eq_some_iff.1 hentry
    refine ⟨id, List.ne_nil_of_mem (List.mem_filter.2 ⟨hrow, ?_⟩), ?_⟩
    · exact beq_iff_eq.2 hid
    · rw [← hkey]
      exact LawfulBEq.eq_of_beq hname

/-! ## What is kept -/

/-- The column of an entry is that of its row. -/
theorem map_column_reference? {row : Row} (h : reference? row ≠ none) :
    (reference? row).map (·.column) = row.plain? "from" := by
  obtain ⟨e, he⟩ := Option.ne_none_iff_exists'.1 h
  obtain ⟨id, -, -, hcolumn, -, -⟩ := reference?_eq_some_iff.1 he
  rw [he, hcolumn, Option.map_some]

/-- The table of an entry is that of its row. -/
theorem map_refTable_reference? {row : Row} (h : reference? row ≠ none) :
    (reference? row).map (·.refTable) = row.plain? "table" := by
  obtain ⟨e, he⟩ := Option.ne_none_iff_exists'.1 h
  obtain ⟨id, -, -, -, htable, -⟩ := reference?_eq_some_iff.1 he
  rw [he, htable, Option.map_some]

/-- Nothing is lost of rows that all make entries. -/
theorem keeps_of_complete {rows : List Row} (h : ∀ row ∈ rows, reference? row ≠ none) :
    Keeps rows (collectReferences (rows.filterMap reference?)) := by
  have hown (id : Int64) : ∀ row ∈ rowsOf id rows, reference? row ≠ none :=
    fun row hrow => h row (List.mem_filter.1 hrow).1
  have hentries (id : Int64) : ((rowsOf id rows).filterMap reference?).map some =
      (rowsOf id rows).map reference? :=
    (map_some_filterMap_iff reference? _).2 (hown id)
  refine ⟨⟨?_, keyName_injective.injOn, fun name hname => exists_of_contains hname⟩, ?_, ?_⟩
  · intro id hid
    change NameMap.contains _ _ = true
    rw [NameMap.contains, get?_keyName]
    cases hcase : (rowsOf id rows).filterMap reference? with
    | nil =>
      have hnil := hentries id
      rw [hcase] at hnil
      exact absurd (List.map_eq_nil_iff.1 hnil.symm) hid
    | cons e es => rfl
  · intro id key hkey
    obtain ⟨e, es, hcase, rfl⟩ := exists_entries_of_get? hkey
    calc ((e :: es).map (·.column)).map some
        = ((e :: es).map some).map (Option.map (·.column)) := by simp
      _ = (rowsOf id rows).map fun row => (reference? row).map (·.column) := by
        rw [← hcase, hentries, List.map_map]
        rfl
      _ = (rowsOf id rows).map (·.plain? "from") :=
        List.map_congr_left fun row hrow => map_column_reference? (hown id row hrow)
  · intro id key hkey
    obtain ⟨e, es, hcase, rfl⟩ := exists_entries_of_get? hkey
    have hmap := hentries id
    rw [hcase] at hmap
    cases hrows : rowsOf id rows with
    | nil =>
      rw [hrows] at hmap
      cases hmap
    | cons row rest =>
      rw [hrows, List.map_cons, List.map_cons, List.cons.injEq] at hmap
      have hrow : row ∈ rowsOf id rows := hrows ▸ List.mem_cons_self
      have htable := map_refTable_reference? (hown id row hrow)
      rw [← hmap.1] at htable
      exact htable

/-- What a table keeps are the foreign keys that the complete rows report. -/
theorem keeps_complete (rows : List Row) :
    Keeps (rows.filter fun row => (reference? row).isSome)
      (collectReferences (rows.filterMap reference?)) := by
  have hsame : (rows.filter fun row => (reference? row).isSome).filterMap reference? =
      rows.filterMap reference? := by
    rw [List.filterMap_filter]
    refine List.filterMap_congr fun row _ => ?_
    cases reference? row <;> rfl
  rw [← hsame]
  refine keeps_of_complete fun row hrow => ?_
  exact Option.isSome_iff_ne_none.1 (List.mem_filter.1 hrow).2

/-- Two lists of rows of which nothing is lost have as many rows for each key. -/
theorem Keeps.length_eq {rows others : List Row} {keys : NameMap Reference} (h : Keeps rows keys)
    (hothers : Keeps others keys) {id : Int64} (hid : rowsOf id rows ≠ []) :
    (rowsOf id rows).length = (rowsOf id others).length := by
  obtain ⟨key, hkey⟩ := Option.isSome_iff_exists.1 (h.names.mapsTo hid)
  have hcolumns := (h.columns hkey).symm.trans (hothers.columns hkey)
  simpa using congrArg List.length hcolumns

/-- The foreign keys of a table are folded from the entries that its rows make. -/
theorem foreignKeys_of_outcome {d : Driver} {name : String} {t : Table} {rows : List Row}
    (ht : ((table name).run d).outcome = .ok (some t))
    (hrows : d.queryAll ("PRAGMA foreign_key_list(" ++ backticked name ++ ")") = .ok rows) :
    t.foreignKeys = collectReferences (rows.filterMap reference?) := by
  rw [table] at ht
  obtain ⟨info, -, ht⟩ := Inquiry.outcome_bind_eq_ok.1 ht
  split at ht
  · cases ht
  · obtain ⟨keys, hkeys, ht⟩ := Inquiry.outcome_bind_eq_ok.1 ht
    obtain ⟨indexes, -, ht⟩ := Inquiry.outcome_bind_eq_ok.1 ht
    rw [Inquiry.outcome_rows, hrows] at hkeys
    cases hkeys
    cases ht
    rfl

/-- A reflected table keeps the foreign keys that the rows with a named target report. Nothing of
what the rows report is lost just if each of them names its target. -/
theorem keeps_iff_targeted {d : Driver} {name : String} {t : Table} {rows : List Row}
    (ht : ((table name).run d).outcome = .ok (some t))
    (hrows : d.queryAll ("PRAGMA foreign_key_list(" ++ backticked name ++ ")") = .ok rows)
    (hidentified : ∀ row ∈ rows, Identified row) :
    Keeps (rows.filter fun row => (row.plain? "to").isSome) t.foreignKeys ∧
      (Keeps rows t.foreignKeys ↔ ∀ row ∈ rows, row.plain? "to" ≠ none) := by
  have hcomplete : ∀ row ∈ rows, (reference? row).isSome = (row.plain? "to").isSome := by
    intro row hrow
    have hnone := reference?_eq_none_iff (hidentified row hrow)
    rw [Bool.eq_iff_iff, Option.isSome_iff_ne_none, Option.isSome_iff_ne_none]
    exact not_congr hnone
  have hkept : Keeps (rows.filter fun row => (row.plain? "to").isSome) t.foreignKeys := by
    rw [foreignKeys_of_outcome ht hrows, ← List.filter_congr hcomplete]
    exact keeps_complete rows
  refine ⟨hkept, fun hkeeps row hrow => ?_, fun htargets => ?_⟩
  · obtain ⟨id, hid⟩ := Option.ne_none_iff_exists'.1 (hidentified row hrow).1
    have hmem : row ∈ rowsOf id rows := List.mem_filter.2 ⟨hrow, beq_iff_eq.2 hid⟩
    have hlength := hkeeps.length_eq hkept (List.ne_nil_of_mem hmem)
    rw [rowsOf, rowsOf, List.filter_comm, eq_comm, List.length_filter_eq_length_iff] at hlength
    exact Option.isSome_iff_ne_none.1 (hlength row hmem)
  · rwa [List.filter_eq_self.2 fun row hrow => Option.isSome_iff_ne_none.2 (htargets row hrow)]
      at hkept

/-- A row that reports a column of a foreign key. -/
def referenceRow (id : Int64) (column table : String) (target : Value) : Row :=
  ⟨[("id", .int id), ("table", .text table), ("from", .text column), ("to", target)]⟩

/-- A database with a table `t` of which rows report foreign keys. -/
def reportingKeys (rows : List Row) : Driver :=
  .answering "sqlite" [
    ("PRAGMA table_info(`t`)", [⟨[("name", .text "a")]⟩]),
    ("PRAGMA foreign_key_list(`t`)", rows)]

/-- The table of such a database is found, if evaluation says so. -/
theorem exists_table_of_isSome (rows : List Row)
    (h : ((table "t").run (reportingKeys rows)).outcome.toOption.join.isSome) :
    ∃ t, ((table "t").run (reportingKeys rows)).outcome = .ok (some t) := by
  cases houtcome : ((table "t").run (reportingKeys rows)).outcome with
  | error e =>
    rw [houtcome] at h
    cases h
  | ok found =>
    rw [houtcome] at h
    obtain ⟨t, rfl⟩ := Option.isSome_iff_exists.1 h
    exact ⟨t, rfl⟩

/-- Of two foreign keys whose rows are interleaved. -/
theorem keeps_iff_targeted_interleaved :
    let rows := [referenceRow 1 "a" "p" (.text "x"), referenceRow 0 "c" "q" (.text "z"),
      referenceRow 1 "b" "p" (.text "y")]
    ∃ t, ((table "t").run (reportingKeys rows)).outcome = .ok (some t) ∧
      (∀ row ∈ rows, Identified row) ∧ (∀ row ∈ rows, row.plain? "to" ≠ none) ∧
      Keeps rows t.foreignKeys := by
  intro rows
  have hidentified : ∀ row ∈ rows, Identified row := by decide
  have htargets : ∀ row ∈ rows, row.plain? "to" ≠ none := by decide
  obtain ⟨t, ht⟩ := exists_table_of_isSome rows (by decide +kernel)
  have hrows : (reportingKeys rows).queryAll
      ("PRAGMA foreign_key_list(" ++ backticked "t" ++ ")") = .ok rows := by decide +kernel
  exact ⟨t, ht, hidentified, htargets,
    (keeps_iff_targeted ht hrows hidentified).2.2 htargets⟩

/-- A foreign key that refers to the primary key of another table without naming it is lost. -/
theorem not_keeps_implicit_target :
    let rows := [referenceRow 0 "a" "p" .null]
    ∃ t, ((table "t").run (reportingKeys rows)).outcome = .ok (some t) ∧
      (∀ row ∈ rows, Identified row) ∧ t.foreignKeys.contains (keyName 0) = false ∧
      ¬ Keeps rows t.foreignKeys := by
  intro rows
  have hidentified : ∀ row ∈ rows, Identified row := by decide
  obtain ⟨t, ht⟩ := exists_table_of_isSome rows (by decide +kernel)
  have hrows : (reportingKeys rows).queryAll
      ("PRAGMA foreign_key_list(" ++ backticked "t" ++ ")") = .ok rows := by decide +kernel
  have hnone : t.foreignKeys.contains (keyName 0) = false := by
    rw [foreignKeys_of_outcome ht hrows]
    decide +kernel
  refine ⟨t, ht, hidentified, hnone, fun hkeeps => ?_⟩
  have hcontains : t.foreignKeys.contains (keyName 0) = true :=
    hkeeps.names.mapsTo (show rowsOf 0 rows ≠ [] by decide)
  rw [hnone] at hcontains
  cases hcontains

end SqlCompose.Catalog.Sqlite
