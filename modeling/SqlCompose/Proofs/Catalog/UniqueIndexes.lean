import SqlCompose.Catalog.Reflector
import SqlCompose.Proofs.Catalog.Folding
import SqlCompose.Proofs.Catalog.Inquiry

/-!
# The columns of unique indexes

A database reports the key parts of an index as rows, each with the name of a column, or with null
where the part is an expression (`Loader.keyParts`). The columns that are told of a unique index are
those that the rows name, in their order, so they account for all of its key parts just if each of
them has a name (`Loader.accounts_iff_named`). An index with an expression in it is told as if it
were unique over its other parts alone (`Loader.unique_without_expression`).
-/

namespace SqlCompose

/-- The rows that a query finds; none, if it fails. -/
def Driver.rows (d : Driver) (sql : String) : List Row :=
  (d.queryAll sql).toOption.getD []

/-- The rows of a query are those that the driver answers. -/
theorem Driver.rows_of_ok {d : Driver} {sql : String} {rows : List Row}
    (h : d.queryAll sql = .ok rows) : d.rows sql = rows := by
  rw [Driver.rows, h]
  rfl

namespace Catalog

/-- Nothing is lost where every element has an image, and only there. -/
theorem map_some_filterMap_iff {α β : Type} (f : α → Option β) (l : List α) :
    (l.filterMap f).map some = l.map f ↔ ∀ a ∈ l, f a ≠ none := by
  constructor
  · intro h a ha hnone
    have hmem : f a ∈ (l.filterMap f).map some := h ▸ List.mem_map_of_mem ha
    rw [hnone, List.mem_map] at hmem
    obtain ⟨_, -, ⟨⟩⟩ := hmem
  · intro h
    induction l with
    | nil => rfl
    | cons a rest ih =>
      obtain ⟨b, hb⟩ := Option.ne_none_iff_exists'.1 (h a List.mem_cons_self)
      rw [List.filterMap_cons_some hb, List.map_cons, List.map_cons, hb,
        ih fun x hx => h x (List.mem_cons_of_mem _ hx)]

/-- The columns that a reflector tells of a unique index of a table, if it tells of the index. -/
def Reflector.uniqueColumns? (r : Reflector) (d : Driver) (table index : String) :
    Option (List String) :=
  match (r.uniqueIndexes d table).outcome with
  | .ok m => m.get? index
  | .error _ => none

/-- The columns of a unique index come from the loader. -/
theorem Reflector.uniqueColumns?_eq_some {r : Reflector} {d : Driver} {table index : String}
    {columns : List String} (h : r.uniqueColumns? d table index = some columns) :
    ∃ m, (r.uniqueIndexes d table).outcome = .ok m ∧ m.get? index = some columns := by
  rw [uniqueColumns?] at h
  cases hrun : (r.uniqueIndexes d table).outcome with
  | ok m =>
    rw [hrun] at h
    exact ⟨m, rfl, h⟩
  | error e =>
    rw [hrun] at h
    cases h

namespace Loader

/-- Where the rows that report key parts have the names of columns. -/
def partColumn : Loader → String
  | .sqlite => "name"
  | .postgreSql _ => "column_name"
  | .mySql => "Column_name"

/-- The rows that report the key parts of an index. In SQLite these are asked for index by index, as
often as an index is listed. -/
def keyParts (d : Driver) (table index : String) : Loader → List Row
  | .sqlite =>
    ((d.rows ("PRAGMA index_list(" ++ backticked table ++ ")")).filter
      (·.plain? "name" == some index)).flatMap fun _ =>
        d.rows ("PRAGMA index_info(" ++ backticked index ++ ")")
  | .postgreSql defaultSchema =>
    let asked := PostgreSql.split defaultSchema table
    (d.rows (PostgreSql.indexQuery asked.1 asked.2)).filter (·.plain? "index_name" == some index)
  | .mySql =>
    (d.rows ("SHOW INDEX FROM " ++ MySql.qualified table)).filter
      (·.plain? "Key_name" == some index)

end Loader

/-! ## Entries and rows -/

/-- The entries of an index that are read from rows with the names of the index and of the column
have the columns that its rows name. -/
theorem columns_of_rows (indexColumn column : String) (unique : Row → Bool) (rows : List Row)
    (index : String) :
    ((rows.filterMap fun row => do
        let index ← row.plain? indexColumn
        let column ← row.plain? column
        some (⟨index, column, unique row⟩ : IndexEntry)).filter (·.index == index)).map (·.column) =
      (rows.filter (·.plain? indexColumn == some index)).filterMap (·.plain? column) := by
  induction rows with
  | nil => rfl
  | cons row rest ih =>
    rw [List.filter_cons, List.filterMap_cons]
    cases hindex : row.plain? indexColumn with
    | none => exact ih
    | some name =>
      cases hcolumn : row.plain? column with
      | none =>
        refine ih.trans ?_
        split
        · rw [List.filterMap_cons, hcolumn]
        · rfl
      | some c =>
        by_cases hname : name = index
        · subst hname
          simpa [hcolumn] using ih
        · simpa [hname] using ih

variable {d : Driver} {index table : String}

namespace Sqlite

/-- The entries of one listed index are those of its key parts, under its name. -/
theorem columns_of_indexEntries {row : Row} {entries : List IndexEntry}
    (h : ((indexEntries row).run d).outcome = .ok entries) :
    (entries.filter (·.index == index)).map (·.column) =
      if row.plain? "name" == some index then
        (d.rows ("PRAGMA index_info(" ++ backticked index ++ ")")).filterMap (·.plain? "name")
      else [] := by
  rw [indexEntries] at h
  cases hname : row.plain? "name" with
  | none =>
    rw [hname] at h
    cases h
    rfl
  | some name =>
    rw [hname] at h
    obtain ⟨parts, hparts, h⟩ := Inquiry.outcome_bind_eq_ok.1 h
    rw [Inquiry.outcome_rows] at hparts
    cases h
    by_cases hindex : name = index
    · subst hindex
      rw [if_pos (beq_self_eq_true _), Driver.rows_of_ok hparts, List.filter_eq_self.2]
      · simp [List.map_filterMap, Function.comp_def]
      · intro e he
        obtain ⟨part, -, hpart⟩ := List.mem_filterMap.1 he
        obtain ⟨column, -, rfl⟩ := Option.map_eq_some_iff.1 hpart
        exact beq_self_eq_true name
    · rw [if_neg (by simpa using hindex), List.filter_eq_nil_iff.2, List.map_nil]
      intro e he
      obtain ⟨part, -, hpart⟩ := List.mem_filterMap.1 he
      obtain ⟨column, -, rfl⟩ := Option.map_eq_some_iff.1 hpart
      simpa using hindex

/-- The entries of several listed indexes are those of the key parts of each. -/
theorem columns_of_indexesEntries {list : List Row} {entries : List IndexEntry}
    (h : ((indexesEntries list).run d).outcome = .ok entries) :
    (entries.filter (·.index == index)).map (·.column) =
      ((list.filter (·.plain? "name" == some index)).flatMap fun _ =>
        d.rows ("PRAGMA index_info(" ++ backticked index ++ ")")).filterMap (·.plain? "name") := by
  induction list generalizing entries with
  | nil =>
    cases h
    rfl
  | cons row rest ih =>
    rw [indexesEntries] at h
    obtain ⟨first, hfirst, h⟩ := Inquiry.outcome_bind_eq_ok.1 h
    obtain ⟨others, hothers, h⟩ := Inquiry.outcome_bind_eq_ok.1 h
    cases h
    rw [List.filter_append, List.map_append, columns_of_indexEntries hfirst, ih hothers,
      List.filter_cons]
    split
    · rw [List.flatMap_cons, List.filterMap_append]
    · rfl

end Sqlite

namespace Loader

/-- The indexes of a table are collected from entries that have the columns that key parts name. -/
theorem exists_entries {l : Loader} {m : NameMap Index}
    (h : ((l.indexes table).run d).outcome = .ok m) :
    ∃ entries, m = collectIndexes entries ∧ ∀ index,
      (entries.filter (·.index == index)).map (·.column) =
        (l.keyParts d table index).filterMap (·.plain? l.partColumn) := by
  cases l with
  | sqlite =>
    obtain ⟨list, hlist, h⟩ := Inquiry.outcome_bind_eq_ok.1 h
    obtain ⟨entries, hentries, h⟩ := Inquiry.outcome_bind_eq_ok.1 h
    rw [Inquiry.outcome_rows] at hlist
    cases h
    refine ⟨entries, rfl, fun index => ?_⟩
    rw [Sqlite.columns_of_indexesEntries hentries, keyParts, Driver.rows_of_ok hlist]
    rfl
  | postgreSql defaultSchema =>
    obtain ⟨rows, hrows, h⟩ := Inquiry.outcome_bind_eq_ok.1 h
    rw [Inquiry.outcome_rows] at hrows
    cases h
    refine ⟨_, rfl, fun index => ?_⟩
    simp only [keyParts, PostgreSql.split, Driver.rows_of_ok hrows]
    exact columns_of_rows "index_name" "column_name" _ rows index
  | mySql =>
    obtain ⟨rows, hrows, h⟩ := Inquiry.outcome_bind_eq_ok.1 h
    rw [Inquiry.outcome_rows] at hrows
    cases h
    refine ⟨_, rfl, fun index => ?_⟩
    rw [keyParts, Driver.rows_of_ok hrows]
    exact columns_of_rows "Key_name" "Column_name" _ rows index

/-- What is told of a unique index are the columns that its key parts name, in order. They account
for every key part just if each of these has a name. -/
theorem accounts_iff_named {l : Loader} {tables : NameMap Table} {columns : List String}
    (h : Reflector.uniqueColumns? ⟨l, tables⟩ d table index = some columns) :
    columns = (l.keyParts d table index).filterMap (·.plain? l.partColumn) ∧
      (columns.map some = (l.keyParts d table index).map (·.plain? l.partColumn) ↔
        ∀ part ∈ l.keyParts d table index, part.plain? l.partColumn ≠ none) := by
  obtain ⟨m, hm, hcolumns⟩ := Reflector.uniqueColumns?_eq_some h
  obtain ⟨indexes, hindexes, hunique⟩ := Inquiry.outcome_bind_eq_ok.1 hm
  cases hunique
  obtain ⟨entries, rfl, hentries⟩ := exists_entries hindexes
  have hnamed := (columns_of_uniqueOnly hcolumns).trans (hentries index)
  refine ⟨hnamed, ?_⟩
  rw [hnamed]
  exact map_some_filterMap_iff (fun part : Row => part.plain? l.partColumn) _

/-- Of an index over two columns in SQLite. -/
theorem accounts_iff_named_sqlite :
    let d := Driver.answering "sqlite" [
      ("PRAGMA index_list(`t`)", [⟨[("name", .text "idx"), ("unique", .int 1)]⟩]),
      ("PRAGMA index_info(`idx`)", [⟨[("name", .text "b")]⟩, ⟨[("name", .text "a")]⟩])]
    (Reflector.new Loader.sqlite).uniqueColumns? d "t" "idx" = some ["b", "a"] ∧
      (∀ part ∈ Loader.sqlite.keyParts d "t" "idx", part.plain? "name" ≠ none) ∧
      ["b", "a"].map some = (Loader.sqlite.keyParts d "t" "idx").map (·.plain? "name") := by
  intro d
  have htold : (Reflector.new Loader.sqlite).uniqueColumns? d "t" "idx" = some ["b", "a"] := by
    decide +kernel
  have hnamed : ∀ part ∈ Loader.sqlite.keyParts d "t" "idx", part.plain? "name" ≠ none := by
    decide +kernel
  exact ⟨htold, hnamed, (accounts_iff_named htold).2.2 hnamed⟩

/-- An index over a column and an expression, whose name is null, is told as if it were unique over
the column alone, both in SQLite and in MySQL. -/
theorem unique_without_expression :
    let sqlite := Driver.answering "sqlite" [
      ("PRAGMA index_list(`t`)", [⟨[("name", .text "idx"), ("unique", .int 1)]⟩]),
      ("PRAGMA index_info(`idx`)", [⟨[("name", .text "a")]⟩, ⟨[("name", .null)]⟩])]
    let mySql := Driver.answering "mysql" [
      ("SHOW INDEX FROM `t`", [
        ⟨[("Key_name", .text "idx"), ("Column_name", .text "a"), ("Non_unique", .int 0)]⟩,
        ⟨[("Key_name", .text "idx"), ("Column_name", .null), ("Non_unique", .int 0)]⟩])]
    ((Reflector.new Loader.sqlite).uniqueColumns? sqlite "t" "idx" = some ["a"] ∧
      (Loader.sqlite.keyParts sqlite "t" "idx").map (·.plain? "name") = [some "a", none]) ∧
    (Reflector.new Loader.mySql).uniqueColumns? mySql "t" "idx" = some ["a"] ∧
      (Loader.mySql.keyParts mySql "t" "idx").map (·.plain? "Column_name") = [some "a", none] := by
  decide +kernel

end Loader

end Catalog

end SqlCompose
