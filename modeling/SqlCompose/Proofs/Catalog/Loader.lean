import SqlCompose.Catalog.Reflector
import SqlCompose.Proofs.Catalog.Inquiry
import SqlCompose.Proofs.Catalog.Lexing

/-!
# The table that PostgreSQL and SQLite are asked for

What the queries for a table ask for, as they are read by the databases. In PostgreSQL this is a
schema and a table, which are compared with strings, or make up the name of a relation that stands
in a string itself (`PostgreSql.Asks`). In SQLite it is the table, or an index that the database has
reported for the table (`Sqlite.Asks`).

All queries that are sent for a table ask for what its name means, whatever characters are in it
(`Loader.sent_asks_for_table`).
-/

namespace SqlCompose

namespace Dialect

/-- How literal texts end is seen from their characters. -/
theorem suffix_ofList (cs ts : List Char) (h : ts <:+ cs) :
    (String.ofList ts).toList <:+ (String.ofList cs).toList := by
  rwa [String.toList_ofList, String.toList_ofList]

/-- The end of a text is the end of a longer one. -/
theorem suffix_append {t s : String} (h : t.toList <:+ s.toList) (r : String) :
    t.toList <:+ (r ++ s).toList := by
  rw [String.toList_append]
  exact h.trans (List.suffix_append _ _)

end Dialect

namespace Catalog

open Dialect

namespace PostgreSql

/-! ## PostgreSQL -/

/-- What queries ask for, as the text in front of it says. A relation is a string with two quoted
names in it. -/
inductive Asks : String × String → QueryParts → Prop
  | columns {front behind : String} (schema table : String) :
      "WHERE table_schema = ".toList <:+ front.toList →
      Asks (schema, table) ⟨front, [(.text schema, " AND table_name = "), (.text table, behind)]⟩
  | constraints {front behind : String} (schema table : String) :
      "WHERE tc.constraint_type = ".toList <:+ front.toList →
      Asks (schema, table) ⟨front, [(.text "FOREIGN KEY", " AND tc.table_schema = "),
        (.text schema, " AND tc.table_name = "), (.text table, behind)]⟩
  | relation {front content behind : String} (schema table : String) :
      "WHERE i.indrelid = ".toList <:+ front.toList →
      Dialect.postgreSql.lex? false content.toList =
        some ⟨"", [(.name schema, "."), (.name table, "")]⟩ →
      Asks (schema, table) ⟨front, [(.text content, "::regclass" ++ behind)]⟩

/-- A query asks for one table only. -/
theorem Asks.iff_eq {x : String × String} {p : QueryParts} (hx : Asks x p) (y : String × String) :
    Asks y p ↔ y = x := by
  refine ⟨fun hy => ?_, fun h => h ▸ hx⟩
  generalize hp : p = q at hy
  cases hx <;> cases hy <;>
    simp only [QueryParts.mk.injEq, List.cons.injEq, Prod.mk.injEq, Quoted.text.injEq, reduceCtorEq,
      and_false, true_and, and_true] at hp
  case columns.columns | constraints.constraints =>
    obtain ⟨-, rfl, rfl, -⟩ := hp
    rfl
  case relation.relation hx _ _ _ _ _ _ hy =>
    rw [hp.2.1] at hx
    cases hx.symm.trans hy
    rfl

/-- The query for columns asks for the table. -/
theorem asks_columnQuery (schema table : String) :
    ∃ p, Dialect.postgreSql.lex? false (columnQuery schema table).toList = some p ∧
      Asks (schema, table) p := by
  have htext : columnQuery schema table = QueryParts.written .postgreSql
      ⟨_, [(.text schema, " AND table_name = "), (.text table, _)]⟩ := rfl
  refine ⟨_, QueryParts.lex?_written false htext (fun q _ => q.1.safe_of_hasBackslash rfl) ?_,
    .columns schema table ?_⟩
  · exact ⟨.append (.ofList _ rfl) (.ofList _ rfl rfl), .ofList _ rfl rfl, .ofList _ rfl⟩
  · exact suffix_append (suffix_ofList _ _ (by decide)) _

/-- The query for foreign keys asks for the table. -/
theorem asks_foreignKeyQuery (schema table : String) :
    ∃ p, Dialect.postgreSql.lex? false (foreignKeyQuery schema table).toList = some p ∧
      Asks (schema, table) p := by
  obtain ⟨lead, behind, hlead, hbehind, hquery⟩ : ∃ lead behind,
      postgreSql.Bare lead ∧ postgreSql.Bare behind ∧ foreignKeyQuery schema table =
        lead ++ "WHERE tc.constraint_type = 'FOREIGN KEY' AND tc.table_schema = " ++
          literal schema ++ " AND tc.table_name = " ++ literal table ++ behind := by
    refine ⟨_, _, ?_, ?_, rfl⟩
    · exact .append (.append (.append (.append (.append (.append (.ofList _ rfl) (.ofList _ rfl))
        (.ofList _ rfl)) (.ofList _ rfl)) (.ofList _ rfl)) (.ofList _ rfl)) (.ofList _ rfl)
    · exact .ofList _ rfl
  have hkind : "WHERE tc.constraint_type = 'FOREIGN KEY' AND tc.table_schema = " =
      "WHERE tc.constraint_type = " ++ literal "FOREIGN KEY" ++ " AND tc.table_schema = " := by
    decide +kernel
  have htext : foreignKeyQuery schema table = QueryParts.written .postgreSql
      ⟨lead ++ "WHERE tc.constraint_type = ", [(.text "FOREIGN KEY", " AND tc.table_schema = "),
        (.text schema, " AND tc.table_name = "), (.text table, behind)]⟩ := by
    simp only [hquery, hkind, QueryParts.written, List.foldl_cons, List.foldl_nil, Quoted.written,
      String.append_assoc]
  refine ⟨_, QueryParts.lex?_written false htext (fun q _ => q.1.safe_of_hasBackslash rfl) ?_,
    .constraints schema table ?_⟩
  · exact ⟨.append hlead (.ofList _ rfl rfl), .ofList _ rfl rfl, .ofList _ rfl rfl, hbehind⟩
  · exact suffix_append (List.suffix_refl _) _

/-- The names in the string of a relation are read as they are. -/
theorem asks_regclass (schema table : String) {lead behind : String} (hlead : postgreSql.Opens lead)
    (hwhere : "WHERE i.indrelid = ".toList <:+ lead.toList) (hbehind : postgreSql.Bare behind) :
    ∃ p, Dialect.postgreSql.lex? false (lead ++ regclass schema table ++ behind).toList = some p ∧
      Asks (schema, table) p := by
  have hcontent : inQuotes '"' schema ++ "." ++ inQuotes '"' table = QueryParts.written .postgreSql
      ⟨"", [(.name schema, "."), (.name table, "")]⟩ := by
    simp [QueryParts.written, Quoted.written, quoteChar]
  have hnames := QueryParts.lex?_written_of_front hcontent rfl
    (fun q _ => q.1.safe_of_hasBackslash rfl) ⟨.ofList _ rfl rfl, .ofList _ rfl⟩
  have htext : lead ++ regclass schema table ++ behind = QueryParts.written .postgreSql ⟨lead,
      [(.text (inQuotes '"' schema ++ "." ++ inQuotes '"' table), "::regclass" ++ behind)]⟩ := by
    simp only [regclass, QueryParts.written, List.foldl_cons, List.foldl_nil, Quoted.written,
      String.append_assoc]
  refine ⟨_, QueryParts.lex?_written false htext (fun q _ => q.1.safe_of_hasBackslash rfl) ?_,
    .relation schema table hwhere hnames⟩
  exact ⟨hlead, .append (.ofList _ rfl) hbehind⟩

/-- The query for indexes asks for the table. -/
theorem asks_indexQuery (schema table : String) :
    ∃ p, Dialect.postgreSql.lex? false (indexQuery schema table).toList = some p ∧
      Asks (schema, table) p := by
  refine asks_regclass schema table ?_ (suffix_append (List.suffix_refl _) _) (.ofList _ rfl)
  exact .append (.append (.append (.append (.ofList _ rfl) (.ofList _ rfl)) (.ofList _ rfl))
    (.ofList _ rfl)) (.ofList _ rfl rfl)

/-- The query for the primary key asks for the table. -/
theorem asks_primaryKeyQuery (schema table : String) :
    ∃ p, Dialect.postgreSql.lex? false (primaryKeyQuery schema table).toList = some p ∧
      Asks (schema, table) p := by
  have hquery : primaryKeyQuery schema table = _ ++ regclass schema table ++
      (" AND i.indisprimary " ++ "ORDER BY array_position(i.indkey::int2[], a.attnum)") :=
    String.append_assoc
  rw [hquery]
  refine asks_regclass schema table ?_ (suffix_append (List.suffix_refl _) _)
    (.append (.ofList _ rfl) (.ofList _ rfl))
  exact .append (.append (.ofList _ rfl) (.ofList _ rfl)) (.ofList _ rfl rfl)

/-- A name without a dot means a table of the default schema. -/
theorem split_of_notMem {name : String} (h : '.' ∉ name.toList) (defaultSchema : String) :
    split defaultSchema name = (defaultSchema, name) := by
  rw [split, Text.splitFirst?_eq_none_iff.2 h]

/-- The schema is what stands in front of the first dot, and the table is all the rest. -/
theorem split_append {schema : String} (h : '.' ∉ schema.toList) (defaultSchema table : String) :
    split defaultSchema (schema ++ "." ++ table) = (schema, table) := by
  have hname : (schema ++ "." ++ table).toList = schema.toList ++ '.' :: table.toList := by simp
  rw [split, hname, Text.splitFirst?_append h]
  exact Prod.ext String.ofList_toList String.ofList_toList

/-- One query is sent for the indexes of a table. -/
theorem mem_queries_of_indexes {schema table sql : String} {d : Driver}
    (h : sql ∈ ((indexes schema table).run d).queries) : sql = indexQuery schema table := by
  rw [indexes, Inquiry.mem_queries_bind] at h
  simpa using h

/-- Every query that is sent for a table asks for the parts of its name. -/
theorem asks_of_sent {defaultSchema name sql : String} {d : Driver}
    (h : sql ∈ ((Loader.postgreSql defaultSchema).table name |>.run d).queries ∨
      sql ∈ ((Loader.postgreSql defaultSchema).uniqueIndexes name |>.run d).queries) :
    ∃ p, Dialect.postgreSql.lex? false sql.toList = some p ∧ Asks (split defaultSchema name) p := by
  cases hsplit : split defaultSchema name with | mk schema table =>
  obtain h | h := h
  · rw [Loader.table, PostgreSql.table, hsplit, Inquiry.mem_queries_bind, Inquiry.queries_rows,
      List.mem_singleton] at h
    obtain rfl | ⟨columns, -, h⟩ := h
    · exact asks_columnQuery schema table
    split at h
    · cases h
    simp only [Inquiry.mem_queries_bind, Inquiry.queries_rows, Inquiry.queries_pure,
      List.mem_singleton, List.not_mem_nil, and_false, exists_false, or_false] at h
    obtain h | ⟨indexes, -, rfl | ⟨keys, -, rfl⟩⟩ := h
    · rw [mem_queries_of_indexes h]
      exact asks_indexQuery schema table
    · exact asks_primaryKeyQuery schema table
    · exact asks_foreignKeyQuery schema table
  · rw [Loader.uniqueIndexes, Loader.indexes, hsplit, Inquiry.mem_queries_bind] at h
    have hindexes : sql ∈ ((indexes schema table).run d).queries := by simpa using h
    rw [mem_queries_of_indexes hindexes]
    exact asks_indexQuery schema table

end PostgreSql

namespace Sqlite

/-! ## SQLite -/

/-- What statements about a table ask for: the table, or an index that is reported for it. -/
inductive Asks (d : Driver) (table : String) : QueryParts → Prop
  | table {lead : String} :
      lead ∈ ["PRAGMA table_info(", "PRAGMA foreign_key_list(", "PRAGMA index_list("] →
      Asks d table ⟨lead, [(.name table, ")")]⟩
  | index {rows : List Row} {row : Row} {index : String} :
      d.queryAll ("PRAGMA index_list(" ++ backticked table ++ ")") = .ok rows → row ∈ rows →
      row.plain? "name" = some index →
      Asks d table ⟨"PRAGMA index_info(", [(.name index, ")")]⟩

/-- A statement is read as one about the name in it. -/
theorem lex?_pragma {lead : String} (hlead : sqlite.Opens lead) (name : String) :
    Dialect.sqlite.lex? false (lead ++ backticked name ++ ")").toList =
      some ⟨lead, [(.name name, ")")]⟩ :=
  QueryParts.lex?_written false rfl (fun q _ => q.1.safe_of_hasBackslash rfl)
    ⟨hlead, .ofList _ rfl⟩

variable {table name sql : String} {d : Driver}

/-- Each index is asked for under the name that was reported. -/
theorem exists_of_mem_indexesEntries {rows : List Row}
    (h : sql ∈ ((indexesEntries rows).run d).queries) :
    ∃ row ∈ rows, ∃ index, row.plain? "name" = some index ∧
      sql = "PRAGMA index_info(" ++ backticked index ++ ")" := by
  induction rows with
  | nil => cases h
  | cons row rows ih =>
    simp only [indexesEntries, Inquiry.mem_queries_bind, Inquiry.queries_pure, List.not_mem_nil,
      and_false, exists_false, or_false] at h
    obtain h | ⟨_, -, h⟩ := h
    · rw [indexEntries] at h
      split at h
      · cases h
      · rename_i index hindex
        rw [Inquiry.mem_queries_bind] at h
        exact ⟨row, List.mem_cons_self, index, hindex, by simpa using h⟩
    · obtain ⟨other, hother, hasked⟩ := ih h
      exact ⟨other, List.mem_cons_of_mem _ hother, hasked⟩

/-- Each query for the indexes of a table asks for the table, or for one of its indexes. -/
theorem asks_of_sent_indexes (h : sql ∈ ((indexes name).run d).queries) :
    ∃ p, Dialect.sqlite.lex? false sql.toList = some p ∧ Asks d name p := by
  rw [indexes, Inquiry.mem_queries_bind, Inquiry.queries_rows, List.mem_singleton] at h
  obtain rfl | ⟨rows, hrows, h⟩ := h
  · exact ⟨_, lex?_pragma (.ofList _ rfl rfl) name, .table (by decide)⟩
  · rw [Inquiry.outcome_rows] at hrows
    simp only [Inquiry.mem_queries_bind, Inquiry.queries_pure, List.not_mem_nil, and_false,
      exists_false, or_false] at h
    obtain ⟨row, hrow, index, hindex, rfl⟩ := exists_of_mem_indexesEntries h
    exact ⟨_, lex?_pragma (.ofList _ rfl rfl) index, .index hrows hrow hindex⟩

/-- Every statement that is sent for a table asks for the table or for an index that is reported
for it. -/
theorem asks_of_sent (h : sql ∈ ((Loader.sqlite.table name).run d).queries ∨
      sql ∈ ((Loader.sqlite.uniqueIndexes name).run d).queries) :
    ∃ p, Dialect.sqlite.lex? false sql.toList = some p ∧ Asks d name p := by
  obtain h | h := h
  · rw [Loader.table, Sqlite.table, Inquiry.mem_queries_bind, Inquiry.queries_rows,
      List.mem_singleton] at h
    obtain rfl | ⟨columns, -, h⟩ := h
    · exact ⟨_, lex?_pragma (.ofList _ rfl rfl) name, .table (by decide)⟩
    split at h
    · cases h
    simp only [Inquiry.mem_queries_bind, Inquiry.queries_rows, Inquiry.queries_pure,
      List.mem_singleton, List.not_mem_nil, and_false, exists_false, or_false] at h
    obtain rfl | ⟨keys, -, h⟩ := h
    · exact ⟨_, lex?_pragma (.ofList _ rfl rfl) name, .table (by decide)⟩
    · exact asks_of_sent_indexes h
  · rw [Loader.uniqueIndexes, Loader.indexes, Inquiry.mem_queries_bind] at h
    exact asks_of_sent_indexes (by simpa using h)

end Sqlite

/-- Every query that is sent for a table of PostgreSQL asks for the schema and the table that its
name means, and every statement that is sent for a table of SQLite is about this table, or about an
index that was reported for it. -/
theorem Loader.sent_asks_for_table :
    (∀ (defaultSchema name sql : String) (d : Driver),
      sql ∈ (((Loader.postgreSql defaultSchema).table name).run d).queries ∨
        sql ∈ (((Loader.postgreSql defaultSchema).uniqueIndexes name).run d).queries →
      ∃ p, Dialect.postgreSql.lex? false sql.toList = some p ∧
        ∀ x, PostgreSql.Asks x p ↔ x = PostgreSql.split defaultSchema name) ∧
    ∀ (name sql : String) (d : Driver),
      sql ∈ ((Loader.sqlite.table name).run d).queries ∨
        sql ∈ ((Loader.sqlite.uniqueIndexes name).run d).queries →
      ∃ p, Dialect.sqlite.lex? false sql.toList = some p ∧ Sqlite.Asks d name p := by
  refine ⟨fun defaultSchema name sql d h => ?_, fun name sql d h => Sqlite.asks_of_sent h⟩
  obtain ⟨p, hp, hasks⟩ := PostgreSql.asks_of_sent h
  exact ⟨p, hp, hasks.iff_eq⟩

/-- Of a name with both kinds of quotes and two dots, on connections that find nothing. -/
theorem Loader.sent_asks_for_table_quotes :
    (∃ p, Dialect.postgreSql.lex? false (PostgreSql.columnQuery "it's" "\"t\".x").toList = some p ∧
      ∀ x, PostgreSql.Asks x p ↔ x = ("it's", "\"t\".x")) ∧
    ∃ p, Dialect.sqlite.lex? false "PRAGMA table_info(`it's.``t``.x`)".toList = some p ∧
      Sqlite.Asks (.findingNothing "sqlite") "it's.`t`.x" p := by
  have hsplit : PostgreSql.split "public" "it's.\"t\".x" = ("it's", "\"t\".x") := by decide
  have hcolumns : PostgreSql.columnQuery "it's" "\"t\".x" ∈
      (((Loader.postgreSql "public").table "it's.\"t\".x").run
        (.findingNothing "pgsql")).queries := by
    decide +kernel
  have hpragma : "PRAGMA table_info(`it's.``t``.x`)" ∈
      ((Loader.sqlite.table "it's.`t`.x").run (.findingNothing "sqlite")).queries := by
    decide +kernel
  obtain ⟨hpostgreSql, hsqlite⟩ := Loader.sent_asks_for_table
  rw [← hsplit]
  exact ⟨hpostgreSql _ _ _ _ (.inl hcolumns), hsqlite _ _ _ (.inl hpragma)⟩

end Catalog

end SqlCompose
