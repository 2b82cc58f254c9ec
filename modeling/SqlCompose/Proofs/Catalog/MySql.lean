import SqlCompose.Catalog.Reflector
import SqlCompose.Proofs.Catalog.Inquiry
import SqlCompose.Proofs.Catalog.Lexing

/-!
# The table that MySQL is asked for

What the queries for a table ask for, as they are read by MySQL (`MySql.Asks`): a pair of a schema,
or the current database, and a table.

All queries for a table ask for the pair that its name is split into, and have the name in strings
and quoted names only, if it has no backslash and at most one dot (`MySql.asks_of_mem_queries`).
A backslash is written as it is, although it has a meaning in strings
(`MySql.existenceQuery_backslash`), and qualified names are split at all dots instead of the
first (`MySql.lex?_indexQuery_dots`).
-/

namespace SqlCompose.Catalog.MySql

open Dialect

/-- The schema and the table that are meant by a name: the parts before and behind the first dot. A
name without a dot means a table of the current database. -/
def asked (name : String) : Option String × String :=
  match Text.splitFirst? '.' name.toList with
  | some (schema, table) => (some (String.ofList schema), String.ofList table)
  | none => (none, name)

/-- The queries that compare schema and table with strings, by the texts in front of the comparison
and behind it. -/
def comparisons : List (String × String) := [
  ("SELECT COUNT(*) FROM information_schema.TABLES WHERE ", ""),
  ("SELECT CONSTRAINT_NAME, COLUMN_NAME, REFERENCED_TABLE_NAME, REFERENCED_COLUMN_NAME "
      ++ "FROM information_schema.KEY_COLUMN_USAGE WHERE ",
    " AND REFERENCED_TABLE_NAME IS NOT NULL ORDER BY CONSTRAINT_NAME, ORDINAL_POSITION")]

/-- The queries that describe a table, by the texts in front of its name. -/
def descriptions : List String :=
  ["SHOW FULL COLUMNS FROM ", "SHOW INDEX FROM "]

/-- What queries ask for. No other text than these stands outside of quotes. -/
inductive Asks : Option String × String → QueryParts → Prop
  | compared {lead behind : String} (schema table : String) : (lead, behind) ∈ comparisons →
      Asks (some schema, table) ⟨lead ++ "TABLE_SCHEMA = ",
        [(.text schema, " AND TABLE_NAME = "), (.text table, behind)]⟩
  | comparedHere {lead behind : String} (table : String) : (lead, behind) ∈ comparisons →
      Asks (none, table) ⟨lead ++ "TABLE_SCHEMA = DATABASE() AND TABLE_NAME = ",
        [(.text table, behind)]⟩
  | described {lead : String} (schema table : String) : lead ∈ descriptions →
      Asks (some schema, table) ⟨lead, [(.name schema, "."), (.name table, "")]⟩
  | describedHere {lead : String} (table : String) : lead ∈ descriptions →
      Asks (none, table) ⟨lead, [(.name table, "")]⟩

/-- The queries for a table. -/
def queries (name : String) : List String :=
  [existenceQuery name, "SHOW FULL COLUMNS FROM " ++ qualified name,
    "SHOW INDEX FROM " ++ qualified name, foreignKeyQuery name]

variable {name sql : String} {d : Driver}

/-- One query is sent for the indexes of a table. -/
theorem mem_queries_of_indexes (h : sql ∈ ((indexes name).run d).queries) :
    sql = "SHOW INDEX FROM " ++ qualified name := by
  rw [indexes, Inquiry.mem_queries_bind] at h
  simpa using h

/-- An inquiry about a table sends no other queries. -/
theorem mem_queries_of_table (h : sql ∈ ((Loader.mySql.table name).run d).queries) :
    sql ∈ queries name := by
  rw [Loader.table, table, Inquiry.mem_queries_bind, Inquiry.queries_scalar,
    List.mem_singleton] at h
  rw [queries, List.mem_cons, List.mem_cons, List.mem_cons, List.mem_singleton]
  obtain rfl | ⟨count, -, h⟩ := h
  · exact .inl rfl
  split at h
  · cases h
  simp only [Inquiry.mem_queries_bind, Inquiry.queries_rows, Inquiry.queries_pure,
    List.mem_singleton, List.not_mem_nil, and_false, exists_false, or_false] at h
  obtain rfl | ⟨columns, -, h | ⟨indexes, -, rfl⟩⟩ := h
  · exact .inr (.inl rfl)
  · exact .inr (.inr (.inl (mem_queries_of_indexes h)))
  · exact .inr (.inr (.inr rfl))

/-- An inquiry about unique indexes sends no other queries either. -/
theorem mem_queries_of_uniqueIndexes
    (h : sql ∈ ((Loader.mySql.uniqueIndexes name).run d).queries) : sql ∈ queries name := by
  rw [Loader.uniqueIndexes, Loader.indexes, Inquiry.mem_queries_bind] at h
  have hindexes : sql ∈ ((indexes name).run d).queries := by simpa using h
  rw [mem_queries_of_indexes hindexes]
  exact List.mem_cons_of_mem _ (List.mem_cons_of_mem _ List.mem_cons_self)

/-! ## Reading the queries -/

/-- A query asks for one table only. -/
theorem Asks.iff_eq {x : Option String × String} {p : QueryParts} (hx : Asks x p)
    (y : Option String × String) : Asks y p ↔ y = x := by
  refine ⟨fun hy => ?_, fun h => h ▸ hx⟩
  generalize hp : p = q at hy
  cases hx <;> cases hy <;>
    simp only [QueryParts.mk.injEq, List.cons.injEq, Prod.mk.injEq, Quoted.text.injEq,
      Quoted.name.injEq, reduceCtorEq, and_false, false_and, and_true] at hp
  case compared.compared | described.described =>
    obtain ⟨-, rfl, rfl, -⟩ := hp
    rfl
  case comparedHere.comparedHere | describedHere.describedHere =>
    obtain ⟨-, rfl, -⟩ := hp
    rfl

/-- The texts around a comparison are bare. -/
theorem bare_of_mem_comparisons {lead behind : String} (h : (lead, behind) ∈ comparisons) :
    mySql.Bare lead ∧ mySql.Bare behind := by
  simp only [comparisons, List.mem_cons, Prod.mk.injEq, List.not_mem_nil, or_false] at h
  obtain ⟨rfl, rfl⟩ | ⟨rfl, rfl⟩ := h
  · exact ⟨.ofList _ rfl, .ofList _ rfl⟩
  · exact ⟨.append (.ofList _ rfl) (.ofList _ rfl), .ofList _ rfl⟩

/-- A quoted name may follow the text in front of a description. -/
theorem opens_of_mem_descriptions {lead : String} (h : lead ∈ descriptions) : mySql.Opens lead := by
  simp only [descriptions, List.mem_cons, List.not_mem_nil, or_false] at h
  obtain rfl | rfl := h
  · exact .ofList _ rfl rfl
  · exact .ofList _ rfl rfl

/-- The filter compares with what is meant by the name. -/
theorem schemaFilter_eq (name : String) : schemaFilter name =
    ((asked name).1.elim "DATABASE()" literal, literal (asked name).2) := by
  rw [schemaFilter, asked]
  cases Text.splitFirst? '.' name.toList <;> rfl

/-- A table is compared by its schema and its name, each as a string. -/
theorem tableCondition_eq (name : String) : tableCondition name =
    "TABLE_SCHEMA = " ++ (asked name).1.elim "DATABASE()" literal ++ " AND TABLE_NAME = " ++
      literal (asked name).2 := by
  delta tableCondition
  rw [schemaFilter_eq]

/-- With at most one dot, a qualified name is what is meant by the name. -/
theorem qualified_eq (h : name.toList.count '.' ≤ 1) : qualified name =
    (asked name).1.elim "" (fun schema => backticked schema ++ ".") ++
      backticked (asked name).2 := by
  rw [qualified, asked]
  cases hsplit : Text.splitFirst? '.' name.toList with
  | none =>
    rw [Text.splitOn_eq_singleton (Text.splitFirst?_eq_none_iff.1 hsplit)]
    simp
  | some parts =>
    obtain ⟨schema, table⟩ := parts
    have htable : '.' ∉ table := by
      rw [Text.eq_of_splitFirst? hsplit, List.count_append, List.count_cons_self] at h
      exact List.count_eq_zero.1 (by omega)
    rw [Text.splitOn_of_splitFirst? hsplit, Text.splitOn_eq_singleton htable]
    rfl

/-- What is not in a name is in neither of its parts. -/
theorem notMem_of_asked {c : Char} (h : c ∉ name.toList) {schema : Option String} {table : String}
    (hname : asked name = (schema, table)) :
    (∀ s, schema = some s → c ∉ s.toList) ∧ c ∉ table.toList := by
  rw [asked] at hname
  cases hsplit : Text.splitFirst? '.' name.toList with
  | none =>
    rw [hsplit] at hname
    cases hname
    exact ⟨nofun, h⟩
  | some parts =>
    rw [hsplit] at hname
    cases hname
    rw [Text.eq_of_splitFirst? hsplit, List.mem_append, not_or, List.mem_cons, not_or] at h
    refine ⟨?_, by rw [String.toList_ofList]; exact h.2.2⟩
    rintro _ ⟨⟩
    rw [String.toList_ofList]
    exact h.1

/-- A comparison with the schema and the table that are meant is read as one. -/
theorem asks_of_comparison (hname : '\\' ∉ name.toList) {lead behind : String}
    (h : (lead, behind) ∈ comparisons) :
    ∃ p, Dialect.mySql.lex? false (lead ++ tableCondition name ++ behind).toList = some p ∧
      Asks (asked name) p := by
  obtain ⟨hlead, hbehind⟩ := bare_of_mem_comparisons h
  rw [tableCondition_eq]
  cases hasked : asked name with
  | mk schema table =>
    obtain ⟨hschema, htable⟩ := notMem_of_asked hname hasked
    cases schema with
    | none =>
      have hhere : "TABLE_SCHEMA = DATABASE() AND TABLE_NAME = " =
          "TABLE_SCHEMA = " ++ "DATABASE()" ++ " AND TABLE_NAME = " := by decide
      have htext : lead ++ ("TABLE_SCHEMA = " ++ "DATABASE()" ++ " AND TABLE_NAME = " ++
          literal table) ++ behind = QueryParts.written .mySql
            ⟨lead ++ "TABLE_SCHEMA = DATABASE() AND TABLE_NAME = ", [(.text table, behind)]⟩ := by
        simp only [QueryParts.written, List.foldl_cons, List.foldl_nil, Quoted.written, hhere,
          String.append_assoc]
      refine ⟨_, QueryParts.lex?_written false htext ?_
        ⟨.append hlead (.ofList _ rfl rfl), hbehind⟩, .comparedHere table h⟩
      rintro _ (_ | ⟨_, ⟨⟩⟩)
      exact fun _ => htable
    | some schema =>
      have htext : lead ++ ("TABLE_SCHEMA = " ++ literal schema ++ " AND TABLE_NAME = " ++
          literal table) ++ behind = QueryParts.written .mySql
            ⟨lead ++ "TABLE_SCHEMA = ", [(.text schema, " AND TABLE_NAME = "),
              (.text table, behind)]⟩ := by
        simp only [QueryParts.written, List.foldl_cons, List.foldl_nil, Quoted.written,
          String.append_assoc]
      refine ⟨_, QueryParts.lex?_written false htext ?_
        ⟨.append hlead (.ofList _ rfl rfl), .ofList _ rfl rfl, hbehind⟩, .compared schema table h⟩
      rintro _ (_ | ⟨_, _ | ⟨_, ⟨⟩⟩⟩)
      · exact fun _ => hschema schema rfl
      · exact fun _ => htable

/-- A description of the table that is meant is read as one. -/
theorem asks_of_description (hname : name.toList.count '.' ≤ 1) {lead : String}
    (h : lead ∈ descriptions) :
    ∃ p, Dialect.mySql.lex? false (lead ++ qualified name).toList = some p ∧
      Asks (asked name) p := by
  have hlead := opens_of_mem_descriptions h
  rw [qualified_eq hname]
  cases asked name with
  | mk schema table =>
    cases schema with
    | none =>
      have htext : lead ++ ("" ++ backticked table) = QueryParts.written .mySql
          ⟨lead, [(.name table, "")]⟩ := by
        simp [QueryParts.written, Quoted.written, backticked, quoteChar]
      exact ⟨_, QueryParts.lex?_written false htext (by simp [Quoted.Safe])
        ⟨hlead, .ofList _ rfl⟩, .describedHere table h⟩
    | some schema =>
      have htext : lead ++ (backticked schema ++ "." ++ backticked table) =
          QueryParts.written .mySql ⟨lead, [(.name schema, "."), (.name table, "")]⟩ := by
        simp [QueryParts.written, Quoted.written, backticked, quoteChar, String.append_assoc]
      exact ⟨_, QueryParts.lex?_written false htext (by simp [Quoted.Safe])
        ⟨hlead, .ofList _ rfl rfl, .ofList _ rfl⟩, .described schema table h⟩

/-- Every query that is sent for a table is read as one, and asks for the table that its name means,
if the name has no backslash and at most one dot. The name then stands in strings and quoted names
only. -/
theorem asks_of_mem_queries (hbackslash : '\\' ∉ name.toList) (hdots : name.toList.count '.' ≤ 1)
    (d : Driver) (sql : String)
    (h : sql ∈ ((Loader.mySql.table name).run d).queries ∨
      sql ∈ ((Loader.mySql.uniqueIndexes name).run d).queries) :
    ∃ p, Dialect.mySql.lex? false sql.toList = some p ∧ ∀ x, Asks x p ↔ x = asked name := by
  suffices hasks : ∃ p, Dialect.mySql.lex? false sql.toList = some p ∧ Asks (asked name) p by
    obtain ⟨p, hp, hasks⟩ := hasks
    exact ⟨p, hp, hasks.iff_eq⟩
  have hsql : sql ∈ queries name := h.elim mem_queries_of_table mem_queries_of_uniqueIndexes
  simp only [queries, List.mem_cons, List.not_mem_nil, or_false] at hsql
  obtain rfl | rfl | rfl | rfl := hsql
  · have hcount : (_, "") ∈ comparisons := List.mem_cons_self
    have hasks := asks_of_comparison hbackslash hcount
    rwa [String.append_empty] at hasks
  · exact asks_of_description hdots List.mem_cons_self
  · exact asks_of_description hdots (List.mem_cons_of_mem _ List.mem_cons_self)
  · have hkeys : (_, _) ∈ comparisons := List.mem_cons_of_mem _ List.mem_cons_self
    exact asks_of_comparison hbackslash hkeys

/-- Of a name with both kinds of quotes, on a connection that finds nothing. -/
theorem asks_of_mem_queries_quotes :
    ∃ p, Dialect.mySql.lex? false ("SELECT COUNT(*) FROM information_schema.TABLES WHERE " ++
        "TABLE_SCHEMA = 'it''s' AND TABLE_NAME = 't`x'").toList = some p ∧
      ∀ x, Asks x p ↔ x = (some "it's", "t`x") := by
  have hasked : asked "it's.t`x" = (some "it's", "t`x") := by decide
  have hsent : "SELECT COUNT(*) FROM information_schema.TABLES WHERE " ++
      "TABLE_SCHEMA = 'it''s' AND TABLE_NAME = 't`x'" ∈
        ((Loader.mySql.table "it's.t`x").run (.findingNothing "mysql")).queries := by
    decide +kernel
  rw [← hasked]
  exact asks_of_mem_queries (by decide) (by decide) _ _ (.inl hsent)

/-- A backslash at the end of a name takes the closing quote: the query is not read as one. -/
theorem existenceQuery_backslash :
    existenceQuery "a\\" ∈
        ((Loader.mySql.table "a\\").run (.findingNothing "mysql")).queries ∧
      ¬ ∃ p, Dialect.mySql.lex? false (existenceQuery "a\\").toList = some p ∧
        Asks (asked "a\\") p := by
  constructor
  · rw [Loader.table, table, Inquiry.mem_queries_bind, Inquiry.queries_scalar]
    exact .inl (List.mem_singleton_self _)
  · have hasked : asked "a\\" = (none, "a\\") := by decide
    have hcondition : tableCondition "a\\" =
        "TABLE_SCHEMA = " ++ "DATABASE()" ++ " AND TABLE_NAME = " ++ literal "a\\" := by
      simp only [tableCondition_eq, hasked, Option.elim_none]
    have htext : existenceQuery "a\\" = "SELECT COUNT(*) FROM information_schema.TABLES WHERE " ++
        ("TABLE_SCHEMA = " ++ "DATABASE()" ++ " AND TABLE_NAME = ") ++ literal "a\\" :=
      (congrArg (_ ++ ·) hcondition).trans String.append_assoc.symm
    have hopens : mySql.Opens ("SELECT COUNT(*) FROM information_schema.TABLES WHERE " ++
        ("TABLE_SCHEMA = " ++ "DATABASE()" ++ " AND TABLE_NAME = ")) :=
      .append (.ofList _ rfl)
        (.append (.append (.ofList _ rfl) (.ofList _ rfl)) (.ofList _ rfl rfl))
    have hliteral : (literal "a\\").toList = '\'' :: ['a', '\\', '\''] := by decide
    have hopen : Dialect.mySql.content? ['a', '\\', '\''] = none := by decide
    rw [htext, String.toList_append, Dialect.lex?_append _ _ hopens.1, hopens.gluedBy_eq, hliteral,
      lex?_eq_none hopen]
    rintro ⟨_, ⟨⟩, -⟩

/-- A name with two dots is read as three names, although its table is what stands behind the first
dot. -/
theorem lex?_indexQuery_dots (d : Driver) :
    "SHOW INDEX FROM `a`.`b`.`c`" ∈ ((Loader.mySql.uniqueIndexes "a.b.c").run d).queries ∧
      asked "a.b.c" = (some "a", "b.c") ∧
      Dialect.mySql.lex? false "SHOW INDEX FROM `a`.`b`.`c`".toList =
        some ⟨"SHOW INDEX FROM ", [(.name "a", "."), (.name "b", "."), (.name "c", "")]⟩ := by
  have hquery : "SHOW INDEX FROM `a`.`b`.`c`" = "SHOW INDEX FROM " ++ qualified "a.b.c" := by
    decide
  refine ⟨?_, by decide, QueryParts.lex?_written false (by decide) (by simp [Quoted.Safe])
    ⟨.ofList _ rfl rfl, .ofList _ rfl rfl, .ofList _ rfl rfl, .ofList _ rfl⟩⟩
  rw [Loader.uniqueIndexes, Loader.indexes, indexes, Inquiry.mem_queries_bind,
    Inquiry.mem_queries_bind, Inquiry.queries_rows, hquery]
  exact .inl (.inl (List.mem_singleton_self _))

end SqlCompose.Catalog.MySql
