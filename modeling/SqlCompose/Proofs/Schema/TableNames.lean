import SqlCompose.Proofs.Catalog.Lexing
import SqlCompose.Proofs.Identifier.Expansion
import SqlCompose.Schema.Statement

/-!
# Table names in schema changes

A table may be named by its name or by a placeholder that the prefix completes
(`Adapter.NamesTable`). A schema change that names its tables in the one way has the same outcome as
the change that names them in the other way, but for two places in PostgreSQL: the sequence that
belongs to a column is looked up under the name as it stands, and a schema in front of a placeholder
is not quoted (`Adapter.sameOutcome_iff_expandsTables`).
-/

namespace SqlCompose

open Identifier

open Segment (IsName)

/-- The change with the names of its tables replaced. Columns, keys, indexes and schemas keep their
names. -/
def SchemaChange.mapTables (f : String → String) : SchemaChange → SchemaChange
  | .createTable name body ifNotExists options => .createTable (f name) body ifNotExists options
  | .dropTable name ifExists cascade => .dropTable (f name) ifExists cascade
  | .renameTable oldName newName => .renameTable (f oldName) (f newName)
  | .truncateTable name => .truncateTable (f name)
  | .addColumn table column definition => .addColumn (f table) column definition
  | .alterColumn table column definition => .alterColumn (f table) column definition
  | .dropColumn table column => .dropColumn (f table) column
  | .renameColumn table oldName newName => .renameColumn (f table) oldName newName
  | .addPrimaryKey name table columns => .addPrimaryKey name (f table) columns
  | .dropPrimaryKey name table => .dropPrimaryKey name (f table)
  | .addForeignKey key =>
    .addForeignKey { key with table := f key.table, refTable := f key.refTable }
  | .dropForeignKey name table => .dropForeignKey name (f table)
  | .createIndex name table columns unique => .createIndex name (f table) columns unique
  | .dropIndex name table => .dropIndex name (f table)
  | .resetSequence table column value => .resetSequence (f table) column value
  | .checkIntegrity enable schema table => .checkIntegrity enable schema (table.map f)

/-- The same statement, or the same error but for the table that it names. -/
inductive SameOutcome : Except QueryError String → Except QueryError String → Prop
  | same (r : Except QueryError String) : SameOutcome r r
  | noColumns (table other : String) :
    SameOutcome (.error (.incomplete (.noColumns table))) (.error (.incomplete (.noColumns other)))

/-- Two texts are the same outcome just if they are equal. -/
theorem sameOutcome_ok_iff {sql other : String} :
    SameOutcome (.ok sql) (.ok other) ↔ sql = other := by
  constructor
  · rintro ⟨⟩
    rfl
  · rintro rfl
    exact .same _

/-- Two strings with the same escaped text are the same, where quotes are doubled and nothing else
is escaped. -/
theorem Dialect.escapeString_inj {d : Dialect} (hd : d.hasBackslash = false) {s t : String} :
    d.escapeString s = d.escapeString t ↔ s = t := by
  constructor
  · intro h
    have hchars := String.ofList_injective h
    have hread : ∀ u : String,
        Text.undoubled? '\'' (d.escapeChars u.toList ++ ['\'']) = some (u.toList, []) := fun u => by
      rw [escapeChars_eq_doubled fun hslash => absurd (hd.symm.trans hslash) Bool.false_ne_true]
      exact Text.undoubled?_doubled '\'' u.toList nofun
    have hboth := hread s
    rw [hchars, hread t] at hboth
    exact (String.toList_inj.1 (Prod.mk.inj (Option.some.inj hboth)).1).symm
  · rintro rfl
    rfl

namespace Adapter

/-- Two ways to name one table: the same text twice, or a placeholder that asks for the prefix and
the name with the prefix. -/
inductive NamesTable (a : Adapter) : String → String → Prop
  | same (name : String) : a.NamesTable name name
  | placeholder {base : String} (h : IsName base.toList) :
    a.NamesTable ("\x7b\x7b%" ++ base ++ "\x7d\x7d") (a.tablePrefix ++ base)

variable {a : Adapter} {x y : String}

/-- A placeholder is the source of the table segment for its name. -/
theorem toList_placeholder (base : String) :
    ("\x7b\x7b%" ++ base ++ "\x7d\x7d").toList = (Segment.table ('%' :: base.toList)).source := by
  simp [Segment.source]

/-- The name with the prefix is what the placeholder asks for. -/
theorem toList_prefixed (a : Adapter) (base : String) :
    (a.tablePrefix ++ base).toList = a.prefixedChars base.toList :=
  String.toList_append

/-- Both names of a table are quoted alike. -/
theorem NamesTable.quoteTable_eq (ha : a.PlainPrefix) (h : a.NamesTable x y) :
    a.quoteTable x = a.quoteTable y := by
  cases h with
  | same => rfl
  | placeholder h =>
    rw [quoteTable, quoteTable, toList_placeholder, toList_prefixed, quoteTableChars_source ha h]

/-- Without quotes, both are the name with the prefix. -/
theorem NamesTable.rawTable_eq (ha : a.PlainPrefix) (h : a.NamesTable x y) :
    a.rawTable x = a.rawTable y := by
  cases h with
  | same => rfl
  | @placeholder base h =>
    have hinner : insideBraces? (Segment.table ('%' :: base.toList)).source =
        some ('%' :: base.toList) := by
      simp [insideBraces?, Segment.source, Text.after?]
    have hname : insideBraces? (a.prefixedChars base.toList) = none := by
      have hbrace : '{' ∉ a.prefixedChars base.toList :=
        not_mem_of_names (isNameChar_of_mem_prefixedChars ha h) (by decide)
      have hafter : Text.after? ['{', '{'] (a.prefixedChars base.toList) = none := by
        refine Option.eq_none_iff_forall_ne_some.2 fun rest hrest => hbrace ?_
        rw [Text.after?_eq_some_iff.1 hrest]
        exact List.mem_cons_self
      rw [insideBraces?, hafter, Option.bind_none]
    rw [rawTable, rawTable, toList_placeholder, toList_prefixed, hinner, hname]
    dsimp only
    rw [a.replaceChar_percent h, ← toList_prefixed, String.ofList_toList]

/-! ## Statements that name tables -/

/-- A foreign key is the same for names that are quoted alike. -/
theorem addForeignKey_congr {f g : String → String}
    (h : ∀ name, a.quoteTable (f name) = a.quoteTable (g name)) (key : ForeignKey) :
    a.addForeignKey { key with table := f key.table, refTable := f key.refTable } =
      a.addForeignKey { key with table := g key.table, refTable := g key.refTable } := by
  unfold addForeignKey
  dsimp only
  rw [h, h]

/-- A table is created alike, or refused alike, for names that are quoted alike. -/
theorem createTable_sameOutcome (h : a.quoteTable x = a.quoteTable y) (body : TableBody)
    (ifNotExists : Bool) (options : Option String) :
    SameOutcome (a.createTable x body ifNotExists options)
      (a.createTable y body ifNotExists options) := by
  unfold createTable
  rw [h]
  cases body with
  | raw sql => exact .same _
  | elements lines =>
    cases lines with
    | nil => exact .noColumns x y
    | cons line lines => exact .same _

/-- PostgreSQL looks a sequence up under the name as it stands. -/
theorem resetSequence_eq_iff (ha : a.PlainPrefix) (h : a.NamesTable x y) (column : String)
    (value : Int64) :
    a.resetSequence x column value = a.resetSequence y column value ↔
      (a.dialect = .postgreSql → x = y) := by
  unfold resetSequence
  cases a.dialect with
  | mySql => simp [h.quoteTable_eq ha]
  | sqlite => simp [h.rawTable_eq ha]
  | postgreSql =>
    have hd : Dialect.postgreSql.hasBackslash = false := rfl
    simp [String.append_left_inj, String.append_right_inj, Dialect.escapeString_inj hd]

/-- A table behind a schema is written alike only if the schema is written alike as raw SQL and as a
name. -/
theorem quoteTable_qualified_iff (ha : a.PlainPrefix) (h : a.NamesTable x y) (schema : String) :
    a.quoteTable (schema ++ "." ++ x) = a.quoteTable (schema ++ "." ++ y) ↔
      x = y ∨ isRawTable schema.toList = false ∧ a.quoteSql schema = a.quoteTable schema := by
  have htoList : ∀ name : String,
      (schema ++ "." ++ name).toList = schema.toList ++ '.' :: name.toList := fun name => by simp
  have hiff : ∀ {base : String}, IsName base.toList →
      (a.quoteTable (schema ++ "." ++ ("\x7b\x7b%" ++ base ++ "\x7d\x7d")) =
          a.quoteTable (schema ++ "." ++ (a.tablePrefix ++ base)) ↔
        isRawTable schema.toList = false ∧ a.quoteSql schema = a.quoteTable schema) := fun h => by
    rw [quoteTable, quoteTable, String.ofList_inj, htoList, htoList, toList_placeholder,
      toList_prefixed, quoteTableChars_qualified_iff ha _ h, quoteSql, quoteTable, String.ofList_inj]
  constructor
  · intro heq
    cases h with
    | same => exact .inl rfl
    | placeholder h => exact .inr ((hiff h).1 heq)
  · rintro (rfl | hschema)
    · rfl
    · cases h with
      | same => rfl
      | placeholder h => exact (hiff h).2 hschema

/-- Without a schema, integrity is checked alike for names that are quoted alike. -/
theorem checkIntegrity_congr (h : a.quoteTable x = a.quoteTable y) (enable : Bool) :
    a.checkIntegrity enable none (some x) = a.checkIntegrity enable none (some y) := by
  unfold checkIntegrity
  cases a.dialect with
  | mySql | sqlite => rfl
  | postgreSql =>
    dsimp only [Option.elim_none]
    rw [h]

/-- With a schema in front, it is checked alike where the table behind it is written alike. -/
theorem checkIntegrity_schema_eq_iff (ha : a.PlainPrefix) (h : a.NamesTable x y) (enable : Bool)
    (schema : String) :
    a.checkIntegrity enable (some schema) (some x) = a.checkIntegrity enable (some schema) (some y) ↔
      (a.dialect = .postgreSql →
        x = y ∨ isRawTable schema.toList = false ∧ a.quoteSql schema = a.quoteTable schema) := by
  rw [← quoteTable_qualified_iff ha h schema]
  unfold checkIntegrity
  cases a.dialect with
  | mySql | sqlite => simp
  | postgreSql => simp [String.append_left_inj, String.append_right_inj]

/-! ## Every change -/

/-- Where a change expands the placeholders of its tables: everywhere but for the names of sequences
and the tables behind a schema in PostgreSQL. -/
def ExpandsTables (a : Adapter) (f g : String → String) : SchemaChange → Prop
  | .resetSequence table _ _ => a.dialect = .postgreSql → f table = g table
  | .checkIntegrity _ (some schema) (some table) =>
    a.dialect = .postgreSql →
      f table = g table ∨
        isRawTable schema.toList = false ∧ a.quoteSql schema = a.quoteTable schema
  | _ => True

/-- Placeholders in the place of table names make no difference just where they are expanded. -/
theorem sameOutcome_iff_expandsTables {f g : String → String} (ha : a.PlainPrefix)
    (h : ∀ name, a.NamesTable (f name) (g name)) (c : SchemaChange) :
    SameOutcome (a.schemaStatement (c.mapTables f)) (a.schemaStatement (c.mapTables g)) ↔
      a.ExpandsTables f g c := by
  have hquote : ∀ name, a.quoteTable (f name) = a.quoteTable (g name) := fun name =>
    (h name).quoteTable_eq ha
  cases c with
  | createTable name body ifNotExists options =>
    exact iff_of_true (createTable_sameOutcome (hquote name) body ifNotExists options) trivial
  | resetSequence table column value =>
    exact sameOutcome_ok_iff.trans (resetSequence_eq_iff ha (h table) column value)
  | checkIntegrity enable schema table =>
    rcases schema with _ | schema <;> rcases table with _ | table
    · exact iff_of_true (.same _) trivial
    · exact iff_of_true (sameOutcome_ok_iff.2 (checkIntegrity_congr (hquote table) enable)) trivial
    · exact iff_of_true (.same _) trivial
    · exact sameOutcome_ok_iff.trans (checkIntegrity_schema_eq_iff ha (h table) enable schema)
  | _ =>
    -- The other changes quote their tables and do nothing else with them.
    refine iff_of_true ?_ trivial
    simp only [SchemaChange.mapTables, schemaStatement, alterColumn, renameColumn,
      addForeignKey_congr hquote, hquote]
    exact .same _

/-- A schema that holds its quotes may stand in front of a placeholder. -/
theorem sameOutcome_iff_expandsTables_quoted :
    SameOutcome
      ((ofDialect .postgreSql "p_" none).schemaStatement
        (.checkIntegrity false (some "\"s\"") (some "\x7b\x7b%t\x7d\x7d")))
      ((ofDialect .postgreSql "p_" none).schemaStatement
        (.checkIntegrity false (some "\"s\"") (some "p_t"))) := by
  let f : String → String := fun _ => "\x7b\x7b%t\x7d\x7d"
  let g : String → String := fun _ => "p_t"
  have hbase : IsName "t".toList := by decide
  have hnames : ∀ name, (ofDialect .postgreSql "p_" none).NamesTable (f name) (g name) := fun _ =>
    .placeholder hbase
  refine (sameOutcome_iff_expandsTables (by decide) hnames
    (.checkIntegrity false (some "\"s\"") (some "t"))).2 fun _ => .inr ?_
  exact ⟨by decide, by decide⟩

/-- A placeholder for a table is not expanded in the name of a sequence, and takes the quotes from
the schema in front of it. -/
theorem not_sameOutcome_postgreSql :
    (ofDialect .postgreSql "p_" none).PlainPrefix ∧ IsName "t".toList ∧
      ¬ SameOutcome
        ((ofDialect .postgreSql "p_" none).schemaStatement
          (.resetSequence "\x7b\x7b%t\x7d\x7d" "id" 5))
        ((ofDialect .postgreSql "p_" none).schemaStatement (.resetSequence "p_t" "id" 5)) ∧
      ¬ SameOutcome
        ((ofDialect .postgreSql "p_" none).schemaStatement
          (.checkIntegrity false (some "public") (some "\x7b\x7b%t\x7d\x7d")))
        ((ofDialect .postgreSql "p_" none).schemaStatement
          (.checkIntegrity false (some "public") (some "p_t"))) := by
  refine ⟨by decide, by decide, ?_, ?_⟩
  · exact fun h => absurd (sameOutcome_ok_iff.1 h) (by decide)
  · exact fun h => absurd (sameOutcome_ok_iff.1 h) (by decide)

end Adapter

end SqlCompose
