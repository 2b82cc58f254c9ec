import SqlCompose.Catalog.Folding
import SqlCompose.Catalog.Inquiry

/-!
# Tables of PostgreSQL

PostgreSQL describes its tables in the information schema, and their indexes in its own catalog. A
name without a dot belongs to a default schema.
-/

namespace SqlCompose.Catalog.PostgreSql

/-- The schema and the name of a table: what stands before and behind the first dot. -/
def split (defaultSchema name : String) : String × String :=
  match Text.splitFirst? '.' name.toList with
  | some (schema, table) => (String.ofList schema, String.ofList table)
  | none => (defaultSchema, name)

/-- A table as the catalog knows it: two quoted names in a string literal. -/
def regclass (schema table : String) : String :=
  literal (inQuotes '"' schema ++ "." ++ inQuotes '"' table) ++ "::regclass"

/-- The query for the columns of indexes. -/
def indexQuery (schema table : String) : String :=
  "SELECT ic.relname AS index_name, a.attname AS column_name, "
    ++ "i.indisunique AS is_unique, i.indisprimary AS is_primary FROM pg_index i "
    ++ "JOIN pg_class ic ON ic.oid = i.indexrelid "
    ++ "JOIN pg_attribute a ON a.attrelid = i.indrelid AND a.attnum = ANY(i.indkey) "
    ++ "WHERE i.indrelid = " ++ regclass schema table
    ++ " ORDER BY ic.relname, array_position(i.indkey::int2[], a.attnum)"

/-- The query for the columns of the primary key. -/
def primaryKeyQuery (schema table : String) : String :=
  "SELECT a.attname AS column_name FROM pg_index i "
    ++ "JOIN pg_attribute a ON a.attrelid = i.indrelid AND a.attnum = ANY(i.indkey) "
    ++ "WHERE i.indrelid = " ++ regclass schema table ++ " AND i.indisprimary "
    ++ "ORDER BY array_position(i.indkey::int2[], a.attnum)"

/-- The query for the columns of a table. -/
def columnQuery (schema table : String) : String :=
  "SELECT column_name, data_type, character_maximum_length, numeric_precision, "
    ++ "is_nullable, column_default FROM information_schema.columns WHERE table_schema = "
    ++ literal schema ++ " AND table_name = " ++ literal table ++ " ORDER BY ordinal_position"

/-- The query for the columns of foreign keys. -/
def foreignKeyQuery (schema table : String) : String :=
  "SELECT tc.constraint_name, kcu.column_name, "
    ++ "ccu.table_name AS foreign_table_name, ccu.column_name AS foreign_column_name "
    ++ "FROM information_schema.table_constraints tc "
    ++ "JOIN information_schema.key_column_usage kcu "
    ++ "ON tc.constraint_name = kcu.constraint_name AND tc.table_schema = kcu.table_schema "
    ++ "JOIN information_schema.constraint_column_usage ccu "
    ++ "ON ccu.constraint_name = tc.constraint_name AND ccu.table_schema = tc.table_schema "
    ++ "WHERE tc.constraint_type = 'FOREIGN KEY' AND tc.table_schema = " ++ literal schema
    ++ " AND tc.table_name = " ++ literal table
    ++ " ORDER BY tc.constraint_name, kcu.ordinal_position"

/-- The column of an index that a row describes. -/
def indexEntry? (row : Row) : Option IndexEntry := do
  let index ← row.plain? "index_name"
  let column ← row.plain? "column_name"
  some ⟨index, column, (row.bool? "is_unique").getD false⟩

/-- The indexes of a table. -/
def indexes (schema table : String) : Inquiry (NameMap Index) := do
  let rows ← Inquiry.rows (indexQuery schema table)
  pure (collectIndexes (rows.filterMap indexEntry?))

/-- A size that fits 32 bits. -/
def size? (n : Int64) : Option UInt32 :=
  (Document.integer n.toInt).word?

/-- The column that a row describes. The size is that of its characters or of its digits. -/
def column? (row : Row) : Option Column := do
  let name ← row.plain? "column_name"
  let size := (row.int? "character_maximum_length").or (row.int? "numeric_precision")
  some { Column.new name ((row.plain? "data_type").getD "") with
    size := size.bind size?
    nullable := (row.bool? "is_nullable").getD true
    defaultText := row.plain? "column_default" }

/-- The column of a foreign key that a row describes. -/
def reference? (row : Row) : Option ReferenceEntry := do
  let key ← row.plain? "constraint_name"
  let column ← row.plain? "column_name"
  let refTable ← row.plain? "foreign_table_name"
  let refColumn ← row.plain? "foreign_column_name"
  some ⟨key, column, refTable, refColumn⟩

/-- A table, if there is one of that name. -/
def table (defaultSchema name : String) : Inquiry (Option Table) := do
  let (schema, tableName) := split defaultSchema name
  let rows ← Inquiry.rows (columnQuery schema tableName)
  if rows.isEmpty then pure none
  else
    let indexes ← indexes schema tableName
    let keys ← Inquiry.rows (primaryKeyQuery schema tableName)
    let foreign ← Inquiry.rows (foreignKeyQuery schema tableName)
    let table : Table :=
      ⟨name, rows.filterMap column?, [], collectReferences (foreign.filterMap reference?), indexes⟩
    pure (some (table.withPrimaryKey (keys.filterMap (·.plain? "column_name"))))

/-- The names of all tables of the default schema. -/
def tableNames (defaultSchema : String) : Inquiry (List String) := do
  let rows ← Inquiry.rows
    ("SELECT table_name FROM information_schema.tables WHERE table_schema = "
      ++ literal defaultSchema ++ " AND table_type = 'BASE TABLE' ORDER BY table_name")
  pure (rows.filterMap (·.plain? "table_name"))

end SqlCompose.Catalog.PostgreSql
