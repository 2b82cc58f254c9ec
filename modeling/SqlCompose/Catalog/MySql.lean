import SqlCompose.Catalog.Folding
import SqlCompose.Catalog.Inquiry

/-!
# Tables of MySQL

MySQL describes its tables by `SHOW` statements and in the information schema. A name without a dot
belongs to the current database.
-/

namespace SqlCompose.Catalog.MySql

/-- A dotted name with every part in backticks. -/
def qualified (name : String) : String :=
  ".".intercalate ((Text.splitOn '.' name.toList).map fun part => backticked (String.ofList part))

/-- What the schema and the name of a table are compared with: the parts before and behind the first
dot. -/
def schemaFilter (name : String) : String × String :=
  match Text.splitFirst? '.' name.toList with
  | some (schema, table) => (literal (String.ofList schema), literal (String.ofList table))
  | none => ("DATABASE()", literal name)

/-- The condition on the schema and the name of a table. -/
def tableCondition (name : String) : String :=
  let (schema, table) := schemaFilter name
  "TABLE_SCHEMA = " ++ schema ++ " AND TABLE_NAME = " ++ table

/-- The query for the number of tables of a name. -/
def existenceQuery (name : String) : String :=
  "SELECT COUNT(*) FROM information_schema.TABLES WHERE " ++ tableCondition name

/-- The query for the columns of foreign keys. -/
def foreignKeyQuery (name : String) : String :=
  "SELECT CONSTRAINT_NAME, COLUMN_NAME, REFERENCED_TABLE_NAME, REFERENCED_COLUMN_NAME "
    ++ "FROM information_schema.KEY_COLUMN_USAGE WHERE " ++ tableCondition name
    ++ " AND REFERENCED_TABLE_NAME IS NOT NULL ORDER BY CONSTRAINT_NAME, ORDINAL_POSITION"

/-- The column of an index that a row describes. -/
def indexEntry? (row : Row) : Option IndexEntry := do
  let index ← row.plain? "Key_name"
  let column ← row.plain? "Column_name"
  some ⟨index, column, !(row.bool? "Non_unique").getD true⟩

/-- The indexes of a table. -/
def indexes (name : String) : Inquiry (NameMap Index) := do
  let rows ← Inquiry.rows ("SHOW INDEX FROM " ++ qualified name)
  pure (collectIndexes (rows.filterMap indexEntry?))

/-- The column that a row describes, and whether the row counts it to the primary key. -/
def column? (row : Row) : Option (Column × Bool) := do
  let name ← row.plain? "Field"
  let column := Column.new name ((row.plain? "Type").getD "")
  some ({ column with
    nullable := (row.bool? "Null").getD true
    defaultText := row.plain? "Default" }, row.text? "Key" == some "PRI")

/-- The column of a foreign key that a row describes. -/
def reference? (row : Row) : Option ReferenceEntry := do
  let key ← row.plain? "CONSTRAINT_NAME"
  let column ← row.plain? "COLUMN_NAME"
  let refTable ← row.plain? "REFERENCED_TABLE_NAME"
  let refColumn ← row.plain? "REFERENCED_COLUMN_NAME"
  some ⟨key, column, refTable, refColumn⟩

/-- The columns of the index of the primary key, or else those that count themselves to it. -/
def primaryKey (indexes : NameMap Index) (columns : List (Column × Bool)) : List String :=
  match indexes.get? "PRIMARY" with
  | some index => index.columns
  | none => (columns.filter (·.2)).map (·.1.name)

/-- A table, if there is one of that name. -/
def table (name : String) : Inquiry (Option Table) := do
  let count ← Inquiry.scalar (existenceQuery name)
  if (count.bind Value.int?).getD 0 = 0 then pure none
  else
    let rows ← Inquiry.rows ("SHOW FULL COLUMNS FROM " ++ qualified name)
    let columns := rows.filterMap column?
    let indexes ← indexes name
    let foreign ← Inquiry.rows (foreignKeyQuery name)
    let table : Table :=
      ⟨name, columns.map (·.1), [], collectReferences (foreign.filterMap reference?), indexes⟩
    pure (some (table.withPrimaryKey (primaryKey indexes columns)))

/-- The names of all tables. -/
def tableNames : Inquiry (List String) := do
  let rows ← Inquiry.rows "SHOW TABLES"
  pure (rows.filterMap fun row => row.values.head?.bind Value.plain?)

end SqlCompose.Catalog.MySql
