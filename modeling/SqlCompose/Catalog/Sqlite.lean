import SqlCompose.Catalog.Folding
import SqlCompose.Catalog.Inquiry

/-!
# Tables of SQLite

SQLite describes its tables by `PRAGMA` statements. Foreign keys have numbers instead of names.
-/

namespace SqlCompose.Catalog.Sqlite

/-- The entries of an index, which is asked for by a query of its own. -/
def indexEntries (index : Row) : Inquiry (List IndexEntry) :=
  match index.plain? "name" with
  | none => pure []
  | some name => do
    let columns ← Inquiry.rows ("PRAGMA index_info(" ++ backticked name ++ ")")
    let unique := (index.bool? "unique").getD false
    pure (columns.filterMap fun c => (c.plain? "name").map fun column => ⟨name, column, unique⟩)

/-- The entries of several indexes. -/
def indexesEntries : List Row → Inquiry (List IndexEntry)
  | [] => pure []
  | index :: rest => do
    let entries ← indexEntries index
    let others ← indexesEntries rest
    pure (entries ++ others)

/-- The indexes of a table. -/
def indexes (table : String) : Inquiry (NameMap Index) := do
  let list ← Inquiry.rows ("PRAGMA index_list(" ++ backticked table ++ ")")
  let entries ← indexesEntries list
  pure (collectIndexes entries)

/-- The column that a row describes, and its place in the primary key, which is zero outside of
it. -/
def column? (row : Row) : Option (Column × Int64) := do
  let name ← row.plain? "name"
  let column := Column.new name ((row.plain? "type").getD "")
  some ({ column with
    nullable := !(row.bool? "notnull").getD false
    defaultText := row.plain? "dflt_value" }, (row.int? "pk").getD 0)

/-- The names of the columns in the primary key, by their places in it. -/
def primaryKey (columns : List (Column × Int64)) : List String :=
  ((columns.filter fun c => 0 < c.2).mergeSort fun a b => a.2 ≤ b.2).map (·.1.name)

/-- The column of a foreign key that a row describes. -/
def reference? (row : Row) : Option ReferenceEntry := do
  let id ← row.int? "id"
  let column ← row.plain? "from"
  let refTable ← row.plain? "table"
  let refColumn ← row.plain? "to"
  some ⟨"fk_" ++ Decimal.int64Text id, column, refTable, refColumn⟩

/-- A table, if there is one of that name. -/
def table (name : String) : Inquiry (Option Table) := do
  let rows ← Inquiry.rows ("PRAGMA table_info(" ++ backticked name ++ ")")
  if rows.isEmpty then pure none
  else
    let columns := rows.filterMap column?
    let keys ← Inquiry.rows ("PRAGMA foreign_key_list(" ++ backticked name ++ ")")
    let indexes ← indexes name
    let table : Table :=
      ⟨name, columns.map (·.1), [], collectReferences (keys.filterMap reference?), indexes⟩
    pure (some (table.withPrimaryKey (primaryKey columns)))

/-- The names of all tables. -/
def tableNames : Inquiry (List String) := do
  let rows ← Inquiry.rows
    ("SELECT DISTINCT tbl_name FROM sqlite_master WHERE type='table' AND "
      ++ "tbl_name<>'sqlite_sequence' ORDER BY tbl_name")
  pure (rows.filterMap (·.plain? "tbl_name"))

end SqlCompose.Catalog.Sqlite
