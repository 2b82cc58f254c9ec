import SqlCompose.ColumnType
import SqlCompose.Identifier.Quoting
import SqlCompose.Literal
import SqlCompose.Schema.Change

/-!
# Statements for schema changes

Each change of the schema is one statement. Dialects word some of them in their own way, and SQLite
lacks those that change a table's keys or the type of a column.

MySQL renames a column by repeating its definition, which is read from the database where there is a
connection; without a definition it falls back to the newer form that does not need it.
-/

namespace SqlCompose

namespace Adapter

/-- The clause for an action on an event, if there is one. -/
def actionClause (event : String) : Option ForeignKeyAction → String
  | some action => " ON " ++ event ++ " " ++ action.sql
  | none => ""

/-- A line of a table definition. -/
def elementText (a : Adapter) : TableElement → String
  | .column name definition => a.quoteColumn name ++ " " ++ a.dialect.columnType definition
  | .constraint sql => a.quoteSql sql

/-- The statement that makes a table. -/
def createTable (a : Adapter) (name : String) (body : TableBody) (ifNotExists : Bool)
    (options : Option String) : Except QueryError String := do
  let head := "CREATE TABLE " ++ (if ifNotExists then "IF NOT EXISTS " else "") ++ a.quoteTable name
  let rest ←
    match body with
    | .elements [] => .error (.incomplete (.noColumns name))
    | .elements lines => .ok (" (\n\t" ++ ",\n\t".intercalate (lines.map a.elementText) ++ "\n)")
    | .raw sql => .ok (" " ++ a.quoteSql (Text.trimmed sql))
  match options with
  | some options => .ok (head ++ rest ++ " " ++ options)
  | none => .ok (head ++ rest)

/-- The definition that a line of a table definition gives to a column. -/
def definitionInLine? (column line : List Char) : Option (List Char) :=
  (Text.after? column (Text.trim line)).map fun rest =>
    ((Text.trim rest).reverse.dropWhile (· == ',')).reverse

/-- The definition of a quoted column in the statement that makes its table. -/
def definitionIn? (column : String) (statement : String) : Option String :=
  ((Text.splitOn '\n' statement.toList).findSome? (definitionInLine? column.toList)).map
    String.ofList

/-- The definition that the database reports for a quoted column of a quoted table. -/
def reportedDefinition (d : Driver) (table column : String) : Except QueryError (Option String) :=
  (d.queryOne ("SHOW CREATE TABLE " ++ table)).map fun row =>
    (row.bind fun row => (row.text? "Create Table").or (row.textAt? 1)).bind (definitionIn? column)

/-- The statement that renames a column. -/
def renameColumn (a : Adapter) (table oldName newName : String) : Except QueryError String := do
  let table := a.quoteTable table
  let oldName := a.quoteColumn oldName
  let newName := a.quoteColumn newName
  let definition ←
    match a.dialect, a.driver with
    | .mySql, some d => reportedDefinition d table oldName
    | _, _ => .ok none
  match definition with
  | some definition =>
    .ok ("ALTER TABLE " ++ table ++ " CHANGE " ++ oldName ++ " " ++ newName ++ " " ++ definition)
  | none => .ok ("ALTER TABLE " ++ table ++ " RENAME COLUMN " ++ oldName ++ " TO " ++ newName)

/-- The statement that changes the type of a column. -/
def alterColumn (a : Adapter) (table column definition : String) : Except QueryError String :=
  let head := "ALTER TABLE " ++ a.quoteTable table
  let column := a.quoteColumn column
  let definition := a.dialect.columnType definition
  match a.dialect with
  | .mySql => .ok (head ++ " CHANGE " ++ column ++ " " ++ column ++ " " ++ definition)
  | .postgreSql => .ok (head ++ " ALTER COLUMN " ++ column ++ " TYPE " ++ definition)
  | .sqlite => .error (.notSupported .sqlite .columnChange)

/-- The statement that adds a foreign key. -/
def addForeignKey (a : Adapter) (key : ForeignKey) : String :=
  "ALTER TABLE " ++ a.quoteTable key.table ++ " ADD CONSTRAINT " ++ a.quoteColumn key.name
    ++ " FOREIGN KEY (" ++ a.columnList key.columns ++ ") REFERENCES " ++ a.quoteTable key.refTable
    ++ " (" ++ a.columnList key.refColumns ++ ")" ++ actionClause "DELETE" key.onDelete
    ++ actionClause "UPDATE" key.onUpdate

/-- The number before `n`, or `n` itself where there is none. -/
def wordBefore (n : Int64) : Int64 :=
  if n = Int64.minValue then n else n - 1

/-- The statement after which a column counts on with a value. -/
def resetSequence (a : Adapter) (table column : String) (value : Int64) : String :=
  match a.dialect with
  | .mySql =>
    "ALTER TABLE " ++ a.quoteTable table ++ " AUTO_INCREMENT=" ++ Decimal.int64Text value
  | .postgreSql =>
    "SELECT SETVAL(pg_get_serial_sequence('" ++ a.dialect.escapeString table ++ "', '"
      ++ a.dialect.escapeString column ++ "'), " ++ Decimal.int64Text value ++ ", false)"
  | .sqlite =>
    "UPDATE sqlite_sequence SET seq=" ++ Decimal.int64Text (wordBefore value) ++ " WHERE name="
      ++ a.quoteString (a.rawTable table)

/-- The statement that switches the checking of foreign keys. -/
def checkIntegrity (a : Adapter) (enable : Bool) (schema table : Option String) : String :=
  match a.dialect, table with
  | .mySql, _ => "SET FOREIGN_KEY_CHECKS = " ++ (if enable then "1" else "0")
  | .sqlite, _ => "PRAGMA foreign_keys = " ++ (if enable then "ON" else "OFF")
  | .postgreSql, some table =>
    let table := schema.elim table fun schema => schema ++ "." ++ table
    "ALTER TABLE " ++ a.quoteTable table ++ (if enable then " ENABLE" else " DISABLE")
      ++ " TRIGGER ALL"
  | .postgreSql, none =>
    "SET session_replication_role = '" ++ (if enable then "origin" else "replica") ++ "'"

/-- The statement, unless the dialect is SQLite, which lacks the feature. -/
def unlessSqlite (a : Adapter) (feature : Feature) (sql : String) : Except QueryError String :=
  match a.dialect with
  | .sqlite => .error (.notSupported .sqlite feature)
  | _ => .ok sql

/-- The statement for a change of the schema. -/
def schemaStatement (a : Adapter) : SchemaChange → Except QueryError String
  | .createTable name body ifNotExists options => a.createTable name body ifNotExists options
  | .dropTable name ifExists cascade =>
    let sql := "DROP TABLE " ++ (if ifExists then "IF EXISTS " else "") ++ a.quoteTable name
    if cascade then a.unlessSqlite .cascadingDrop (sql ++ " CASCADE") else .ok sql
  | .renameTable oldName newName =>
    match a.dialect with
    | .mySql => .ok ("RENAME TABLE " ++ a.quoteTable oldName ++ " TO " ++ a.quoteTable newName)
    | _ => .ok ("ALTER TABLE " ++ a.quoteTable oldName ++ " RENAME TO " ++ a.quoteTable newName)
  | .truncateTable name =>
    match a.dialect with
    | .sqlite => .ok ("DELETE FROM " ++ a.quoteTable name)
    | _ => .ok ("TRUNCATE TABLE " ++ a.quoteTable name)
  | .addColumn table column definition =>
    .ok ("ALTER TABLE " ++ a.quoteTable table ++ " ADD COLUMN " ++ a.quoteColumn column ++ " "
      ++ a.dialect.columnType definition)
  | .alterColumn table column definition => a.alterColumn table column definition
  | .dropColumn table column =>
    .ok ("ALTER TABLE " ++ a.quoteTable table ++ " DROP COLUMN " ++ a.quoteColumn column)
  | .renameColumn table oldName newName => a.renameColumn table oldName newName
  | .addPrimaryKey name table columns =>
    a.unlessSqlite .primaryKeyAddition ("ALTER TABLE " ++ a.quoteTable table ++ " ADD CONSTRAINT "
      ++ a.quoteColumn name ++ " PRIMARY KEY (" ++ a.columnList columns ++ ")")
  | .dropPrimaryKey name table =>
    let head := "ALTER TABLE " ++ a.quoteTable table
    match a.dialect with
    | .mySql => .ok (head ++ " DROP PRIMARY KEY")
    | _ => a.unlessSqlite .primaryKeyRemoval (head ++ " DROP CONSTRAINT " ++ a.quoteColumn name)
  | .addForeignKey key => a.unlessSqlite .foreignKeyAddition (a.addForeignKey key)
  | .dropForeignKey name table =>
    let head := "ALTER TABLE " ++ a.quoteTable table
    match a.dialect with
    | .mySql => .ok (head ++ " DROP FOREIGN KEY " ++ a.quoteColumn name)
    | _ => a.unlessSqlite .foreignKeyRemoval (head ++ " DROP CONSTRAINT " ++ a.quoteColumn name)
  | .createIndex name table columns unique =>
    .ok ("CREATE " ++ (if unique then "UNIQUE " else "") ++ "INDEX " ++ a.quoteTable name ++ " ON "
      ++ a.quoteTable table ++ " (" ++ a.columnList columns ++ ")")
  | .dropIndex name table =>
    match a.dialect with
    | .mySql => .ok ("DROP INDEX " ++ a.quoteTable name ++ " ON " ++ a.quoteTable table)
    | _ => .ok ("DROP INDEX " ++ a.quoteTable name)
  | .resetSequence table column value => .ok (a.resetSequence table column value)
  | .checkIntegrity enable schema table => .ok (a.checkIntegrity enable schema table)

end Adapter

end SqlCompose
