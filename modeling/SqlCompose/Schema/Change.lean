import SqlCompose.Text.Blank

/-!
# Schema changes

What can be done to the schema of a database: tables, columns, keys, indexes and sequences are made,
changed and dropped, and the checking of foreign keys is switched.
-/

namespace SqlCompose

/-- What becomes of a row whose referenced row is deleted or changed. -/
inductive ForeignKeyAction where
  | noAction
  | restrict
  | cascade
  | setNull
  | setDefault
  deriving DecidableEq

/-- The words for an action. -/
def ForeignKeyAction.sql : ForeignKeyAction → String
  | .noAction => "NO ACTION"
  | .restrict => "RESTRICT"
  | .cascade => "CASCADE"
  | .setNull => "SET NULL"
  | .setDefault => "SET DEFAULT"

/-- One line of a table definition. -/
inductive TableElement where
  /-- A column with its type and modifiers. -/
  | column (name definition : String)
  /-- A raw line, such as a constraint. -/
  | constraint (sql : String)
  deriving DecidableEq

/-- What follows the name of a new table. -/
inductive TableBody where
  | elements (lines : List TableElement)
  /-- Raw SQL, such as a query. -/
  | raw (sql : String)
  deriving DecidableEq

/-- A foreign key to be added. -/
structure ForeignKey where
  name : String
  table : String
  columns : List String
  refTable : String
  refColumns : List String
  onDelete : Option ForeignKeyAction
  onUpdate : Option ForeignKeyAction
  deriving DecidableEq

/-- A change of the schema. -/
inductive SchemaChange where
  | createTable (name : String) (body : TableBody) (ifNotExists : Bool) (options : Option String)
  | dropTable (name : String) (ifExists cascade : Bool)
  | renameTable (oldName newName : String)
  | truncateTable (name : String)
  | addColumn (table column definition : String)
  | alterColumn (table column definition : String)
  | dropColumn (table column : String)
  | renameColumn (table oldName newName : String)
  | addPrimaryKey (name table : String) (columns : List String)
  | dropPrimaryKey (name table : String)
  | addForeignKey (key : ForeignKey)
  | dropForeignKey (name table : String)
  | createIndex (name table : String) (columns : List String) (unique : Bool)
  | dropIndex (name table : String)
  /-- Sets the next value that a column counts on with. -/
  | resetSequence (table column : String) (value : Int64)
  /-- Switches the checking of foreign keys, for one table where the dialect allows it. -/
  | checkIntegrity (enable : Bool) (schema table : Option String)
  deriving DecidableEq

/-- Options that are not blank. -/
def tableOptions (options : Option String) : Option String :=
  options.filter fun o => !Text.isBlankText o

end SqlCompose
