import SqlCompose.Decimal.Integer
import SqlCompose.Document.Reader
import SqlCompose.Text.Blank
import SqlCompose.Text.Word

/-!
# Descriptions of tables

A table as the database reports it: columns in their order, the primary key, and foreign keys and
indexes by name.
-/

namespace SqlCompose.Catalog

/-- A column of a table. -/
structure Column where
  name : String
  /-- The type as the database words it. -/
  dbType : String
  /-- The size or precision of the type. -/
  size : Option UInt32
  nullable : Bool
  primaryKey : Bool
  /-- The expression for a missing value. -/
  defaultText : Option String
  deriving DecidableEq

/-- A reference to another table, column by column. -/
structure Reference where
  columns : List String
  refTable : String
  refColumns : List String
  deriving DecidableEq

/-- An index. -/
structure Index where
  columns : List String
  unique : Bool
  deriving DecidableEq

/-- A table. -/
structure Table where
  name : String
  columns : List Column
  /-- The columns of the primary key in the order of the key. -/
  primaryKey : List String
  foreignKeys : NameMap Reference
  indexes : NameMap Index

/-- The digits behind the first parenthesis that has some, with blanks between them or none. -/
def digitsInParens? : List Char → Option (List Char)
  | [] => none
  | c :: cs =>
    let digits := (Text.trimStart cs).takeWhile Text.isAnyDigit
    if c = '(' && !digits.isEmpty then some digits else digitsInParens? cs

/-- The size in a type such as `varchar(128)`. -/
def sizeOf? (dbType : String) : Option UInt32 :=
  match (digitsInParens? dbType.toList).bind Decimal.readNat? with
  | some n => if n < UInt32.size then some n.toUInt32 else none
  | none => none

/-- A nullable column outside the primary key, with the size that its type shows. -/
def Column.new (name dbType : String) : Column :=
  ⟨name, dbType, sizeOf? dbType, true, false, none⟩

namespace Table

/-- A table without columns. -/
def new (name : String) : Table :=
  ⟨name, [], [], {}, {}⟩

/-- The column of a name. -/
def column? (t : Table) (name : String) : Option Column :=
  t.columns.find? fun c => c.name == name

/-- The names of the columns. -/
def columnNames (t : Table) : List String :=
  t.columns.map (·.name)

/-- The table with a primary key, which its columns know to belong to. -/
def withPrimaryKey (t : Table) (key : List String) : Table :=
  { t with
    primaryKey := key
    columns := t.columns.map fun c => { c with primaryKey := key.contains c.name } }

end Table

/-! ## As documents -/

open Document in
/-- A text or null. -/
def optionDocument : Option String → Document
  | some s => .text s
  | none => .null

/-- A list of texts. -/
def textsDocument (texts : List String) : Document :=
  .list (texts.map .text)

/-- A record of the values of a map. -/
def mapDocument {α : Type} (write : α → Document) (m : NameMap α) : Document :=
  .record (m.entries.map fun e => (e.1, write e.2))

namespace Column

/-- The column as a document. -/
def toDocument (c : Column) : Document :=
  .record [
    ("name", .text c.name),
    ("db_type", .text c.dbType),
    ("size", match c.size with | some n => .integer n.toNat | none => .null),
    ("nullable", .bool c.nullable),
    ("primary_key", .bool c.primaryKey),
    ("default", optionDocument c.defaultText)]

/-- The column that a document describes. -/
def ofDocument? (d : Document) : Option Column := do
  match ← d.fields? ["name", "db_type", "size", "nullable", "primary_key", "default"] 6 with
  | [name, dbType, size, nullable, primaryKey, default'] =>
    some {
      name := ← (← name).text?
      dbType := ← (← dbType).text?
      size := ← (size.getD .null).orNull? Document.word?
      nullable := ← (← nullable).bool?
      primaryKey := ← (← primaryKey).bool?
      defaultText := ← (default'.getD .null).orNull? Document.text? }
  | _ => none

end Column

namespace Reference

/-- The reference as a document. -/
def toDocument (r : Reference) : Document :=
  .record [
    ("columns", textsDocument r.columns),
    ("ref_table", .text r.refTable),
    ("ref_columns", textsDocument r.refColumns)]

/-- The reference that a document describes. -/
def ofDocument? (d : Document) : Option Reference := do
  match ← d.fields? ["columns", "ref_table", "ref_columns"] 3 with
  | [columns, refTable, refColumns] =>
    some {
      columns := ← (← columns).listOf? Document.text?
      refTable := ← (← refTable).text?
      refColumns := ← (← refColumns).listOf? Document.text? }
  | _ => none

end Reference

namespace Index

/-- The index as a document. -/
def toDocument (i : Index) : Document :=
  .record [("columns", textsDocument i.columns), ("unique", .bool i.unique)]

/-- The index that a document describes. -/
def ofDocument? (d : Document) : Option Index := do
  match ← d.fields? ["columns", "unique"] 2 with
  | [columns, unique] =>
    some { columns := ← (← columns).listOf? Document.text?, unique := ← (← unique).bool? }
  | _ => none

end Index

namespace Table

/-- The table as a document. -/
def toDocument (t : Table) : Document :=
  .record [
    ("name", .text t.name),
    ("columns", .list (t.columns.map Column.toDocument)),
    ("primary_key", textsDocument t.primaryKey),
    ("foreign_keys", mapDocument Reference.toDocument t.foreignKeys),
    ("indexes", mapDocument Index.toDocument t.indexes)]

/-- The table that a document describes. -/
def ofDocument? (d : Document) : Option Table := do
  match ← d.fields? ["name", "columns", "primary_key", "foreign_keys", "indexes"] 5 with
  | [name, columns, primaryKey, foreignKeys, indexes] =>
    some {
      name := ← (← name).text?
      columns := ← (← columns).listOf? Column.ofDocument?
      primaryKey := ← (← primaryKey).listOf? Document.text?
      foreignKeys := ← (← foreignKeys).mapOf? Reference.ofDocument?
      indexes := ← (← indexes).mapOf? Index.ofDocument? }
  | _ => none

end Table

end SqlCompose.Catalog
