import SqlCompose.Adapter
import SqlCompose.Document.Reader
import SqlCompose.Schema.Change

/-!
# Settings

Which adapter to use may be written in a configuration, or follow from the name of a connection. In
documents a dialect has its own name or one of a few others, exactly as they are written; from text
that a person may have typed, blanks and letter case are taken away first.
-/

namespace SqlCompose

namespace Dialect

/-- The dialect that a text names. -/
def parse (text : String) : Except QueryError Dialect :=
  let name := Text.asciiLower (Text.trimmed text)
  match ofName? name with
  | some d => .ok d
  | none => .error (.unknownSource name)

/-- The dialect that a document names. -/
def ofDocument? (d : Document) : Option Dialect :=
  match d.caseName? with
  | some "mysql" => some .mySql
  | some "pgsql" => some .postgreSql
  | some "postgres" => some .postgreSql
  | some "postgresql" => some .postgreSql
  | some "sqlite" => some .sqlite
  | some "sqlite3" => some .sqlite
  | _ => none

/-- The dialect as a document. -/
def toDocument (d : Dialect) : Document :=
  .text d.name

end Dialect

namespace ForeignKeyAction

/-- The action that a document names. -/
def ofDocument? (d : Document) : Option ForeignKeyAction :=
  match d.caseName? with
  | some "no_action" => some .noAction
  | some "restrict" => some .restrict
  | some "cascade" => some .cascade
  | some "set_null" => some .setNull
  | some "set_default" => some .setDefault
  | _ => none

/-- The action as a document. -/
def toDocument : ForeignKeyAction → Document
  | .noAction => .text "no_action"
  | .restrict => .text "restrict"
  | .cascade => .text "cascade"
  | .setNull => .text "set_null"
  | .setDefault => .text "set_default"

/-- An action is read back as it was written. -/
theorem ofDocument?_toDocument (a : ForeignKeyAction) : ofDocument? a.toDocument = some a := by
  cases a <;> rfl

end ForeignKeyAction

/-- What an adapter is made from apart from its dialect. -/
structure AdapterOptions where
  tablePrefix : String
  deriving DecidableEq

namespace AdapterOptions

/-- The options that a document gives; there is no prefix unless one is given. -/
def ofDocument? (d : Document) : Option AdapterOptions := do
  match ← d.fields? ["table_prefix"] 0 with
  | [tablePrefix] => some ⟨← (tablePrefix.getD (.text "")).text?⟩
  | _ => none

/-- The options as a document. -/
def toDocument (o : AdapterOptions) : Document :=
  .record [("table_prefix", .text o.tablePrefix)]

end AdapterOptions

/-- A dialect and the prefix of table names. -/
structure Settings where
  dialect : Dialect
  tablePrefix : String
  deriving DecidableEq

namespace Settings

/-- The settings that a document gives; there is no prefix unless one is given. -/
def ofDocument? (d : Document) : Option Settings := do
  match ← d.fields? ["dialect", "table_prefix"] 1 with
  | [dialect, tablePrefix] =>
    some ⟨← Dialect.ofDocument? (← dialect), ← (tablePrefix.getD (.text "")).text?⟩
  | _ => none

/-- The settings as a document. -/
def toDocument (s : Settings) : Document :=
  .record [("dialect", s.dialect.toDocument), ("table_prefix", .text s.tablePrefix)]

/-- The adapter for the settings, without a connection. -/
def adapter (s : Settings) : Adapter :=
  Adapter.ofDialect s.dialect s.tablePrefix none

end Settings

/-- The adapter for a connection, by the name of the connection. -/
def Adapter.ofDriver (d : Driver) (tablePrefix : String) : Except QueryError Adapter :=
  (Dialect.parse d.name).map fun dialect => Adapter.ofDialect dialect tablePrefix (some d)

end SqlCompose
