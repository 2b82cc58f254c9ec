import SqlCompose.Adapter
import SqlCompose.Catalog.MySql
import SqlCompose.Catalog.PostgreSql
import SqlCompose.Catalog.Sqlite

/-!
# Reflected tables

A loader knows how a dialect describes its tables. A reflector keeps the tables that it has loaded,
so that each is asked for once; it does not notice changes until it is told to look again. Its tables
come from the loader of a dialect, or from anything else that can load tables over a connection.
-/

namespace SqlCompose.Catalog

/-- How tables are asked for. -/
inductive Loader where
  | sqlite
  | postgreSql (defaultSchema : String)
  | mySql
  deriving DecidableEq

namespace Loader

/-- The loader of a dialect. -/
def ofDialect : Dialect → Loader
  | .mySql => .mySql
  | .postgreSql => .postgreSql "public"
  | .sqlite => .sqlite

/-- A table, if there is one of that name. -/
def table : Loader → String → Inquiry (Option Table)
  | .sqlite, name => Sqlite.table name
  | .postgreSql schema, name => PostgreSql.table schema name
  | .mySql, name => MySql.table name

/-- The names of the tables. -/
def tableNames : Loader → Inquiry (List String)
  | .sqlite => Sqlite.tableNames
  | .postgreSql schema => PostgreSql.tableNames schema
  | .mySql => MySql.tableNames

/-- The indexes of a table. -/
def indexes : Loader → String → Inquiry (NameMap Index)
  | .sqlite, name => Sqlite.indexes name
  | .postgreSql defaultSchema, name =>
    let (schema, table) := PostgreSql.split defaultSchema name
    PostgreSql.indexes schema table
  | .mySql, name => MySql.indexes name

/-- The columns of the unique indexes of a table. -/
def uniqueIndexes (l : Loader) (table : String) : Inquiry (NameMap (List String)) := do
  let indexes ← l.indexes table
  pure (uniqueOnly indexes)

end Loader

/-- Anything that loads tables over a connection, with the queries that it sends for them. -/
structure TableLoader where
  /-- A table, if there is one of that name. -/
  table : Driver → String → Transcript (Option Table)
  /-- The names of the tables. -/
  tableNames : Driver → Transcript (List String)
  /-- The columns of the unique indexes of a table. -/
  uniqueIndexes : Driver → String → Transcript (NameMap (List String))

/-- The loader of a dialect carries out its inquiries. -/
def Loader.tableLoader (l : Loader) : TableLoader where
  table d name := (l.table name).run d
  tableNames d := l.tableNames.run d
  uniqueIndexes d table := (l.uniqueIndexes table).run d

instance : Coe Loader TableLoader := ⟨Loader.tableLoader⟩

/-- A loader with the tables that it has loaded. -/
structure Reflector where
  loader : TableLoader
  tables : NameMap Table

namespace Reflector

/-- A reflector that has loaded nothing yet. -/
def new (loader : TableLoader) : Reflector := ⟨loader, {}⟩

/-- The connection of an adapter, and a reflector for it. -/
def ofAdapter (a : Adapter) : Except QueryError (Driver × Reflector) :=
  match a.driver with
  | some d => .ok (d, new (Loader.ofDialect a.dialect))
  | none => .error (.incomplete (.noDriver a.dialect))

/-- Whether a table is kept. -/
def isCached (r : Reflector) (name : String) : Bool :=
  r.tables.contains name

/-- Forgets all tables. -/
def refresh (r : Reflector) : Reflector :=
  { r with tables := {} }

/-- Forgets a table. -/
def refreshTable (r : Reflector) (name : String) : Reflector :=
  { r with tables := r.tables.erase name }

/-- Loads a table and keeps it, if there is one. -/
def load (r : Reflector) (d : Driver) (name : String) : Transcript (Option Table) × Reflector :=
  let transcript := r.loader.table d name
  match transcript.outcome with
  | .ok (some table) => (transcript, { r with tables := r.tables.insert name table })
  | _ => (transcript, r)

/-- A table, from those that are kept or else from the database. With `again` it is forgotten first,
and stays forgotten if it cannot be loaded. -/
def table (r : Reflector) (d : Driver) (name : String) (again : Bool) :
    Transcript (Option Table) × Reflector :=
  if again then (r.refreshTable name).load d name
  else
    match r.tables.get? name with
    | some table => (⟨[], .ok (some table)⟩, r)
    | none => r.load d name

/-- The columns of the unique indexes of a table, always from the database. -/
def uniqueIndexes (r : Reflector) (d : Driver) (table : String) :
    Transcript (NameMap (List String)) :=
  r.loader.uniqueIndexes d table

/-- The names of the tables, always from the database. -/
def tableNames (r : Reflector) (d : Driver) : Transcript (List String) :=
  r.loader.tableNames d

end Reflector

end SqlCompose.Catalog
