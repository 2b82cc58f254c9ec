import SqlCompose.Lookup.Standard

/-!
# Adapters

An adapter is what a statement is written through: a dialect, the prefix of table names, the lookups
that conditions may name, and possibly a connection.
-/

namespace SqlCompose

/-- A dialect with its settings. -/
structure Adapter where
  dialect : Dialect
  /-- Put in the place of the percent sign in table placeholders. -/
  tablePrefix : String
  driver : Option Driver
  lookups : Registry

namespace Adapter

/-- The adapter of a dialect, with the standard lookups. -/
def ofDialect (dialect : Dialect) (tablePrefix : String) (driver : Option Driver) : Adapter :=
  ⟨dialect, tablePrefix, driver, Lookup.standard⟩

/-- The adapter with one more lookup, or another one under a name. -/
def withLookup (a : Adapter) (name : String) (lookup : Lookup) : Adapter :=
  { a with lookups := a.lookups.insert name lookup }

/-- What a lookup sees of the adapter. -/
def profile (a : Adapter) : Profile :=
  ⟨a.dialect, a.tablePrefix, a.driver⟩

/-- The name of the dialect. -/
def name (a : Adapter) : String :=
  a.dialect.name

/-- The character around quoted identifiers. -/
def quoteChar (a : Adapter) : Char :=
  a.dialect.quoteChar

end Adapter

end SqlCompose
