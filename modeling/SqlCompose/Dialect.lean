/-!
# Dialects

The SQL dialects that statements are written in, and the names by which they are known.
-/

namespace SqlCompose

/-- A SQL dialect. -/
inductive Dialect where
  /-- MySQL and MariaDB. -/
  | mySql
  | postgreSql
  /-- SQLite 3. -/
  | sqlite
  deriving DecidableEq, Inhabited

namespace Dialect

/-- The name of the dialect, which is also the name of its connections. -/
def name : Dialect → String
  | .mySql => "mysql"
  | .postgreSql => "pgsql"
  | .sqlite => "sqlite"

/-- The dialect with a given name; some have several. Letter case matters. -/
def ofName? : String → Option Dialect
  | "mysql" | "mariadb" => some .mySql
  | "pgsql" | "postgres" | "postgresql" => some .postgreSql
  | "sqlite" | "sqlite3" => some .sqlite
  | _ => none

/-- Every dialect is known by its own name. -/
theorem ofName?_name (d : Dialect) : ofName? d.name = some d := by
  cases d <;> rfl

/-- The character around quoted identifiers. -/
def quoteChar : Dialect → Char
  | .mySql => '\x60'
  | .postgreSql => '"'
  | .sqlite => '\x60'

end Dialect

end SqlCompose
