import SqlCompose.Error
import SqlCompose.Value

/-!
# Connections to a database

A driver answers queries with rows. It may also quote string literals in its own way and tell the
time. Statements are composed without one; a driver matters where a live table has to be looked at.
-/

namespace SqlCompose

/-- A row of an answer: the columns with their values, in order. -/
structure Row where
  cells : List (String × Value)
  deriving DecidableEq, Inhabited

namespace Row

/-- The names of the columns. -/
def columns (r : Row) : List String :=
  r.cells.map (·.1)

/-- The values in the order of the columns. -/
def values (r : Row) : List Value :=
  r.cells.map (·.2)

/-- The value of the first column of a name, whatever the case of its letters. -/
def get? (r : Row) (column : String) : Option Value :=
  (r.cells.find? fun cell => Text.sameIgnoringCase cell.1 column).map (·.2)

/-- The text of a text column. -/
def text? (r : Row) (column : String) : Option String :=
  (r.get? column).bind Value.text?

/-- The text at a position. -/
def textAt? (r : Row) (index : Nat) : Option String :=
  r.values[index]?.bind Value.text?

/-- The whole number in a column. -/
def int? (r : Row) (column : String) : Option Int64 :=
  (r.get? column).bind Value.int?

/-- The flag in a column. -/
def bool? (r : Row) (column : String) : Option Bool :=
  (r.get? column).bind Value.bool?

/-- The plain text of a column's value. -/
def plain? (r : Row) (column : String) : Option String :=
  (r.get? column).bind Value.plain?

end Row

/-- A connection to a database. -/
structure Driver where
  name : String
  /-- All rows that a query finds. -/
  queryAll : String → Except QueryError (List Row)
  /-- Carries a statement out and counts the rows that it touched. -/
  execute : String → Except QueryError Nat
  /-- A string literal, if the connection has a quoting of its own. -/
  quoteString : String → Option String
  /-- The time of the database, if it tells. -/
  now : Except QueryError (Option DateTime)

namespace Driver

/-- The first row that a query finds. -/
def queryOne (d : Driver) (sql : String) : Except QueryError (Option Row) :=
  (d.queryAll sql).map (·.head?)

/-- The first column of the first row that a query finds. -/
def queryScalar (d : Driver) (sql : String) : Except QueryError (Option Value) :=
  (d.queryOne sql).map fun row => row.bind (·.values.head?)

end Driver

end SqlCompose
