import SqlCompose.Adapter
import SqlCompose.Condition.Basic
import SqlCompose.Condition.Key
import SqlCompose.Schema.Change

/-!
# Queries

A query is a statement in the making: what it does, and the clauses that say to which rows. Queries
nest: as operands of conditions and assignments, as columns and sources, and as the parts of a union.
A query of which nothing was said yet is a selection, but has no kind.
-/

namespace SqlCompose

/-- An aggregate function. -/
inductive AggregateFunction where
  | count
  | sum
  | avg
  | min
  | max
  deriving DecidableEq

/-- The name of an aggregate function. -/
def AggregateFunction.sql : AggregateFunction → String
  | .count => "COUNT"
  | .sum => "SUM"
  | .avg => "AVG"
  | .min => "MIN"
  | .max => "MAX"

/-- An aggregate over a column, a star or raw SQL. -/
structure Aggregation where
  function : AggregateFunction
  expression : String
  distinct : Bool
  aliasName : Option String
  deriving DecidableEq

/-- How rows of a joined table are paired. -/
inductive JoinKind where
  | inner
  | left
  | right
  | full
  | cross
  deriving DecidableEq

/-- The words for a join. -/
def JoinKind.sql : JoinKind → String
  | .inner => "INNER JOIN"
  | .left => "LEFT JOIN"
  | .right => "RIGHT JOIN"
  | .full => "FULL JOIN"
  | .cross => "CROSS JOIN"

/-- The condition of a join. -/
inductive JoinCondition where
  | none
  /-- Columns that are equal, pair by pair. -/
  | columns (pairs : List (String × String))
  /-- Raw SQL, which may hold placeholders. -/
  | raw (sql : String)
  deriving DecidableEq

/-- Whether a join has no condition to write. -/
def JoinCondition.isEmpty : JoinCondition → Bool
  | .none => true
  | .columns pairs => pairs.isEmpty
  | .raw sql => Text.isBlankText sql

/-- The order of rows along an expression. -/
inductive Direction where
  | ascending
  | descending
  deriving DecidableEq

/-- The word for a direction. -/
def Direction.sql : Direction → String
  | .ascending => "ASC"
  | .descending => "DESC"

/-- What rows are ordered by. -/
inductive OrderKey where
  | column (name : String)
  /-- The random function of the dialect. -/
  | random
  deriving DecidableEq

/-- An entry of an ordering. -/
structure OrderBy where
  key : OrderKey
  direction : Direction
  /-- Written behind the direction, such as `NULLS LAST`. -/
  modifier : Option String
  deriving DecidableEq

mutual

/-- What a field is compared with, or what a column is set to. -/
inductive Operand where
  | value (v : Value)
  | list (vs : List Value)
  | query (q : Query)
  /-- Raw SQL of a query, which may hold placeholders. -/
  | raw (sql : String)

/-- A leaf of a condition: the comparison of a field by a lookup, the default one if none is named. -/
structure Test where
  field : String
  operator : Option String
  operand : Operand

/-- A column of an answer. -/
inductive Selected where
  /-- A column name, a star or an expression. -/
  | column (name : String)
  | aggregate (a : Aggregation)
  | query (q : Query)
  /-- Raw SQL of a query, which may hold placeholders. -/
  | raw (sql : String)

/-- A column of an answer, possibly under another name. -/
structure SelectColumn where
  expr : Selected
  aliasName : Option String

/-- Where rows come from. -/
inductive Source where
  | table (name : String)
  | query (q : Query)
  /-- Raw SQL of a query, which may hold placeholders. -/
  | raw (sql : String)

/-- A source, possibly under another name. -/
structure TableRef where
  source : Source
  aliasName : Option String

/-- A joined source. -/
structure Join where
  kind : JoinKind
  target : Source
  condition : JoinCondition
  aliasName : Option String

/-- A column and what it is set to. -/
structure Assignment where
  column : String
  operand : Operand

/-- What a query does. -/
inductive Statement where
  | select
  | insert (table : String) (columns : List String) (rows : List (List Value))
  | update (table : String) (assignments : List Assignment)
  | delete
  | schema (change : SchemaChange)

/-- A query whose rows are added; with `all` they are kept even if they are there already. -/
structure UnionPart where
  query : Query
  all : Bool

/-- A statement in the making. -/
structure Query where
  adapter : Adapter
  /-- Set along with the statement by what says what the query does. -/
  kind : QueryKind
  statement : Statement
  columns : List SelectColumn
  distinct : Bool
  sources : List TableRef
  joins : List Join
  wheres : List (Condition Test)
  groupBy : List String
  havings : List (Condition Test)
  orderBy : List OrderBy
  limit : Option UInt64
  offset : Option UInt64
  unions : List UnionPart

end

/-- The kind of a schema change. -/
def SchemaChange.kind : SchemaChange → QueryKind
  | .createTable .. => .createTable
  | .dropTable .. => .dropTable
  | .truncateTable .. => .truncateTable
  | .createIndex .. => .createIndex
  | .dropIndex .. => .dropIndex
  | .resetSequence .. => .maintenance
  | .checkIntegrity .. => .maintenance
  | .renameTable .. => .alterTable
  | .addColumn .. => .alterTable
  | .alterColumn .. => .alterTable
  | .dropColumn .. => .alterTable
  | .renameColumn .. => .alterTable
  | .addPrimaryKey .. => .alterTable
  | .dropPrimaryKey .. => .alterTable
  | .addForeignKey .. => .alterTable
  | .dropForeignKey .. => .alterTable

/-- The kind that belongs to a statement. -/
def Statement.kind : Statement → QueryKind
  | .select => .select
  | .insert .. => .insert
  | .update .. => .update
  | .delete => .delete
  | .schema change => change.kind

/-- Whether a statement selects rows. -/
def Statement.isSelect : Statement → Bool
  | .select => true
  | _ => false

/-- A condition on the field that a key names. -/
def Test.ofKey (key : String) (operand : Operand) : Test :=
  let key := Key.parse key
  ⟨key.field, key.operator, operand⟩

/-- Conditions on fields that all hold. -/
def Condition.ofPairs (pairs : List (String × Operand)) : Condition Test :=
  .all (pairs.map fun (key, operand) => .leaf (Test.ofKey key operand))

end SqlCompose
