import SqlCompose.Query.SelectList

/-!
# Putting queries together

Each verb sets or extends one part of a query and leaves the others alone. The verbs that say what
the query does (`asSelect`, `asDelete`, `insert`, `update`, `schema`) replace one another.
-/

namespace SqlCompose.Query

/-- A query of which nothing is said yet. -/
def new (adapter : Adapter) : Query where
  adapter := adapter
  kind := .uninitialized
  statement := .select
  columns := []
  distinct := false
  sources := []
  joins := []
  wheres := []
  groupBy := []
  havings := []
  orderBy := []
  limit := none
  offset := none
  unions := []

/-- The query through another adapter. -/
def withAdapter (q : Query) (adapter : Adapter) : Query :=
  { q with adapter := adapter }

/-! ## What the query does -/

/-- Selects rows. -/
def asSelect (q : Query) : Query :=
  { q with kind := .select, statement := .select }

/-- Deletes rows of the first source. -/
def asDelete (q : Query) : Query :=
  { q with kind := .delete, statement := .delete }

/-- Inserts rows of values for columns. -/
def insert (q : Query) (table : String) (columns : List String) (rows : List (List Value)) :
    Query :=
  { q with kind := .insert, statement := .insert table columns rows }

/-- Sets columns of the rows that the conditions admit. -/
def update (q : Query) (table : String) (assignments : List Assignment) : Query :=
  { q with kind := .update, statement := .update table assignments }

/-- Changes the schema. -/
def schema (q : Query) (change : SchemaChange) : Query :=
  { q with kind := change.kind, statement := .schema change }

/-! ## Columns -/

/-- One more column. -/
def addColumn (q : Query) (column : SelectColumn) : Query :=
  { q with columns := q.columns ++ [column] }

/-- The columns of a select list behind the others. -/
def addSelect (q : Query) (list : String) : Query :=
  { q with columns := q.columns ++ SelectList.parse list }

/-- The columns of a select list in the place of all others. -/
def select (q : Query) (list : String) : Query :=
  { q with columns := SelectList.parse list }

/-- Drops rows that are there already. -/
def onlyDistinct (q : Query) : Query :=
  { q with distinct := true }

/-! ## Sources -/

/-- One more source. -/
def addSource (q : Query) (source : Source) (aliasName : Option String) : Query :=
  { q with sources := q.sources ++ [⟨source, aliasName⟩] }

/-- A source in the place of all others. -/
def source (q : Query) (source : Source) (aliasName : Option String) : Query :=
  { q with sources := [⟨source, aliasName⟩] }

/-- One more join. -/
def join (q : Query) (join : Join) : Query :=
  { q with joins := q.joins ++ [join] }

/-! ## Conditions -/

/-- A condition on rows in the place of all others. -/
def setWhere (q : Query) (c : Condition Test) : Query :=
  { q with wheres := [c] }

/-- One more condition on rows. -/
def addWhere (q : Query) (c : Condition Test) : Query :=
  { q with wheres := q.wheres ++ [c] }

/-- Leaves out the rows for which a condition holds. -/
def exclude (q : Query) (c : Condition Test) : Query :=
  q.addWhere (.not c)

/-- A condition on groups in the place of all others. -/
def setHaving (q : Query) (c : Condition Test) : Query :=
  { q with havings := [c] }

/-- One more condition on groups. -/
def addHaving (q : Query) (c : Condition Test) : Query :=
  { q with havings := q.havings ++ [c] }

/-! ## Groups, order and paging -/

/-- Groups rows by columns. -/
def setGroupBy (q : Query) (columns : List String) : Query :=
  { q with groupBy := columns }

/-- Orders rows by columns given as text. -/
def setOrderBy (q : Query) (columns : List String) : Query :=
  { q with orderBy := columns.map OrderBy.parse }

/-- Orders rows by columns given as text, with a modifier behind each that is not blank. -/
def setOrderByWith (q : Query) (columns : List String) (modifier : String) : Query :=
  let modifier := if Text.isBlankText modifier then none else some (Text.trimmed modifier)
  { q with orderBy := columns.map fun c => { OrderBy.parse c with modifier := modifier } }

/-- Orders rows at random. -/
def orderAtRandom (q : Query) : Query :=
  { q with orderBy := [OrderBy.atRandom] }

/-- Bounds the number of rows; zero lifts the bound. -/
def setLimit (q : Query) (n : UInt64) : Query :=
  { q with limit := if n = 0 then none else some n }

/-- Skips rows; zero skips none. -/
def setOffset (q : Query) (n : UInt64) : Query :=
  { q with offset := if n = 0 then none else some n }

/-- Adds the rows of another query. -/
def union (q other : Query) (all : Bool) : Query :=
  { q with unions := q.unions ++ [⟨other, all⟩] }

/-- Whether the query has an order or a paging of its own. -/
def hasOrderOrPaging (q : Query) : Bool :=
  !q.orderBy.isEmpty || q.limit.isSome || q.offset.isSome

end SqlCompose.Query
