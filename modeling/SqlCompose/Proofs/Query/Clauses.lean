import SqlCompose.Query.Render

/-!
# The clauses of a query

The rendering of a query, put together from renderings of its clauses (`Query.rendering_eq`). What
is proved of each clause alone can so be carried over to the query.
-/

namespace SqlCompose.Query

variable (q : Query) (a : Adapter)

/-- What is selected; everything, if no column is named. -/
def selectList : Rendering :=
  if q.columns.isEmpty then .text "*"
  else Rendering.joinWith ", " (SelectColumn.renderings a q.columns)

/-- The sources behind their keyword. -/
def fromClause : Rendering :=
  if q.sources.isEmpty then .empty
  else .text " FROM " ++ Rendering.joinWith ", " (TableRef.renderings a q.sources)

/-- The conditions on rows behind their keyword. -/
def whereClause : Rendering :=
  Condition.clauseRendering " WHERE " (Condition.renderings a q.wheres)

/-- The columns of groups behind their keyword. -/
def groupClause : Rendering :=
  .text (listClause " GROUP BY " (q.groupBy.map a.quoteColumn))

/-- The conditions on groups behind their keyword. -/
def havingClause : Rendering :=
  Condition.clauseRendering " HAVING " (Condition.renderings a q.havings)

/-- The selection that a query makes, without its unions. -/
def selection : Rendering :=
  .text (if q.distinct then "SELECT DISTINCT " else "SELECT ") ++ q.selectList a ++ q.fromClause a
    ++ Join.renderings a q.joins ++ q.whereClause a ++ q.groupClause a ++ q.havingClause a
    ++ .text (q.orderAndPaging a)

/-- A query that selects is rendered as its selection with its unions, and any other query, which
has no unions, as its statement. -/
theorem rendering_eq : q.rendering a =
    if q.statement.isSelect then
      if q.unions.isEmpty then q.selection a
      else a.unionPart (q.selection a) q.hasOrderOrPaging ++ UnionPart.renderings a q.unions
    else if !q.unions.isEmpty then .fail (.incomplete .unionWithoutSelect)
    else q.statement.rendering a q.deletionTable? (q.whereClause a) := by
  cases q
  rw [Query.rendering]
  rfl

end SqlCompose.Query
