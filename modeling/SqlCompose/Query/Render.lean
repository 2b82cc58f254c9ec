import SqlCompose.Binding
import SqlCompose.Paging
import SqlCompose.Query.Verbs
import SqlCompose.Schema.Statement

/-!
# Rendering queries

A query is rendered through one adapter, and so are all queries nested in it, whatever adapters they
were made with. Clauses are written in the order in which they are read, each with the parameters that
those in front of it left behind, so values are collected in the order of their placeholders. What is
left out where it is empty, is left out because nothing was written for it.

`Query.toSql` writes the values as literals, `Query.build` as placeholders.
-/

namespace SqlCompose

namespace Adapter

/-- A text with an alias behind it, if there is one. -/
def withAlias (r : Rendering) : Option String → Rendering
  | some name => r ++ .text (" AS " ++ name)
  | none => r

/-- The function that orders rows at random. -/
def randomOrder (a : Adapter) : String :=
  match a.dialect with
  | .mySql => "RAND()"
  | _ => "RANDOM()"

/-- An entry of an ordering. -/
def orderText (a : Adapter) (o : OrderBy) : String :=
  let text :=
    match o.key with
    | .column name => a.quoteColumn name ++ " " ++ o.direction.sql
    | .random => a.randomOrder
  match o.modifier with
  | some modifier => text ++ " " ++ modifier
  | none => text

/-- An aggregate without its alias. -/
def aggregateText (a : Adapter) (g : Aggregation) : String :=
  g.function.sql ++ "(" ++ (if g.distinct then "DISTINCT " else "")
    ++ a.quoteColumn (Text.trimmed g.expression) ++ ")"

/-- An aggregate with its alias. -/
def aggregateColumn (a : Adapter) (g : Aggregation) : String :=
  match g.aliasName with
  | some name => a.aggregateText g ++ " AS " ++ a.quoteColumn name
  | none => a.aggregateText g

/-- The condition of a join, if there is one. -/
def joinConditionText (a : Adapter) (c : JoinCondition) : String :=
  let condition :=
    match c with
    | .none => ""
    | .columns pairs =>
      " AND ".intercalate
        (pairs.map fun (left, right) => a.quoteColumn left ++ "=" ++ a.quoteColumn right)
    | .raw sql => a.quoteSql (Text.trimmed sql)
  if condition = "" then "" else " ON " ++ condition

/-- What forbids a join before its target is looked at. -/
def joinFault (a : Adapter) (kind : JoinKind) (c : JoinCondition) : Option QueryError :=
  if kind = .full ∧ a.dialect = .mySql then some (.notSupported .mySql .fullJoin)
  else if kind = .cross ∧ !c.isEmpty then some (.invalidFilter .conditionOnCrossJoin)
  else none

/-- One part of a union. `compound` says that it has an order, a paging or a union of its own. SQLite
knows no parentheses here, and wraps such a part into a selection. -/
def unionPart (a : Adapter) (r : Rendering) (compound : Bool) : Rendering :=
  match a.dialect with
  | .sqlite => if compound then .text "SELECT * FROM " ++ r.paren else r
  | _ => r.paren

/-- A row of values, which has to be as long as the list of columns. -/
def rowRendering (a : Adapter) (table : String) (columns : Nat) (row : List Value) : Rendering :=
  if row.length = columns then (a.values row).paren
  else .fail (.incomplete (.rowLength table columns row.length))

/-- The insertion of rows. -/
def insertRendering (a : Adapter) (table : String) (columns : List String)
    (rows : List (List Value)) : Rendering :=
  if columns.isEmpty || rows.isEmpty then .fail (.incomplete (.insertWithoutRows table))
  else
    .text ("INSERT INTO " ++ a.quoteTable table ++ " (" ++ a.columnList columns ++ ") VALUES ")
      ++ Rendering.joinWith ", " (rows.map (a.rowRendering table columns.length))

end Adapter

namespace Condition

/-- The parts of a group, with a glue between neighbours, and in parentheses if there are several
inside another group. -/
def groupRendering (glue : String) (nested : Bool) (parts : List Rendering) : Rendering :=
  let group := Rendering.joinWith glue parts
  if nested && 1 < parts.length then group.paren else group

/-- The negation of what is written, if anything is. -/
def notText (text : String) : String :=
  if text = "" then "" else "NOT (" ++ text ++ ")"

/-- The text of a clause with another condition behind those that are written already. The first
one stands as it is, the later ones in parentheses, and what is empty is left out. -/
def conjoinedText (clause condition : String) : String :=
  if condition = "" then clause
  else if clause = "" then condition
  else clause ++ " AND (" ++ condition ++ ")"

/-- The conditions of a clause, behind those that are written already. -/
def conjunctionRendering (clause : String) : List Rendering → Rendering
  | [] => .text clause
  | r :: rs => r.bind fun condition => conjunctionRendering (conjoinedText clause condition) rs

/-- A clause of conditions behind its keyword; it is left out if nothing is written in it. -/
def clauseRendering (keyword : String) (rs : List Rendering) : Rendering :=
  (conjunctionRendering "" rs).map fun clause => if clause = "" then "" else keyword ++ clause

end Condition

/-- A keyword with entries behind it, or nothing where there are none. -/
def listClause (keyword : String) : List String → String
  | [] => ""
  | entries => keyword ++ ", ".intercalate entries

namespace Query

/-- The table that a deletion touches. -/
def deletionTable? (q : Query) : Option String :=
  match q.sources with
  | ⟨.table name, _⟩ :: _ => some name
  | _ => none

/-- The clauses behind the conditions on groups. -/
def orderAndPaging (q : Query) (a : Adapter) : String :=
  let paging := a.dialect.limitOffset q.limit q.offset
  listClause " ORDER BY " (q.orderBy.map a.orderText)
    ++ (if paging.isEmpty then "" else " " ++ paging)

end Query

mutual

/-- What a lookup is given of an operand. A query in it is written through the adapter of the
statement, but it also has its own adapter. -/
def Operand.comparand (a : Adapter) : Operand → Comparand
  | .value v => .value v
  | .list vs => .list vs
  | .query q =>
    .query {
      kind := q.kind
      rendering := q.rendering a
      origin := {
        adapter := q.adapter.profile
        toSql := Thunk.mk fun _ => (q.rendering q.adapter).inlineText
        build := Thunk.mk fun _ => (q.rendering q.adapter).boundText } }
  | .raw sql => .raw sql

/-- The comparison that a leaf stands for. -/
def Test.rendering (a : Adapter) : Test → Rendering
  | ⟨field, operator, operand⟩ =>
    let name := operator.getD Lookup.defaultName
    match a.lookups.get? name with
    | none => .fail (.unknownLookup field name)
    | some lookup => lookup a.context (a.quoteColumn field) (operand.comparand a)

/-- A condition; `nested` says that it stands inside a group of several parts. -/
def Condition.renderingIn (a : Adapter) (nested : Bool) : Condition Test → Rendering
  | .leaf t => t.rendering a
  | .raw sql =>
    if Text.isBlankText sql then .empty
    else
      let text := a.quoteSql (Text.trimmed sql)
      .text (if nested then "(" ++ text ++ ")" else text)
  | .all parts =>
    Condition.groupRendering " AND " nested
      (Condition.liveRenderings a (nested || 1 < Condition.liveCount parts) parts)
  | .any parts =>
    Condition.groupRendering " OR " nested
      (Condition.liveRenderings a (nested || 1 < Condition.liveCount parts) parts)
  | .not part => (Condition.renderingIn a false part).map Condition.notText

/-- Every condition of a list that is not empty. -/
def Condition.liveRenderings (a : Adapter) (nested : Bool) : List (Condition Test) → List Rendering
  | [] => []
  | c :: cs =>
    if c.isEmpty then Condition.liveRenderings a nested cs
    else Condition.renderingIn a nested c :: Condition.liveRenderings a nested cs

/-- Every condition of a clause. -/
def Condition.renderings (a : Adapter) : List (Condition Test) → List Rendering
  | [] => []
  | c :: cs => Condition.renderingIn a false c :: Condition.renderings a cs

/-- A source with its alias. -/
def Source.rendering (a : Adapter) (aliasName : Option String) : Source → Rendering
  | .table name => Adapter.withAlias (.text (a.quoteTable name)) (aliasName.map a.quoteTable)
  | .query q => Adapter.withAlias (q.rendering a).paren (aliasName.map a.quoteTable)
  | .raw sql =>
    Adapter.withAlias (Rendering.text (a.quoteSql sql)).paren (aliasName.map a.quoteTable)

/-- Every source of a list. -/
def TableRef.renderings (a : Adapter) : List TableRef → List Rendering
  | [] => []
  | ⟨source, aliasName⟩ :: rest => source.rendering a aliasName :: TableRef.renderings a rest

/-- A column with its alias. An aggregate may bring an alias of its own. -/
def Selected.rendering (a : Adapter) (aliasName : Option String) : Selected → Rendering
  | .column name => Adapter.withAlias (.text (a.quoteColumn name)) (aliasName.map a.quoteColumn)
  | .aggregate g =>
    Adapter.withAlias (.text (a.aggregateText g)) ((aliasName.or g.aliasName).map a.quoteColumn)
  | .query q => Adapter.withAlias (q.rendering a).paren (aliasName.map a.quoteColumn)
  | .raw sql =>
    Adapter.withAlias (Rendering.text (a.quoteSql sql)).paren (aliasName.map a.quoteColumn)

/-- Every column of a list. -/
def SelectColumn.renderings (a : Adapter) : List SelectColumn → List Rendering
  | [] => []
  | ⟨expr, aliasName⟩ :: rest => expr.rendering a aliasName :: SelectColumn.renderings a rest

/-- The joins of a list, each behind a space. -/
def Join.renderings (a : Adapter) : List Join → Rendering
  | [] => .empty
  | ⟨kind, target, condition, aliasName⟩ :: rest =>
    (match a.joinFault kind condition with
      | some e => .fail e
      | none =>
        .text (" " ++ kind.sql ++ " ") ++ target.rendering a aliasName
          ++ .text (a.joinConditionText condition))
      ++ Join.renderings a rest

/-- What a column is set to. -/
def Operand.assigned (a : Adapter) (column : String) : Operand → Rendering
  | .value v => a.value v
  | .list _ => .fail (.invalidFilter (.listAssigned column))
  | .query q => (q.rendering a).paren
  | .raw sql => .text (a.quoteSql sql)

/-- Every assignment of a list. -/
def Assignment.renderings (a : Adapter) : List Assignment → List Rendering
  | [] => []
  | ⟨column, operand⟩ :: rest =>
    (.text (a.quoteColumn column ++ "=") ++ operand.assigned a column)
      :: Assignment.renderings a rest

/-- The parts that a union adds, each behind its keyword. -/
def UnionPart.renderings (a : Adapter) : List UnionPart → Rendering
  | [] => .empty
  | ⟨query, all⟩ :: rest =>
    .text (if all then " UNION ALL " else " UNION ")
      ++ a.unionPart (query.rendering a) (query.hasOrderOrPaging || !query.unions.isEmpty)
      ++ UnionPart.renderings a rest

/-- The statement of a query with its conditions on rows, or nothing if it selects. -/
def Statement.rendering (a : Adapter) (table : Option String) (where' : Rendering) :
    Statement → Rendering
  | .select => .empty
  | .insert table columns rows => a.insertRendering table columns rows
  | .update table assignments =>
    if assignments.isEmpty then .fail (.incomplete (.nothingToSet table))
    else
      .text ("UPDATE " ++ a.quoteTable table ++ " SET ")
        ++ Rendering.joinWith ", " (Assignment.renderings a assignments) ++ where'
  | .delete =>
    match table with
    | none => .fail (.incomplete .deleteWithoutTable)
    | some table => .text ("DELETE FROM " ++ a.quoteTable table) ++ where'
  | .schema change => .ofExcept (a.schemaStatement change)

/-- The rendering of a query through an adapter. -/
def Query.rendering (a : Adapter) : Query → Rendering
  | ⟨adapter, kind, statement, columns, distinct, sources, joins, wheres, groupBy, havings, orderBy,
      limit, offset, unions⟩ =>
    let q : Query := ⟨adapter, kind, statement, columns, distinct, sources, joins, wheres, groupBy,
      havings, orderBy, limit, offset, unions⟩
    let where' := Condition.clauseRendering " WHERE " (Condition.renderings a wheres)
    if statement.isSelect then
      let columns :=
        if columns.isEmpty then .text "*"
        else Rendering.joinWith ", " (SelectColumn.renderings a columns)
      let sources :=
        if sources.isEmpty then .empty
        else .text " FROM " ++ Rendering.joinWith ", " (TableRef.renderings a sources)
      let body :=
        .text (if distinct then "SELECT DISTINCT " else "SELECT ") ++ columns ++ sources
          ++ Join.renderings a joins ++ where'
          ++ .text (listClause " GROUP BY " (groupBy.map a.quoteColumn))
          ++ Condition.clauseRendering " HAVING " (Condition.renderings a havings)
          ++ .text (q.orderAndPaging a)
      if unions.isEmpty then body
      else a.unionPart body q.hasOrderOrPaging ++ UnionPart.renderings a unions
    else if !unions.isEmpty then .fail (.incomplete .unionWithoutSelect)
    else statement.rendering a q.deletionTable? where'
termination_by structural q => q

end

/-- The rendering of a condition that stands alone. -/
def Condition.rendering (a : Adapter) (c : Condition Test) : Rendering :=
  c.renderingIn a false

namespace Query

/-- The statement with its values as literals. -/
def toSql (q : Query) : Except QueryError String :=
  (q.rendering q.adapter).inlineText

/-- The statement with placeholders for its values, and the values in the order of the
placeholders. -/
def build (q : Query) : Except QueryError (String × List Value) :=
  (q.rendering q.adapter).boundText

end Query

end SqlCompose
