import SqlCompose.Proofs.Condition.Alike
import SqlCompose.Proofs.Lookup.Alike
import SqlCompose.Proofs.Query.Clauses

/-!
# Statements and the content of values

The values in a query stand at places of their own (`Query.places`): as operands, in lists, in the
rows of an insertion and as what columns are set to, also in the queries nested in it. Two queries
are alike if they are the same but for these values, and the values at a place are of the same kind
(`Query.Alike`).

The text with placeholders does not depend on the content of values: alike queries fail alike or
have the same text, and what is bound differs only where the values at a place differ
(`Query.build_alike`).
-/

namespace SqlCompose

/-- The value, if the operand is a single one. -/
def Operand.value? : Operand → Option Value
  | .value v => some v
  | _ => none

/-! ## Places -/

mutual

/-- The values of an operand, in order. -/
def Operand.places : Operand → List Value
  | .value v => [v]
  | .list vs => vs
  | .query q => q.places
  | .raw _ => []

/-- The values of a comparison. -/
def Test.places : Test → List Value
  | ⟨_, _, operand⟩ => operand.places

/-- The values of a condition. -/
def Condition.places : Condition Test → List Value
  | .leaf t => t.places
  | .raw _ => []
  | .all parts => Condition.placesOf parts
  | .any parts => Condition.placesOf parts
  | .not part => part.places

/-- The values of every condition of a list. -/
def Condition.placesOf : List (Condition Test) → List Value
  | [] => []
  | c :: cs => c.places ++ Condition.placesOf cs

/-- The values of a source. -/
def Source.places : Source → List Value
  | .table _ => []
  | .query q => q.places
  | .raw _ => []

/-- The values of every source of a list. -/
def TableRef.placesOf : List TableRef → List Value
  | [] => []
  | ⟨source, _⟩ :: rest => source.places ++ TableRef.placesOf rest

/-- The values of a column. -/
def Selected.places : Selected → List Value
  | .column _ => []
  | .aggregate _ => []
  | .query q => q.places
  | .raw _ => []

/-- The values of every column of a list. -/
def SelectColumn.placesOf : List SelectColumn → List Value
  | [] => []
  | ⟨expr, _⟩ :: rest => expr.places ++ SelectColumn.placesOf rest

/-- The values of every join of a list. -/
def Join.placesOf : List Join → List Value
  | [] => []
  | ⟨_, target, _, _⟩ :: rest => target.places ++ Join.placesOf rest

/-- The values of every assignment of a list. -/
def Assignment.placesOf : List Assignment → List Value
  | [] => []
  | ⟨_, operand⟩ :: rest => operand.places ++ Assignment.placesOf rest

/-- The values of every part of a union. -/
def UnionPart.placesOf : List UnionPart → List Value
  | [] => []
  | ⟨query, _⟩ :: rest => query.places ++ UnionPart.placesOf rest

/-- The values of a statement without its clauses. -/
def Statement.places : Statement → List Value
  | .insert _ _ rows => rows.flatten
  | .update _ assignments => Assignment.placesOf assignments
  | _ => []

/-- The values of a query, in the order in which its clauses are written. -/
def Query.places : Query → List Value
  | ⟨_, _, statement, columns, _, sources, joins, wheres, _, havings, _, _, _, unions⟩ =>
    statement.places ++ (SelectColumn.placesOf columns ++ TableRef.placesOf sources ++
      Join.placesOf joins ++ Condition.placesOf wheres ++ Condition.placesOf havings ++
        UnionPart.placesOf unions)
termination_by structural q => q

end

/-! ## Alike queries -/

mutual

/-- Operands that are the same but for the content of their values. -/
inductive Operand.Alike : Operand → Operand → Prop
  | value {v v' : Value} : v.kind = v'.kind → Operand.Alike (.value v) (.value v')
  | list {vs vs' : List Value} : List.Forall₂ (·.kind = ·.kind) vs vs' →
      Operand.Alike (.list vs) (.list vs')
  | query {q q' : Query} : Query.Alike q q' → Operand.Alike (.query q) (.query q')
  | raw (sql : String) : Operand.Alike (.raw sql) (.raw sql)

/-- Conditions that are the same but for the content of their values. A flag that is asked whether a
field is null stays the same. -/
inductive Condition.Alike : Condition Test → Condition Test → Prop
  | leaf (field : String) (operator : Option String) {o o' : Operand} : Operand.Alike o o' →
      (operator = some "isnull" → o.value? = o'.value?) →
      Condition.Alike (.leaf ⟨field, operator, o⟩) (.leaf ⟨field, operator, o'⟩)
  | raw (sql : String) : Condition.Alike (.raw sql) (.raw sql)
  | all {parts parts'} : Condition.AlikeAll parts parts' →
      Condition.Alike (.all parts) (.all parts')
  | any {parts parts'} : Condition.AlikeAll parts parts' →
      Condition.Alike (.any parts) (.any parts')
  | not {part part'} : Condition.Alike part part' → Condition.Alike (.not part) (.not part')

/-- `Alike` for the conditions of two lists. -/
inductive Condition.AlikeAll : List (Condition Test) → List (Condition Test) → Prop
  | nil : Condition.AlikeAll [] []
  | cons {c c' cs cs'} : Condition.Alike c c' → Condition.AlikeAll cs cs' →
      Condition.AlikeAll (c :: cs) (c' :: cs')

/-- Sources that are the same but for the content of their values. -/
inductive Source.Alike : Source → Source → Prop
  | table (name : String) : Source.Alike (.table name) (.table name)
  | query {q q' : Query} : Query.Alike q q' → Source.Alike (.query q) (.query q')
  | raw (sql : String) : Source.Alike (.raw sql) (.raw sql)

/-- `Alike` for the sources of two lists. -/
inductive TableRef.AlikeAll : List TableRef → List TableRef → Prop
  | nil : TableRef.AlikeAll [] []
  | cons (aliasName : Option String) {s s' rest rest'} : Source.Alike s s' →
      TableRef.AlikeAll rest rest' →
      TableRef.AlikeAll (⟨s, aliasName⟩ :: rest) (⟨s', aliasName⟩ :: rest')

/-- Columns that are the same but for the content of their values. -/
inductive Selected.Alike : Selected → Selected → Prop
  | column (name : String) : Selected.Alike (.column name) (.column name)
  | aggregate (g : Aggregation) : Selected.Alike (.aggregate g) (.aggregate g)
  | query {q q' : Query} : Query.Alike q q' → Selected.Alike (.query q) (.query q')
  | raw (sql : String) : Selected.Alike (.raw sql) (.raw sql)

/-- `Alike` for the columns of two lists. -/
inductive SelectColumn.AlikeAll : List SelectColumn → List SelectColumn → Prop
  | nil : SelectColumn.AlikeAll [] []
  | cons (aliasName : Option String) {e e' rest rest'} : Selected.Alike e e' →
      SelectColumn.AlikeAll rest rest' →
      SelectColumn.AlikeAll (⟨e, aliasName⟩ :: rest) (⟨e', aliasName⟩ :: rest')

/-- `Alike` for the joins of two lists. -/
inductive Join.AlikeAll : List Join → List Join → Prop
  | nil : Join.AlikeAll [] []
  | cons (kind : JoinKind) (condition : JoinCondition) (aliasName : Option String)
      {s s' rest rest'} : Source.Alike s s' → Join.AlikeAll rest rest' →
      Join.AlikeAll (⟨kind, s, condition, aliasName⟩ :: rest)
        (⟨kind, s', condition, aliasName⟩ :: rest')

/-- `Alike` for the assignments of two lists. -/
inductive Assignment.AlikeAll : List Assignment → List Assignment → Prop
  | nil : Assignment.AlikeAll [] []
  | cons (column : String) {o o' rest rest'} : Operand.Alike o o' →
      Assignment.AlikeAll rest rest' →
      Assignment.AlikeAll (⟨column, o⟩ :: rest) (⟨column, o'⟩ :: rest')

/-- `Alike` for the parts of two unions. -/
inductive UnionPart.AlikeAll : List UnionPart → List UnionPart → Prop
  | nil : UnionPart.AlikeAll [] []
  | cons (all : Bool) {q q' rest rest'} : Query.Alike q q' → UnionPart.AlikeAll rest rest' →
      UnionPart.AlikeAll (⟨q, all⟩ :: rest) (⟨q', all⟩ :: rest')

/-- Statements that are the same but for the content of their values. -/
inductive Statement.Alike : Statement → Statement → Prop
  | select : Statement.Alike .select .select
  | insert (table : String) (columns : List String) {rows rows' : List (List Value)} :
      List.Forall₂ (List.Forall₂ (·.kind = ·.kind)) rows rows' →
      Statement.Alike (.insert table columns rows) (.insert table columns rows')
  | update (table : String) {assignments assignments'} :
      Assignment.AlikeAll assignments assignments' →
      Statement.Alike (.update table assignments) (.update table assignments')
  | delete : Statement.Alike .delete .delete
  | schema (change : SchemaChange) : Statement.Alike (.schema change) (.schema change)

/-- Queries that are the same but for the content of their values. -/
inductive Query.Alike : Query → Query → Prop
  | mk (adapter kind distinct groupBy orderBy limit offset) {statement statement' columns columns'
      sources sources' joins joins' wheres wheres' havings havings' unions unions'} :
      Statement.Alike statement statement' → SelectColumn.AlikeAll columns columns' →
      TableRef.AlikeAll sources sources' → Join.AlikeAll joins joins' →
      Condition.AlikeAll wheres wheres' → Condition.AlikeAll havings havings' →
      UnionPart.AlikeAll unions unions' →
      Query.Alike
        ⟨adapter, kind, statement, columns, distinct, sources, joins, wheres, groupBy, havings,
          orderBy, limit, offset, unions⟩
        ⟨adapter, kind, statement', columns', distinct, sources', joins', wheres', groupBy, havings',
          orderBy, limit, offset, unions'⟩

end

/-! ## The shape of alike queries -/

/-- Alike lists of columns are empty together. -/
theorem SelectColumn.AlikeAll.isEmpty_eq {cs cs'} (h : SelectColumn.AlikeAll cs cs') :
    cs.isEmpty = cs'.isEmpty := by
  cases h <;> rfl

/-- Alike lists of sources are empty together. -/
theorem TableRef.AlikeAll.isEmpty_eq {ss ss'} (h : TableRef.AlikeAll ss ss') :
    ss.isEmpty = ss'.isEmpty := by
  cases h <;> rfl

/-- Alike lists of assignments are empty together. -/
theorem Assignment.AlikeAll.isEmpty_eq {xs xs'} (h : Assignment.AlikeAll xs xs') :
    xs.isEmpty = xs'.isEmpty := by
  cases h <;> rfl

/-- Alike lists of operands of a union are empty together. -/
theorem UnionPart.AlikeAll.isEmpty_eq {ps ps'} (h : UnionPart.AlikeAll ps ps') :
    ps.isEmpty = ps'.isEmpty := by
  cases h <;> rfl

/-- Alike statements select together. -/
theorem Statement.Alike.isSelect_eq {s s'} (h : Statement.Alike s s') :
    s.isSelect = s'.isSelect := by
  cases h <;> rfl

namespace Query

variable {q q' : Query}

/-- The values of a query stand in its clauses, in the order of the text. -/
theorem places_eq (q : Query) : q.places =
    q.statement.places ++ (SelectColumn.placesOf q.columns ++ TableRef.placesOf q.sources ++
      Join.placesOf q.joins ++ Condition.placesOf q.wheres ++ Condition.placesOf q.havings ++
        UnionPart.placesOf q.unions) := by
  cases q
  rw [places]

/-- Alike queries have the same adapter. -/
theorem Alike.adapter_eq (h : Query.Alike q q') : q.adapter = q'.adapter := by
  cases h
  rfl

/-- Alike queries select together. -/
theorem Alike.isSelect_eq (h : Query.Alike q q') :
    q.statement.isSelect = q'.statement.isSelect := by
  cases h with
  | mk _ _ _ _ _ _ _ hstatement => exact hstatement.isSelect_eq

/-- Alike queries have a list of columns together. -/
theorem Alike.isEmpty_columns_eq (h : Query.Alike q q') :
    q.columns.isEmpty = q'.columns.isEmpty := by
  cases h with
  | mk _ _ _ _ _ _ _ _ hcolumns => exact hcolumns.isEmpty_eq

/-- Alike queries have sources together. -/
theorem Alike.isEmpty_sources_eq (h : Query.Alike q q') :
    q.sources.isEmpty = q'.sources.isEmpty := by
  cases h with
  | mk _ _ _ _ _ _ _ _ _ hsources => exact hsources.isEmpty_eq

/-- Alike queries are unions together. -/
theorem Alike.isEmpty_unions_eq (h : Query.Alike q q') : q.unions.isEmpty = q'.unions.isEmpty := by
  cases h with
  | mk _ _ _ _ _ _ _ _ _ _ _ _ _ hunions => exact hunions.isEmpty_eq

/-- Alike queries are sorted or paged together. -/
theorem Alike.hasOrderOrPaging_eq (h : Query.Alike q q') :
    q.hasOrderOrPaging = q'.hasOrderOrPaging := by
  cases h
  rfl

/-- Alike queries delete from the same table. -/
theorem Alike.deletionTable?_eq (h : Query.Alike q q') : q.deletionTable? = q'.deletionTable? := by
  cases h with
  | mk _ _ _ _ _ _ _ _ _ hsources =>
    cases hsources with
    | nil => rfl
    | cons _ hsource => cases hsource <;> rfl

end Query

/-! ## Alike queries are rendered alike -/

section
variable {a : Adapter} {us us' : List Value} {r r' : Rendering}

/-- An alias leaves renderings alike. -/
theorem Adapter.withAlias_alike (h : Rendering.Alike us us' r r') (aliasName : Option String) :
    Rendering.Alike us us' (withAlias r aliasName) (withAlias r' aliasName) := by
  cases aliasName with
  | none => exact h
  | some name => exact h.append_text _

/-- The parentheses around an operand of a union leave renderings alike. -/
theorem Adapter.unionPart_alike (a : Adapter) (h : Rendering.Alike us us' r r')
    (compound : Bool) :
    Rendering.Alike us us' (a.unionPart r compound) (a.unionPart r' compound) := by
  rw [unionPart, unionPart]
  split
  · cases compound with
    | false => exact h
    | true => exact h.paren.text_append _
  · exact h.paren

/-- Insertions of alike rows are rendered alike. -/
theorem Adapter.insertRendering_alike (a : Adapter) (table : String) (columns : List String)
    {rows rows' : List (List Value)}
    (h : List.Forall₂ (List.Forall₂ (·.kind = ·.kind)) rows rows') :
    Rendering.Alike rows.flatten rows'.flatten (a.insertRendering table columns rows)
      (a.insertRendering table columns rows') := by
  have hrows : Gathered Rendering.Alike rows.flatten rows'.flatten
      (rows.map (a.rowRendering table columns.length))
      (rows'.map (a.rowRendering table columns.length)) := by
    induction h with
    | nil => exact .nil
    | cons hrow _ ih =>
      refine .cons ?_ ih
      rw [rowRendering, rowRendering, hrow.length_eq]
      split
      · exact (Rendering.Alike.values a hrow.length_eq).paren
      · exact .fail hrow.length_eq _
  have hlength := hrows.length_places Rendering.Alike.length_places
  have hempty : rows.isEmpty = rows'.isEmpty := by cases h <;> rfl
  rw [insertRendering, insertRendering, hempty]
  split
  · exact .fail hlength _
  · exact (Rendering.Alike.joinWith ", " hrows).text_append _

/-- Comparisons with alike operands are rendered alike. -/
theorem Test.rendering_alike (ha : a.lookups = Lookup.standard) (field : String)
    (operator : Option String) {o o' : Operand}
    (h : Comparand.Alike us us' (o.comparand a) (o'.comparand a))
    (hflag : operator = some "isnull" → (o.comparand a).value? = (o'.comparand a).value?) :
    Rendering.Alike us us' (Test.rendering a ⟨field, operator, o⟩)
      (Test.rendering a ⟨field, operator, o'⟩) := by
  rw [Test.rendering, Test.rendering, ha]
  cases hl : Lookup.standard.get? (operator.getD Lookup.defaultName) with
  | none => exact .fail h.length_places _
  | some l =>
    rcases Lookup.standard_blind hl with ⟨hname, rfl⟩ | hblind
    · refine Lookup.isNull_alike h (hflag ?_)
      cases operator with
      | none => exact absurd hname (by decide)
      | some name => exact congrArg some hname
    · exact hblind.alike _ _ h

end

/-- A lookup is given the value of an operand as it is. -/
theorem Operand.value?_comparand (a : Adapter) (o : Operand) :
    (o.comparand a).value? = o.value? := by
  cases o <;> rw [Operand.comparand] <;> rfl

/-- Queries of one shape with alike clauses. -/
structure Query.ClausesAlike (a : Adapter) (q q' : Query) : Prop where
  alike : Query.Alike q q'
  statement (table : Option String) {ws ws' w w'} : Rendering.Alike ws ws' w w' →
    Rendering.Alike (q.statement.places ++ ws) (q'.statement.places ++ ws')
      (q.statement.rendering a table w) (q'.statement.rendering a table w')
  columns : Gathered Rendering.Alike (SelectColumn.placesOf q.columns)
    (SelectColumn.placesOf q'.columns) (SelectColumn.renderings a q.columns)
    (SelectColumn.renderings a q'.columns)
  sources : Gathered Rendering.Alike (TableRef.placesOf q.sources) (TableRef.placesOf q'.sources)
    (TableRef.renderings a q.sources) (TableRef.renderings a q'.sources)
  joins : Rendering.Alike (Join.placesOf q.joins) (Join.placesOf q'.joins)
    (Join.renderings a q.joins) (Join.renderings a q'.joins)
  wheres : Condition.MatchedAll a (Condition.placesOf q.wheres) (Condition.placesOf q'.wheres)
    q.wheres q'.wheres
  havings : Condition.MatchedAll a (Condition.placesOf q.havings) (Condition.placesOf q'.havings)
    q.havings q'.havings
  unions : Rendering.Alike (UnionPart.placesOf q.unions) (UnionPart.placesOf q'.unions)
    (UnionPart.renderings a q.unions) (UnionPart.renderings a q'.unions)

namespace Query.ClausesAlike

variable {a : Adapter} {q q' : Query}

/-- The lists of columns are alike. -/
theorem selectList (h : ClausesAlike a q q') :
    Rendering.Alike (SelectColumn.placesOf q.columns) (SelectColumn.placesOf q'.columns)
      (q.selectList a) (q'.selectList a) := by
  rw [Query.selectList, Query.selectList, h.alike.isEmpty_columns_eq]
  split
  · exact (Rendering.Alike.text "*").append_empty
      (h.columns.length_places Rendering.Alike.length_places)
  · exact .joinWith ", " h.columns

/-- The lists of sources are alike. -/
theorem fromClause (h : ClausesAlike a q q') :
    Rendering.Alike (TableRef.placesOf q.sources) (TableRef.placesOf q'.sources)
      (q.fromClause a) (q'.fromClause a) := by
  rw [Query.fromClause, Query.fromClause, h.alike.isEmpty_sources_eq]
  split
  · exact .empty (h.sources.length_places Rendering.Alike.length_places)
  · exact (Rendering.Alike.joinWith ", " h.sources).text_append " FROM "

/-- The conditions on rows are alike. -/
theorem whereClause (h : ClausesAlike a q q') :
    Rendering.Alike (Condition.placesOf q.wheres) (Condition.placesOf q'.wheres)
      (q.whereClause a) (q'.whereClause a) :=
  Condition.clauseRendering_alike " WHERE " h.wheres.renderings

/-- The conditions on groups are alike. -/
theorem havingClause (h : ClausesAlike a q q') :
    Rendering.Alike (Condition.placesOf q.havings) (Condition.placesOf q'.havings)
      (q.havingClause a) (q'.havingClause a) :=
  Condition.clauseRendering_alike " HAVING " h.havings.renderings

/-- The selections are alike, with their values in the order of the clauses. -/
theorem selection (h : ClausesAlike a q q') :
    Rendering.Alike
      (SelectColumn.placesOf q.columns ++ TableRef.placesOf q.sources ++ Join.placesOf q.joins ++
        Condition.placesOf q.wheres ++ Condition.placesOf q.havings)
      (SelectColumn.placesOf q'.columns ++ TableRef.placesOf q'.sources ++ Join.placesOf q'.joins ++
        Condition.placesOf q'.wheres ++ Condition.placesOf q'.havings)
      (q.selection a) (q'.selection a) := by
  have hdistinct : q.distinct = q'.distinct := by cases h.alike; rfl
  have hgroup : q.groupClause a = q'.groupClause a := by cases h.alike; rfl
  have hpaging : q.orderAndPaging a = q'.orderAndPaging a := by cases h.alike; rfl
  rw [Query.selection, Query.selection, hdistinct, hgroup, hpaging]
  have hcolumns := h.selectList.text_append (if q'.distinct then "SELECT DISTINCT " else "SELECT ")
  have hrows := ((hcolumns.append h.fromClause).append h.joins).append h.whereClause
  exact ((hrows.append_text _).append h.havingClause).append_text _

/-- Queries of one shape are rendered alike if their clauses are. -/
theorem rendering (h : ClausesAlike a q q') :
    Rendering.Alike q.places q'.places (q.rendering a) (q'.rendering a) := by
  have hselection := h.selection
  have hbefore := ((h.selectList.append h.fromClause).append h.joins).length_places
  -- A statement that does not select uses the places of its conditions on rows only.
  have hstatement := h.statement q.deletionTable?
    (((h.whereClause.empty_append hbefore).append_empty h.havingClause.length_places).append_empty
      h.unions.length_places)
  have hvalues : q.statement.places.length = q'.statement.places.length := by
    have hnone : Rendering.Alike [] [] .empty .empty := .empty rfl
    have hempty := (h.statement none hnone).length_places
    rwa [List.append_nil, List.append_nil] at hempty
  rw [places_eq, places_eq, rendering_eq, rendering_eq, h.alike.isSelect_eq,
    h.alike.isEmpty_unions_eq, h.alike.hasOrderOrPaging_eq, ← h.alike.deletionTable?_eq]
  split
  · refine .empty_append hvalues ?_
    split
    · exact hselection.append_empty h.unions.length_places
    · exact (a.unionPart_alike hselection _).append h.unions
  · split
    · exact .fail hstatement.length_places _
    · exact hstatement

end Query.ClausesAlike

mutual

/-- What lookups are given of alike operands is alike: a nested query is a rendering of its own. -/
theorem Operand.comparand_alike {a : Adapter} (ha : a.lookups = Lookup.standard) :
    ∀ {o o'}, Operand.Alike o o' →
      Comparand.Alike o.places o'.places (o.comparand a) (o'.comparand a)
  | _, _, .value h => .value h
  | _, _, .list h => .list h
  | _, _, .query h => by
    have hquery := Query.rendering_alike ha h
    rw [Operand.comparand, Operand.comparand]
    exact .query hquery
  | _, _, .raw sql => .raw sql

/-- Alike conditions match leaf by leaf. -/
theorem Condition.matched {a : Adapter} (ha : a.lookups = Lookup.standard) :
    ∀ {c c'}, Condition.Alike c c' → Condition.Matched a c.places c'.places c c'
  | _, _, .leaf field operator h hflag => by
    rw [← Operand.value?_comparand a, ← Operand.value?_comparand a] at hflag
    exact Condition.matched_leaf
      (Test.rendering_alike ha field operator (Operand.comparand_alike ha h) hflag)
  | _, _, .raw sql => Condition.matched_raw a sql
  | _, _, .all h => (Condition.matchedAll ha h).all
  | _, _, .any h => (Condition.matchedAll ha h).any
  | _, _, .not h => (Condition.matched ha h).not

/-- So do alike lists of conditions. -/
theorem Condition.matchedAll {a : Adapter} (ha : a.lookups = Lookup.standard) :
    ∀ {cs cs'}, Condition.AlikeAll cs cs' →
      Condition.MatchedAll a (Condition.placesOf cs) (Condition.placesOf cs') cs cs'
  | _, _, .nil => Condition.matchedAll_nil a
  | _, _, .cons h h' => .cons (Condition.matched ha h) (Condition.matchedAll ha h')

/-- A source is a name, raw text, or a query in parentheses. -/
theorem Source.rendering_alike {a : Adapter} (ha : a.lookups = Lookup.standard)
    (aliasName : Option String) : ∀ {s s'}, Source.Alike s s' →
      Rendering.Alike s.places s'.places (s.rendering a aliasName) (s'.rendering a aliasName)
  | _, _, .table _ => Adapter.withAlias_alike (.text _) _
  | _, _, .query h => Adapter.withAlias_alike (Query.rendering_alike ha h).paren _
  | _, _, .raw _ => Adapter.withAlias_alike (Rendering.Alike.text _).paren _

/-- The sources of alike lists are alike one by one. -/
theorem TableRef.renderings_alike {a : Adapter} (ha : a.lookups = Lookup.standard) :
    ∀ {ss ss'}, TableRef.AlikeAll ss ss' →
      Gathered Rendering.Alike (TableRef.placesOf ss) (TableRef.placesOf ss')
        (TableRef.renderings a ss) (TableRef.renderings a ss')
  | _, _, .nil => .nil
  | _, _, .cons aliasName h h' =>
    .cons (Source.rendering_alike ha aliasName h) (TableRef.renderings_alike ha h')

/-- A selected entry is a name, raw text, or a query in parentheses. -/
theorem Selected.rendering_alike {a : Adapter} (ha : a.lookups = Lookup.standard)
    (aliasName : Option String) : ∀ {s s'}, Selected.Alike s s' →
      Rendering.Alike s.places s'.places (s.rendering a aliasName) (s'.rendering a aliasName)
  | _, _, .column _ | _, _, .aggregate _ => Adapter.withAlias_alike (.text _) _
  | _, _, .query h => Adapter.withAlias_alike (Query.rendering_alike ha h).paren _
  | _, _, .raw _ => Adapter.withAlias_alike (Rendering.Alike.text _).paren _

/-- The columns of alike lists are alike one by one. -/
theorem SelectColumn.renderings_alike {a : Adapter} (ha : a.lookups = Lookup.standard) :
    ∀ {cs cs'}, SelectColumn.AlikeAll cs cs' →
      Gathered Rendering.Alike (SelectColumn.placesOf cs) (SelectColumn.placesOf cs')
        (SelectColumn.renderings a cs) (SelectColumn.renderings a cs')
  | _, _, .nil => .nil
  | _, _, .cons aliasName h h' =>
    .cons (Selected.rendering_alike ha aliasName h) (SelectColumn.renderings_alike ha h')

/-- Alike joins have alike texts, one behind the other. -/
theorem Join.renderings_alike {a : Adapter} (ha : a.lookups = Lookup.standard) :
    ∀ {js js'}, Join.AlikeAll js js' →
      Rendering.Alike (Join.placesOf js) (Join.placesOf js') (Join.renderings a js)
        (Join.renderings a js')
  | _, _, .nil => .empty rfl
  | _, _, .cons kind condition aliasName h h' => by
    have htarget := Source.rendering_alike ha aliasName h
    refine Rendering.Alike.append ?_ (Join.renderings_alike ha h')
    split
    · exact .fail htarget.length_places _
    · exact (htarget.text_append _).append_text _

/-- An assigned operand is a value, raw text, or a query in parentheses. -/
theorem Operand.assigned_alike {a : Adapter} (ha : a.lookups = Lookup.standard) (column : String) :
    ∀ {o o'}, Operand.Alike o o' →
      Rendering.Alike o.places o'.places (o.assigned a column) (o'.assigned a column)
  | _, _, .value _ => .value a id
  | _, _, .list h => .fail h.length_eq _
  | _, _, .query h => (Query.rendering_alike ha h).paren
  | _, _, .raw _ => .text _

/-- Alike assignments are alike one by one. -/
theorem Assignment.renderings_alike {a : Adapter} (ha : a.lookups = Lookup.standard) :
    ∀ {xs xs'}, Assignment.AlikeAll xs xs' →
      Gathered Rendering.Alike (Assignment.placesOf xs) (Assignment.placesOf xs')
        (Assignment.renderings a xs) (Assignment.renderings a xs')
  | _, _, .nil => .nil
  | _, _, .cons column h h' =>
    .cons ((Operand.assigned_alike ha column h).text_append _) (Assignment.renderings_alike ha h')

/-- The operands of alike unions have alike texts, one behind the other. -/
theorem UnionPart.renderings_alike {a : Adapter} (ha : a.lookups = Lookup.standard) :
    ∀ {ps ps'}, UnionPart.AlikeAll ps ps' →
      Rendering.Alike (UnionPart.placesOf ps) (UnionPart.placesOf ps') (UnionPart.renderings a ps)
        (UnionPart.renderings a ps')
  | _, _, .nil => .empty rfl
  | _, _, .cons all h h' => by
    have hpart := a.unionPart_alike (Query.rendering_alike ha h)
    rw [UnionPart.renderings, UnionPart.renderings, h.hasOrderOrPaging_eq, h.isEmpty_unions_eq]
    exact ((hpart _).text_append _).append (UnionPart.renderings_alike ha h')

/-- Alike statements are alike in front of alike conditions on rows. -/
theorem Statement.rendering_alike {a : Adapter} (ha : a.lookups = Lookup.standard)
    (table : Option String) {ws ws' : List Value} {w w' : Rendering}
    (hw : Rendering.Alike ws ws' w w') : ∀ {s s'}, Statement.Alike s s' →
      Rendering.Alike (s.places ++ ws) (s'.places ++ ws') (s.rendering a table w)
        (s'.rendering a table w')
  | _, _, .select => .empty hw.length_places
  | _, _, .insert table columns h =>
    (a.insertRendering_alike table columns h).append_empty hw.length_places
  | _, _, .update table h => by
    have halike := ((Rendering.Alike.joinWith ", " (Assignment.renderings_alike ha h)).text_append
      ("UPDATE " ++ a.quoteTable table ++ " SET ")).append hw
    rw [Statement.rendering, Statement.rendering, h.isEmpty_eq]
    split
    · exact .fail halike.length_places _
    · exact halike
  | _, _, .delete => by
    cases table with
    | none => exact .fail hw.length_places _
    | some name => exact hw.text_append _
  | _, _, .schema change => by
    rw [Statement.rendering]
    exact (Rendering.Alike.ofExcept _).append_empty hw.length_places

/-- Alike queries are alike, because their clauses are. -/
theorem Query.rendering_alike {a : Adapter} (ha : a.lookups = Lookup.standard) :
    ∀ {q q'}, Query.Alike q q' →
      Rendering.Alike q.places q'.places (q.rendering a) (q'.rendering a)
  | _, _, .mk adapter kind distinct groupBy orderBy limit offset hstatement hcolumns hsources hjoins
      hwheres hhavings hunions =>
    Query.ClausesAlike.rendering {
      alike := .mk adapter kind distinct groupBy orderBy limit offset hstatement hcolumns hsources
        hjoins hwheres hhavings hunions
      statement := fun table _ _ _ _ hw => Statement.rendering_alike ha table hw hstatement
      columns := SelectColumn.renderings_alike ha hcolumns
      sources := TableRef.renderings_alike ha hsources
      joins := Join.renderings_alike ha hjoins
      wheres := Condition.matchedAll ha hwheres
      havings := Condition.matchedAll ha hhavings
      unions := UnionPart.renderings_alike ha hunions }

end

/-- The text of a statement with placeholders does not depend on the content of the values in it:
alike queries fail alike, or they have the same text, and the values that are bound are drawn from
the places of the two queries, in their order and at the same places of both. So they differ only
where the values at a place do. -/
theorem Query.build_alike {q q' : Query} (hq : q.adapter.lookups = Lookup.standard)
    (h : Query.Alike q q') :
    (∃ e, q.build = .error e ∧ q'.build = .error e) ∨
      ∃ sql vs vs', q.build = .ok (sql, vs) ∧ q'.build = .ok (sql, vs') ∧
        vs.length = vs'.length ∧ Drawn q.places q'.places vs vs' := by
  rw [build, build, ← h.adapter_eq]
  obtain herror | ⟨sql, vs, vs', hvs, hvs', hdrawn⟩ :=
    (Query.rendering_alike hq h).boundText
  · exact .inl herror
  · exact .inr ⟨sql, vs, vs', hvs, hvs', hdrawn.length_eq, hdrawn⟩

/-- Of two searches for a word in PostgreSQL, in a nested query; one of the words has a wildcard. -/
theorem Query.build_alike_postgreSql :
    let a := Adapter.ofDialect .postgreSql "" none
    let named (word : String) : Query := (((Query.new a).addSelect "id").source (.table "u")
      none).setWhere (.leaf ⟨"name", some "contains", .value (.text word)⟩)
    let q (word : String) : Query := (((Query.new a).source (.table "t") none).setWhere
      (.leaf ⟨"a", some "in", .query (named word)⟩)).addWhere (.leaf ⟨"b", none, .value (.int 1)⟩)
    let sql := "SELECT * FROM \"t\" WHERE \"a\" IN (SELECT \"id\" FROM \"u\" WHERE " ++
      "\"name\" LIKE $1) AND (\"b\"=$2)"
    (q "x").places = [.text "x", .int 1] ∧ (q "5%").places = [.text "5%", .int 1] ∧
      (q "x").build = .ok (sql, [.text "%x%", .int 1]) ∧
      (q "5%").build = .ok (sql, [.text "%5\\%%", .int 1]) ∧
      Drawn (q "x").places (q "5%").places [.text "%x%", .int 1] [.text "%5\\%%", .int 1] := by
  intro a named q sql
  have hnamed : Query.Alike (named "x") (named "5%") :=
    .mk _ _ _ _ _ _ _ .select (.cons none (.column "id") .nil) (.cons none (.table "u") .nil) .nil
      (.cons (.leaf "name" (some "contains") (.value rfl) (by decide)) .nil) .nil .nil
  have halike : Query.Alike (q "x") (q "5%") :=
    .mk _ _ _ _ _ _ _ .select .nil (.cons none (.table "t") .nil) .nil
      (.cons (.leaf "a" (some "in") (.query hnamed) (by decide))
        (.cons (.leaf "b" none (.value rfl) (by decide)) .nil)) .nil .nil
  have hbuild : (q "x").build = .ok (sql, [.text "%x%", .int 1]) := by decide +kernel
  obtain ⟨e, he, -⟩ | ⟨text, vs, vs', hvs, hvs', -, hdrawn⟩ := Query.build_alike rfl halike
  · cases hbuild.symm.trans he
  · obtain ⟨rfl, rfl⟩ := Prod.mk.inj (Except.ok.inj (hbuild.symm.trans hvs))
    have hvalues : vs' = [.text "%5\\%%", .int 1] := by
      have hbuild' : (q "5%").build = .ok (sql, [.text "%5\\%%", .int 1]) := by decide +kernel
      exact (Prod.mk.inj (Except.ok.inj (hvs'.symm.trans hbuild'))).2
    subst hvalues
    exact ⟨rfl, rfl, hvs, hvs', hdrawn⟩

end SqlCompose
