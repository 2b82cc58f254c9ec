import Mathlib.Control.Monad.Basic
import SqlCompose.Proofs.Query.Clauses

/-!
# Queries through one adapter

Every query is made with an adapter, and so is every query embedded in it: as a column, a source or
a joined source, as an operand of a condition or of an assignment, and as a part of a union. A
rendering goes through a single one of them, and looks at the others only where a lookup does, which
is handed an embedded query with its own adapter and with the texts that it has by itself. The
standard lookups do not look there (`Lookup.standard_ignoresOrigins`). Where none does, a query is
rendered as if all queries in it had been made with the same adapter (`Query.rendering_through`).

Then it is decided by the outermost query alone through which adapter a query is written: queries that
are the same but for the adapters of the queries embedded in them fail alike, or they have the same
texts and bind the same values (`Query.texts_eq_of_sameButAdapters`). With a lookup that writes the
own text of an embedded query they do not (`Query.texts_ne_of_own_text`).
-/

namespace SqlCompose

/-! ## Lookups and embedded queries -/

/-- A lookup that writes a query as a part of the statement around it, and does not look at what the
query is by itself. -/
def Lookup.IgnoresOrigin (l : Lookup) : Prop :=
  ∀ ctx field kind r origin origin',
    l ctx field (.query ⟨kind, r, origin⟩) = l ctx field (.query ⟨kind, r, origin'⟩)

/-- None of the lookups looks at what queries are by themselves. -/
def Registry.IgnoresOrigins (r : Registry) : Prop :=
  ∀ name (l : Lookup), r.get? name = some l → l.IgnoresOrigin

/-- The standard lookups write queries in parentheses, or refuse them. -/
theorem Lookup.standard_ignoresOrigins : standard.IgnoresOrigins := fun _ _ h =>
  standard_cases (P := fun _ l => l.IgnoresOrigin) (fun _ _ _ _ _ _ => rfl)
    (fun _ _ _ _ _ _ _ _ _ => rfl) (fun _ _ _ _ _ _ => rfl) (fun _ _ _ _ _ _ => rfl)
    (fun _ _ _ _ _ _ => rfl) (fun _ _ _ _ _ _ _ _ => rfl) (fun _ _ _ _ _ _ _ _ => rfl)
    (fun _ _ _ _ _ _ => rfl) (fun _ _ _ _ _ _ => rfl) (fun _ _ _ _ _ _ _ => rfl) h

/-! ## One adapter for all queries -/

mutual

/-- The operand with every query in it made with one adapter. -/
def Operand.through (b : Adapter) : Operand → Operand
  | .value v => .value v
  | .list vs => .list vs
  | .query q => .query (q.through b)
  | .raw sql => .raw sql

/-- The comparison with every query in it made with one adapter. -/
def Test.through (b : Adapter) : Test → Test
  | ⟨field, operator, operand⟩ => ⟨field, operator, operand.through b⟩

/-- The condition with every query in it made with one adapter. -/
def Condition.through (b : Adapter) : Condition Test → Condition Test
  | .leaf t => .leaf (t.through b)
  | .raw sql => .raw sql
  | .all parts => .all (Condition.throughAll b parts)
  | .any parts => .any (Condition.throughAll b parts)
  | .not part => .not (Condition.through b part)

/-- `Condition.through` for every condition of a list. -/
def Condition.throughAll (b : Adapter) : List (Condition Test) → List (Condition Test)
  | [] => []
  | c :: cs => Condition.through b c :: Condition.throughAll b cs

/-- The source with every query in it made with one adapter. -/
def Source.through (b : Adapter) : Source → Source
  | .table name => .table name
  | .query q => .query (q.through b)
  | .raw sql => .raw sql

/-- `Source.through` for every source of a list. -/
def TableRef.throughAll (b : Adapter) : List TableRef → List TableRef
  | [] => []
  | ⟨source, aliasName⟩ :: rest => ⟨source.through b, aliasName⟩ :: TableRef.throughAll b rest

/-- The column with every query in it made with one adapter. -/
def Selected.through (b : Adapter) : Selected → Selected
  | .column name => .column name
  | .aggregate g => .aggregate g
  | .query q => .query (q.through b)
  | .raw sql => .raw sql

/-- `Selected.through` for every column of a list. -/
def SelectColumn.throughAll (b : Adapter) : List SelectColumn → List SelectColumn
  | [] => []
  | ⟨expr, aliasName⟩ :: rest => ⟨expr.through b, aliasName⟩ :: SelectColumn.throughAll b rest

/-- `Source.through` for the target of every join of a list. -/
def Join.throughAll (b : Adapter) : List Join → List Join
  | [] => []
  | ⟨kind, target, condition, aliasName⟩ :: rest =>
    ⟨kind, target.through b, condition, aliasName⟩ :: Join.throughAll b rest

/-- `Operand.through` for every assignment of a list. -/
def Assignment.throughAll (b : Adapter) : List Assignment → List Assignment
  | [] => []
  | ⟨column, operand⟩ :: rest => ⟨column, operand.through b⟩ :: Assignment.throughAll b rest

/-- `Query.through` for every part of a union. -/
def UnionPart.throughAll (b : Adapter) : List UnionPart → List UnionPart
  | [] => []
  | ⟨query, all⟩ :: rest => ⟨query.through b, all⟩ :: UnionPart.throughAll b rest

/-- The statement with every query in it made with one adapter. -/
def Statement.through (b : Adapter) : Statement → Statement
  | .select => .select
  | .insert table columns rows => .insert table columns rows
  | .update table assignments => .update table (Assignment.throughAll b assignments)
  | .delete => .delete
  | .schema change => .schema change

/-- The query with itself and every query in it made with one adapter. -/
def Query.through (b : Adapter) : Query → Query
  | ⟨_, kind, statement, columns, distinct, sources, joins, wheres, groupBy, havings, orderBy, limit,
      offset, unions⟩ =>
    ⟨b, kind, statement.through b, SelectColumn.throughAll b columns, distinct,
      TableRef.throughAll b sources, Join.throughAll b joins, Condition.throughAll b wheres,
      groupBy, Condition.throughAll b havings, orderBy, limit, offset,
      UnionPart.throughAll b unions⟩
termination_by structural q => q

end

/-! ## The shape stays -/

section
variable (b : Adapter)

/-- Another adapter leaves the number of columns alone. -/
theorem SelectColumn.isEmpty_throughAll :
    ∀ columns, (SelectColumn.throughAll b columns).isEmpty = columns.isEmpty
  | [] => rfl
  | ⟨_, _⟩ :: _ => rfl

/-- Another adapter leaves the number of sources alone. -/
theorem TableRef.isEmpty_throughAll :
    ∀ sources, (TableRef.throughAll b sources).isEmpty = sources.isEmpty
  | [] => rfl
  | ⟨_, _⟩ :: _ => rfl

/-- Another adapter leaves the number of assignments alone. -/
theorem Assignment.isEmpty_throughAll :
    ∀ assignments, (Assignment.throughAll b assignments).isEmpty = assignments.isEmpty
  | [] => rfl
  | ⟨_, _⟩ :: _ => rfl

/-- Another adapter leaves the number of operands alone. -/
theorem UnionPart.isEmpty_throughAll :
    ∀ parts, (UnionPart.throughAll b parts).isEmpty = parts.isEmpty
  | [] => rfl
  | ⟨_, _⟩ :: _ => rfl

/-- Another adapter leaves the kind of statement alone. -/
theorem Statement.isSelect_through (s : Statement) : (s.through b).isSelect = s.isSelect := by
  cases s <;> rfl

namespace Condition

mutual

/-- No condition becomes empty by another adapter. -/
theorem isEmpty_through : ∀ c, (Condition.through b c).isEmpty = c.isEmpty
  | .leaf _ | .raw _ => rfl
  | .all parts | .any parts => areEmpty_throughAll parts
  | .not part => isEmpty_through part

theorem areEmpty_throughAll : ∀ cs, areEmpty (Condition.throughAll b cs) = areEmpty cs
  | [] => rfl
  | c :: cs => by
    rw [Condition.throughAll, areEmpty, areEmpty, isEmpty_through c, areEmpty_throughAll cs]

end

/-- As many parts of a group are written. -/
theorem liveCount_throughAll (cs : List (Condition Test)) :
    liveCount (Condition.throughAll b cs) = liveCount cs := by
  induction cs with
  | nil => rfl
  | cons c cs ih =>
    rw [liveCount, liveCount] at ih
    rw [Condition.throughAll, liveCount, liveCount, List.countP_cons, List.countP_cons, ih,
      isEmpty_through]

end Condition

namespace Query

variable (q : Query)

/-- A query has a list of columns as before. -/
theorem isEmpty_columns_through : (q.through b).columns.isEmpty = q.columns.isEmpty := by
  cases q
  exact SelectColumn.isEmpty_throughAll b _

/-- A query has sources as before. -/
theorem isEmpty_sources_through : (q.through b).sources.isEmpty = q.sources.isEmpty := by
  cases q
  exact TableRef.isEmpty_throughAll b _

/-- A query is a union as before. -/
theorem isEmpty_unions_through : (q.through b).unions.isEmpty = q.unions.isEmpty := by
  cases q
  exact UnionPart.isEmpty_throughAll b _

/-- A query selects as before. -/
theorem isSelect_through : (q.through b).statement.isSelect = q.statement.isSelect := by
  cases q
  exact Statement.isSelect_through b _

/-- A query is sorted or paged as before. -/
theorem hasOrderOrPaging_through : (q.through b).hasOrderOrPaging = q.hasOrderOrPaging := by
  cases q
  rfl

/-- A query deletes from the same table as before. -/
theorem deletionTable?_through : (q.through b).deletionTable? = q.deletionTable? := by
  obtain ⟨_, _, _, _, _, sources, _⟩ := q
  cases sources with
  | nil => rfl
  | cons s rest =>
    obtain ⟨source, aliasName⟩ := s
    cases source <;> rfl

end Query

end

/-! ## A rendering goes through one adapter -/

/-- The clauses of a query are rendered as if all queries in them had been made with one adapter. -/
structure Query.ClausesThrough (a b : Adapter) (q : Query) : Prop where
  statement (table : Option String) (where' : Rendering) :
    (q.through b).statement.rendering a table where' = q.statement.rendering a table where'
  columns : SelectColumn.renderings a (q.through b).columns = SelectColumn.renderings a q.columns
  sources : TableRef.renderings a (q.through b).sources = TableRef.renderings a q.sources
  joins : Join.renderings a (q.through b).joins = Join.renderings a q.joins
  wheres : Condition.renderings a (q.through b).wheres = Condition.renderings a q.wheres
  havings : Condition.renderings a (q.through b).havings = Condition.renderings a q.havings
  unions : UnionPart.renderings a (q.through b).unions = UnionPart.renderings a q.unions

namespace Query.ClausesThrough

variable {a b : Adapter} {q : Query}

/-- The selection is the same text, clause by clause. -/
theorem selection (h : ClausesThrough a b q) : (q.through b).selection a = q.selection a := by
  have hcolumns : (q.through b).selectList a = q.selectList a := by
    rw [selectList, selectList, h.columns, isEmpty_columns_through]
  have hsources : (q.through b).fromClause a = q.fromClause a := by
    rw [fromClause, fromClause, h.sources, isEmpty_sources_through]
  have hwheres : (q.through b).whereClause a = q.whereClause a := by
    rw [whereClause, whereClause, h.wheres]
  have hhavings : (q.through b).havingClause a = q.havingClause a := by
    rw [havingClause, havingClause, h.havings]
  rw [Query.selection, Query.selection, hcolumns, hsources, h.joins, hwheres, hhavings]
  cases q
  rfl

/-- A query is rendered through one adapter if its clauses are. -/
theorem rendering (h : ClausesThrough a b q) : (q.through b).rendering a = q.rendering a := by
  rw [rendering_eq, rendering_eq, isSelect_through, isEmpty_unions_through,
    hasOrderOrPaging_through, deletionTable?_through, h.selection, h.unions, whereClause,
    whereClause, h.wheres, h.statement]

end Query.ClausesThrough

mutual

/-- A comparison does not notice with which adapter a query in it was made. -/
theorem Test.rendering_through {a : Adapter} (ha : a.lookups.IgnoresOrigins) (b : Adapter) :
    ∀ t : Test, (t.through b).rendering a = t.rendering a
  | ⟨_, _, .value _⟩ | ⟨_, _, .list _⟩ | ⟨_, _, .raw _⟩ => rfl
  | ⟨field, operator, .query q⟩ => by
    have hq := Query.rendering_through ha b q
    have hkind : (q.through b).kind = q.kind := by cases q; rfl
    rw [Test.through, Operand.through, Test.rendering, Test.rendering, Operand.comparand,
      Operand.comparand, hq, hkind]
    split
    · rfl
    · next hl => exact ha _ _ hl ..

/-- A condition is rendered by the adapter it is given, whatever its nested queries belong to. -/
theorem Condition.renderingIn_through {a : Adapter} (ha : a.lookups.IgnoresOrigins) (b : Adapter)
    (nested : Bool) : ∀ c, (Condition.through b c).renderingIn a nested = c.renderingIn a nested
  | .leaf t => by
    rw [Condition.through, Condition.renderingIn, Condition.renderingIn,
      Test.rendering_through ha b t]
  | .raw _ => by rw [Condition.through]
  | .all parts | .any parts => by
    rw [Condition.through, Condition.renderingIn, Condition.renderingIn,
      Condition.liveCount_throughAll, Condition.liveRenderings_through ha b _ parts]
  | .not part => by
    rw [Condition.through, Condition.renderingIn, Condition.renderingIn,
      Condition.renderingIn_through ha b false part]

/-- So are the parts of a group that are not empty. -/
theorem Condition.liveRenderings_through {a : Adapter} (ha : a.lookups.IgnoresOrigins) (b : Adapter)
    (nested : Bool) : ∀ cs, Condition.liveRenderings a nested (Condition.throughAll b cs) =
      Condition.liveRenderings a nested cs
  | [] => by rw [Condition.throughAll]
  | c :: cs => by
    rw [Condition.throughAll, Condition.liveRenderings, Condition.liveRenderings,
      Condition.isEmpty_through, Condition.renderingIn_through ha b nested c,
      Condition.liveRenderings_through ha b nested cs]

/-- So are the conditions of a clause. -/
theorem Condition.renderings_through {a : Adapter} (ha : a.lookups.IgnoresOrigins) (b : Adapter) :
    ∀ cs, Condition.renderings a (Condition.throughAll b cs) = Condition.renderings a cs
  | [] => by rw [Condition.throughAll]
  | c :: cs => by
    rw [Condition.throughAll, Condition.renderings, Condition.renderings,
      Condition.renderingIn_through ha b false c, Condition.renderings_through ha b cs]

/-- A query among the sources is rendered by the outer adapter. -/
theorem Source.rendering_through {a : Adapter} (ha : a.lookups.IgnoresOrigins)
    (b : Adapter) (aliasName : Option String) :
    ∀ s : Source, (s.through b).rendering a aliasName = s.rendering a aliasName
  | .table _ | .raw _ => rfl
  | .query q => by
    rw [Source.through, Source.rendering, Source.rendering, Query.rendering_through ha b q]

/-- So are all sources. -/
theorem TableRef.renderings_through {a : Adapter} (ha : a.lookups.IgnoresOrigins)
    (b : Adapter) :
    ∀ ss, TableRef.renderings a (TableRef.throughAll b ss) = TableRef.renderings a ss
  | [] => rfl
  | ⟨source, aliasName⟩ :: rest => by
    rw [TableRef.throughAll, TableRef.renderings, TableRef.renderings,
      Source.rendering_through ha b aliasName source, TableRef.renderings_through ha b rest]

/-- A query among the columns is rendered by the outer adapter. -/
theorem Selected.rendering_through {a : Adapter} (ha : a.lookups.IgnoresOrigins)
    (b : Adapter) (aliasName : Option String) :
    ∀ s : Selected, (s.through b).rendering a aliasName = s.rendering a aliasName
  | .column _ | .aggregate _ | .raw _ => rfl
  | .query q => by
    rw [Selected.through, Selected.rendering, Selected.rendering, Query.rendering_through ha b q]

/-- So are all columns. -/
theorem SelectColumn.renderings_through {a : Adapter} (ha : a.lookups.IgnoresOrigins)
    (b : Adapter) :
    ∀ cs, SelectColumn.renderings a (SelectColumn.throughAll b cs) = SelectColumn.renderings a cs
  | [] => rfl
  | ⟨expr, aliasName⟩ :: rest => by
    rw [SelectColumn.throughAll, SelectColumn.renderings, SelectColumn.renderings,
      Selected.rendering_through ha b aliasName expr, SelectColumn.renderings_through ha b rest]

/-- A joined query is rendered by the outer adapter. -/
theorem Join.renderings_through {a : Adapter} (ha : a.lookups.IgnoresOrigins)
    (b : Adapter) :
    ∀ js, Join.renderings a (Join.throughAll b js) = Join.renderings a js
  | [] => rfl
  | ⟨kind, target, condition, aliasName⟩ :: rest => by
    rw [Join.throughAll, Join.renderings, Join.renderings,
      Source.rendering_through ha b aliasName target, Join.renderings_through ha b rest]

/-- A query that is assigned is rendered by the outer adapter. -/
theorem Operand.assigned_through {a : Adapter} (ha : a.lookups.IgnoresOrigins)
    (b : Adapter) (column : String) :
    ∀ o : Operand, (o.through b).assigned a column = o.assigned a column
  | .value _ | .list _ | .raw _ => rfl
  | .query q => by
    rw [Operand.through, Operand.assigned, Operand.assigned, Query.rendering_through ha b q]

/-- So are all assignments. -/
theorem Assignment.renderings_through {a : Adapter} (ha : a.lookups.IgnoresOrigins)
    (b : Adapter) :
    ∀ xs, Assignment.renderings a (Assignment.throughAll b xs) = Assignment.renderings a xs
  | [] => rfl
  | ⟨column, operand⟩ :: rest => by
    rw [Assignment.throughAll, Assignment.renderings, Assignment.renderings,
      Operand.assigned_through ha b column operand, Assignment.renderings_through ha b rest]

/-- The operands of a union are rendered by the outer adapter. -/
theorem UnionPart.renderings_through {a : Adapter} (ha : a.lookups.IgnoresOrigins)
    (b : Adapter) :
    ∀ ps, UnionPart.renderings a (UnionPart.throughAll b ps) = UnionPart.renderings a ps
  | [] => rfl
  | ⟨query, all⟩ :: rest => by
    rw [UnionPart.throughAll, UnionPart.renderings, UnionPart.renderings,
      Query.rendering_through ha b query, Query.hasOrderOrPaging_through,
      Query.isEmpty_unions_through, UnionPart.renderings_through ha b rest]

/-- The rows and assignments of a statement are rendered by the outer adapter. -/
theorem Statement.rendering_through {a : Adapter} (ha : a.lookups.IgnoresOrigins)
    (b : Adapter) (table : Option String) (where' : Rendering) :
    ∀ s : Statement, (s.through b).rendering a table where' = s.rendering a table where'
  | .select | .insert .. | .delete | .schema _ => rfl
  | .update table assignments => by
    rw [Statement.through, Statement.rendering, Statement.rendering,
      Assignment.isEmpty_throughAll, Assignment.renderings_through ha b assignments]

/-- A query is rendered as if it and all queries in it had been made with one adapter. -/
theorem Query.rendering_through {a : Adapter} (ha : a.lookups.IgnoresOrigins)
    (b : Adapter) :
    ∀ q : Query, (q.through b).rendering a = q.rendering a
  | ⟨_, _, statement, columns, _, sources, joins, wheres, _, havings, _, _, _, unions⟩ =>
    Query.ClausesThrough.rendering {
      statement := fun table where' => Statement.rendering_through ha b table where' statement
      columns := SelectColumn.renderings_through ha b columns
      sources := TableRef.renderings_through ha b sources
      joins := Join.renderings_through ha b joins
      wheres := Condition.renderings_through ha b wheres
      havings := Condition.renderings_through ha b havings
      unions := UnionPart.renderings_through ha b unions }

end

/-! ## The outermost query decides -/

namespace Query

/-- Two queries that are the same but for adapters: with one adapter for all queries in them, they
are one query. -/
def SameButAdapters (q q' : Query) : Prop :=
  ∃ b, q.through b = q'.through b

/-- The adapters of embedded queries do not matter to lookups that write queries as a part of the
statement: queries that have one adapter, and are the same but for the adapters of the queries embedded
in them, have the same texts and bind the same values, or fail alike. -/
theorem texts_eq_of_sameButAdapters {q q' : Query} (hadapter : q.adapter = q'.adapter)
    (hlookups : q.adapter.lookups.IgnoresOrigins) (h : q.SameButAdapters q') :
    q.toSql = q'.toSql ∧ q.build = q'.build := by
  obtain ⟨b, h⟩ := h
  have hlookups' : q'.adapter.lookups.IgnoresOrigins := hadapter ▸ hlookups
  have hrendering : q.rendering q.adapter = q'.rendering q'.adapter := by
    calc q.rendering q.adapter
        = (q.through b).rendering q.adapter := (rendering_through hlookups _ q).symm
      _ = (q'.through b).rendering q'.adapter := by rw [h, hadapter]
      _ = q'.rendering q'.adapter := rendering_through hlookups' _ q'
  rw [toSql, toSql, build, build, hrendering]
  exact ⟨rfl, rfl⟩

/-- Of a selection and an update that go through an adapter of PostgreSQL, whose embedded queries
are made with that adapter or with one of MySQL that knows no lookups. -/
theorem texts_eq_of_sameButAdapters_postgreSql :
    let a := Adapter.ofDialect .postgreSql "p_" none
    let b : Adapter := ⟨.mySql, "m_", none, {}⟩
    let deep (b : Adapter) := ((Query.new b).source (.table "{{%v}}") none).addWhere
      (.leaf ⟨"name", some "contains", .value (.text "x\\")⟩)
    let e (b b' : Adapter) := ((Query.new b).source (.table "u") none).addWhere
      (.leaf ⟨"id", some "in", .query (deep b')⟩)
    let columns (b b' : Adapter) := (Query.new a).addColumn ⟨.query (e b b'), some "n"⟩
    let sources (b b' : Adapter) := ((columns b b').source (.query (e b b')) (some "s")).join
      ⟨.cross, .query (e b b'), .none, none⟩
    let selection (b b' : Adapter) :=
      ((sources b b').addWhere (.leaf ⟨"id", none, .query (e b b')⟩)).union (e b b') true
    let update (b b' : Adapter) := (Query.new a).update "t" [⟨"n", .query (e b b')⟩]
    ((selection b a).SameButAdapters (selection a a) ∧
      (selection b a).toSql = (selection a a).toSql ∧
        (selection b a).build = (selection a a).build) ∧
    ((update b b).SameButAdapters (update a a) ∧ (update b b).toSql = (update a a).toSql ∧
      (update b b).build = (update a a).build ∧
      (update b b).toSql = .ok ("UPDATE \"t\" SET \"n\"=(SELECT * FROM \"u\" WHERE \"id\" IN "
        ++ "(SELECT * FROM \"p_v\" WHERE \"name\" LIKE '%x\\\\%'))")) := by
  intro a b deep e columns sources selection update
  have hselection : (selection b a).SameButAdapters (selection a a) := ⟨a, rfl⟩
  have hupdate : (update b b).SameButAdapters (update a a) := ⟨a, rfl⟩
  have ha : a.lookups.IgnoresOrigins := Lookup.standard_ignoresOrigins
  obtain ⟨hsql, hbuild⟩ := texts_eq_of_sameButAdapters rfl ha hupdate
  exact ⟨⟨hselection, texts_eq_of_sameButAdapters rfl ha hselection⟩, hupdate, hsql, hbuild,
    by decide +kernel⟩

/-- A lookup that writes a query with the text that it has by itself lets the adapters of embedded
queries through: it puts the quotes of MySQL into a statement of PostgreSQL. -/
theorem texts_ne_of_own_text :
    let own : Lookup := fun _ field c =>
      match c with
      | .query q => .text (field ++ " IN (") ++ .ofExcept q.origin.toSql.get ++ .text ")"
      | _ => .text field
    let a := (Adapter.ofDialect .postgreSql "" none).withLookup "own" own
    let b := Adapter.ofDialect .mySql "" none
    let q (b : Adapter) := (Query.new a).setWhere
      (.leaf ⟨"id", some "own", .query ((Query.new b).source (.table "u") none)⟩)
    ¬ own.IgnoresOrigin ∧ (q a).SameButAdapters (q b) ∧
      (q a).toSql = .ok "SELECT * WHERE \"id\" IN (SELECT * FROM \"u\")" ∧
      (q b).toSql = .ok "SELECT * WHERE \"id\" IN (SELECT * FROM `u`)" := by
  intro own a b q
  refine ⟨fun h => ?_, ⟨a, rfl⟩, by decide +kernel, by decide +kernel⟩
  have horigin := h a.context "" .select .empty
    ⟨a.profile, Thunk.mk fun _ => .ok "", Thunk.mk fun _ => .ok ("", [])⟩
    ⟨a.profile, Thunk.mk fun _ => .ok "x", Thunk.mk fun _ => .ok ("", [])⟩
  have htext : (Except.ok " IN ()" : Except QueryError String) = .ok " IN (x)" :=
    congrArg Rendering.inlineText horigin
  exact absurd (Except.ok.inj htext) (by decide)

end Query

end SqlCompose
