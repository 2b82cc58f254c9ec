import SqlCompose.Proofs.Condition.Rendering
import SqlCompose.Proofs.Query.Clauses
import SqlCompose.Proofs.Rendering.Uniform

/-!
# Statements with literals and with placeholders

A query is compiled twice, once with literals and once with placeholders. That both statements are
the same but for what stands for their values is shown clause by clause: each clause is uniform, also
in the queries that are nested in it (`Query.uniform_rendering`). The standard lookups are uniform
(`Lookup.standard_uniform`); one that writes a literal by itself is not.

The clauses of conditions and the negations look at what is written of other conditions, to leave out
what is empty. They are uniform all the same, for it is known of each condition beforehand whether
anything is written of it (`Condition.clauseRendering_of_live`).
-/

namespace SqlCompose

/-! ## Lookups -/

/-- A comparand is uniform if a query in it is. -/
def Comparand.Uniform (a : Adapter) (c : Comparand) : Prop :=
  ∀ q, c = .query q → q.rendering.Uniform a

namespace Lookup

/-- A lookup that writes uniform comparands uniformly. -/
def Uniform (l : Lookup) : Prop :=
  ∀ (a : Adapter) field c, c.Uniform a → (l a.context field c).Uniform a

variable {a : Adapter} {field : String} {c : Comparand}

/-- An operand is uniform if its comparand is. -/
theorem uniform_operand (hc : c.Uniform a) : (a.context.operand c).Uniform a := by
  cases c with
  | value v => exact .value v
  | list vs => exact (Rendering.Uniform.values vs).paren
  | query q => exact (hc q rfl).paren
  | raw sql => exact (Rendering.Uniform.text _).paren

/-- A text in front of an operand. -/
theorem uniform_text_operand (t : String) (hc : c.Uniform a) :
    (.text t ++ a.context.operand c : Rendering).Uniform a :=
  (Rendering.Uniform.text t).append (uniform_operand hc)

/-- A comparison writes its operand. -/
theorem comparison_uniform (name operator : String) : (comparison name operator).Uniform := by
  intro a field c hc
  unfold comparison
  split
  · exact .fail _
  · exact .fail _
  · exact uniform_text_operand _ hc

/-- So does equality. -/
theorem exact_uniform : exact.Uniform := by
  intro a field c hc
  unfold exact
  split
  · exact .text _
  · exact .fail _
  · exact uniform_text_operand _ hc

/-- So does membership. -/
theorem oneOf_uniform : oneOf.Uniform := by
  intro a field c hc
  unfold oneOf
  split
  · exact .text _
  · exact (Rendering.Uniform.text _).append (Rendering.Uniform.value _).paren
  · exact uniform_text_operand _ hc

/-- A flag is not written. -/
theorem isNull_uniform : isNull.Uniform := by
  intro a field c _
  unfold isNull
  split
  · exact .fail _
  · exact .text _
  · exact .text _

/-- Both bounds are written as values. -/
theorem range_uniform : range.Uniform := by
  intro a field c _
  unfold range
  split
  · exact (((Rendering.Uniform.text _).append (.value _)).append (.text _)).append (.value _)
  · exact .fail _

/-- A pattern is written as a value. -/
theorem like_uniform (name operator : String) (kind : LikeMatch) (lower : Bool) :
    (like name operator kind lower).Uniform := by
  intro a field c _
  unfold like
  split
  · exact .fail _
  · exact ((Rendering.Uniform.text _).append (.value _)).append (.text _)

/-- So is a regular expression. -/
theorem patternAfter_uniform (lead name operator : String) :
    (patternAfter lead name operator).Uniform := by
  intro a field c _
  unfold patternAfter
  split
  · exact .fail _
  · exact (Rendering.Uniform.text _).append (.value _)

/-- Which operator is written for a pattern is up to the dialect. -/
theorem matching_uniform (name : String) (kind : LikeMatch) : (matching name kind).Uniform := by
  intro a field c hc
  unfold matching
  split <;> exact like_uniform _ _ _ _ a _ c hc

/-- Matching without regard to letter case writes the same text around its value in both modes. -/
theorem matchingAnyCase_uniform (name : String) (kind : LikeMatch) :
    (matchingAnyCase name kind).Uniform := by
  intro a field c hc
  unfold matchingAnyCase
  split <;> exact like_uniform _ _ _ _ a _ c hc

/-- Matching an expression does, whatever keyword the dialect has for it. -/
theorem regex_uniform : regex.Uniform := by
  intro a field c hc
  unfold regex
  split <;> exact patternAfter_uniform _ _ _ a _ c hc

/-- So does matching one without regard to letter case. -/
theorem regexAnyCase_uniform : regexAnyCase.Uniform := by
  intro a field c hc
  unfold regexAnyCase
  split <;> exact patternAfter_uniform _ _ _ a _ c hc

/-- No standard lookup writes a literal by itself, or looks at what was written before. -/
theorem standard_uniform {name : String} {l : Lookup} (h : standard.get? name = some l) :
    l.Uniform :=
  standard_cases (P := fun _ l => l.Uniform) exact_uniform
    (fun name operator _ => comparison_uniform name operator) oneOf_uniform isNull_uniform
    range_uniform matching_uniform matchingAnyCase_uniform regex_uniform regexAnyCase_uniform
    (fun part a _ c hc => comparison_uniform part.lookupName "=" a _ c hc) h

end Lookup

/-! ## Clauses -/

section
variable {a : Adapter} {r : Rendering} {rs : List Rendering} {cs : List (Condition Test)}

/-- An alias is fixed text. -/
theorem Adapter.uniform_withAlias (h : r.Uniform a) (aliasName : Option String) :
    (withAlias r aliasName).Uniform a := by
  cases aliasName with
  | none => exact h
  | some name => exact h.append (.text _)

/-- So is what is put around a part of a union. -/
theorem Adapter.uniform_unionPart (h : r.Uniform a) (compound : Bool) :
    (a.unionPart r compound).Uniform a := by
  rw [unionPart]
  split
  · split
    · exact (Rendering.Uniform.text _).append h.paren
    · exact h
  · exact h.paren

/-- The rows of an insertion are written one after the other, with all their values. -/
theorem Adapter.uniform_insertRendering (table : String) (columns : List String)
    (rows : List (List Value)) : (a.insertRendering table columns rows).Uniform a := by
  rw [insertRendering]
  split
  · exact .fail _
  · refine (Rendering.Uniform.text _).append (.joinWith ", " (List.forall_mem_map.2 fun row _ => ?_))
    rw [rowRendering]
    split
    · exact (Rendering.Uniform.values row).paren
    · exact .fail _

/-- So is what is put around the parts of a group. -/
theorem Condition.uniform_groupRendering (glue : String) (nested : Bool)
    (h : ∀ r ∈ rs, r.Uniform a) : (groupRendering glue nested rs).Uniform a := by
  rw [groupRendering]
  split
  · exact (Rendering.Uniform.joinWith glue h).paren
  · exact .joinWith glue h

/-- A clause is uniform if those of its conditions are that are not left out. -/
theorem Condition.uniform_clauseRendering (ha : a.lookups.NeverEmpty) (keyword : String)
    (h : ∀ r ∈ liveRenderings a false cs, r.Uniform a) :
    (clauseRendering keyword (renderings a cs)).Uniform a := by
  cases hcs : areEmpty cs with
  | true =>
    rw [clauseRendering_of_areEmpty a keyword hcs]
    exact .empty
  | false =>
    obtain ⟨r, rs, hlive, -⟩ := exists_liveRenderings ha false hcs
    rw [clauseRendering_of_live ha keyword hcs, hlive]
    rw [hlive] at h
    obtain ⟨hr, hrs⟩ := List.forall_mem_cons.1 h
    refine (Rendering.Uniform.text keyword).append (.joinWith " AND " ?_)
    exact List.forall_mem_cons.2 ⟨hr, List.forall_mem_map.2 fun s hs => (hrs s hs).paren⟩

/-- A comparison is uniform if what it compares with is. -/
theorem Test.uniform_rendering (ha : a.lookups = Lookup.standard) (field : String)
    (operator : Option String) {o : Operand} (ho : (o.comparand a).Uniform a) :
    (Test.rendering a ⟨field, operator, o⟩).Uniform a := by
  rw [Test.rendering, ha]
  split
  · exact .fail _
  · next hl => exact Lookup.standard_uniform hl a _ _ ho

end

/-! ## Queries -/

/-- Queries with uniform clauses. -/
structure Query.UniformClauses (a : Adapter) (q : Query) : Prop where
  statement (table : Option String) {w : Rendering} : w.Uniform a →
    (q.statement.rendering a table w).Uniform a
  columns : ∀ r ∈ SelectColumn.renderings a q.columns, r.Uniform a
  sources : ∀ r ∈ TableRef.renderings a q.sources, r.Uniform a
  joins : (Join.renderings a q.joins).Uniform a
  wheres : ∀ r ∈ Condition.liveRenderings a false q.wheres, r.Uniform a
  havings : ∀ r ∈ Condition.liveRenderings a false q.havings, r.Uniform a
  unions : (UnionPart.renderings a q.unions).Uniform a

namespace Query.UniformClauses

variable {a : Adapter} {q : Query}

/-- The columns are written one after the other. -/
theorem selectList (h : UniformClauses a q) : (q.selectList a).Uniform a := by
  rw [Query.selectList]
  split
  · exact .text "*"
  · exact .joinWith ", " h.columns

/-- So are the sources. -/
theorem fromClause (h : UniformClauses a q) : (q.fromClause a).Uniform a := by
  rw [Query.fromClause]
  split
  · exact .empty
  · exact (Rendering.Uniform.text " FROM ").append (.joinWith ", " h.sources)

/-- So are the clauses of a selection. -/
theorem selection (h : UniformClauses a q) (ha : a.lookups.NeverEmpty) :
    (q.selection a).Uniform a := by
  have hwheres := Condition.uniform_clauseRendering ha " WHERE " h.wheres
  have hhavings := Condition.uniform_clauseRendering ha " HAVING " h.havings
  have hselect := Rendering.Uniform.text (a := a)
    (if q.distinct then "SELECT DISTINCT " else "SELECT ")
  have hrows := ((hselect.append h.selectList).append h.fromClause).append h.joins
  exact (((hrows.append hwheres).append (.text _)).append hhavings).append (.text _)

/-- A query is uniform if its clauses are. -/
theorem rendering (h : UniformClauses a q) (ha : a.lookups.NeverEmpty) :
    (q.rendering a).Uniform a := by
  rw [rendering_eq]
  split
  · split
    · exact h.selection ha
    · exact (Adapter.uniform_unionPart (h.selection ha) _).append h.unions
  · split
    · exact .fail _
    · exact h.statement _ (Condition.uniform_clauseRendering ha " WHERE " h.wheres)

end Query.UniformClauses

section
variable {a : Adapter}

mutual

/-- What is compared with holds uniform queries only. -/
theorem Operand.uniform_comparand (ha : a.lookups = Lookup.standard) :
    ∀ o : Operand, (o.comparand a).Uniform a
  | .value _ | .list _ | .raw _ => by
    rw [Operand.comparand]
    exact fun _ h => nomatch h
  | .query q => by
    have hq := Query.uniform_rendering ha q
    rw [Operand.comparand]
    rintro _ ⟨⟩
    exact hq

/-- A condition is written in one way. -/
theorem Condition.uniform_renderingIn (ha : a.lookups = Lookup.standard) (nested : Bool) :
    ∀ c : Condition Test, (c.renderingIn a nested).Uniform a
  | .leaf ⟨field, operator, o⟩ => by
    rw [Condition.renderingIn]
    exact Test.uniform_rendering ha field operator (Operand.uniform_comparand ha o)
  | .raw sql => by
    rw [Condition.renderingIn]
    split
    · exact .empty
    · exact .text _
  | .all parts | .any parts => by
    rw [Condition.renderingIn]
    exact Condition.uniform_groupRendering _ nested (Condition.uniform_liveRenderings ha _ parts)
  | .not part => by
    have hpart := Condition.uniform_renderingIn ha false part
    cases hempty : part.isEmpty with
    | true =>
      have hnot : (Condition.not part).isEmpty = true := hempty
      rw [Condition.renderingIn_of_isEmpty a nested hnot]
      exact .empty
    | false =>
      -- Whether `NOT` is written looks at the text of the part, but here it is known not to be empty.
      have hne := Condition.neverEmpty_renderingIn (Adapter.neverEmpty_of_standard ha) false hempty
      rw [Condition.renderingIn, Condition.map_notText hne]
      exact (Rendering.Uniform.text _).append hpart.paren

/-- So is each part of a group. -/
theorem Condition.uniform_liveRenderings (ha : a.lookups = Lookup.standard) (nested : Bool) :
    ∀ cs : List (Condition Test), ∀ r ∈ Condition.liveRenderings a nested cs, r.Uniform a
  | [] => by
    rw [Condition.liveRenderings]
    exact nofun
  | c :: cs => by
    have hcs := Condition.uniform_liveRenderings ha nested cs
    rw [Condition.liveRenderings]
    split
    · exact hcs
    · exact List.forall_mem_cons.2 ⟨Condition.uniform_renderingIn ha nested c, hcs⟩

/-- So is a source. -/
theorem Source.uniform_rendering (ha : a.lookups = Lookup.standard)
    (aliasName : Option String) : ∀ s : Source, (s.rendering a aliasName).Uniform a
  | .table name => by
    rw [Source.rendering]
    exact Adapter.uniform_withAlias (.text _) _
  | .query q => by
    rw [Source.rendering]
    exact Adapter.uniform_withAlias (Query.uniform_rendering ha q).paren _
  | .raw sql => by
    rw [Source.rendering]
    exact Adapter.uniform_withAlias (Rendering.Uniform.text _).paren _

/-- So is each source of a list. -/
theorem TableRef.uniform_renderings (ha : a.lookups = Lookup.standard) :
    ∀ ss : List TableRef, ∀ r ∈ TableRef.renderings a ss, r.Uniform a
  | [] => by
    rw [TableRef.renderings]
    exact nofun
  | ⟨source, aliasName⟩ :: rest => by
    rw [TableRef.renderings]
    exact List.forall_mem_cons.2
      ⟨Source.uniform_rendering ha aliasName source, TableRef.uniform_renderings ha rest⟩

/-- So is a column. -/
theorem Selected.uniform_rendering (ha : a.lookups = Lookup.standard)
    (aliasName : Option String) : ∀ s : Selected, (s.rendering a aliasName).Uniform a
  | .column _ | .aggregate _ => by
    rw [Selected.rendering]
    exact Adapter.uniform_withAlias (.text _) _
  | .query q => by
    rw [Selected.rendering]
    exact Adapter.uniform_withAlias (Query.uniform_rendering ha q).paren _
  | .raw sql => by
    rw [Selected.rendering]
    exact Adapter.uniform_withAlias (Rendering.Uniform.text _).paren _

/-- So is each column of a list. -/
theorem SelectColumn.uniform_renderings (ha : a.lookups = Lookup.standard) :
    ∀ cs : List SelectColumn, ∀ r ∈ SelectColumn.renderings a cs, r.Uniform a
  | [] => by
    rw [SelectColumn.renderings]
    exact nofun
  | ⟨expr, aliasName⟩ :: rest => by
    rw [SelectColumn.renderings]
    exact List.forall_mem_cons.2
      ⟨Selected.uniform_rendering ha aliasName expr, SelectColumn.uniform_renderings ha rest⟩

/-- Joins are written in one way, or refused. -/
theorem Join.uniform_renderings (ha : a.lookups = Lookup.standard) :
    ∀ js : List Join, (Join.renderings a js).Uniform a
  | [] => by
    rw [Join.renderings]
    exact .empty
  | ⟨kind, target, condition, aliasName⟩ :: rest => by
    have htarget := Source.uniform_rendering ha aliasName target
    rw [Join.renderings]
    refine Rendering.Uniform.append ?_ (Join.uniform_renderings ha rest)
    split
    · exact .fail _
    · exact ((Rendering.Uniform.text _).append htarget).append (.text _)

/-- What a column is set to is written in one way, or refused. -/
theorem Operand.uniform_assigned (ha : a.lookups = Lookup.standard) (column : String) :
    ∀ o : Operand, (o.assigned a column).Uniform a
  | .value v => by
    rw [Operand.assigned]
    exact .value v
  | .list _ => by
    rw [Operand.assigned]
    exact .fail _
  | .query q => by
    rw [Operand.assigned]
    exact (Query.uniform_rendering ha q).paren
  | .raw _ => by
    rw [Operand.assigned]
    exact .text _

/-- So is each assignment of a list. -/
theorem Assignment.uniform_renderings (ha : a.lookups = Lookup.standard) :
    ∀ xs : List Assignment, ∀ r ∈ Assignment.renderings a xs, r.Uniform a
  | [] => by
    rw [Assignment.renderings]
    exact nofun
  | ⟨column, operand⟩ :: rest => by
    rw [Assignment.renderings]
    exact List.forall_mem_cons.2
      ⟨(Rendering.Uniform.text _).append (Operand.uniform_assigned ha column operand),
        Assignment.uniform_renderings ha rest⟩

/-- So are the parts of a union. -/
theorem UnionPart.uniform_renderings (ha : a.lookups = Lookup.standard) :
    ∀ ps : List UnionPart, (UnionPart.renderings a ps).Uniform a
  | [] => by
    rw [UnionPart.renderings]
    exact .empty
  | ⟨query, all⟩ :: rest => by
    rw [UnionPart.renderings]
    exact ((Rendering.Uniform.text _).append
      (Adapter.uniform_unionPart (Query.uniform_rendering ha query) _)).append
        (UnionPart.uniform_renderings ha rest)

/-- So is a statement with its conditions on rows. -/
theorem Statement.uniform_rendering (ha : a.lookups = Lookup.standard)
    (table : Option String) {w : Rendering} (hw : w.Uniform a) :
    ∀ s : Statement, (s.rendering a table w).Uniform a
  | .select => by
    rw [Statement.rendering]
    exact .empty
  | .insert table columns rows => by
    rw [Statement.rendering]
    exact Adapter.uniform_insertRendering table columns rows
  | .update table assignments => by
    rw [Statement.rendering]
    split
    · exact .fail _
    · exact ((Rendering.Uniform.text _).append
        (.joinWith ", " (Assignment.uniform_renderings ha assignments))).append hw
  | .delete => by
    cases table with
    | none => exact .fail _
    | some name => exact (Rendering.Uniform.text _).append hw
  | .schema change => by
    rw [Statement.rendering]
    exact .ofExcept _

/-- A query is written in one way, with its values as literals and as placeholders. -/
theorem Query.uniform_rendering (ha : a.lookups = Lookup.standard) :
    ∀ q : Query, (q.rendering a).Uniform a
  | ⟨_, _, statement, columns, _, sources, joins, wheres, _, havings, _, _, _, unions⟩ =>
    Query.UniformClauses.rendering {
      statement := fun table _ hw => Statement.uniform_rendering ha table hw statement
      columns := SelectColumn.uniform_renderings ha columns
      sources := TableRef.uniform_renderings ha sources
      joins := Join.uniform_renderings ha joins
      wheres := Condition.uniform_liveRenderings ha false wheres
      havings := Condition.uniform_liveRenderings ha false havings
      unions := UnionPart.uniform_renderings ha unions } (Adapter.neverEmpty_of_standard ha)
termination_by structural q => q

end

end

/-- A query fails alike with placeholders and with literals. Otherwise the two statements have the
same fixed text around fillings, one for each value: the placeholders, numbered from one in the
order of the text, and the literals of the values that are bound to them. -/
theorem Query.build_and_toSql {q : Query} (hq : q.adapter.lookups = Lookup.standard) :
    (∃ e, q.build = .error e ∧ q.toSql = .error e) ∨
      ∃ front behind vs, behind.length = vs.length ∧
        q.build = .ok
          (filled front ((List.range' 1 vs.length).map q.adapter.dialect.placeholder) behind, vs) ∧
        q.toSql = .ok (filled front (vs.map q.adapter.quoteValue) behind) :=
  (Query.uniform_rendering hq q).boundText_and_inlineText

/-- Of a search in PostgreSQL with a nested query, for a text that looks like a placeholder. -/
theorem Query.build_and_toSql_postgreSql :
    let a := Adapter.ofDialect .postgreSql "" none
    let named := (((Query.new a).addSelect "id").source (.table "u") none).setWhere
      (.leaf ⟨"name", some "contains", .value (.text "$2")⟩)
    let q := (((Query.new a).source (.table "t") none).setWhere
      (.leaf ⟨"a", some "in", .query named⟩)).addWhere (.leaf ⟨"b", none, .value (.int 1)⟩)
    ∃ front behind, behind.length = 2 ∧
      q.build = .ok (filled front ["$1", "$2"] behind, [.text "%$2%", .int 1]) ∧
      filled front ["$1", "$2"] behind = "SELECT * FROM \"t\" WHERE \"a\" IN (SELECT \"id\" FROM " ++
        "\"u\" WHERE \"name\" LIKE $1) AND (\"b\"=$2)" ∧
      q.toSql = .ok (filled front ["'%$2%'", "1"] behind) := by
  intro a named q
  have hbuild : q.build = .ok ("SELECT * FROM \"t\" WHERE \"a\" IN (SELECT \"id\" FROM " ++
      "\"u\" WHERE \"name\" LIKE $1) AND (\"b\"=$2)", [.text "%$2%", .int 1]) := by decide +kernel
  obtain ⟨e, he, -⟩ | ⟨front, behind, vs, hlength, hbound, hinline⟩ :=
    Query.build_and_toSql (q := q) rfl
  · cases hbuild.symm.trans he
  · obtain ⟨htext, rfl⟩ := Prod.mk.inj (Except.ok.inj (hbuild.symm.trans hbound))
    exact ⟨front, behind, hlength, hbound, htext.symm, hinline⟩

end SqlCompose
