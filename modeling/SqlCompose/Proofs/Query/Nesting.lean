import Mathlib.Logic.Relation
import SqlCompose.Proofs.Condition.Leaves
import SqlCompose.Proofs.Query.Clauses

/-!
# Queries in queries

Queries are embedded as columns, sources and joined sources, as operands of conditions and of
assignments, and as the parts of a union (`Query.Embeds`). What an embedded query is rendered as
stands in the rendering of the query around it (`Query.Embeds.standsIn`), and so does what is nested
to any depth (`Query.Nests.standsIn`).

Only a selection may have unions, and a query with unions that is none fails wherever it stands. The
parts of a union are not asked what they are: a union fails with its own selection or with the first
part that fails on its own, and else it is written (`Query.isSelect_of_unions`). So a part without
unions need not be a selection, and neither need any other nested query
(`Query.toSql_union_delete`).
-/

namespace SqlCompose

/-! ## Lookups -/

namespace Lookup

/-- Where a comparison with a nested query can be written, the query stands in it. -/
def Nests (l : Lookup) : Prop :=
  ∀ (a : Adapter) (field : String) (q : NestedQuery),
    q.rendering.StandsIn (l a.context field (.query q))

/-- A comparison by an operator writes a nested query. -/
theorem comparison_nests (name operator : String) : Nests (comparison name operator) :=
  fun _ _ _ => .append_right _ (.paren _)

/-- A search for a text refuses a nested query. -/
theorem matching_nests (name : String) (kind : LikeMatch) : Nests (matching name kind) := by
  intro a field q
  unfold matching
  split <;> exact .fail _ _

/-- So does one without regard to letter case. -/
theorem matchingAnyCase_nests (name : String) (kind : LikeMatch) :
    Nests (matchingAnyCase name kind) := by
  intro a field q
  unfold matchingAnyCase
  split <;> exact .fail _ _

/-- So does one for an expression. -/
theorem regex_nests : Nests regex := by
  intro a field q
  unfold regex
  split <;> exact .fail _ _

/-- And one for an expression without regard to letter case. -/
theorem regexAnyCase_nests : Nests regexAnyCase := by
  intro a field q
  unfold regexAnyCase
  split <;> exact .fail _ _

/-- Every standard lookup writes a nested query or refuses it. -/
theorem standard_nests {name : String} {l : Lookup} (h : standard.get? name = some l) :
    Nests l := by
  have hoperand : ∀ lead : String, ∀ r : Rendering, r.StandsIn (.text lead ++ r.paren) :=
    fun _ r => .append_right _ (.paren r)
  exact standard_cases (P := fun _ l => Nests l) (fun _ _ q => hoperand _ q.rendering)
    (fun name operator _ => comparison_nests name operator) (fun _ _ q => hoperand _ q.rendering)
    (fun _ _ _ => .fail _ _) (fun _ _ _ => .fail _ _) matching_nests matchingAnyCase_nests
    regex_nests regexAnyCase_nests (fun _ _ _ q => comparison_nests _ _ _ _ q) h

end Lookup

/-! ## Embedded queries -/

/-- Whether the conditions on rows belong to what is written of a statement. -/
def Statement.hasConditions : Statement → Bool
  | .insert .. => false
  | .schema _ => false
  | _ => true

/-- The comparison with a query, which is written. -/
def Test.Nests (a : Adapter) (t : Test) (e : Query) : Prop :=
  t.operand = .query e ∧ (e.rendering a).StandsIn (t.rendering a)

namespace Query

/-- A query embedded in another one, as a part of what is written of it. -/
inductive Embeds (a : Adapter) (q e : Query) : Prop
  | column {aliasName : Option String} : q.statement.isSelect = true →
      ⟨.query e, aliasName⟩ ∈ q.columns → Embeds a q e
  | source {aliasName : Option String} : q.statement.isSelect = true →
      ⟨.query e, aliasName⟩ ∈ q.sources → Embeds a q e
  | join {kind : JoinKind} {condition : JoinCondition} {aliasName : Option String} :
      q.statement.isSelect = true → ⟨kind, .query e, condition, aliasName⟩ ∈ q.joins → Embeds a q e
  | condition {t : Test} : q.statement.hasConditions = true →
      .leaf t ∈ Condition.leavesOf q.wheres → t.Nests a e → Embeds a q e
  | groupCondition {t : Test} : q.statement.isSelect = true →
      .leaf t ∈ Condition.leavesOf q.havings → t.Nests a e → Embeds a q e
  | assigned {table : String} {assignments : List Assignment} {column : String} :
      q.statement = .update table assignments → ⟨column, .query e⟩ ∈ assignments → Embeds a q e
  | union {all : Bool} : q.statement.isSelect = true → ⟨e, all⟩ ∈ q.unions → Embeds a q e

/-- A query embedded to any depth. All of them are written through the adapter of the outermost. -/
def Nests (q e : Query) : Prop :=
  Relation.TransGen (Embeds q.adapter) q e

end Query

variable {a : Adapter} {q e : Query}

/-- Where all lookups write nested queries, every comparison with a query does. -/
theorem Test.nests (h : ∀ name l, a.lookups.get? name = some l → l.Nests) (field : String)
    (operator : Option String) (e : Query) : Test.Nests a ⟨field, operator, .query e⟩ e := by
  refine ⟨rfl, ?_⟩
  rw [Test.rendering, Operand.comparand]
  split
  · exact .fail _ _
  · next l hl => exact h _ l hl a _ _

/-! ## Embedded queries are written -/

/-- What is given an alias stands in the result. -/
theorem Adapter.standsIn_withAlias (r : Rendering) (aliasName : Option String) :
    r.StandsIn (Adapter.withAlias r aliasName) := by
  cases aliasName with
  | none => exact .refl r
  | some name => exact .append_left (.refl r) _

/-- A part of a union stands in the union, in parentheses or not. -/
theorem Adapter.standsIn_unionPart (a : Adapter) (r : Rendering) (compound : Bool) :
    r.StandsIn (a.unionPart r compound) := by
  rw [unionPart]
  split
  · split
    · exact .append_right _ (.paren r)
    · exact .refl r
  · exact .paren r

/-- A part of a union fails as it does alone. -/
theorem Adapter.fault?_unionPart (a : Adapter) (r : Rendering) (compound : Bool) :
    (a.unionPart r compound).fault? = r.fault? := by
  rw [unionPart]
  split
  · split <;> simp
  · simp

/-- A query stands in the source that it is. -/
theorem Source.standsIn_rendering (a : Adapter) (e : Query) (aliasName : Option String) :
    (e.rendering a).StandsIn ((Source.query e).rendering a aliasName) := by
  rw [Source.rendering]
  exact (Rendering.StandsIn.paren _).trans (Adapter.standsIn_withAlias _ _)

/-- A query stands in the column that it is. -/
theorem Selected.standsIn_rendering (a : Adapter) (e : Query) (aliasName : Option String) :
    (e.rendering a).StandsIn ((Selected.query e).rendering a aliasName) := by
  rw [Selected.rendering]
  exact (Rendering.StandsIn.paren _).trans (Adapter.standsIn_withAlias _ _)

/-- Columns are rendered one by one. -/
theorem SelectColumn.renderings_eq_map (a : Adapter) (columns : List SelectColumn) :
    SelectColumn.renderings a columns = columns.map fun c => c.expr.rendering a c.aliasName := by
  induction columns with
  | nil => rfl
  | cons c columns ih =>
    obtain ⟨expr, aliasName⟩ := c
    rw [SelectColumn.renderings, ih, List.map_cons]

/-- Sources are rendered one by one. -/
theorem TableRef.renderings_eq_map (a : Adapter) (sources : List TableRef) :
    TableRef.renderings a sources = sources.map fun s => s.source.rendering a s.aliasName := by
  induction sources with
  | nil => rfl
  | cons s sources ih =>
    obtain ⟨source, aliasName⟩ := s
    rw [TableRef.renderings, ih, List.map_cons]

/-- Assignments are rendered one by one. -/
theorem Assignment.renderings_eq_map (a : Adapter) (assignments : List Assignment) :
    Assignment.renderings a assignments = assignments.map fun s =>
      .text (a.quoteColumn s.column ++ "=") ++ s.operand.assigned a s.column := by
  induction assignments with
  | nil => rfl
  | cons s assignments ih =>
    obtain ⟨column, operand⟩ := s
    rw [Assignment.renderings, ih, List.map_cons]

/-- A joined query stands in the joins, unless its join is refused. -/
theorem Join.standsIn_renderings {joins : List Join} {kind : JoinKind} {condition : JoinCondition}
    {aliasName : Option String} (h : ⟨kind, .query e, condition, aliasName⟩ ∈ joins) :
    (e.rendering a).StandsIn (Join.renderings a joins) := by
  induction joins with
  | nil => cases h
  | cons j joins ih =>
    obtain ⟨kind', target, condition', aliasName'⟩ := j
    rw [Join.renderings]
    cases h with
    | head =>
      refine .append_left ?_ _
      split
      · exact .fail _ _
      · exact ((Source.standsIn_rendering a e aliasName).append_right _).append_left _
    | tail _ h => exact (ih h).append_right _

/-- A part of a union stands among the parts. -/
theorem UnionPart.standsIn_renderings {parts : List UnionPart} {all : Bool}
    (h : ⟨e, all⟩ ∈ parts) : (e.rendering a).StandsIn (UnionPart.renderings a parts) := by
  induction parts with
  | nil => cases h
  | cons part parts ih =>
    obtain ⟨query, all'⟩ := part
    rw [UnionPart.renderings]
    cases h with
    | head => exact ((Adapter.standsIn_unionPart a _ _).append_right _).append_left _
    | tail _ h => exact (ih h).append_right _

/-- Parts fail with the first of them that does. -/
theorem UnionPart.fault?_renderings (a : Adapter) (parts : List UnionPart) :
    (UnionPart.renderings a parts).fault? =
      parts.findSome? fun part => (part.query.rendering a).fault? := by
  induction parts with
  | nil => rfl
  | cons part parts ih =>
    obtain ⟨query, all⟩ := part
    rw [UnionPart.renderings, List.findSome?_cons]
    simp only [Rendering.fault?_append, Rendering.fault?_text, Adapter.fault?_unionPart, ih,
      Option.none_or]
    cases (query.rendering a).fault? <;> rfl

namespace Query

/-- The clauses of a selection, in their order. -/
def clauses (q : Query) (a : Adapter) : List Rendering :=
  [.text (if q.distinct then "SELECT DISTINCT " else "SELECT "), q.selectList a, q.fromClause a,
    Join.renderings a q.joins, q.whereClause a, q.groupClause a, q.havingClause a,
    .text (q.orderAndPaging a)]

/-- A selection is its clauses, with nothing between them. -/
theorem selection_eq_joinWith (q : Query) (a : Adapter) :
    q.selection a = Rendering.joinWith "" (q.clauses a) := by
  have hnothing (r : Rendering) : r ++ .text "" = r := r.append_empty
  simp only [selection, clauses, Rendering.joinWith, Rendering.append_assoc, hnothing]

/-- Each clause of a selection stands in the query. -/
theorem standsIn_of_mem_clauses {r : Rendering} (h : q.statement.isSelect = true)
    (hr : r ∈ q.clauses a) : r.StandsIn (q.rendering a) := by
  have hselection : r.StandsIn (q.selection a) := by
    rw [selection_eq_joinWith]
    exact .joinWith "" hr
  rw [rendering_eq, if_pos h]
  split
  · exact hselection
  · exact (hselection.trans (Adapter.standsIn_unionPart a _ _)).append_left _

/-- A query among the columns stands in their list. -/
theorem standsIn_selectList {aliasName : Option String} (h : ⟨.query e, aliasName⟩ ∈ q.columns) :
    (e.rendering a).StandsIn (q.selectList a) := by
  have hne : q.columns.isEmpty = false := List.isEmpty_eq_false_iff.2 (List.ne_nil_of_mem h)
  rw [selectList, hne, SelectColumn.renderings_eq_map]
  exact (Selected.standsIn_rendering a e aliasName).trans
    (.joinWith ", " (List.mem_map.2 ⟨_, h, rfl⟩))

/-- A query among the sources stands in their list. -/
theorem standsIn_fromClause {aliasName : Option String} (h : ⟨.query e, aliasName⟩ ∈ q.sources) :
    (e.rendering a).StandsIn (q.fromClause a) := by
  have hne : q.sources.isEmpty = false := List.isEmpty_eq_false_iff.2 (List.ne_nil_of_mem h)
  rw [fromClause, hne, TableRef.renderings_eq_map]
  refine .append_right _ ?_
  exact (Source.standsIn_rendering a e aliasName).trans
    (.joinWith ", " (List.mem_map.2 ⟨_, h, rfl⟩))

/-- The conditions on rows stand in every statement that has some. -/
theorem whereClause_standsIn (h : q.statement.hasConditions = true) :
    (q.whereClause a).StandsIn (q.rendering a) := by
  by_cases hselect : q.statement.isSelect = true
  · exact standsIn_of_mem_clauses hselect (by simp [clauses])
  · rw [rendering_eq, if_neg hselect]
    split
    · exact .fail _ _
    cases hstatement : q.statement with
    | select =>
      rw [hstatement] at hselect
      exact absurd rfl hselect
    | insert | schema =>
      rw [hstatement] at h
      cases h
    | update table assignments =>
      rw [Statement.rendering]
      split
      · exact .fail _ _
      · exact .append_right _ (.refl _)
    | delete =>
      cases hsource : q.deletionTable? with
      | none => exact .fail _ _
      | some table => exact .append_right _ (.refl _)

/-- An assigned query stands in the update. -/
theorem standsIn_of_assigned {table column : String} {assignments : List Assignment}
    (h : q.statement = .update table assignments) (hmem : ⟨column, .query e⟩ ∈ assignments) :
    (e.rendering a).StandsIn (q.rendering a) := by
  have hne : assignments.isEmpty = false := List.isEmpty_eq_false_iff.2 (List.ne_nil_of_mem hmem)
  have hselect : q.statement.isSelect = false := by
    rw [h]
    rfl
  rw [rendering_eq q, hselect, if_neg Bool.false_ne_true, h]
  split
  · exact .fail _ _
  rw [Statement.rendering, hne, if_neg Bool.false_ne_true, Assignment.renderings_eq_map]
  refine .append_left (.append_right _ ?_) _
  have hassigned : (e.rendering a).StandsIn ((Operand.query e).assigned a column) := by
    rw [Operand.assigned]
    exact .paren _
  exact (hassigned.append_right _).trans (.joinWith ", " (List.mem_map.2 ⟨_, hmem, rfl⟩))

/-- An embedded query is written as a part of the query around it. -/
theorem Embeds.standsIn (h : q.Embeds a e) : (e.rendering a).StandsIn (q.rendering a) := by
  cases h with
  | column hselect hmem =>
    exact (standsIn_selectList hmem).trans (standsIn_of_mem_clauses hselect (by simp [clauses]))
  | source hselect hmem =>
    exact (standsIn_fromClause hmem).trans (standsIn_of_mem_clauses hselect (by simp [clauses]))
  | join hselect hmem =>
    exact (Join.standsIn_renderings hmem).trans
      (standsIn_of_mem_clauses hselect (by simp [clauses]))
  | condition hconditions hmem ht =>
    exact (ht.2.trans (Test.standsIn_clauseRendering hmem a _)).trans
      (whereClause_standsIn hconditions)
  | groupCondition hselect hmem ht =>
    exact (ht.2.trans (Test.standsIn_clauseRendering hmem a _)).trans
      (standsIn_of_mem_clauses (r := q.havingClause a) hselect (by simp [clauses]))
  | assigned hupdate hmem => exact standsIn_of_assigned hupdate hmem
  | union hselect hmem =>
    have hne : q.unions.isEmpty = false := List.isEmpty_eq_false_iff.2 (List.ne_nil_of_mem hmem)
    rw [rendering_eq q, if_pos hselect, hne]
    exact .append_right _ (UnionPart.standsIn_renderings hmem)

/-- So is whatever is nested in it. -/
theorem Nests.standsIn (h : q.Nests e) :
    (e.rendering q.adapter).StandsIn (q.rendering q.adapter) := by
  induction h with
  | single h => exact h.standsIn
  | tail _ h ih => exact h.standsIn.trans ih

/-! ## What a union fails with -/

/-- The failure of a query, if it cannot be written. -/
def fault? (q : Query) : Option QueryError :=
  match q.toSql with
  | .ok _ => none
  | .error e => some e

/-- It is that of the rendering through its own adapter. -/
theorem fault?_eq (q : Query) : q.fault? = (q.rendering q.adapter).fault? := rfl

/-- A query does not look at its own adapter. -/
theorem rendering_withAdapter (q : Query) (a b : Adapter) :
    (q.withAdapter b).rendering a = q.rendering a := by
  rw [rendering_eq, rendering_eq]
  rfl

/-- A query with unions fails if it is no selection. -/
theorem rendering_of_unions (hunions : q.unions ≠ []) (hselect : q.statement.isSelect = false) :
    q.rendering a = .fail (.incomplete .unionWithoutSelect) := by
  rw [rendering_eq, hselect, List.isEmpty_eq_false_iff.2 hunions]
  rfl

/-- A selection with unions fails with its own clauses, or with the first part that fails. -/
theorem fault?_rendering (h : q.statement.isSelect = true) :
    (q.rendering a).fault? = (q.selection a).fault?.or
      (q.unions.findSome? fun part => (part.query.rendering a).fault?) := by
  rw [rendering_eq, if_pos h]
  split
  · next hnil =>
    rw [List.isEmpty_iff.1 hnil, List.findSome?_nil, Option.or_none]
  · rw [Rendering.fault?_append, Adapter.fault?_unionPart, UnionPart.fault?_renderings]

/-- The query without its unions. -/
def withoutUnions (q : Query) : Query :=
  { q with unions := [] }

/-- Without its unions, a selection is rendered as its clauses. -/
theorem rendering_withoutUnions (h : q.statement.isSelect = true) :
    q.withoutUnions.rendering a = q.selection a := by
  rw [rendering_eq, withoutUnions, if_pos h]
  rfl

/-- Whatever is nested in a query that can be written is written in its text as it is written alone,
and if it has unions it is a selection. A query with unions that is no selection fails, and a
selection with unions fails with what its own clauses or the first failing part fail with; that a
part is no selection is not a failure. -/
theorem isSelect_of_unions (q : Query) :
    (q.statement.isSelect = false → q.unions ≠ [] →
      q.toSql = .error (.incomplete .unionWithoutSelect)) ∧
    (q.statement.isSelect = true → q.fault? = q.withoutUnions.fault?.or
      (q.unions.findSome? fun part => (part.query.withAdapter q.adapter).fault?)) ∧
    ∀ text, q.toSql = .ok text → ∀ e, q.Nests e →
      (∃ before part behind, (e.withAdapter q.adapter).toSql = .ok part ∧
        text = before ++ part ++ behind) ∧
      (e.unions ≠ [] → e.statement.isSelect = true) := by
  refine ⟨fun hselect hunions => ?_, fun hselect => ?_, fun text htext e he => ⟨?_, ?_⟩⟩
  · rw [toSql, rendering_of_unions hunions hselect]
    rfl
  · rw [fault?_eq, fault?_rendering hselect, fault?_eq, ← rendering_withoutUnions hselect]
    simp only [fault?_eq, rendering_withAdapter]
    rfl
  · obtain ⟨before, part, behind, hpart, rfl⟩ := he.standsIn text htext
    refine ⟨before, part, behind, ?_, rfl⟩
    rw [toSql, rendering_withAdapter]
    exact hpart
  · intro hunions
    by_contra hselect
    have hpart := he.standsIn text htext
    rw [rendering_of_unions hunions (Bool.eq_false_iff.2 hselect)] at hpart
    obtain ⟨before, part, behind, hpart, -⟩ := hpart
    cases hpart

/-- Of a selection with an operand that has a union. -/
theorem isSelect_of_unions_operand :
    let a := Adapter.ofDialect .sqlite "" none
    let e := ((Query.new a).source (.table "b") none).union ((Query.new a).source (.table "c") none)
      true
    let q := ((Query.new a).source (.table "a") none).addWhere (.leaf ⟨"id", some "in", .query e⟩)
    let text := "SELECT * FROM `a` WHERE `id` IN (SELECT * FROM `b` UNION ALL SELECT * FROM `c`)"
    q.toSql = .ok text ∧ q.Nests e ∧ (∃ before part behind,
      (e.withAdapter a).toSql = .ok part ∧ text = before ++ part ++ behind) ∧
      e.statement.isSelect = true := by
  intro a e q text
  have htext : q.toSql = .ok text := by decide +kernel
  have hnests : q.Nests e := .single (.condition rfl List.mem_cons_self
    (Test.nests (fun _ _ => Lookup.standard_nests) "id" (some "in") e))
  obtain ⟨hpart, hselect⟩ := (isSelect_of_unions q).2.2 text htext e hnests
  exact ⟨htext, hnests, hpart, hselect (List.cons_ne_nil _ _)⟩

/-- A deletion is written as a part of a union, and as a source. -/
theorem toSql_union_delete :
    let a := Adapter.ofDialect .sqlite "" none
    let delete := ((Query.new a).source (.table "b") none).asDelete
    let union := ((Query.new a).source (.table "a") none).union delete false
    let derived := (Query.new a).source (.query delete) none
    delete.statement.isSelect = false ∧
      (union.Nests delete ∧ union.toSql = .ok "SELECT * FROM `a` UNION DELETE FROM `b`") ∧
      derived.Nests delete ∧ derived.toSql = .ok "SELECT * FROM (DELETE FROM `b`)" := by
  intro a delete union derived
  have hunion : union.Nests delete := .single (.union rfl List.mem_cons_self)
  have hderived : derived.Nests delete := .single (.source rfl List.mem_cons_self)
  exact ⟨rfl, ⟨hunion, by decide +kernel⟩, hderived, by decide +kernel⟩

end Query

end SqlCompose
