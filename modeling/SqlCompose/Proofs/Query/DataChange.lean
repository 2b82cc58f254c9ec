import SqlCompose.Proofs.Query.Nesting

/-!
# Changes of rows

An update or a deletion touches the rows that the conditions on rows admit. A query may hold more
that narrows what it is about: joins, further sources, conditions on groups and bounds of a paging
(`Narrowing`). Nothing of it is looked at when a change of rows is rendered: that depends on the
statement, the table that a deletion names, the conditions on rows and on whether there are unions
(`Query.rendering_congr_of_changesRows`).

So a union is refused, the conditions on rows are written, and every other part that narrows is left
out without a failure (`Query.toSql_of_changesRows`).
-/

namespace SqlCompose

namespace Statement

/-- Whether a statement changes or deletes rows that are there. -/
def changesRows : Statement → Bool
  | .update .. => true
  | .delete => true
  | _ => false

/-- A change of rows selects nothing. -/
theorem isSelect_of_changesRows {s : Statement} (h : s.changesRows = true) :
    s.isSelect = false := by
  cases s with
  | update | delete => rfl
  | select | insert | schema => cases h

/-- A change of rows ends with the conditions on rows. -/
theorem rendering_append {s : Statement} (h : s.changesRows = true) (a : Adapter)
    (table : Option String) (where' : Rendering) :
    s.rendering a table where' = s.rendering a table .empty ++ where' := by
  cases s with
  | select | insert | schema => cases h
  | update table assignments =>
    rw [Statement.rendering, Statement.rendering]
    split
    · exact (Rendering.fail_append _ _).symm
    · rw [Rendering.append_empty]
  | delete =>
    cases table with
    | none => exact (Rendering.fail_append _ _).symm
    | some table => rw [Statement.rendering, Statement.rendering, Rendering.append_empty]

end Statement

/-- A part of a query, apart from the conditions on rows, that narrows the rows it is about. -/
inductive Narrowing where
  | joins
  | furtherSources
  | havings
  | limit
  | offset
  deriving DecidableEq

namespace Query

/-- Whether a query holds a part that narrows its rows. -/
def holds (q : Query) : Narrowing → Bool
  | .joins => !q.joins.isEmpty
  | .furtherSources => 1 < q.sources.length
  | .havings => !Condition.areEmpty q.havings
  | .limit => q.limit.isSome
  | .offset => q.offset.isSome

/-- The query without a part that narrows its rows. -/
def without (q : Query) : Narrowing → Query
  | .joins => { q with joins := [] }
  | .furtherSources => { q with sources := q.sources.take 1 }
  | .havings => { q with havings := [] }
  | .limit => { q with limit := none }
  | .offset => { q with offset := none }

/-- The query without its conditions on rows. -/
def unconditional (q : Query) : Query :=
  { q with wheres := [] }

/-- A part is seen in what is written: without it, the text would be another one. -/
def Shows (q : Query) (part : Narrowing) : Prop :=
  ∀ text, q.toSql = .ok text → (q.without part).toSql ≠ .ok text

/-! ## What a change of rows depends on -/

variable {q : Query}

/-- A change of rows without unions is rendered as its statement. -/
theorem rendering_of_changesRows (hq : q.statement.changesRows = true) (a : Adapter) :
    q.rendering a =
      if q.unions.isEmpty then q.statement.rendering a q.deletionTable? (q.whereClause a)
      else .fail (.incomplete .unionWithoutSelect) := by
  rw [rendering_eq, Statement.isSelect_of_changesRows hq]
  cases q.unions <;> rfl

/-- Changes of rows with the same statement, table to delete from, conditions on rows and unions are
rendered alike. -/
theorem rendering_congr_of_changesRows (q' : Query) (hq : q.statement.changesRows = true)
    (hstatement : q'.statement = q.statement) (htable : q'.deletionTable? = q.deletionTable?)
    (hwheres : q'.wheres = q.wheres) (hunions : q'.unions = q.unions) (a : Adapter) :
    q'.rendering a = q.rendering a := by
  have hq' : q'.statement.changesRows = true := hstatement ▸ hq
  rw [rendering_of_changesRows hq, rendering_of_changesRows hq', hstatement, hunions, htable,
    whereClause, whereClause, hwheres]

/-- What narrows a query does not say which table to delete from. -/
theorem deletionTable?_without (q : Query) (part : Narrowing) :
    (q.without part).deletionTable? = q.deletionTable? := by
  cases part with
  | joins | havings | limit | offset => rfl
  | furtherSources =>
    rw [deletionTable?, deletionTable?, without]
    rcases q.sources with _ | ⟨⟨_ | _ | _, _⟩, _⟩ <;> rfl

/-- A change of rows is rendered alike without a part that narrows it. -/
theorem rendering_without (hq : q.statement.changesRows = true) (part : Narrowing) (a : Adapter) :
    (q.without part).rendering a = q.rendering a := by
  have hstatement : (q.without part).statement = q.statement := by cases part <;> rfl
  have hwheres : (q.without part).wheres = q.wheres := by cases part <;> rfl
  have hunions : (q.without part).unions = q.unions := by cases part <;> rfl
  exact rendering_congr_of_changesRows _ hq hstatement (deletionTable?_without q part) hwheres
    hunions a

/-- Both texts of a change of rows are the same without a part that narrows it. -/
theorem texts_without (hq : q.statement.changesRows = true) (part : Narrowing) :
    (q.without part).toSql = q.toSql ∧ (q.without part).build = q.build := by
  have hadapter : (q.without part).adapter = q.adapter := by cases part <;> rfl
  rw [toSql, toSql, build, build, hadapter, rendering_without hq]
  exact ⟨rfl, rfl⟩

/-! ## Conditions on rows -/

/-- The conditions on rows stand at the end of a change of rows. -/
theorem rendering_unconditional_append (hq : q.statement.changesRows = true) (a : Adapter) :
    q.rendering a = q.unconditional.rendering a ++ q.whereClause a := by
  have hbare : q.unconditional.rendering a =
      if q.unions.isEmpty then q.statement.rendering a q.deletionTable? .empty
      else .fail (.incomplete .unionWithoutSelect) :=
    rendering_of_changesRows (q := q.unconditional) hq a
  rw [rendering_of_changesRows hq, hbare]
  split
  · exact Statement.rendering_append hq a _ _
  · exact (Rendering.fail_append _ _).symm

/-- Where a change of rows can be written, so can its conditions on rows, and they stand behind what
would be written without them. -/
theorem exists_whereText (hq : q.statement.changesRows = true) {text : String}
    (h : q.toSql = .ok text) :
    ∃ head where', q.unconditional.toSql = .ok head ∧
      (q.whereClause q.adapter).inlineText = .ok where' ∧ text = head ++ where' := by
  rw [toSql, rendering_unconditional_append hq] at h
  exact Rendering.inlineText_append_eq_ok h

/-! ## What is left out -/

/-- An update or a deletion with unions fails. Its conditions on rows are written, but no other part
that narrows its rows makes a difference to what is written, or to whether anything is. So if it can
be written, all such parts are seen only where there are none. -/
theorem toSql_of_changesRows (hq : q.statement.changesRows = true) :
    (q.unions ≠ [] → q.toSql = .error (.incomplete .unionWithoutSelect) ∧
      q.build = .error (.incomplete .unionWithoutSelect)) ∧
    (∀ text, q.toSql = .ok text → ∃ head where', q.unconditional.toSql = .ok head ∧
      (q.whereClause q.adapter).inlineText = .ok where' ∧ text = head ++ where') ∧
    (∀ part, (q.without part).toSql = q.toSql ∧ (q.without part).build = q.build) ∧
    ((∀ part, q.holds part = true → q.Shows part) ↔
      (∃ e, q.toSql = .error e) ∨ ∀ part, q.holds part = false) := by
  have hselect : q.statement.isSelect = false := Statement.isSelect_of_changesRows hq
  refine ⟨fun hunions => ?_, fun text h => exists_whereText hq h, texts_without hq,
    fun hshows => ?_, ?_⟩
  · rw [toSql, build, rendering_of_unions hunions hselect]
    exact ⟨rfl, rfl⟩
  · cases htext : q.toSql with
    | error e => exact .inl ⟨e, rfl⟩
    | ok text =>
      refine .inr fun part => Bool.eq_false_iff.2 fun hpart => ?_
      exact hshows part hpart text htext ((texts_without hq part).1.trans htext)
  · rintro (⟨e, he⟩ | hnone) part hpart
    · intro text htext
      rw [he] at htext
      cases htext
    · rw [hnone part] at hpart
      cases hpart

/-- Of an update that holds every part that narrows. -/
theorem toSql_of_changesRows_update :
    let a := Adapter.ofDialect .mySql "" none
    let bare := ((Query.new a).update "t" [⟨"n", .value (.int 1)⟩]).addWhere
      (.leaf ⟨"a", none, .value (.text "x")⟩)
    let joined := ((bare.source (.table "t") none).addSource (.table "u") none).join
      ⟨.inner, .table "v", .columns [("t.id", "v.id")], none⟩
    let q := ((joined.addHaving (.leaf ⟨"b", some "gt", .value (.int 2)⟩)).setLimit 3).setOffset 4
    (q.statement.changesRows = true ∧ ∀ part, q.holds part = true) ∧
    (q.toSql = .ok "UPDATE `t` SET `n`=1 WHERE `a`='x'" ∧
      ∀ part, (q.without part).toSql = q.toSql ∧ ¬ q.Shows part) ∧
    (q.union bare false).toSql = .error (.incomplete .unionWithoutSelect) := by
  intro a bare joined q
  have hholds : ∀ part, q.holds part = true := fun part => by cases part <;> rfl
  have htext : q.toSql = .ok "UPDATE `t` SET `n`=1 WHERE `a`='x'" := by decide +kernel
  obtain ⟨-, -, hwithout, -⟩ := toSql_of_changesRows (q := q) rfl
  obtain ⟨hunion, -⟩ := toSql_of_changesRows (q := q.union bare false) rfl
  refine ⟨⟨rfl, hholds⟩, ⟨htext, fun part => ⟨(hwithout part).1, fun hshows => ?_⟩⟩,
    (hunion (List.cons_ne_nil _ _)).1⟩
  exact hshows _ htext ((hwithout part).1.trans htext)

/-- A deletion that holds a bound on the number of rows is written without it. -/
theorem toSql_delete_limit :
    let delete := ((Query.new (.ofDialect .mySql "" none)).source (.table "t") none).asDelete
    let q := delete.setLimit 1
    q.statement.changesRows = true ∧ q.holds .limit = true ∧ q.toSql = .ok "DELETE FROM `t`" ∧
      ¬ q.Shows .limit := by
  intro delete q
  have htext : q.toSql = .ok "DELETE FROM `t`" := by decide +kernel
  have hwithout : (q.without .limit).toSql = .ok "DELETE FROM `t`" := by decide +kernel
  exact ⟨rfl, rfl, htext, fun hshows => hshows _ htext hwithout⟩

end Query

end SqlCompose
