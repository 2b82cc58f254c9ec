import Mathlib.Control.Monad.Basic
import SqlCompose.Proofs.Query.Clauses

/-!
# Queries as sequences of calls

A query comes about by calls of verbs, one after the other (`Query.run`). A call gives one clause a
new content, which depends on what that clause held and on nothing else (`Call.apply_eq_put`). So
what a clause holds in the end is decided by the calls on it alone, in their order
(`Query.content_run`), and calls on different clauses may come in any order
(`Query.run_eq_of_rearranged`).

The verbs that say what a query does are all calls on one clause, and each of them forgets what that
clause held. So the last of them decides (`Query.run_eq_lastVerb`). That clause is the kind of the query
and its statement, which move together: the kind stays the one of the statement, from the first of
these calls on (`Query.ofItsKind_run`).
-/

namespace SqlCompose

/-! ## Clauses by name -/

/-- What a query is put together from. -/
inductive Clause where
  | adapter
  /-- What the query does: its kind and its statement. -/
  | statement
  | columns
  | distinct
  | sources
  | joins
  | wheres
  | groupBy
  | havings
  | orderBy
  | limit
  | offset
  | unions
  deriving DecidableEq

/-- What a clause may hold. -/
def Clause.Content : Clause → Type
  | .adapter => Adapter
  | .statement => QueryKind × Statement
  | .columns => List SelectColumn
  | .distinct => Bool
  | .sources => List TableRef
  | .joins => List Join
  | .wheres => List (Condition Test)
  | .groupBy => List String
  | .havings => List (Condition Test)
  | .orderBy => List OrderBy
  | .limit => Option UInt64
  | .offset => Option UInt64
  | .unions => List UnionPart

namespace Query

/-- What a clause of a query holds. -/
def content (q : Query) : (k : Clause) → k.Content
  | .adapter => q.adapter
  | .statement => (q.kind, q.statement)
  | .columns => q.columns
  | .distinct => q.distinct
  | .sources => q.sources
  | .joins => q.joins
  | .wheres => q.wheres
  | .groupBy => q.groupBy
  | .havings => q.havings
  | .orderBy => q.orderBy
  | .limit => q.limit
  | .offset => q.offset
  | .unions => q.unions

/-- A query is determined by what its clauses hold. -/
theorem ext_content {q q' : Query} (h : ∀ k, q.content k = q'.content k) : q = q' := by
  obtain ⟨hkind, hstatement⟩ := Prod.mk.inj (h .statement)
  cases q
  cases q'
  congr
  exacts [h .adapter, h .columns, h .distinct, h .sources, h .joins, h .wheres, h .groupBy,
    h .havings, h .orderBy, h .limit, h .offset, h .unions]

end Query

/-! ## One call -/

/-- A call of a verb, with all that the verb is told. -/
inductive Call where
  | withAdapter (adapter : Adapter)
  | asSelect
  | asDelete
  | insert (table : String) (columns : List String) (rows : List (List Value))
  | update (table : String) (assignments : List Assignment)
  | schema (change : SchemaChange)
  | addColumn (column : SelectColumn)
  | addSelect (list : String)
  | select (list : String)
  | onlyDistinct
  | addSource (source : Source) (aliasName : Option String)
  | source (source : Source) (aliasName : Option String)
  | join (join : Join)
  | setWhere (c : Condition Test)
  | addWhere (c : Condition Test)
  | exclude (c : Condition Test)
  | setHaving (c : Condition Test)
  | addHaving (c : Condition Test)
  | setGroupBy (columns : List String)
  | setOrderBy (columns : List String)
  | setOrderByWith (columns : List String) (modifier : String)
  | orderAtRandom
  | setLimit (n : UInt64)
  | setOffset (n : UInt64)
  | union (other : Query) (all : Bool)

namespace Call

/-- What becomes of a query by a call. -/
def apply (q : Query) : Call → Query
  | .withAdapter adapter => q.withAdapter adapter
  | .asSelect => q.asSelect
  | .asDelete => q.asDelete
  | .insert table columns rows => q.insert table columns rows
  | .update table assignments => q.update table assignments
  | .schema change => q.schema change
  | .addColumn column => q.addColumn column
  | .addSelect list => q.addSelect list
  | .select list => q.select list
  | .onlyDistinct => q.onlyDistinct
  | .addSource s aliasName => q.addSource s aliasName
  | .source s aliasName => q.source s aliasName
  | .join j => q.join j
  | .setWhere c => q.setWhere c
  | .addWhere c => q.addWhere c
  | .exclude c => q.exclude c
  | .setHaving c => q.setHaving c
  | .addHaving c => q.addHaving c
  | .setGroupBy columns => q.setGroupBy columns
  | .setOrderBy columns => q.setOrderBy columns
  | .setOrderByWith columns modifier => q.setOrderByWith columns modifier
  | .orderAtRandom => q.orderAtRandom
  | .setLimit n => q.setLimit n
  | .setOffset n => q.setOffset n
  | .union other all => q.union other all

/-- The clause that a call is about. -/
def clause : Call → Clause
  | .withAdapter _ => .adapter
  | .asSelect | .asDelete | .insert .. | .update .. | .schema _ => .statement
  | .addColumn _ | .addSelect _ | .select _ => .columns
  | .onlyDistinct => .distinct
  | .addSource .. | .source .. => .sources
  | .join _ => .joins
  | .setWhere _ | .addWhere _ | .exclude _ => .wheres
  | .setHaving _ | .addHaving _ => .havings
  | .setGroupBy _ => .groupBy
  | .setOrderBy _ | .setOrderByWith .. | .orderAtRandom => .orderBy
  | .setLimit _ => .limit
  | .setOffset _ => .offset
  | .union .. => .unions

/-- The kind of the statement that a call asks for, if it says what the query does. -/
def kind? : Call → Option QueryKind
  | .asSelect => some .select
  | .asDelete => some .delete
  | .insert .. => some .insert
  | .update .. => some .update
  | .schema change => some change.kind
  | _ => none

/-- A call leaves all clauses alone but the one that it is about. -/
theorem content_apply_of_ne (c : Call) (q : Query) {k : Clause} (h : c.clause ≠ k) :
    (c.apply q).content k = q.content k := by
  cases c <;> cases k <;> first | rfl | exact absurd rfl h

/-- What a call gives its clause depends on what that clause held, and on nothing else. -/
theorem content_apply_congr (c : Call) {q q' : Query}
    (h : q.content c.clause = q'.content c.clause) :
    (c.apply q).content c.clause = (c.apply q').content c.clause := by
  cases c with
  | addColumn | addSelect | addSource | join | addWhere | exclude | addHaving | union =>
    exact congrArg (List.append · _) h
  | _ => rfl

/-- A call that says what the query does forgets what was said before. -/
theorem content_apply_statement {c : Call} (hc : c.clause = .statement) (q q' : Query) :
    (c.apply q).content .statement = (c.apply q').content .statement := by
  cases c with
  | asSelect | asDelete | insert | update | schema => rfl
  | _ => cases hc

/-- A call that says what the query does makes it a query of the kind that belongs to the call. -/
theorem kind?_eq_kind_apply {c : Call} (hc : c.clause = .statement) (q : Query) :
    c.kind? = some (c.apply q).kind := by
  cases c with
  | asSelect | asDelete | insert | update | schema => rfl
  | _ => cases hc

/-- A call that says what the query does sets its kind along with its statement. -/
theorem kind_apply_eq {c : Call} (hc : c.clause = .statement) (q : Query) :
    (c.apply q).kind = (c.apply q).statement.kind := by
  cases c with
  | asSelect | asDelete | insert | update | schema => rfl
  | _ => cases hc

/-- The last of some calls that says what the query does. -/
def lastVerb? (calls : List Call) : Option Call :=
  (calls.filter (·.clause = .statement)).getLast?

/-- That call says what the query does. -/
theorem clause_of_lastVerb? {calls : List Call} {verb : Call} (h : lastVerb? calls = some verb) :
    verb.clause = .statement := by
  have hmem : verb ∈ calls.filter (·.clause = .statement) := List.mem_of_getLast? h
  simpa using (List.mem_filter.1 hmem).2

/-- Sequences with the same calls on each clause, in the same order. -/
def Rearranged (calls calls' : List Call) : Prop :=
  ∀ k, calls.filter (·.clause = k) = calls'.filter (·.clause = k)

end Call

/-! ## Many calls -/

namespace Query

/-- What becomes of a query by calls, one after the other. -/
def run (q : Query) (calls : List Call) : Query :=
  calls.foldl (fun q c => c.apply q) q

/-- Further calls go on with the query that the first ones leave. -/
theorem run_append (q : Query) (calls calls' : List Call) :
    q.run (calls ++ calls') = (q.run calls).run calls' :=
  List.foldl_append

/-- What a clause holds after calls is decided by what it held and by the calls on it. -/
theorem content_run {k : Clause} (calls : List Call) {q q' : Query}
    (h : q.content k = q'.content k) :
    (q.run calls).content k = (q'.run (calls.filter (·.clause = k))).content k := by
  induction calls generalizing q q' with
  | nil => exact h
  | cons c calls ih =>
    by_cases hc : c.clause = k
    · subst hc
      rw [List.filter_cons_of_pos (by simp)]
      exact ih (c.content_apply_congr h)
    · rw [List.filter_cons_of_neg (by simpa using hc)]
      exact ih ((c.content_apply_of_ne q hc).trans h)

/-- Calls on different clauses may come in any order. -/
theorem run_eq_of_rearranged (q : Query) {calls calls' : List Call}
    (h : Call.Rearranged calls calls') : q.run calls = q.run calls' := by
  refine ext_content fun k => ?_
  calc (q.run calls).content k
      = (q.run (calls.filter (·.clause = k))).content k := content_run calls rfl
    _ = (q.run (calls'.filter (·.clause = k))).content k := by rw [h k]
    _ = (q.run calls').content k := (content_run calls' rfl).symm

/-- The last call that says what the query does may as well be the last one of all, and the only one
of its sort. -/
theorem run_eq_lastVerb (q : Query) {calls : List Call} {verb : Call}
    (h : Call.lastVerb? calls = some verb) :
    q.run calls = verb.apply (q.run (calls.filter (·.clause ≠ .statement))) := by
  obtain ⟨earlier, hearlier⟩ := List.getLast?_eq_some_iff.1 h
  have hverb : verb.clause = .statement := Call.clause_of_lastVerb? h
  refine ext_content fun k => ?_
  by_cases hk : k = .statement
  · subst hk
    rw [content_run calls rfl, hearlier, run_append]
    exact Call.content_apply_statement hverb _ _
  · have hcalls : (calls.filter (·.clause ≠ .statement)).filter (·.clause = k)
        = calls.filter (·.clause = k) := by
      rw [List.filter_filter]
      refine List.filter_congr fun c _ => ?_
      by_cases hc : c.clause = k <;> simp [hc, hk]
    calc (q.run calls).content k
        = (q.run (calls.filter (·.clause = k))).content k := content_run calls rfl
      _ = (q.run (calls.filter (·.clause ≠ .statement))).content k := by
        rw [← hcalls, ← content_run _ rfl]
      _ = (verb.apply (q.run (calls.filter (·.clause ≠ .statement)))).content k :=
        (verb.content_apply_of_ne _ (hverb ▸ Ne.symm hk)).symm

/-- Without a call that says what the query does, it does what it did. -/
theorem statement_run_of_lastVerb? (q : Query) {calls : List Call}
    (h : Call.lastVerb? calls = none) :
    (q.run calls).kind = q.kind ∧ (q.run calls).statement = q.statement := by
  have hnone : calls.filter (·.clause = .statement) = [] := List.getLast?_eq_none_iff.1 h
  have hcontent := content_run (q := q) (k := .statement) calls rfl
  rw [hnone] at hcontent
  exact Prod.mk.inj hcontent

/-! ## Kind and statement -/

/-- A query is of the kind of its statement, or nothing was said yet of what it does. -/
def OfItsKind (q : Query) : Prop :=
  q.kind = q.statement.kind ∨ q.kind = .uninitialized ∧ q.statement = .select

/-- No call changes the statement and not the kind, or the kind and not the statement. -/
theorem OfItsKind.apply {q : Query} (h : q.OfItsKind) (c : Call) : (c.apply q).OfItsKind := by
  by_cases hc : c.clause = .statement
  · exact .inl (c.kind_apply_eq hc q)
  · obtain ⟨hkind, hstatement⟩ := Prod.mk.inj (c.content_apply_of_ne q hc)
    rw [OfItsKind, hkind, hstatement]
    exact h

/-- After any calls a query is of the kind of its statement, unless none of them said what it does. -/
theorem ofItsKind_run {q : Query} (h : q.OfItsKind) (calls : List Call) :
    (q.run calls).OfItsKind := by
  induction calls generalizing q with
  | nil => exact h
  | cons c calls ih => exact ih (h.apply c)

/-- So are the queries that calls make of a new one. -/
theorem ofItsKind_run_new (a : Adapter) (calls : List Call) : ((new a).run calls).OfItsKind :=
  ofItsKind_run (.inr ⟨rfl, rfl⟩) calls

/-! ## What is seen of a query -/

/-- Queries of one kind that are written alike, or fail alike. -/
structure SameResults (q q' : Query) : Prop where
  kind : q.kind = q'.kind
  toSql : q.toSql = q'.toSql
  build : q.build = q'.build

/-- One query has the same results as itself. -/
theorem SameResults.of_eq {q q' : Query} (h : q = q') : SameResults q q' :=
  h ▸ ⟨rfl, rfl, rfl⟩

/-- The kind of a query is not looked at when it is written. -/
theorem rendering_asSelect {q : Query} (h : q.statement = .select) (a : Adapter) :
    q.asSelect.rendering a = q.rendering a := by
  rw [rendering_eq, rendering_eq, h]
  rfl

/-- The order of calls on different clauses does not matter. Of the calls that say what a query does
the last one decides of which kind the query is, which is the kind of the statement it is written from,
and it is written as if there were no other; where there is none, a selection is written. -/
theorem results_of_calls (a : Adapter) (calls : List Call) :
    (∀ calls', Call.Rearranged calls calls' →
      SameResults ((new a).run calls) ((new a).run calls')) ∧
    (∀ verb, Call.lastVerb? calls = some verb →
      verb.kind? = some ((new a).run calls).kind ∧
        ((new a).run calls).kind = ((new a).run calls).statement.kind ∧
          SameResults ((new a).run calls)
            (verb.apply ((new a).run (calls.filter (·.clause ≠ .statement))))) ∧
    (Call.lastVerb? calls = none →
      ((new a).run calls).kind = .uninitialized ∧ ((new a).run calls).statement = .select ∧
        ((new a).run calls).toSql = ((new a).run calls).asSelect.toSql ∧
          ((new a).run calls).build = ((new a).run calls).asSelect.build) ∧
    ((new a).run calls).OfItsKind := by
  refine ⟨fun calls' h => ?_, fun verb h => ?_, fun h => ?_, ofItsKind_run_new a calls⟩
  · exact .of_eq (run_eq_of_rearranged _ h)
  · have hrun := run_eq_lastVerb (new a) h
    have hverb := Call.clause_of_lastVerb? h
    rw [hrun]
    exact ⟨Call.kind?_eq_kind_apply hverb _, verb.kind_apply_eq hverb _, .of_eq rfl⟩
  · obtain ⟨hkind, hselect⟩ := statement_run_of_lastVerb? (new a) h
    have hrendering := rendering_asSelect hselect
    refine ⟨hkind, hselect, ?_, ?_⟩
    · exact congrArg Rendering.inlineText (hrendering _).symm
    · exact congrArg Rendering.boundText (hrendering _).symm

/-- Of calls that make an update and then a deletion, in two orders, and of calls that do not say
what the query does. -/
theorem results_of_calls_delete :
    let a := Adapter.ofDialect .sqlite "p_" none
    let first : Call := .addWhere (.leaf ⟨"a", none, .value (.int 1)⟩)
    let second : Call := .addWhere (.leaf ⟨"b", none, .value (.int 2)⟩)
    let update : Call := .update "u" [⟨"n", .value (.text "x")⟩]
    let source : Call := .source (.table "{{%t}}") none
    let calls := [update, first, source, .setLimit 5, second, .asDelete, .setLimit 0]
    let calls' := [first, .setLimit 5, second, .setLimit 0, source, update, .asDelete]
    let others := [first, source, .onlyDistinct]
    (Call.Rearranged calls calls' ∧ SameResults ((new a).run calls) ((new a).run calls')) ∧
    (Call.lastVerb? calls = some .asDelete ∧ ((new a).run calls).kind = .delete ∧
      ((new a).run calls).toSql = .ok "DELETE FROM `p_t` WHERE `a`=1 AND (`b`=2)") ∧
    (Call.lastVerb? others = none ∧ ((new a).run others).kind = .uninitialized ∧
      ((new a).run others).toSql = ((new a).run others).asSelect.toSql ∧
        ((new a).run others).toSql = .ok "SELECT DISTINCT * FROM `p_t` WHERE `a`=1") := by
  intro a first second update source calls calls' others
  have hcalls : Call.Rearranged calls calls' := fun k => by cases k <;> rfl
  obtain ⟨hrearranged, hlast, -⟩ := results_of_calls a calls
  obtain ⟨-, -, hnone, -⟩ := results_of_calls a others
  have hkind := (hlast .asDelete rfl).1
  obtain ⟨hunset, -, hsql, -⟩ := hnone rfl
  have hdelete : ((new a).run calls).kind = .delete := (Option.some.inj hkind).symm
  exact ⟨⟨hcalls, hrearranged calls' hcalls⟩, ⟨rfl, hdelete, by decide +kernel⟩, rfl, hunset, hsql,
    by decide +kernel⟩

end Query

end SqlCompose
