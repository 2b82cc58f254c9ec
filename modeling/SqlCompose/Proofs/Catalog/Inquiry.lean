import SqlCompose.Catalog.Inquiry

/-!
# The queries of an inquiry

An inquiry that goes on with another one sends its own queries, and then those of the other, which
may depend on its answer (`Inquiry.mem_queries_bind`). It is answered if both of them are
(`Inquiry.outcome_bind_eq_ok`).

A connection may find other rows each time. What an inquiry can come to is told by its courses, over
any rows that are found (`Inquiry.Course`). Over one connection it goes one of them
(`Inquiry.exists_course_of_run`).
-/

namespace SqlCompose

/-- A connection that finds nothing. -/
def Driver.findingNothing (name : String) : Driver :=
  ⟨name, fun _ => .ok [], fun _ => .ok 0, fun _ => none, .ok none⟩

/-- A connection that finds the rows that are listed for a query, and nothing else. -/
def Driver.answering (name : String) (answers : List (String × List Row)) : Driver :=
  { findingNothing name with queryAll := fun sql => .ok ((answers.lookup sql).getD []) }

namespace Catalog.Inquiry

variable {α β : Type} {d : Driver} {sql : String}

/-- An answer that needs no query sends none. -/
@[simp] theorem queries_pure (a : α) : ((pure a : Inquiry α).run d).queries = [] :=
  rfl

/-- A query for rows is sent as it is. -/
@[simp] theorem queries_rows (q : String) : ((rows q).run d).queries = [q] := by
  rw [rows, run]
  cases d.queryAll q <;> rfl

/-- Its rows are what the driver answers. -/
@[simp] theorem outcome_rows (q : String) : ((rows q).run d).outcome = d.queryAll q := by
  rw [rows, run]
  cases d.queryAll q <;> rfl

/-- A query for one value is sent as it is. -/
@[simp] theorem queries_scalar (q : String) : ((scalar q).run d).queries = [q] := by
  rw [scalar, run]
  cases d.queryAll q <;> rfl

/-- A query is sent by the first inquiry, or by the one that follows its answer. -/
theorem mem_queries_bind (i : Inquiry α) (f : α → Inquiry β) :
    sql ∈ ((i >>= f).run d).queries ↔ sql ∈ (i.run d).queries ∨
      ∃ a, (i.run d).outcome = .ok a ∧ sql ∈ ((f a).run d).queries := by
  change sql ∈ ((i.bind f).run d).queries ↔ _
  induction i with
  | answer a => simp [bind, run]
  | ask q next ih =>
    rw [bind, run, run]
    cases d.queryAll q with
    | error e => simp
    | ok rows => simp only [List.mem_cons, ih rows, or_assoc]

/-- Both inquiries have to be answered, one after the other. -/
theorem outcome_bind_eq_ok {i : Inquiry α} {f : α → Inquiry β} {b : β} :
    ((i >>= f).run d).outcome = .ok b ↔
      ∃ a, (i.run d).outcome = .ok a ∧ ((f a).run d).outcome = .ok b := by
  change ((i.bind f).run d).outcome = .ok b ↔ _
  induction i with
  | answer a => simp [bind, run]
  | ask q next ih =>
    rw [bind, run, run]
    cases d.queryAll q with
    | error e => simp
    | ok rows => exact ih rows

/-! ## Courses -/

/-- How an inquiry may go: the queries that are sent, each with the rows that are found for it, and
the answer in the end. -/
inductive Course {α : Type} : Inquiry α → List (String × List Row) → α → Prop
  | answer (a : α) : Course (.answer a) [] a
  | ask {sql : String} {next : List Row → Inquiry α} {rows : List Row}
      {log : List (String × List Row)} {a : α} :
      Course (next rows) log a → Course (.ask sql next) ((sql, rows) :: log) a

variable {log : List (String × List Row)}

/-- An answer that needs no query is the answer of every course. -/
theorem eq_of_course_pure {a b : α} (h : (pure a : Inquiry α).Course log b) : b = a := by
  cases h
  rfl

/-- The rows that were found are in the log, as the answer to the query. -/
theorem mem_of_course_rows {found : List Row} (h : (rows sql).Course log found) :
    (sql, found) ∈ log := by
  cases h with
  | ask h =>
    cases h
    exact List.mem_cons_self

/-- An inquiry that goes on with another one goes a course of its own, and then one of the other. -/
theorem Course.of_bind {i : Inquiry α} {f : α → Inquiry β} {b : β} (h : (i >>= f).Course log b) :
    ∃ a log₁ log₂, i.Course log₁ a ∧ (f a).Course log₂ b ∧ log = log₁ ++ log₂ := by
  change (i.bind f).Course log b at h
  induction i generalizing log with
  | answer a => exact ⟨a, [], log, .answer a, h, rfl⟩
  | ask q next ih =>
    cases h with
    | @ask _ _ found log _ h =>
      obtain ⟨a, log₁, log₂, hi, hf, rfl⟩ := ih found h
      exact ⟨a, (q, found) :: log₁, log₂, .ask hi, hf, rfl⟩

/-- An inquiry that is answered over a connection goes a course over the rows that it finds. -/
theorem exists_course_of_run {i : Inquiry α} {a : α} (h : (i.run d).outcome = .ok a) :
    ∃ log, i.Course log a ∧ ∀ e ∈ log, d.queryAll e.1 = .ok e.2 := by
  induction i with
  | answer b =>
    cases h
    exact ⟨[], .answer a, nofun⟩
  | ask q next ih =>
    rw [run] at h
    cases hfound : d.queryAll q with
    | error e =>
      rw [hfound] at h
      cases h
    | ok found =>
      rw [hfound] at h
      obtain ⟨log, hcourse, hlog⟩ := ih found h
      exact ⟨(q, found) :: log, .ask hcourse, List.forall_mem_cons.2 ⟨hfound, hlog⟩⟩

end Catalog.Inquiry

end SqlCompose
