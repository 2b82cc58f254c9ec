import Mathlib.Data.List.Basic
import SqlCompose.Proofs.Query.Binding
import SqlCompose.Proofs.Rendering.Parts

/-!
# Insertions

An insertion is written in full or not at all: it needs columns and rows, and each row has to be as
long as the list of columns (`insertionFault?` tells the first thing that is wrong). Its
text has one tuple for each row with one entry for each column, row by row, and the values that are
bound are those of all rows in the same order: the placeholder of the column `j` in the row `i` has the
number `i * n + j + 1`, where there are `n` columns (`Query.insertion_all_or_nothing`).
-/

namespace SqlCompose

/-- Tuples of texts, with commas between them. -/
def tuplesText (tuples : List (List String)) : String :=
  ", ".intercalate (tuples.map fun entries => "(" ++ ", ".intercalate entries ++ ")")

namespace Parameters

/-- What stands in a statement for rows of values, row by row. -/
def rowFillings (p : Parameters) (a : Adapter) : List (List Value) → List (List String)
  | [] => []
  | row :: rows => p.fillings a row :: (p.pushAll row).rowFillings a rows

/-- With literals, each value of a row stands for itself. -/
theorem rowFillings_inline (a : Adapter) (rows : List (List Value)) :
    inline.rowFillings a rows = rows.map fun row => row.map a.quoteValue := by
  induction rows with
  | nil => rfl
  | cons row rows ih => exact congrArg (List.cons _) ih

/-- The placeholders of rows of one length are numbered row by row. -/
theorem rowFillings_bound (a : Adapter) {n : Nat} {rows : List (List Value)}
    (h : ∀ row ∈ rows, row.length = n) (values : List Value) :
    (Parameters.mk .bound values).rowFillings a rows = rows.mapIdx fun i _ =>
      (List.range n).map fun j => a.dialect.placeholder (values.length + (i * n + j) + 1) := by
  induction rows generalizing values with
  | nil => rfl
  | cons row rows ih =>
    obtain ⟨hrow, h⟩ := List.forall_mem_cons.1 h
    have hfirst : (Parameters.mk .bound values).fillings a row =
        (List.range n).map fun j => a.dialect.placeholder (values.length + (0 * n + j) + 1) := by
      rw [fillings, hrow, List.range'_eq_map_range, List.map_map]
      refine List.map_congr_left fun j _ => congrArg a.dialect.placeholder ?_
      simp only [count]
      omega
    have hothers := ih h (values ++ row)
    rw [rowFillings, List.mapIdx_cons, hfirst]
    refine congrArg (List.cons _) (hothers.trans ?_)
    congr 1
    funext i _
    refine List.map_congr_left fun j _ => congrArg a.dialect.placeholder ?_
    rw [List.length_append, hrow, Nat.succ_mul]
    omega

end Parameters

namespace Rendering

variable {p p₁ p' : Parameters}

/-- Renderings that can be written one after the other, with their texts. -/
inductive WrittenInTurn : Parameters → List Rendering → List String → Parameters → Prop
  | nil (p : Parameters) : WrittenInTurn p [] [] p
  | cons {p p₁ p' : Parameters} {r : Rendering} {t : String} {rs : List Rendering}
      {ts : List String} : r.write p = (.ok t, p₁) → WrittenInTurn p₁ rs ts p' →
      WrittenInTurn p (r :: rs) (t :: ts) p'

/-- Joined renderings have the texts of all of them, with the separator in between. -/
theorem WrittenInTurn.joinWith {rs : List Rendering} {ts : List String}
    (h : WrittenInTurn p rs ts p') (sep : String) :
    (Rendering.joinWith sep rs).write p = (.ok (sep.intercalate ts), p') := by
  induction h with
  | nil => rw [Rendering.joinWith, write_empty, String.intercalate_nil]
  | cons hr hrs ih =>
    cases hrs with
    | nil => rw [Rendering.joinWith, hr, String.intercalate_singleton]
    | cons =>
      rw [String.intercalate_cons_cons]
      exact write_append_of_ok (write_append_of_ok hr (write_text sep)) ih

/-- Values are written with commas between them. -/
theorem write_values (a : Adapter) (p : Parameters) (vs : List Value) :
    (a.values vs).write p = (.ok (", ".intercalate (p.fillings a vs)), p.pushAll vs) := by
  refine WrittenInTurn.joinWith ?_ ", "
  induction vs generalizing p with
  | nil => simpa using .nil p
  | cons v vs ih =>
    have hfillings := p.fillings_append a [v] vs
    have hpushed := p.pushAll_append [v] vs
    rw [List.singleton_append, ← p.write_snd a v] at hfillings hpushed
    rw [hfillings, hpushed, p.fillings_singleton]
    exact .cons rfl (ih _)

/-- Values do not fail. -/
theorem fault?_values (a : Adapter) (vs : List Value) : (a.values vs).fault? = none :=
  fault?_eq_none_iff.2 ⟨_, congrArg Prod.fst (write_values a .inline vs)⟩

/-- What is uniform and fails with literals fails alike with placeholders. -/
theorem Uniform.boundText_eq_error {a : Adapter} {r : Rendering} (hr : r.Uniform a) {e : QueryError}
    (h : r.inlineText = .error e) : r.boundText = .error e := by
  obtain ⟨e', hbound, hinline⟩ | ⟨front, behind, vs, -, -, hinline⟩ := hr.boundText_and_inlineText
  · cases h.symm.trans hinline
    exact hbound
  · cases h.symm.trans hinline

end Rendering

namespace Adapter

open Rendering (WrittenInTurn)

variable (a : Adapter) (table : String) {columns : Nat} {rows : List (List Value)}

/-- Rows as long as the list of columns are written as tuples. -/
theorem write_rows (h : ∀ row ∈ rows, row.length = columns) (p : Parameters) :
    (Rendering.joinWith ", " (rows.map (a.rowRendering table columns))).write p =
      (.ok (tuplesText (p.rowFillings a rows)), p.pushAll rows.flatten) := by
  refine WrittenInTurn.joinWith ?_ ", "
  induction rows generalizing p with
  | nil => simpa using .nil p
  | cons row rows ih =>
    obtain ⟨hrow, h⟩ := List.forall_mem_cons.1 h
    rw [List.flatten_cons, p.pushAll_append]
    refine .cons ?_ (ih h _)
    rw [rowRendering, if_pos hrow]
    exact Rendering.write_paren_of_ok (Rendering.write_values a p row)

/-- Rows fail with the first one that is not as long as the list of columns. -/
theorem fault?_rows (columns : Nat) (rows : List (List Value)) :
    (Rendering.joinWith ", " (rows.map (a.rowRendering table columns))).fault? =
      (rows.find? fun row => row.length != columns).map fun row =>
        .incomplete (.rowLength table columns row.length) := by
  induction rows with
  | nil => rfl
  | cons row rows ih =>
    have hrow : (a.rowRendering table columns row).fault? =
        if row.length != columns then some (.incomplete (.rowLength table columns row.length))
        else none := by
      unfold rowRendering
      by_cases h : row.length = columns
      · simp [h, Rendering.fault?_values]
      · simp [h]
    have hcons : (Rendering.joinWith ", " ((row :: rows).map (a.rowRendering table columns))).fault? =
        (a.rowRendering table columns row).fault?.or
          (Rendering.joinWith ", " (rows.map (a.rowRendering table columns))).fault? := by
      cases rows with
      | nil => simp [Rendering.joinWith, Rendering.empty]
      | cons => simp [Rendering.joinWith]
    rw [hcons, ih, hrow, List.find?_cons]
    by_cases h : row.length != columns <;> simp [h]

end Adapter

/-! ## Insertions as a whole -/

/-- There are columns and rows, and each row is as long as the list of columns. -/
structure Insertable (columns : List String) (rows : List (List Value)) : Prop where
  columns_ne_nil : columns ≠ []
  rows_ne_nil : rows ≠ []
  length_eq : ∀ row ∈ rows, row.length = columns.length

/-- The first thing that keeps an insertion from being written, if there is any. -/
def insertionFault? (table : String) (columns : List String) (rows : List (List Value)) :
    Option StatementFault :=
  if columns.isEmpty || rows.isEmpty then some (.insertWithoutRows table)
  else (rows.find? fun row => row.length != columns.length).map fun row =>
    .rowLength table columns.length row.length

/-- Nothing is wrong just if there are columns and rows of the right length. -/
theorem insertionFault?_eq_none_iff {table : String} {columns : List String}
    {rows : List (List Value)} :
    insertionFault? table columns rows = none ↔ Insertable columns rows := by
  unfold insertionFault?
  constructor
  · intro h
    split at h
    · cases h
    · rename_i hne
      rw [Bool.or_eq_true, not_or, List.isEmpty_iff, List.isEmpty_iff] at hne
      rw [Option.map_eq_none_iff, List.find?_eq_none] at h
      exact ⟨hne.1, hne.2, fun row hrow => by simpa using h row hrow⟩
  · rintro ⟨hcolumns, hrows, hlength⟩
    rw [List.isEmpty_eq_false_iff.2 hcolumns, List.isEmpty_eq_false_iff.2 hrows]
    simpa using hlength

namespace Adapter

variable (a : Adapter) (table : String) (columns : List String) (rows : List (List Value))

/-- The text of an insertion with the given tuples. -/
def insertionText (tuples : List (List String)) : String :=
  "INSERT INTO " ++ a.quoteTable table ++ " (" ++ a.columnList columns ++ ") VALUES "
    ++ tuplesText tuples

/-- An insertion fails with what is wrong with it. -/
theorem fault?_insertRendering :
    (a.insertRendering table columns rows).fault? =
      (insertionFault? table columns rows).map .incomplete := by
  unfold insertRendering insertionFault?
  split
  · rfl
  · rw [Rendering.fault?_append, Rendering.fault?_text, Option.none_or, fault?_rows, Option.map_map]
    rfl

variable {columns rows}

/-- An insertion with which nothing is wrong is written in full. -/
theorem write_insertRendering (h : Insertable columns rows) (p : Parameters) :
    (a.insertRendering table columns rows).write p =
      (.ok (a.insertionText table columns (p.rowFillings a rows)), p.pushAll rows.flatten) := by
  have hne : (columns.isEmpty || rows.isEmpty) = false := by
    rw [List.isEmpty_eq_false_iff.2 h.columns_ne_nil, List.isEmpty_eq_false_iff.2 h.rows_ne_nil]
    rfl
  rw [insertRendering, hne, if_neg Bool.false_ne_true, Rendering.write_text_append_eq,
    write_rows a table h.length_eq]
  rfl

end Adapter

namespace Query

variable {q : Query} {table : String} {columns : List String} {rows : List (List Value)}

/-- Of an insertion without unions nothing else is written. -/
theorem rendering_of_insert (hq : q.statement = .insert table columns rows) (hunions : q.unions = [])
    (a : Adapter) : q.rendering a = a.insertRendering table columns rows := by
  rw [rendering_eq, hq, hunions]
  rfl

/-- An insertion is written if it has columns, rows, and rows that are all as long as the list of
columns. Then its text has a tuple for each row, with an entry for each column, and the values of its
rows are bound one row after the other. Otherwise it fails, whichever row is at fault. -/
theorem insertion_all_or_nothing (hq : q.statement = .insert table columns rows)
    (hunions : q.unions = []) :
    (Insertable columns rows →
      q.toSql = .ok (q.adapter.insertionText table columns
        (rows.map fun row => row.map q.adapter.quoteValue)) ∧
      q.build = .ok (q.adapter.insertionText table columns
        (rows.mapIdx fun i _ => (List.range columns.length).map fun j =>
          q.adapter.dialect.placeholder (i * columns.length + j + 1)), rows.flatten)) ∧
    (¬ Insertable columns rows → ∃ fault, insertionFault? table columns rows = some fault ∧
      q.toSql = .error (.incomplete fault) ∧ q.build = .error (.incomplete fault)) := by
  have hrendering := rendering_of_insert hq hunions q.adapter
  refine ⟨fun h => ?_, fun h => ?_⟩
  · have hwrite := q.adapter.write_insertRendering table h
    have hbound := Parameters.rowFillings_bound q.adapter h.length_eq []
    simp only [List.length_nil, Nat.zero_add] at hbound
    refine ⟨?_, ?_⟩
    · rw [toSql, hrendering, Rendering.inlineText, hwrite, Parameters.rowFillings_inline]
    · rw [build, hrendering, Rendering.boundText_of_ok (hwrite .bound), Parameters.bound, hbound]
      rfl
  · rw [← insertionFault?_eq_none_iff, ← ne_eq, Option.ne_none_iff_exists'] at h
    obtain ⟨fault, hfault⟩ := h
    have hsql : (q.adapter.insertRendering table columns rows).inlineText =
        .error (.incomplete fault) := by
      rw [← Rendering.fault?_eq_some_iff, Adapter.fault?_insertRendering, hfault]
      rfl
    rw [toSql, build, hrendering]
    exact ⟨fault, hfault, hsql,
      (Adapter.uniform_insertRendering table columns rows).boundText_eq_error hsql⟩

/-- Two rows of two columns, and the same rows without the last value. -/
theorem insertion_all_or_nothing_ragged :
    let q := Query.new (.ofDialect .postgreSql "" none)
    let full := q.insert "t" ["a", "b"] [[.int 1, .text "x"], [.null, .int 2]]
    let ragged := q.insert "t" ["a", "b"] [[.int 1, .text "x"], [.null]]
    full.toSql = .ok "INSERT INTO \"t\" (\"a\", \"b\") VALUES (1, 'x'), (NULL, 2)" ∧
      full.build = .ok ("INSERT INTO \"t\" (\"a\", \"b\") VALUES ($1, $2), ($3, $4)",
        [.int 1, .text "x", .null, .int 2]) ∧
      ragged.toSql = .error (.incomplete (.rowLength "t" 2 1)) := by
  intro q full ragged
  have hinsertable : Insertable ["a", "b"] [[.int 1, .text "x"], [.null, .int 2]] :=
    ⟨by decide, by decide, by decide⟩
  have hragged : ¬ Insertable ["a", "b"] [[.int 1, .text "x"], [.null]] :=
    fun h => absurd (h.length_eq [.null] (by simp)) (by decide)
  obtain ⟨hsql, hbuild⟩ := (insertion_all_or_nothing (q := full) rfl rfl).1 hinsertable
  obtain ⟨fault, hfault, herror, -⟩ := (insertion_all_or_nothing (q := ragged) rfl rfl).2 hragged
  obtain rfl := Option.some.inj hfault
  exact ⟨hsql, hbuild.trans (by decide +kernel), herror⟩

end Query

end SqlCompose
