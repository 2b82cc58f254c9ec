import SqlCompose.Proofs.Query.Nesting
import SqlCompose.Proofs.Rendering.Outcome
import SqlCompose.Proofs.Union.Grammar

/-!
# The text of a union

A query with unions stands for a tree of plain selections (`Query.compound`): its own selection with
its parts joined from the left, one after the other (`Query.compound_union`), each of which is a tree
of its own. An order and a paging belong to the selection of the query that has them.

The query can be written just if its plain selections can. Its text is made up of them, and of
clauses, keywords and groups around them (`Adapter.WritesCompound`). It is read as that tree and in
no other way, and whatever is sorted in it has a group of its own (`Query.text_reads_compound`).
MySQL and PostgreSQL group by parentheses, and SQLite by a selection of everything from what it
groups.
-/

namespace SqlCompose

/-! ## The tree of a union -/

/-- A selection without order, paging and unions. -/
structure PlainSelection where
  query : Query
  isSelect : query.statement.isSelect = true
  unsorted : query.hasOrderOrPaging = false
  unions_eq : query.unions = []

/-- The selection of a query without its order, paging and unions. -/
def Query.plain (q : Query) : PlainSelection where
  query := { q with
    statement := .select, orderBy := [], limit := none, offset := none, unions := [] }
  isSelect := rfl
  unsorted := rfl
  unions_eq := rfl

/-- The selection of a query without its unions, sorted as the query says. -/
def Query.own (a : Adapter) (q : Query) : Compound PlainSelection :=
  let clauses := q.orderAndPaging a
  if clauses = "" then .select q.plain else .sorted (.select q.plain) clauses

mutual

/-- A compound with the parts of a union behind it, joined from the left. -/
def UnionPart.joined (a : Adapter) (left : Compound PlainSelection) :
    List UnionPart → Compound PlainSelection
  | [] => left
  | ⟨query, all⟩ :: rest => UnionPart.joined a (.union all left (query.compound a)) rest

/-- The tree that a query stands for. -/
def Query.compound (a : Adapter) : Query → Compound PlainSelection
  | ⟨adapter, kind, statement, columns, distinct, sources, joins, wheres, groupBy, havings, orderBy,
      limit, offset, unions⟩ =>
    UnionPart.joined a (Query.own a ⟨adapter, kind, statement, columns, distinct, sources, joins,
      wheres, groupBy, havings, orderBy, limit, offset, unions⟩) unions
termination_by structural q => q

end

/-- Further parts are joined to the compound of the first ones. -/
theorem UnionPart.joined_append (a : Adapter) (c : Compound PlainSelection)
    (parts parts' : List UnionPart) : UnionPart.joined a c (parts ++ parts') =
      UnionPart.joined a (UnionPart.joined a c parts) parts' := by
  induction parts generalizing c with
  | nil => rfl
  | cons part parts ih =>
    obtain ⟨query, all⟩ := part
    rw [List.cons_append, UnionPart.joined, UnionPart.joined, ih]

/-- The atoms of the parts stand behind those of the compound. -/
theorem UnionPart.atoms_joined (a : Adapter) (c : Compound PlainSelection)
    (parts : List UnionPart) : (UnionPart.joined a c parts).atoms =
      c.atoms ++ parts.flatMap fun part => (part.query.compound a).atoms := by
  induction parts generalizing c with
  | nil =>
    rw [UnionPart.joined, List.flatMap_nil, List.append_nil]
  | cons part parts ih =>
    obtain ⟨query, all⟩ := part
    rw [UnionPart.joined, ih, Compound.atoms, List.flatMap_cons, List.append_assoc]

/-- Without its unions a query has one atom. -/
theorem Query.atoms_own (a : Adapter) (q : Query) : (q.own a).atoms = [q.plain] := by
  rw [Query.own]
  split <;> rfl

/-- The tree of a query has its own selection at the bottom left. -/
theorem Query.compound_eq (a : Adapter) (q : Query) :
    q.compound a = UnionPart.joined a (q.own a) q.unions := by
  cases q
  rw [Query.compound]

/-- One more part is joined to all that there was. -/
theorem Query.compound_union (a : Adapter) (q e : Query) (all : Bool) :
    (q.union e all).compound a = .union all (q.compound a) (e.compound a) := by
  rw [compound_eq, compound_eq a q, Query.union, UnionPart.joined_append, UnionPart.joined]
  rfl

/-- A query that selects, and so do the parts of its unions, to any depth. -/
inductive Query.SelectsOnly : Query → Prop
  | mk {q : Query} : q.statement.isSelect = true → (∀ part ∈ q.unions, part.query.SelectsOnly) →
      q.SelectsOnly

/-- A union of selections selects only. -/
theorem Query.SelectsOnly.union {q e : Query} (hq : q.SelectsOnly) (he : e.SelectsOnly)
    (all : Bool) : (q.union e all).SelectsOnly := by
  obtain ⟨hselect, hparts⟩ := hq
  refine .mk hselect fun part hpart => ?_
  obtain hpart | hpart := List.mem_append.1 hpart
  · exact hparts part hpart
  · obtain rfl := List.mem_singleton.1 hpart
    exact he

/-! ## The text of tokens -/

namespace Adapter

/-- What opens a group. SQLite knows no parentheses there. -/
def groupOpening (a : Adapter) : String :=
  match a.dialect with
  | .sqlite => "SELECT * FROM ("
  | _ => "("

/-- The text of tokens, which are written one after the other: a selection as it is written alone,
and the clauses, keywords and what groups them. -/
inductive WritesCompound (a : Adapter) :
    Parameters → List (Compound.Token PlainSelection) → String → Parameters → Prop
  | nil {p} : WritesCompound a p [] "" p
  | select {s : PlainSelection} {ts text text' p p₁ p₂} :
      (s.query.rendering a).write p = (.ok text, p₁) → WritesCompound a p₁ ts text' p₂ →
      WritesCompound a p (.select s :: ts) (text ++ text') p₂
  | sorting (clauses : String) {ts text p p'} : WritesCompound a p ts text p' →
      WritesCompound a p (.sorting clauses :: ts) (clauses ++ text) p'
  | union {ts text p p'} : WritesCompound a p ts text p' →
      WritesCompound a p (.union false :: ts) (" UNION " ++ text) p'
  | unionAll {ts text p p'} : WritesCompound a p ts text p' →
      WritesCompound a p (.union true :: ts) (" UNION ALL " ++ text) p'
  | opening {ts text p p'} : WritesCompound a p ts text p' →
      WritesCompound a p (.opening :: ts) (a.groupOpening ++ text) p'
  | closing {ts text p p'} : WritesCompound a p ts text p' →
      WritesCompound a p (.closing :: ts) (")" ++ text) p'

namespace WritesCompound

variable {a : Adapter} {p p₁ p' : Parameters} {ts us : List (Compound.Token PlainSelection)}
  {text text' : String}

/-- What is written one behind the other is written as the tokens of both. -/
theorem append (hts : a.WritesCompound p ts text p₁) (hus : a.WritesCompound p₁ us text' p') :
    a.WritesCompound p (ts ++ us) (text ++ text') p' := by
  induction hts with
  | nil => rwa [String.empty_append]
  | select hs _ ih => rw [String.append_assoc]; exact .select hs (ih hus)
  | sorting clauses _ ih => rw [String.append_assoc]; exact .sorting clauses (ih hus)
  | union _ ih => rw [String.append_assoc]; exact .union (ih hus)
  | unionAll _ ih => rw [String.append_assoc]; exact .unionAll (ih hus)
  | opening _ ih => rw [String.append_assoc]; exact .opening (ih hus)
  | closing _ ih => rw [String.append_assoc]; exact .closing (ih hus)

/-- A group is written between parentheses, or as a selection from them. -/
theorem group (h : a.WritesCompound p ts text p') :
    a.WritesCompound p (Compound.Token.group ts) (a.groupOpening ++ (text ++ ")")) p' := by
  have hclosing : a.WritesCompound p' [.closing] ")" p' := .closing .nil
  exact .opening (h.append hclosing)

end WritesCompound

end Adapter

/-! ## A selection alone -/

namespace Query

variable {a : Adapter} {q : Query} {p p' : Parameters} {text : String}

/-- Nothing is sorted or paged where no clause says so. -/
theorem orderAndPaging_of_unsorted (h : q.hasOrderOrPaging = false) (a : Adapter) :
    q.orderAndPaging a = "" := by
  simp only [hasOrderOrPaging, Bool.or_eq_false_iff, Bool.not_eq_false', List.isEmpty_iff,
    Option.isSome_eq_false_iff, Option.isNone_iff_eq_none] at h
  obtain ⟨⟨horder, hlimit⟩, hoffset⟩ := h
  rw [orderAndPaging, horder, hlimit, hoffset]
  rfl

/-- A plain selection is rendered as its clauses. -/
theorem rendering_plain (q : Query) (a : Adapter) :
    q.plain.query.rendering a = q.plain.query.selection a := by
  rw [rendering_eq, if_pos q.plain.isSelect]
  rfl

/-- The text of a selection is that of the plain selection with its order and its paging behind. -/
theorem write_selection (h : (q.selection a).write p = (.ok text, p')) :
    ∃ s, (q.plain.query.rendering a).write p = (.ok s, p') ∧ text = s ++ q.orderAndPaging a := by
  obtain ⟨s, hs, rfl⟩ := Rendering.write_append_text h
  refine ⟨s, ?_, rfl⟩
  have hplain := Rendering.write_append_of_ok hs (Rendering.write_text "")
  rw [String.append_empty, ← orderAndPaging_of_unsorted q.plain.unsorted a] at hplain
  rw [rendering_plain]
  exact hplain

/-- A selection is written as an atom, with its order and its paging behind, if it has any. -/
theorem exists_writes_selection (h : (q.selection a).write p = (.ok text, p')) :
    ∃ ts, a.WritesCompound p ts text p' ∧ Compound.Spells ts (q.own a) ∧
      (q.hasOrderOrPaging = false → Compound.Operand ts (q.own a)) := by
  obtain ⟨s, hs, rfl⟩ := write_selection h
  rw [own]
  by_cases hclauses : q.orderAndPaging a = ""
  · have hselect : Compound.Operand [.select q.plain] (.select q.plain) := .select q.plain
    rw [if_pos hclauses, hclauses]
    exact ⟨_, .select hs .nil, hselect.spells, fun _ => hselect⟩
  · have hsorting := Adapter.WritesCompound.sorting (q.orderAndPaging a) (.nil (a := a) (p := p'))
    rw [String.append_empty] at hsorting
    rw [if_neg hclauses]
    refine ⟨_, .select hs hsorting, .sorted _ _, fun hunsorted => ?_⟩
    exact absurd (orderAndPaging_of_unsorted hunsorted a) hclauses

/-- What is written of a query is read as its tree; if it has neither an order nor a paging nor
unions, it is an operand without a group. -/
def Spelled (a : Adapter) (q : Query) : Prop :=
  ∀ {p text p'}, (q.rendering a).write p = (.ok text, p') →
    ∃ ts, a.WritesCompound p ts text p' ∧ Compound.Spells ts (q.compound a) ∧
      ((q.hasOrderOrPaging || !q.unions.isEmpty) = false → Compound.Operand ts (q.compound a))

end Query

/-! ## The parts of a union -/

section
variable {a : Adapter} {p p' : Parameters} {text : String} {r : Rendering} {compound : Bool}
  {c : Compound PlainSelection}

/-- A part of a union is written as it is or as a group, and as a group if it needs one. -/
theorem Adapter.write_unionPart (h : (a.unionPart r compound).write p = (.ok text, p')) :
    ∃ s, r.write p = (.ok s, p') ∧
      (compound = false ∧ text = s ∨ text = a.groupOpening ++ (s ++ ")")) := by
  cases hdialect : a.dialect with
  | sqlite =>
    have hopening : a.groupOpening = "SELECT * FROM (" := by rw [groupOpening, hdialect]
    rw [unionPart, hdialect] at h
    cases compound with
    | false => exact ⟨text, h, .inl ⟨rfl, rfl⟩⟩
    | true =>
      obtain ⟨inner, hinner, rfl⟩ := Rendering.write_text_append h
      obtain ⟨s, hs, rfl⟩ := Rendering.write_paren hinner
      refine ⟨s, hs, .inr ?_⟩
      simp only [hopening, ← String.append_assoc]
      rfl
  | mySql | postgreSql =>
    have hopening : a.groupOpening = "(" := by rw [groupOpening, hdialect]
    rw [unionPart, hdialect] at h
    obtain ⟨s, hs, rfl⟩ := Rendering.write_paren h
    refine ⟨s, hs, .inr ?_⟩
    rw [hopening, String.append_assoc]

/-- What groups a part is fixed text. -/
theorem Adapter.outcome_unionPart (a : Adapter) (r : Rendering) (compound : Bool) (p : Parameters) :
    (a.unionPart r compound).outcome p = r.outcome p := by
  rw [unionPart]
  split
  · split
    · rw [Rendering.outcome_text_append, Rendering.outcome_paren]
    · rfl
  · exact Rendering.outcome_paren r p

/-- Parts come to what the selections in them come to, one after the other. -/
theorem UnionPart.outcome_renderings {parts : List UnionPart}
    (h : ∀ part ∈ parts, ∀ p, (part.query.rendering a).outcome p =
      Rendering.inTurn ((part.query.compound a).atoms.map fun s => s.query.rendering a) p)
    (p : Parameters) :
    (UnionPart.renderings a parts).outcome p =
      Rendering.inTurn ((parts.flatMap fun part => (part.query.compound a).atoms).map
        fun s => s.query.rendering a) p := by
  induction parts generalizing p with
  | nil => rfl
  | cons part parts ih =>
    obtain ⟨hpart, hparts⟩ := List.forall_mem_cons.1 h
    obtain ⟨query, all⟩ := part
    rw [UnionPart.renderings, List.flatMap_cons, List.map_append]
    refine Rendering.outcome_append (fun p => ?_) (ih hparts) p
    rw [Rendering.outcome_text_append, a.outcome_unionPart]
    exact hpart p

/-- So it is read as an operand. -/
theorem Adapter.exists_writes_unionPart
    (hr : ∀ {text}, r.write p = (.ok text, p') →
      ∃ ts, a.WritesCompound p ts text p' ∧ Compound.Spells ts c ∧
        (compound = false → Compound.Operand ts c))
    (h : (a.unionPart r compound).write p = (.ok text, p')) :
    ∃ ts, a.WritesCompound p ts text p' ∧ Compound.Operand ts c := by
  obtain ⟨s, hs, htext⟩ := write_unionPart h
  obtain ⟨ts, hts, hspells, hoperand⟩ := hr hs
  obtain ⟨hsimple, rfl⟩ | rfl := htext
  · exact ⟨ts, hts, hoperand hsimple⟩
  · exact ⟨Compound.Token.group ts, hts.group, hspells.group⟩

/-- Behind what is read as a compound, parts are read as joined to it. -/
theorem UnionPart.exists_writes {parts : List UnionPart}
    (hparts : ∀ part ∈ parts, part.query.Spelled a)
    (h : (UnionPart.renderings a parts).write p = (.ok text, p')) :
    ∃ us, a.WritesCompound p us text p' ∧ Compound.SortedAlone us ∧
      ∀ ts c, Compound.Reads .chain ts c →
        Compound.Reads .chain (ts ++ us) (UnionPart.joined a c parts) := by
  induction parts generalizing p text with
  | nil =>
    rw [UnionPart.renderings, Rendering.write_empty, Prod.mk.injEq, Except.ok.injEq] at h
    obtain ⟨rfl, rfl⟩ := h
    refine ⟨[], .nil, .nil, fun ts c hc => ?_⟩
    rw [List.append_nil, UnionPart.joined]
    exact hc
  | cons part parts ih =>
    obtain ⟨query, all⟩ := part
    rw [UnionPart.renderings] at h
    obtain ⟨front, behind, p₁, hfront, hbehind, rfl⟩ := Rendering.write_append h
    obtain ⟨s, hs, rfl⟩ := Rendering.write_text_append hfront
    obtain ⟨ts, hts, hoperand⟩ :=
      Adapter.exists_writes_unionPart (hparts ⟨query, all⟩ List.mem_cons_self) hs
    obtain ⟨us, hus, hsorted, hreads⟩ :=
      ih (fun part hpart => hparts part (List.mem_cons_of_mem _ hpart)) hbehind
    have hunion : a.WritesCompound p (.union all :: ts)
        ((if all then " UNION ALL " else " UNION ") ++ s) p₁ := by
      cases all with
      | false => exact .union hts
      | true => exact .unionAll hts
    refine ⟨.union all :: ts ++ us, hunion.append hus, ?_, fun ts' c hc => ?_⟩
    · exact .union all (hoperand.sortedAlone.append hsorted)
    · rw [UnionPart.joined, ← List.append_assoc]
      exact hreads _ _ (.union hc hoperand.reads)

end

/-! ## The text of a query -/

namespace Query

variable {a : Adapter} {q : Query} {p p' : Parameters} {text : String}

/-- A query that selects only is spelled as its tree. -/
theorem SelectsOnly.spelled (h : q.SelectsOnly) (a : Adapter) : q.Spelled a := by
  induction h with
  | @mk q hselect _ ih =>
    intro p text p' htext
    rw [rendering_eq, if_pos hselect] at htext
    rw [compound_eq]
    split at htext
    · next hnil =>
      rw [List.isEmpty_iff.1 hnil, UnionPart.joined]
      simpa using exists_writes_selection htext
    · next hne =>
      obtain ⟨front, behind, p₁, hfront, hbehind, rfl⟩ := Rendering.write_append htext
      obtain ⟨ts, hts, hoperand⟩ := Adapter.exists_writes_unionPart exists_writes_selection hfront
      obtain ⟨us, hus, hsorted, hreads⟩ := UnionPart.exists_writes ih hbehind
      refine ⟨ts ++ us, hts.append hus, .chain (hreads ts _ (.operand hoperand.reads)) ?_, ?_⟩
      · exact hoperand.sortedAlone.append hsorted
      · simp [hne]

/-- The order and the paging of a selection are fixed text, so it comes to what the plain selection
comes to. -/
theorem outcome_selection (q : Query) (a : Adapter) (p : Parameters) :
    (q.selection a).outcome p = (q.plain.query.rendering a).outcome p := by
  rw [rendering_plain, selection, selection, Rendering.outcome_append_text,
    Rendering.outcome_append_text]
  rfl

/-- A union comes to what its plain selections come to, one after the other. -/
theorem SelectsOnly.outcome_eq (h : q.SelectsOnly) (a : Adapter) (p : Parameters) :
    (q.rendering a).outcome p =
      Rendering.inTurn ((q.compound a).atoms.map fun s => s.query.rendering a) p := by
  induction h generalizing p with
  | @mk q hselect _ ih =>
    have hselection (p : Parameters) : (q.selection a).outcome p =
        Rendering.inTurn [q.plain.query.rendering a] p := by
      rw [outcome_selection, Rendering.inTurn_singleton]
    rw [rendering_eq, if_pos hselect, compound_eq, UnionPart.atoms_joined, atoms_own, List.map_append]
    split
    · next hnil =>
      rw [List.isEmpty_iff.1 hnil]
      exact hselection p
    · refine Rendering.outcome_append (fun p => ?_) (UnionPart.outcome_renderings ih) p
      rw [a.outcome_unionPart]
      exact hselection p

/-- With literals, a union can be written just if each of its plain selections can. -/
theorem SelectsOnly.fault?_eq_none_iff (h : q.SelectsOnly) (a : Adapter) :
    (q.rendering a).fault? = none ↔
      ∀ s ∈ (q.compound a).atoms, (s.query.rendering a).fault? = none := by
  rw [Rendering.fault?_eq_none_iff_outcome, h.outcome_eq, Rendering.inTurn_inline, List.forall_mem_map]

/-- A selection with unions of selections comes to what its plain selections come to, one after the
other: it fails with the first of them that does, and else the values of all of them are collected.
Its text is then made up of them. It can be read in one way only, as the tree that the query stands
for. Whatever is sorted in it is one selection with a group of its own, unless that is all there
is. -/
theorem text_reads_compound (hq : q.SelectsOnly) (a : Adapter) :
    (∀ p, (q.rendering a).outcome p =
      Rendering.inTurn ((q.compound a).atoms.map fun s => s.query.rendering a) p) ∧
    ((q.rendering a).fault? = none ↔
      ∀ s ∈ (q.compound a).atoms, (s.query.rendering a).fault? = none) ∧
    ∀ p text p', (q.rendering a).write p = (.ok text, p') →
      ∃ ts, a.WritesCompound p ts text p' ∧
        (∀ c, Compound.Reads .text ts c ↔ c = q.compound a) ∧
        (Compound.SortedAlone ts ∨ ∃ s clauses, ts = [.select s, .sorting clauses]) := by
  refine ⟨hq.outcome_eq a, hq.fault?_eq_none_iff a, fun p text p' h => ?_⟩
  obtain ⟨ts, hts, hspells, -⟩ := hq.spelled a h
  exact ⟨ts, hts, hspells.reads.iff_eq, hspells.sortedAlone_or⟩

/-- Of a page of rows with a union and another selection joined to it, in SQLite. -/
theorem text_reads_compound_sqlite :
    let a := Adapter.ofDialect .sqlite "" none
    let rows (table : String) := (Query.new a).source (.table table) none
    let q := ((((rows "a").setOrderBy ["-id"]).setLimit 1).union
      ((rows "b").union (rows "c") false) true).union (rows "d") false
    let text := "SELECT * FROM (SELECT * FROM `a` ORDER BY `id` DESC LIMIT 1) UNION ALL " ++
      "SELECT * FROM (SELECT * FROM `b` UNION SELECT * FROM `c`) UNION SELECT * FROM `d`"
    q.SelectsOnly ∧ q.toSql = .ok text ∧
      ∃ ts, a.WritesCompound .inline ts text .inline ∧
        (∀ c, Compound.Reads .text ts c ↔ c = q.compound a) ∧
        (Compound.SortedAlone ts ∨ ∃ s clauses, ts = [.select s, .sorting clauses]) := by
  intro a rows q text
  have hrows (table : String) : (rows table).SelectsOnly := .mk rfl nofun
  have hpage : (((rows "a").setOrderBy ["-id"]).setLimit 1).SelectsOnly := .mk rfl nofun
  have hq : q.SelectsOnly :=
    (hpage.union ((hrows "b").union (hrows "c") false) true).union (hrows "d") false
  have htext : q.toSql = .ok text := by decide +kernel
  obtain ⟨-, -, hreads⟩ := text_reads_compound hq a
  exact ⟨hq, htext, hreads .inline text .inline (Rendering.inlineText_eq_ok.1 htext)⟩

end Query

end SqlCompose
