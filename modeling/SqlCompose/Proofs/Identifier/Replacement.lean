import SqlCompose.Proofs.Identifier.Names

/-!
# Expansion as a single replacement

Raw SQL is read from left to right: a placeholder is replaced where one begins, and any other
character is copied (`Adapter.Replaces`). With a plain prefix, expanding does this
(`Adapter.replaces_quoteSqlChars`), and there is nothing else to do (`Adapter.Replaces.eq`).

Every part of a name that comes in stands between quote characters, and no placeholder has one. So a
placeholder in the result would have to lie within a single name, which has no opening, or within
what was copied, where it would have been replaced (`Replaces.source_absent`). Expanding once more
changes nothing.
-/

namespace SqlCompose

open Text Identifier Segment

namespace Identifier

/-- A dotted name with every part of it between quote characters. -/
def wrapped (quote : Char) (name : List Char) : List Char :=
  joinWith ['.'] ((splitOn '.' name).map fun part => quote :: part ++ [quote])

variable {quote : Char} {name : List Char}

/-- A name without quote characters has all of its parts wrapped. -/
theorem dottedTable_eq_wrapped (h : quote ∉ name) : dottedTable quote name = wrapped quote name := by
  have hparts : ∀ part ∈ splitOn '.' name, quoteTablePart quote part = quote :: part ++ [quote] :=
    fun part hpart => quoteTablePart_of_notMem fun hmem => h (mem_of_mem_splitOn hpart hmem)
  rw [dottedTable, wrapped, List.map_congr_left hparts]

/-- Wrapping is a way of quoting. -/
theorem quoted_wrapped (h : quote ∉ name) : Quoted quote name (wrapped quote name) :=
  dottedTable_eq_wrapped h ▸ quoted_dottedTable quote name

/-- A wrapped name begins with a quote character. -/
theorem exists_wrapped_eq_cons (quote : Char) (name : List Char) :
    ∃ rest, wrapped quote name = quote :: rest := by
  unfold wrapped
  match hsplit : splitOn '.' name with
  | [] => exact absurd hsplit (splitOn_ne_nil '.' name)
  | [part] => exact ⟨part ++ [quote], rfl⟩
  | part :: next :: parts => exact ⟨_, rfl⟩

/-- A wrapped name ends with a quote character. -/
theorem exists_wrapped_eq_concat (quote : Char) (name : List Char) :
    ∃ front, wrapped quote name = front ++ [quote] := by
  rw [wrapped, ← dropLast_append_lastPart name, List.map_append, List.map_singleton,
    joinWith_concat, ← List.append_assoc]
  exact ⟨_, rfl⟩

end Identifier

namespace Adapter

/-- What a segment is replaced by: a placeholder by its name with every part between quote
characters, and with the prefix in the place of the percent signs. -/
def replacement (a : Adapter) : Segment → List Char
  | .char c => [c]
  | .table name => wrapped a.quoteChar (replaceChar '%' a.tablePrefix.toList name)
  | .column name => wrapped a.quoteChar name

/-- A text with its placeholders replaced, from left to right: where one begins, it is replaced and
the text behind it is read on, and where none begins, the character is copied. -/
inductive Replaces (a : Adapter) : List Char → List Char → Prop
  | nil : Replaces a [] []
  | placeholder {s : Segment} {rest out : List Char} (h : s.IsPlaceholder)
      (hrest : Replaces a rest out) : Replaces a (s.source ++ rest) (a.replacement s ++ out)
  | char {c : Char} {rest out : List Char}
      (h : ∀ s : Segment, s.IsPlaceholder → ¬ s.source <+: c :: rest)
      (hrest : Replaces a rest out) : Replaces a (c :: rest) (c :: out)

variable {a : Adapter}

/-! ## What stands in the place of a placeholder -/

/-- A placeholder is replaced by a name. -/
theorem exists_replacement_eq (ha : a.PlainPrefix) {s : Segment} (h : s.IsPlaceholder) :
    ∃ name, (∀ c ∈ name, isNameChar c = true) ∧ a.replacement s = wrapped a.quoteChar name := by
  cases s with
  | char c => exact h.elim
  | table name => exact ⟨_, isNameChar_of_mem_replaceChar ha h, rfl⟩
  | column name => exact ⟨name, h.2, rfl⟩

/-- With a plain prefix, a placeholder is expanded to its replacement. -/
theorem expanded_eq_replacement (ha : a.PlainPrefix) {s : Segment} (h : s.IsPlaceholder) :
    s.expanded a.quoteChar a.tablePrefix.toList = a.replacement s := by
  cases s with
  | char c => exact h.elim
  | table name =>
    exact dottedTable_eq_wrapped
      (not_mem_of_names (isNameChar_of_mem_replaceChar ha h) a.isNameChar_quoteChar)
  | column name =>
    have hstar : lastPart name ≠ ['*'] := fun heq => by
      have hmem : '*' ∈ name :=
        mem_of_mem_splitOn (lastPart_mem name) (heq ▸ List.mem_singleton_self '*')
      exact not_mem_of_names h.2 (by decide) hmem
    exact (dottedColumn_eq_dottedTable hstar).trans
      (dottedTable_eq_wrapped (not_mem_of_names h.2 a.isNameChar_quoteChar))

/-! ## No placeholder comes in -/

/-- No quote character stands in a placeholder. -/
theorem quoteChar_notMem_source {s : Segment} (h : s.IsPlaceholder) : a.quoteChar ∉ s.source := by
  have hname : ∀ core, (∀ c ∈ core, isNameChar c = true) → a.quoteChar ∉ core :=
    fun core hcore => not_mem_of_names hcore a.isNameChar_quoteChar
  have hmarks := a.quoteChar_ne
  simp only [List.forall_mem_cons] at hmarks
  cases s with
  | char c => exact h.elim
  | table name =>
    obtain ⟨before, core, behind, rfl, hbefore, hcore, hbehind⟩ := h
    rcases hbefore with rfl | rfl <;> rcases hbehind with rfl | rfl <;>
      simp [source, hmarks, hname core hcore.2]
  | column name => simp [source, hmarks, hname name h.2]

/-- A placeholder begins with a pair of marks that no name has. -/
theorem exists_pair {s : Segment} (h : s.IsPlaceholder) :
    ∃ c, isNameChar c = false ∧ [c, c] <+: s.source := by
  cases s with
  | char c => exact h.elim
  | table name => exact ⟨'{', by decide, name ++ ['}', '}'], rfl⟩
  | column name => exact ⟨'[', by decide, name ++ [']', ']'], rfl⟩

/-- A placeholder does not stand within a name whose parts are between quote characters. -/
theorem source_absent_wrapped {s : Segment} (h : s.IsPlaceholder) {name : List Char}
    (hname : ∀ c ∈ name, isNameChar c = true) : ¬ s.source <:+: wrapped a.quoteChar name := by
  intro hwithin
  obtain ⟨c, hc, hpair⟩ := exists_pair h
  have hquote : a.quoteChar ∉ [c, c] := fun hmem => quoteChar_notMem_source h (hpair.subset hmem)
  have hdot : '.' ∉ [c, c] := by simpa using ne_of_isNameChar (by decide : isNameChar '.') hc
  have hquoted := quoted_wrapped (not_mem_of_names hname a.isNameChar_quoteChar)
  have hstands : [c, c] <:+: name :=
    (hquoted.infix_iff hdot hquote).1 (hpair.isInfix.trans hwithin)
  exact not_mem_of_names hname hc (hstands.subset List.mem_cons_self)

namespace Replaces

variable {cs out : List Char}

/-- What stands at the front of the result and is without quote characters was copied. -/
theorem front_copied (ha : a.PlainPrefix) (h : a.Replaces cs out) {lead : List Char}
    (hquote : a.quoteChar ∉ lead) (hlead : lead <+: out) : lead <+: cs := by
  induction h generalizing lead with
  | nil => exact hlead
  | placeholder hs _ _ =>
    obtain ⟨name, -, hname⟩ := exists_replacement_eq ha hs
    obtain ⟨rest, hrest⟩ := exists_wrapped_eq_cons a.quoteChar name
    rw [hname, hrest, List.cons_append, List.prefix_cons_iff] at hlead
    rcases hlead with rfl | ⟨t, rfl, -⟩
    · exact List.nil_prefix
    · exact absurd List.mem_cons_self hquote
  | char _ _ ih =>
    rcases List.prefix_cons_iff.1 hlead with rfl | ⟨t, rfl, ht⟩
    · exact List.nil_prefix
    · rw [List.mem_cons, not_or] at hquote
      exact (List.prefix_cons_inj _).2 (ih hquote.2 ht)

/-- No placeholder stands in the result. -/
theorem source_absent (ha : a.PlainPrefix) (h : a.Replaces cs out) {s : Segment}
    (hs : s.IsPlaceholder) : ¬ s.source <:+: out := by
  have hquote : a.quoteChar ∉ s.source := quoteChar_notMem_source hs
  induction h with
  | nil => exact fun hwithin => source_ne_nil s (List.infix_nil.1 hwithin)
  | @placeholder t rest out ht _ ih =>
    obtain ⟨name, hnames, hname⟩ := exists_replacement_eq ha ht
    obtain ⟨front, hfront⟩ := exists_wrapped_eq_concat a.quoteChar name
    rw [hname, hfront, List.append_assoc, List.singleton_append, infix_append_cons_iff hquote,
      not_or]
    have hstands : front <:+: wrapped a.quoteChar name := hfront ▸ (List.prefix_append _ _).isInfix
    exact ⟨fun hwithin => source_absent_wrapped hs hnames (hwithin.trans hstands), ih⟩
  | char hnone hrest ih =>
    rw [List.infix_cons_iff, not_or]
    exact ⟨fun hlead => hnone s hs (front_copied ha (.char hnone hrest) hquote hlead), ih⟩

end Replaces

/-! ## The result is the only one -/

/-- Replacing the placeholders has one result. -/
theorem Replaces.eq (ha : a.PlainPrefix) {cs out : List Char} (h : a.Replaces cs out) :
    out = a.quoteSqlChars cs := by
  induction h with
  | nil => rw [quoteSqlChars_eq ha]; rfl
  | placeholder hs _ ih =>
    rw [quoteSqlChars_source_append ha hs, expanded_eq_replacement ha hs, ih]
  | char hnone _ ih => rw [quoteSqlChars_cons ha (placeholder?_eq_none_iff.2 hnone), ih]

/-- Quoting raw SQL replaces its placeholders. -/
theorem replaces_quoteSqlChars (ha : a.PlainPrefix) (cs : List Char) :
    a.Replaces cs (a.quoteSqlChars cs) := by
  match cs with
  | [] => rw [quoteSqlChars_eq ha]; exact .nil
  | c :: cs =>
    cases hread : Segment.placeholder? (c :: cs) with
    | none =>
      rw [quoteSqlChars_cons ha hread]
      exact .char (placeholder?_eq_none_iff.1 hread) (replaces_quoteSqlChars ha cs)
    | some s =>
      obtain ⟨hs, rest, hrest⟩ := placeholder?_eq_some_iff.1 hread
      rw [hrest, quoteSqlChars_source_append ha hs, expanded_eq_replacement ha hs]
      exact .placeholder hs (replaces_quoteSqlChars ha rest)
termination_by cs.length
decreasing_by
  · simp
  · have hlength := congrArg List.length hrest
    have hpos := List.length_pos_iff.2 (source_ne_nil s)
    rw [List.length_append] at hlength
    omega

/-- A text without placeholders is left alone. -/
theorem quoteSqlChars_eq_self (ha : a.PlainPrefix) {cs : List Char}
    (h : ∀ s : Segment, s.IsPlaceholder → ¬ s.source <:+: cs) : a.quoteSqlChars cs = cs := by
  induction cs with
  | nil => rw [quoteSqlChars_eq ha]; rfl
  | cons c cs ih =>
    have hhere : Segment.placeholder? (c :: cs) = none :=
      placeholder?_eq_none_iff.2 fun s hs hlead => h s hs hlead.isInfix
    rw [quoteSqlChars_cons ha hhere, ih fun s hs hwithin => h s hs (List.infix_cons hwithin)]

/-- An expansion with a plain prefix is a single replacement of the placeholders, from left to right
and without overlaps. It leaves no placeholder behind, and so nothing is left to expand. -/
theorem quoteSql_replaces (ha : a.PlainPrefix) (sql : String) :
    (∀ out, a.Replaces sql.toList out ↔ out = (a.quoteSql sql).toList) ∧
    (∀ s : Segment, s.IsPlaceholder → ¬ s.source <:+: (a.quoteSql sql).toList) ∧
    a.quoteSql (a.quoteSql sql) = a.quoteSql sql := by
  have hreplaces := replaces_quoteSqlChars ha sql.toList
  have hnone : ∀ s : Segment, s.IsPlaceholder → ¬ s.source <:+: (a.quoteSql sql).toList :=
    fun s hs => by rw [quoteSql, String.toList_ofList]; exact hreplaces.source_absent ha hs
  refine ⟨fun out => ?_, hnone, ?_⟩
  · rw [quoteSql, String.toList_ofList]
    exact ⟨fun h => h.eq ha, fun h => h ▸ hreplaces⟩
  · rw [quoteSql, quoteSqlChars_eq_self ha hnone, String.ofList_toList]

theorem quoteSql_replaces_nested :
    let a := Adapter.ofDialect .sqlite "p_" none
    a.PlainPrefix ∧
      a.Replaces "[[[[x.y]]]]\x7b\x7b%t\x7d\x7d".toList "[[`x`.`y`]]`p_t`".toList ∧
      a.quoteSql "[[`x`.`y`]]`p_t`" = "[[`x`.`y`]]`p_t`" := by
  intro a
  have hplain : a.PlainPrefix := by decide
  obtain ⟨hreplaces, -, hagain⟩ :=
    quoteSql_replaces hplain "[[[[x.y]]]]\x7b\x7b%t\x7d\x7d"
  have hout : a.quoteSql "[[[[x.y]]]]\x7b\x7b%t\x7d\x7d" = "[[`x`.`y`]]`p_t`" := by decide
  rw [hout] at hreplaces hagain
  exact ⟨hplain, (hreplaces _).2 rfl, hagain⟩

end Adapter

end SqlCompose
