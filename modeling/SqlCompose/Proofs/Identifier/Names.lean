import Mathlib.Data.List.Forall2
import Mathlib.Data.List.Infix
import SqlCompose.Proofs.Identifier.Expansion

/-!
# Names that are no raw SQL

A plain name, without a parenthesis and without the opening of a placeholder, is quoted part by part:
every part between its dots is left alone or put between quote characters (`Identifier.Quoted`). So
quoting brings no raw SQL about (`Quoted.isPlain`), and removing the quote characters gives the name
back if it had none of its own (`Quoted.filter_eq`).

A table name is split at every dot and a column name at the last one first, and yet they have the
same parts (`dottedColumn_eq`). The two differ in the last part only, and only if it is a star.
-/

namespace SqlCompose

open Text

namespace Identifier

/-! ## Plain names -/

/-- A name that is no raw SQL. -/
structure IsPlain (name : List Char) : Prop where
  paren : '(' ∉ name
  bracket : ¬ ['[', '['] <:+: name
  brace : ¬ ['{', '{'] <:+: name

instance (name : List Char) : Decidable (IsPlain name) :=
  decidable_of_iff ('(' ∉ name ∧ ¬ ['[', '['] <:+: name ∧ ¬ ['{', '{'] <:+: name)
    ⟨fun ⟨h₁, h₂, h₃⟩ => ⟨h₁, h₂, h₃⟩, fun ⟨h₁, h₂, h₃⟩ => ⟨h₁, h₂, h₃⟩⟩

/-- A plain name is no raw SQL as a table. -/
theorem IsPlain.isRawTable {name : List Char} (h : IsPlain name) : isRawTable name = false := by
  have hparen : name.contains '(' = false := by simpa using h.paren
  rw [Identifier.isRawTable, hparen, hasPair_eq_false_iff.2 h.brace, Bool.or_false]

/-- A plain name is no raw SQL as a column. -/
theorem IsPlain.isRawColumn {name : List Char} (h : IsPlain name) : isRawColumn name = false := by
  have hparen : name.contains '(' = false := by simpa using h.paren
  rw [Identifier.isRawColumn, hparen, hasPair_eq_false_iff.2 h.bracket,
    hasPair_eq_false_iff.2 h.brace, Bool.or_false, Bool.or_false]

/-! ## Parts that are quoted -/

/-- What quoting may make of a part of a name: it is left alone, or put between quote characters if
it holds none. -/
inductive PartQuoted (quote : Char) (part : List Char) : List Char → Prop
  | bare : PartQuoted quote part part
  | between (h : quote ∉ part) : PartQuoted quote part (quote :: part ++ [quote])

/-- What quoting may make of a name: every part of it is quoted on its own. -/
def Quoted (quote : Char) (name out : List Char) : Prop :=
  ∃ parts, List.Forall₂ (PartQuoted quote) (splitOn '.' name) parts ∧ out = joinWith ['.'] parts

variable {quote : Char}

/-- Quoting a part adds and takes away nothing without quote characters. -/
theorem PartQuoted.infix_iff {part out cs : List Char} (h : PartQuoted quote part out)
    (hcs : quote ∉ cs) : cs <:+: out ↔ cs <:+: part := by
  cases h with
  | bare => rfl
  | between =>
    have hnil : cs <:+: [] → cs <:+: part := fun h => List.infix_nil.1 h ▸ List.nil_infix
    calc cs <:+: quote :: part ++ [quote]
        ↔ cs <:+: [] ++ quote :: (part ++ [quote]) := Iff.rfl
      _ ↔ cs <:+: [] ∨ cs <:+: part ++ [quote] := infix_append_cons_iff hcs
      _ ↔ cs <:+: [] ∨ cs <:+: part ∨ cs <:+: [] := or_congr_right (infix_append_cons_iff hcs)
      _ ↔ cs <:+: part := ⟨fun h => h.elim hnil fun h => h.elim id hnil, fun h => .inr (.inl h)⟩

/-- Without its quote characters, a quoted part is the part. -/
theorem PartQuoted.filter_eq {part out : List Char} (h : PartQuoted quote part out)
    (hpart : quote ∉ part) : out.filter (· ≠ quote) = part := by
  have hkept : part.filter (· ≠ quote) = part :=
    List.filter_eq_self.2 fun c hc => decide_eq_true (ne_of_mem_of_not_mem hc hpart)
  cases h with
  | bare => exact hkept
  | between => rw [List.filter_append, List.filter_cons_of_neg (by simp), hkept,
      List.filter_cons_of_neg (by simp), List.filter_nil, List.append_nil]

/-- Nothing but a star is quoted to a star. -/
theorem PartQuoted.ne_star {part out : List Char} (h : PartQuoted quote part out)
    (hpart : part ≠ ['*']) : out ≠ ['*'] := by
  cases h with
  | bare => exact hpart
  | between => simp

/-- Quoting adds quote characters only. -/
theorem PartQuoted.notMem {part out : List Char} {c : Char} (h : PartQuoted quote part out)
    (hquote : quote ≠ c) (hpart : c ∉ part) : c ∉ out := by
  cases h with
  | bare => exact hpart
  | between => simp [hquote.symm, hpart]

section
variable {parts outs : List (List Char)}

/-- What stands in one of the parts stands in one of the quoted ones. -/
theorem exists_infix_iff (h : List.Forall₂ (PartQuoted quote) parts outs) {cs : List Char}
    (hcs : quote ∉ cs) : (∃ out ∈ outs, cs <:+: out) ↔ ∃ part ∈ parts, cs <:+: part := by
  induction h with
  | nil => rfl
  | cons hpart _ ih => simp only [List.mem_cons, exists_eq_or_imp, hpart.infix_iff hcs, ih]

/-- Without their quote characters, quoted parts are the parts. -/
theorem map_filter_eq (h : List.Forall₂ (PartQuoted quote) parts outs)
    (hparts : ∀ part ∈ parts, quote ∉ part) : outs.map (List.filter (· ≠ quote)) = parts := by
  induction h with
  | nil => rfl
  | cons hpart _ ih =>
    obtain ⟨hfirst, hothers⟩ := List.forall_mem_cons.1 hparts
    rw [List.map_cons, hpart.filter_eq hfirst, ih hothers]

/-- Quoting parts adds quote characters only. -/
theorem notMem_of_forall₂ (h : List.Forall₂ (PartQuoted quote) parts outs) {c : Char}
    (hquote : quote ≠ c) (hparts : ∀ part ∈ parts, c ∉ part) : ∀ out ∈ outs, c ∉ out := by
  induction h with
  | nil => exact fun _ hout => absurd hout List.not_mem_nil
  | cons hpart _ ih =>
    obtain ⟨hfirst, hothers⟩ := List.forall_mem_cons.1 hparts
    exact List.forall_mem_cons.2 ⟨hpart.notMem hquote hfirst, ih hothers⟩

/-- The parts of what a name is quoted to are its quoted parts. -/
theorem splitOn_of_forall₂ {name : List Char}
    (h : List.Forall₂ (PartQuoted quote) (splitOn '.' name) outs) (hdot : quote ≠ '.') :
    splitOn '.' (joinWith ['.'] outs) = outs := by
  refine splitOn_joinWith (fun hnil => splitOn_ne_nil '.' name ?_)
    (notMem_of_forall₂ h hdot fun _ => notMem_of_mem_splitOn)
  exact List.forall₂_nil_right_iff.1 (hnil ▸ h)

end

namespace Quoted

variable {name out : List Char}

/-- Quoting neither adds nor takes away anything that is without dots and quote characters. -/
theorem infix_iff (h : Quoted quote name out) {cs : List Char} (hdot : '.' ∉ cs)
    (hquote : quote ∉ cs) : cs <:+: out ↔ cs <:+: name := by
  obtain ⟨parts, hparts, rfl⟩ := h
  have hne := splitOn_ne_nil '.' name
  have hne' : parts ≠ [] := fun h => hne (List.forall₂_nil_right_iff.1 (h ▸ hparts))
  calc cs <:+: joinWith ['.'] parts
      ↔ ∃ part ∈ parts, cs <:+: part := infix_joinWith_iff hne' hdot
    _ ↔ ∃ part ∈ splitOn '.' name, cs <:+: part := exists_infix_iff hparts hquote
    _ ↔ cs <:+: joinWith ['.'] (splitOn '.' name) := (infix_joinWith_iff hne hdot).symm
    _ ↔ cs <:+: name := by rw [joinWith_splitOn]

/-- Nothing becomes raw SQL by being quoted. -/
theorem isPlain (h : Quoted quote name out) (hquote : ∀ c ∈ ['(', '[', '{'], quote ≠ c)
    (hname : IsPlain name) : IsPlain out := by
  simp only [List.forall_mem_cons, List.not_mem_nil, false_imp_iff, implies_true] at hquote
  obtain ⟨hparen, hbracket, hbrace, -⟩ := hquote
  refine ⟨fun hmem => ?_, fun hwithin => ?_, fun hwithin => ?_⟩
  · have hstands : ['('] <:+: out := (List.singleton_infix_iff _ _).2 hmem
    rw [h.infix_iff (by decide) (by simpa using hparen), List.singleton_infix_iff] at hstands
    exact hname.paren hstands
  · exact hname.bracket ((h.infix_iff (by decide) (by simpa using hbracket)).1 hwithin)
  · exact hname.brace ((h.infix_iff (by decide) (by simpa using hbrace)).1 hwithin)

/-- Without its quote characters, a quoted name is the name. -/
theorem filter_eq (h : Quoted quote name out) (hdot : quote ≠ '.') (hname : quote ∉ name) :
    out.filter (· ≠ quote) = name := by
  obtain ⟨parts, hparts, rfl⟩ := h
  have hnone : ∀ part ∈ splitOn '.' name, quote ∉ part := fun part hpart hmem =>
    hname (mem_of_mem_splitOn hpart hmem)
  rw [filter_joinWith (decide_eq_true hdot.symm), map_filter_eq hparts hnone, joinWith_splitOn]

end Quoted

/-! ## Table names -/

/-- A part with a quote character in it is left alone. -/
theorem quoteTablePart_of_mem {part : List Char} (h : quote ∈ part) :
    quoteTablePart quote part = part :=
  if_pos (List.contains_iff_mem.2 h)

/-- Any other part is put between quote characters. -/
theorem quoteTablePart_of_notMem {part : List Char} (h : quote ∉ part) :
    quoteTablePart quote part = quote :: part ++ [quote] :=
  if_neg fun hcontains => h (List.contains_iff_mem.1 hcontains)

/-- A part of a table name is quoted as a part may be. -/
theorem partQuoted_table (quote : Char) (part : List Char) :
    PartQuoted quote part (quoteTablePart quote part) := by
  by_cases h : quote ∈ part
  · rw [quoteTablePart_of_mem h]
    exact .bare
  · rw [quoteTablePart_of_notMem h]
    exact .between h

/-- A part of a table name is quoted once. -/
theorem quoteTablePart_quoteTablePart (quote : Char) (part : List Char) :
    quoteTablePart quote (quoteTablePart quote part) = quoteTablePart quote part :=
  quoteTablePart_of_mem (mem_quoteTablePart quote part)

/-- So are all parts of a table name. -/
theorem forall₂_quoteTablePart (quote : Char) (parts : List (List Char)) :
    List.Forall₂ (PartQuoted quote) parts (parts.map (quoteTablePart quote)) :=
  List.forall₂_map_right_iff.2 (List.forall₂_same.2 fun part _ => partQuoted_table quote part)

/-- A table name is quoted part by part. -/
theorem quoted_dottedTable (quote : Char) (name : List Char) :
    Quoted quote name (dottedTable quote name) :=
  ⟨_, forall₂_quoteTablePart quote _, rfl⟩

/-- The parts of a quoted table name are the quoted parts. -/
theorem splitOn_dottedTable (hdot : quote ≠ '.') (name : List Char) :
    splitOn '.' (dottedTable quote name) = (splitOn '.' name).map (quoteTablePart quote) :=
  splitOn_of_forall₂ (forall₂_quoteTablePart quote _) hdot

/-- A table name is quoted once. -/
theorem dottedTable_dottedTable (hdot : quote ≠ '.') (name : List Char) :
    dottedTable quote (dottedTable quote name) = dottedTable quote name := by
  rw [dottedTable, splitOn_dottedTable hdot, List.map_map]
  exact congrArg (joinWith ['.']) (List.map_congr_left fun part _ =>
    quoteTablePart_quoteTablePart quote part)

/-- A name all of whose parts are quoted is left alone. -/
theorem dottedTable_of_forall_mem {name : List Char} (h : ∀ part ∈ splitOn '.' name, quote ∈ part) :
    dottedTable quote name = name := by
  rw [dottedTable, List.map_congr_left fun part hpart => quoteTablePart_of_mem (h part hpart),
    List.map_id', joinWith_splitOn]

/-! ## Column names -/

/-- What stands behind the last dot of a name. -/
def lastPart (name : List Char) : List Char :=
  (splitOn '.' name).getLast (splitOn_ne_nil '.' name)

/-- The last part stands behind the others. -/
theorem dropLast_append_lastPart (name : List Char) :
    (splitOn '.' name).dropLast ++ [lastPart name] = splitOn '.' name :=
  List.dropLast_append_getLast (splitOn_ne_nil '.' name)

/-- The last part is one of the parts. -/
theorem lastPart_mem (name : List Char) : lastPart name ∈ splitOn '.' name :=
  List.getLast_mem (splitOn_ne_nil '.' name)

/-- The parts of a column name with every one quoted, and behind the last dot a star left alone. -/
def columnParts (quote : Char) (name : List Char) : List (List Char) :=
  (splitOn '.' name).dropLast.map (quoteTablePart quote) ++ [quoteColumnPart quote (lastPart name)]

/-- Only the last part of a column name may be a star. -/
theorem columnParts_of_splitOn {name last : List Char} {front : List (List Char)}
    (h : splitOn '.' name = front ++ [last]) :
    columnParts quote name = front.map (quoteTablePart quote) ++ [quoteColumnPart quote last] := by
  have hlast : lastPart name = last := by simp [lastPart, h]
  rw [columnParts, hlast, h, List.dropLast_concat]

/-- A column name, which is split at its last dot first, is put together from the same parts as a
table name. -/
theorem dottedColumn_eq (quote : Char) (name : List Char) :
    dottedColumn quote name = joinWith ['.'] (columnParts quote name) := by
  unfold dottedColumn
  split
  · rename_i table column hsplit
    obtain ⟨rfl, hcolumn⟩ := eq_of_splitLast? hsplit
    have hparts : splitOn '.' (table ++ '.' :: column) = splitOn '.' table ++ [column] := by
      rw [splitOn_append, splitOn_eq_singleton hcolumn]
    have htable : (splitOn '.' table).map (quoteTablePart quote) ≠ [] := by
      simpa using splitOn_ne_nil '.' table
    rw [columnParts_of_splitOn hparts, joinWith_append ['.'] htable (List.cons_ne_nil _ _),
      List.append_assoc]
    rfl
  · rename_i hsplit
    have hparts : splitOn '.' name = [] ++ [name] :=
      splitOn_eq_singleton (splitLast?_eq_none_iff.1 hsplit)
    rw [columnParts_of_splitOn hparts]
    rfl

/-- Any part but a star is quoted as in a table name. -/
theorem quoteColumnPart_of_ne {part : List Char} (h : part ≠ ['*']) :
    quoteColumnPart quote part = quoteTablePart quote part :=
  if_neg h

/-- A part of a column name is quoted as a part may be. -/
theorem partQuoted_column (quote : Char) (part : List Char) :
    PartQuoted quote part (quoteColumnPart quote part) := by
  by_cases h : part = ['*']
  · rw [quoteColumnPart, if_pos h]
    exact .bare
  · rw [quoteColumnPart_of_ne h]
    exact partQuoted_table quote part

/-- A part of a column name is quoted once. -/
theorem quoteColumnPart_quoteColumnPart (quote : Char) (part : List Char) :
    quoteColumnPart quote (quoteColumnPart quote part) = quoteColumnPart quote part := by
  by_cases h : part = ['*']
  · rw [h]
    rfl
  · have hquoted := (partQuoted_table quote part).ne_star h
    rw [quoteColumnPart_of_ne h, quoteColumnPart_of_ne hquoted, quoteTablePart_quoteTablePart]

/-- The parts of a column name are quoted one by one. -/
theorem forall₂_columnParts (quote : Char) (name : List Char) :
    List.Forall₂ (PartQuoted quote) (splitOn '.' name) (columnParts quote name) := by
  have hlast := List.Forall₂.cons (partQuoted_column quote (lastPart name)) .nil
  rw [← dropLast_append_lastPart name]
  exact List.rel_append (forall₂_quoteTablePart quote _) hlast

/-- A column name is quoted part by part. -/
theorem quoted_dottedColumn (quote : Char) (name : List Char) :
    Quoted quote name (dottedColumn quote name) :=
  ⟨_, forall₂_columnParts quote name, dottedColumn_eq quote name⟩

/-- A column name is quoted once. -/
theorem dottedColumn_dottedColumn (hdot : quote ≠ '.') (name : List Char) :
    dottedColumn quote (dottedColumn quote name) = dottedColumn quote name := by
  have hparts : splitOn '.' (dottedColumn quote name) = columnParts quote name := by
    rw [dottedColumn_eq, splitOn_of_forall₂ (forall₂_columnParts quote name) hdot]
  have hfront : (quoteTablePart quote ∘ quoteTablePart quote) = quoteTablePart quote :=
    funext (quoteTablePart_quoteTablePart quote)
  rw [dottedColumn_eq, columnParts_of_splitOn hparts, List.map_map, hfront,
    quoteColumnPart_quoteColumnPart, dottedColumn_eq, columnParts]

/-! ## The two compared -/

/-- The last part of a table name is quoted like the others. -/
theorem dottedTable_eq (quote : Char) (name : List Char) :
    dottedTable quote name = joinWith ['.']
      ((splitOn '.' name).dropLast.map (quoteTablePart quote) ++
        [quoteTablePart quote (lastPart name)]) := by
  have hlast : [quoteTablePart quote (lastPart name)] =
      [lastPart name].map (quoteTablePart quote) := rfl
  rw [hlast, ← List.map_append, dropLast_append_lastPart, dottedTable]

/-- A column name without a star is quoted as a table name. -/
theorem dottedColumn_eq_dottedTable {name : List Char} (h : lastPart name ≠ ['*']) :
    dottedColumn quote name = dottedTable quote name := by
  rw [dottedColumn_eq, columnParts, quoteColumnPart_of_ne h, dottedTable_eq]

/-- A star behind the last dot is left alone in a column name, and quoted in a table name. -/
theorem exists_front_of_star (hstar : quote ≠ '*') {name : List Char} (h : lastPart name = ['*']) :
    ∃ front, dottedColumn quote name = front ++ ['*'] ∧
      dottedTable quote name = front ++ [quote, '*', quote] := by
  have hquoted : quoteTablePart quote ['*'] = [quote, '*', quote] :=
    quoteTablePart_of_notMem (by simpa using hstar)
  refine ⟨((splitOn '.' name).dropLast.map (quoteTablePart quote)).flatMap (· ++ ['.']), ?_, ?_⟩
  · rw [dottedColumn_eq, columnParts, joinWith_concat, h]
    rfl
  · rw [dottedTable_eq, joinWith_concat, h, hquoted]

/-- A name all of whose parts are quoted is left alone as a column name, too. -/
theorem dottedColumn_of_forall_mem (hstar : quote ≠ '*') {name : List Char}
    (h : ∀ part ∈ splitOn '.' name, quote ∈ part) : dottedColumn quote name = name := by
  have hlast : lastPart name ≠ ['*'] := by
    intro heq
    have hmem := h _ (lastPart_mem name)
    rw [heq, List.mem_singleton] at hmem
    exact hstar hmem
  rw [dottedColumn_eq_dottedTable hlast, dottedTable_of_forall_mem h]

end Identifier

namespace Adapter

open Identifier

/-- No mark that names and placeholders are told by is a quote character. -/
theorem quoteChar_ne (a : Adapter) :
    ∀ c ∈ ['.', '*', '%', '(', '[', ']', '{', '}'], a.quoteChar ≠ c := by
  have hmarks : a.quoteChar ∉ ['.', '*', '%', '(', '[', ']', '{', '}'] := by
    unfold Adapter.quoteChar
    cases a.dialect <;> decide
  exact fun c hc heq => hmarks (heq ▸ hc)

variable {a : Adapter} {name : String}

/-- A plain name is quoted part by part as a table. -/
theorem quoteTable_of_isPlain (h : IsPlain name.toList) :
    a.quoteTable name = String.ofList (dottedTable a.quoteChar name.toList) := by
  rw [quoteTable, quoteTableChars, h.isRawTable, if_neg Bool.false_ne_true]

/-- A plain name is quoted part by part as a column. -/
theorem quoteColumn_of_isPlain (h : IsPlain name.toList) :
    a.quoteColumn name = String.ofList (dottedColumn a.quoteChar name.toList) := by
  rw [quoteColumn, quoteColumnChars, h.isRawColumn, if_neg Bool.false_ne_true]

/-- One of the two ways of quoting a name. -/
inductive IsQuoting (a : Adapter) : (String → String) → Prop
  | table : IsQuoting a a.quoteTable
  | column : IsQuoting a a.quoteColumn

namespace IsQuoting

variable {quoting : String → String}

/-- Plain names are quoted part by part, as tables and as columns. -/
theorem quoted (hquoting : a.IsQuoting quoting) (h : IsPlain name.toList) :
    Quoted a.quoteChar name.toList (quoting name).toList := by
  cases hquoting with
  | table =>
    rw [quoteTable_of_isPlain h, String.toList_ofList]
    exact quoted_dottedTable ..
  | column =>
    rw [quoteColumn_of_isPlain h, String.toList_ofList]
    exact quoted_dottedColumn ..

/-- A quoted name is plain. -/
theorem isPlain (hquoting : a.IsQuoting quoting) (h : IsPlain name.toList) :
    IsPlain (quoting name).toList := by
  have hmarks : ['(', '[', '{'] ⊆ ['.', '*', '%', '(', '[', ']', '{', '}'] := by decide
  exact (hquoting.quoted h).isPlain (fun c hc => a.quoteChar_ne c (hmarks hc)) h

/-- Removing the quote characters from a quoted name gives the name. -/
theorem filter_eq (hquoting : a.IsQuoting quoting) (h : IsPlain name.toList)
    (hquote : a.quoteChar ∉ name.toList) :
    (quoting name).toList.filter (· ≠ a.quoteChar) = name.toList :=
  (hquoting.quoted h).filter_eq (a.quoteChar_ne '.' (by decide)) hquote

/-- A quoted name is left alone. -/
theorem idempotent (hquoting : a.IsQuoting quoting) (h : IsPlain name.toList) :
    quoting (quoting name) = quoting name := by
  have hplain := hquoting.isPlain h
  have hdot := a.quoteChar_ne '.' (by decide)
  cases hquoting with
  | table =>
    rw [quoteTable_of_isPlain hplain, quoteTable_of_isPlain h, String.toList_ofList,
      dottedTable_dottedTable hdot]
  | column =>
    rw [quoteColumn_of_isPlain hplain, quoteColumn_of_isPlain h, String.toList_ofList,
      dottedColumn_dottedColumn hdot]

/-- A name all of whose parts are quoted is left alone. -/
theorem eq_self (hquoting : a.IsQuoting quoting) (h : IsPlain name.toList)
    (hparts : ∀ part ∈ splitOn '.' name.toList, a.quoteChar ∈ part) : quoting name = name := by
  have hstar := a.quoteChar_ne '*' (by decide)
  cases hquoting with
  | table => rw [quoteTable_of_isPlain h, dottedTable_of_forall_mem hparts, String.ofList_toList]
  | column =>
    rw [quoteColumn_of_isPlain h, dottedColumn_of_forall_mem hstar hparts, String.ofList_toList]

end IsQuoting

/-- Table names and column names are quoted consistently, if they are no raw SQL. What is quoted is
left alone when it is quoted again; the two ways of quoting agree on a name, unless it ends in a
star, which only a column name keeps bare; and names without quote characters can be read back from
what they are quoted to, so that no two of them are quoted to the same. -/
theorem quoting_of_isPlain (a : Adapter) {name : String} (h : IsPlain name.toList) :
    (∀ quoting, a.IsQuoting quoting →
      quoting (quoting name) = quoting name ∧
      ((∀ part ∈ splitOn '.' name.toList, a.quoteChar ∈ part) → quoting name = name) ∧
      (a.quoteChar ∉ name.toList →
        (quoting name).toList.filter (· ≠ a.quoteChar) = name.toList)) ∧
    (lastPart name.toList ≠ ['*'] → a.quoteColumn name = a.quoteTable name) ∧
    (lastPart name.toList = ['*'] → ∃ front, a.quoteColumn name = front ++ "*" ∧
      a.quoteTable name = front ++ String.ofList [a.quoteChar, '*', a.quoteChar]) ∧
    ∀ other : String, IsPlain other.toList → a.quoteChar ∉ name.toList →
      a.quoteChar ∉ other.toList → name ≠ other →
      ∀ quoting quoting', a.IsQuoting quoting → a.IsQuoting quoting' →
        quoting name ≠ quoting' other := by
  refine ⟨fun quoting hquoting => ⟨hquoting.idempotent h, hquoting.eq_self h, hquoting.filter_eq h⟩,
    fun hlast => ?_, fun hlast => ?_, ?_⟩
  · rw [quoteColumn_of_isPlain h, dottedColumn_eq_dottedTable hlast, quoteTable_of_isPlain h]
  · obtain ⟨front, hcolumn, htable⟩ :=
      exists_front_of_star (a.quoteChar_ne '*' (by decide)) hlast
    refine ⟨String.ofList front, ?_, ?_⟩
    · rw [quoteColumn_of_isPlain h, hcolumn, String.ofList_append]
    · rw [quoteTable_of_isPlain h, htable, String.ofList_append]
  · intro other hother hname hquote hne quoting quoting' hquoting hquoting' heq
    have hread := hquoting.filter_eq h hname
    rw [heq, hquoting'.filter_eq hother hquote] at hread
    exact hne (String.toList_inj.1 hread.symm)

theorem quoting_of_isPlain_star :
    let a := Adapter.ofDialect .postgreSql "" none
    IsPlain "shop.*".toList ∧ a.quoteTable (a.quoteTable "shop.*") = a.quoteTable "shop.*" ∧
      (∃ front, a.quoteColumn "shop.*" = front ++ "*" ∧ a.quoteTable "shop.*" = front ++ "\"*\"") ∧
      a.quoteColumn "shop.*" ≠ a.quoteTable "shop" := by
  intro a
  have hplain : IsPlain "shop.*".toList := by decide
  obtain ⟨hquoting, -, hstar, hother⟩ := quoting_of_isPlain a hplain
  exact ⟨hplain, (hquoting a.quoteTable .table).1, hstar (by decide),
    hother "shop" (by decide) (by decide) (by decide) (by decide) _ _ .column .table⟩

end Adapter

end SqlCompose
