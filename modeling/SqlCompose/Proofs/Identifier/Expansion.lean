import SqlCompose.Identifier.Quoting
import SqlCompose.Proofs.Identifier.Placeholder

/-!
# Placeholders with a plain prefix

A prefix of characters of names brings no placeholders along, so an expansion comes to an end at the
first level: every segment of a text is expanded on its own (`Adapter.quoteSqlChars_eq`), and a
text may be expanded in two parts where none of its placeholders is cut
(`Adapter.quoteSqlChars_append`). A placeholder that asks for the prefix is then quoted like the name
that it stands for (`Adapter.quoteTableChars_source`).

Behind the dot of a qualified name this is not so. A placeholder there makes the whole name raw SQL,
and what stands in front of the dot is no longer quoted (`Adapter.quoteTableChars_append_source`),
which it is in front of a name (`Adapter.quoteTableChars_append_name`).
-/

namespace SqlCompose

open Text

namespace Segment

open Identifier

/-- What a segment is expanded to, if the name in it is no raw SQL. -/
def expanded (quote : Char) (tablePrefix : List Char) : Segment → List Char
  | .char c => [c]
  | .column name => dottedColumn quote name
  | .table name => dottedTable quote (replaceChar '%' tablePrefix name)

/-- A name behind a percent sign stands in a placeholder for a table. -/
theorem isPlaceholder_table_percent {base : List Char} (h : IsName base) :
    (table ('%' :: base)).IsPlaceholder :=
  ⟨['%'], base, [], by simp, .inr rfl, h, .inl rfl⟩

end Segment

namespace Identifier

open Segment

/-! ## Names -/

/-- What is no character of a name is not in a name. -/
theorem not_mem_of_names {cs : List Char} {c : Char} (hcs : ∀ c ∈ cs, isNameChar c = true)
    (hc : isNameChar c = false) : c ∉ cs :=
  fun hmem => ne_of_isNameChar (hcs c hmem) hc rfl

/-- The characters of a name behind a text do not make it raw SQL. -/
theorem isRawTable_append_names (cs : List Char) {name : List Char}
    (h : ∀ c ∈ name, isNameChar c = true) : isRawTable (cs ++ name) = isRawTable cs := by
  have hparen : name.contains '(' = false := by
    simpa using not_mem_of_names h (by decide : isNameChar '(' = false)
  have hbrace : '{' ∉ name := not_mem_of_names h (by decide)
  rw [isRawTable, isRawTable, hasPair_append cs hbrace, List.contains_append, hparen, Bool.or_false]

/-- The characters of a name are no raw SQL. -/
theorem isRawTable_names {name : List Char} (h : ∀ c ∈ name, isNameChar c = true) :
    isRawTable name = false :=
  isRawTable_append_names [] h

/-- A table placeholder makes a text raw SQL. -/
theorem isRawTable_append_source (cs name : List Char) :
    isRawTable (cs ++ (table name).source) = true := by
  have hpair : hasPair '{' (cs ++ (table name).source) = true := hasPair_of_pair '{' cs _
  rw [isRawTable, hpair, Bool.or_true]

/-- A table name that is expanded with a plain prefix is a name. -/
theorem isNameChar_of_mem_replaceChar {tablePrefix name : List Char}
    (hplain : ∀ c ∈ tablePrefix, isNameChar c = true) (h : (table name).IsPlaceholder) :
    ∀ c ∈ replaceChar '%' tablePrefix name, isNameChar c = true := by
  obtain ⟨before, core, behind, rfl, hbefore, hcore, hbehind⟩ := h
  have hpercent : ∀ cs, cs = [] ∨ cs = ['%'] → ∀ d ∈ cs, d = '%' := by
    rintro cs (rfl | rfl) d hd
    · cases hd
    · exact List.mem_singleton.1 hd
  intro c hc
  obtain ⟨d, hd, hc⟩ := List.mem_flatMap.1 hc
  split at hc
  · exact hplain c hc
  · rename_i hne
    obtain rfl := List.mem_singleton.1 hc
    rcases List.mem_append.1 hd with hd | hd
    · rcases List.mem_append.1 hd with hd | hd
      · exact absurd (hpercent before hbefore c hd) hne
      · exact hcore.2 c hd
    · exact absurd (hpercent behind hbehind c hd) hne

/-! ## Quoted names -/

/-- The parts of a qualified name are quoted on their own. -/
theorem dottedTable_append_dot (quote : Char) (schema name : List Char) :
    dottedTable quote (schema ++ '.' :: name) =
      dottedTable quote schema ++ '.' :: dottedTable quote name := by
  have hschema : (splitOn '.' schema).map (quoteTablePart quote) ≠ [] := by
    simpa using splitOn_ne_nil '.' schema
  have hname : (splitOn '.' name).map (quoteTablePart quote) ≠ [] := by
    simpa using splitOn_ne_nil '.' name
  rw [dottedTable, splitOn_append, List.map_append, joinWith_append ['.'] hschema hname,
    List.append_assoc]
  rfl

/-- A quoted part has a quote character. -/
theorem mem_quoteTablePart (quote : Char) (name : List Char) :
    quote ∈ quoteTablePart quote name := by
  unfold quoteTablePart
  split
  · rename_i h
    exact List.contains_iff_mem.1 h
  · exact List.mem_cons_self

/-- So has a quoted name. -/
theorem mem_dottedTable (quote : Char) (name : List Char) : quote ∈ dottedTable quote name := by
  unfold dottedTable
  match hsplit : splitOn '.' name with
  | [] => exact absurd hsplit (splitOn_ne_nil '.' name)
  | [part] => exact mem_quoteTablePart quote part
  | part :: next :: parts =>
    simp only [List.map_cons, joinWith, List.append_assoc]
    exact List.mem_append_left _ (mem_quoteTablePart quote part)

/-- A quoted column name is not empty. -/
theorem dottedColumn_ne_nil (quote : Char) (name : List Char) : dottedColumn quote name ≠ [] := by
  unfold dottedColumn
  split
  · simp
  · unfold quoteColumnPart
    split
    · next hstar => exact hstar ▸ List.cons_ne_nil _ _
    · exact List.ne_nil_of_mem (mem_quoteTablePart quote name)

/-! ## Nothing vanishes -/

/-- Something stands in the place of every placeholder, so what is expanded is not empty. -/
theorem expand?_ne_nil {quote : Char} {tablePrefix : List Char} {depth : Nat} {cs out : List Char}
    (hcs : cs ≠ []) (h : expand? quote tablePrefix depth cs = some out) : out ≠ [] := by
  induction depth generalizing cs out with
  | zero => cases h
  | succ depth ih =>
    rw [expand?] at h
    obtain ⟨parts, hparts, rfl⟩ := Option.map_eq_some_iff.1 h
    cases hsegments : segments cs with
    | nil => exact absurd (flatMap_source_segments cs) (by rw [hsegments]; exact hcs.symm)
    | cons s rest =>
      rw [hsegments, List.mapM'_cons] at hparts
      obtain ⟨part, hpart, hrest⟩ := Option.bind_eq_some_iff.1 hparts
      obtain ⟨others, -, hothers⟩ := Option.bind_eq_some_iff.1 hrest
      cases hothers
      rw [List.flatten_cons]
      refine List.append_ne_nil_of_left_ne_nil ?_ _
      cases s with
      | char c =>
        cases hpart
        exact List.cons_ne_nil _ _
      | column name =>
        cases hpart
        exact dottedColumn_ne_nil quote name
      | table name =>
        dsimp only at hpart
        split at hpart
        · next hraw =>
          refine ih (fun hnil => ?_) hpart
          rw [hnil] at hraw
          cases hraw
        · cases hpart
          exact List.ne_nil_of_mem (mem_dottedTable quote _)

/-! ## One level of expansion -/

/-- Where every member has a result, the list has the results. -/
theorem mapM'_eq_some_map {α β : Type} {f : α → Option β} {g : α → β} {l : List α}
    (h : ∀ x ∈ l, f x = some (g x)) : l.mapM' f = some (l.map g) := by
  induction l with
  | nil => rfl
  | cons x l ih =>
    obtain ⟨hx, hl⟩ := List.forall_mem_cons.1 h
    rw [List.mapM'_cons, hx, ih hl]
    rfl

/-- With a plain prefix, every segment is expanded at the first level. -/
theorem expand?_succ (quote : Char) {tablePrefix : List Char}
    (hplain : ∀ c ∈ tablePrefix, isNameChar c = true) (depth : Nat) (cs : List Char) :
    expand? quote tablePrefix (depth + 1) cs =
      some ((segments cs).flatMap (Segment.expanded quote tablePrefix)) := by
  rw [expand?, mapM'_eq_some_map (g := Segment.expanded quote tablePrefix)]
  · rw [Option.map_some, List.flatMap_def]
  · intro s hs
    rcases isPlaceholder_of_mem_segments hs with ⟨c, rfl⟩ | hplaceholder
    · rfl
    · cases s with
      | char c => exact hplaceholder.elim
      | column name => rfl
      | table name =>
        have hnotRaw := isRawTable_names (isNameChar_of_mem_replaceChar hplain hplaceholder)
        simp only [hnotRaw]
        rfl

end Identifier

namespace Adapter

open Identifier Segment

/-- The prefix is made of characters of names. -/
def PlainPrefix (a : Adapter) : Prop :=
  ∀ c ∈ a.tablePrefix.toList, isNameChar c = true

instance (a : Adapter) : Decidable a.PlainPrefix :=
  decidable_of_iff (a.tablePrefix.toList.all isNameChar = true) List.all_eq_true

/-- The quote character stands in no name. -/
theorem isNameChar_quoteChar (a : Adapter) : isNameChar a.quoteChar = false := by
  unfold Adapter.quoteChar
  cases a.dialect <;> decide

variable {a : Adapter}

/-- With a plain prefix, the segments of a text are expanded one by one. -/
theorem quoteSqlChars_eq (ha : a.PlainPrefix) (cs : List Char) :
    a.quoteSqlChars cs =
      (segments cs).flatMap (Segment.expanded a.quoteChar a.tablePrefix.toList) := by
  rw [quoteSqlChars, expansionDepth, expand?_succ a.quoteChar ha]
  rfl

/-- A placeholder in front of a text is expanded on its own. -/
theorem quoteSqlChars_source_append (ha : a.PlainPrefix) {s : Segment} (h : s.IsPlaceholder)
    (rest : List Char) :
    a.quoteSqlChars (s.source ++ rest) =
      s.expanded a.quoteChar a.tablePrefix.toList ++ a.quoteSqlChars rest := by
  rw [quoteSqlChars_eq ha, quoteSqlChars_eq ha, segments_source_append h, List.flatMap_cons]

/-- A character is copied where no placeholder begins. -/
theorem quoteSqlChars_cons (ha : a.PlainPrefix) {c : Char} {cs : List Char}
    (h : Segment.placeholder? (c :: cs) = none) :
    a.quoteSqlChars (c :: cs) = c :: a.quoteSqlChars cs := by
  rw [quoteSqlChars_eq ha, quoteSqlChars_eq ha, segments_of_none h, List.flatMap_cons]
  rfl

/-- A text is expanded in two parts, if the second one bars placeholders. -/
theorem quoteSqlChars_append (ha : a.PlainPrefix) (cs : List Char) {rest : List Char}
    (hrest : Bars rest) :
    a.quoteSqlChars (cs ++ rest) = a.quoteSqlChars cs ++ a.quoteSqlChars rest := by
  rw [quoteSqlChars_eq ha, quoteSqlChars_eq ha, quoteSqlChars_eq ha, segments_append_of_bars hrest,
    List.flatMap_append]

/-- Nothing is expanded in a name. -/
theorem quoteSqlChars_names (ha : a.PlainPrefix) {name : List Char}
    (h : ∀ c ∈ name, isNameChar c = true) : a.quoteSqlChars name = name := by
  have hopening : ∀ c ∈ name, c ≠ '{' ∧ c ≠ '[' := fun c hc =>
    ⟨ne_of_isNameChar (h c hc) (by decide), ne_of_isNameChar (h c hc) (by decide)⟩
  rw [quoteSqlChars_eq ha, segments_eq_map_char hopening, List.flatMap_map]
  exact List.flatMap_singleton' name

/-- The name of a table with the prefix. -/
def prefixedChars (a : Adapter) (base : List Char) : List Char :=
  a.tablePrefix.toList ++ base

/-- With a plain prefix, the name of a table is made of characters of names. -/
theorem isNameChar_of_mem_prefixedChars (ha : a.PlainPrefix) {base : List Char} (h : IsName base) :
    ∀ c ∈ a.prefixedChars base, isNameChar c = true := fun c hc =>
  (List.mem_append.1 hc).elim (ha c) (h.2 c)

/-- The prefix stands in the place of the percent sign. -/
theorem replaceChar_percent (a : Adapter) {base : List Char} (h : IsName base) :
    replaceChar '%' a.tablePrefix.toList ('%' :: base) = a.prefixedChars base := by
  have hbase : '%' ∉ base := not_mem_of_names h.2 (by decide)
  calc replaceChar '%' a.tablePrefix.toList ('%' :: base)
      = a.tablePrefix.toList ++ replaceChar '%' a.tablePrefix.toList base := rfl
    _ = a.prefixedChars base := by rw [replaceChar_eq_self hbase, prefixedChars]

/-- A placeholder for a table is expanded to the quoted name with the prefix. -/
theorem quoteSqlChars_source (ha : a.PlainPrefix) {base : List Char} (h : IsName base) :
    a.quoteSqlChars (table ('%' :: base)).source =
      dottedTable a.quoteChar (a.prefixedChars base) := by
  rw [quoteSqlChars_eq ha, segments_source (isPlaceholder_table_percent h), List.flatMap_singleton,
    Segment.expanded, a.replaceChar_percent h]

/-! ## Table names -/

/-- A name is quoted part by part. -/
theorem quoteTableChars_name (ha : a.PlainPrefix) {base : List Char} (h : IsName base) :
    a.quoteTableChars (a.prefixedChars base) = dottedTable a.quoteChar (a.prefixedChars base) := by
  rw [quoteTableChars, isRawTable_names (isNameChar_of_mem_prefixedChars ha h),
    if_neg Bool.false_ne_true]

/-- A placeholder is quoted like the name that it stands for. -/
theorem quoteTableChars_source (ha : a.PlainPrefix) {base : List Char} (h : IsName base) :
    a.quoteTableChars (table ('%' :: base)).source = a.quoteTableChars (a.prefixedChars base) := by
  have hraw : isRawTable (table ('%' :: base)).source = true := isRawTable_append_source [] _
  rw [quoteTableChars, hraw, if_pos rfl, quoteSqlChars_source ha h, quoteTableChars_name ha h]

/-- In front of a placeholder, a schema is raw SQL. -/
theorem quoteTableChars_append_source (ha : a.PlainPrefix) (schema : List Char) {base : List Char}
    (h : IsName base) :
    a.quoteTableChars (schema ++ '.' :: (table ('%' :: base)).source) =
      a.quoteSqlChars schema ++ '.' :: dottedTable a.quoteChar (a.prefixedChars base) := by
  have hcut : schema ++ '.' :: (table ('%' :: base)).source =
      schema ++ ['.'] ++ (table ('%' :: base)).source := by simp
  have hbars : Bars ('.' :: (table ('%' :: base)).source) :=
    ⟨⟨'.', rfl, by decide⟩, fun c hc => by
      rw [List.dropWhile_cons_of_pos (by decide)] at hc
      cases hc
      rfl⟩
  have hdot : Segment.placeholder? ('.' :: (table ('%' :: base)).source) = none := rfl
  have hraw : isRawTable (schema ++ '.' :: (table ('%' :: base)).source) = true := by
    rw [hcut, isRawTable_append_source]
  rw [quoteTableChars, hraw, if_pos rfl, quoteSqlChars_append ha schema hbars,
    quoteSqlChars_cons ha hdot, quoteSqlChars_source ha h]

/-- In front of a name, a schema is quoted, unless it is raw SQL itself; then the name is left
alone. -/
theorem quoteTableChars_append_name (ha : a.PlainPrefix) (schema : List Char) {base : List Char}
    (h : IsName base) :
    a.quoteTableChars (schema ++ '.' :: a.prefixedChars base) =
      if isRawTable schema then a.quoteSqlChars schema ++ '.' :: a.prefixedChars base
      else
        dottedTable a.quoteChar schema ++ '.' :: dottedTable a.quoteChar (a.prefixedChars base) := by
  have hnames : ∀ c ∈ '.' :: a.prefixedChars base, isNameChar c = true :=
    List.forall_mem_cons.2 ⟨by decide, isNameChar_of_mem_prefixedChars ha h⟩
  have hbars : Bars ('.' :: a.prefixedChars base) :=
    ⟨⟨'.', rfl, by decide⟩, fun c hc => by
      rw [List.dropWhile_eq_nil_iff.2 hnames] at hc
      cases hc⟩
  rw [quoteTableChars, isRawTable_append_names schema hnames]
  refine if_congr Iff.rfl ?_ (dottedTable_append_dot ..)
  rw [quoteSqlChars_append ha schema hbars, quoteSqlChars_names ha hnames]

/-- A placeholder behind a schema is written like the name that it stands for just if the schema is
no raw SQL, and yet the same whether it is read as raw SQL or as a name. -/
theorem quoteTableChars_qualified_iff (ha : a.PlainPrefix) (schema : List Char) {base : List Char}
    (h : IsName base) :
    a.quoteTableChars (schema ++ '.' :: (table ('%' :: base)).source) =
        a.quoteTableChars (schema ++ '.' :: a.prefixedChars base) ↔
      isRawTable schema = false ∧ a.quoteSqlChars schema = a.quoteTableChars schema := by
  rw [quoteTableChars_append_source ha schema h, quoteTableChars_append_name ha schema h,
    quoteTableChars]
  cases isRawTable schema with
  | true =>
    -- The name is not quoted, which the placeholder is.
    have hquoted : dottedTable a.quoteChar (a.prefixedChars base) ≠ a.prefixedChars base := by
      intro heq
      refine not_mem_of_names (isNameChar_of_mem_prefixedChars ha h) a.isNameChar_quoteChar ?_
      rw [← heq]
      exact mem_dottedTable ..
    simpa using hquoted
  | false => simp

end Adapter

end SqlCompose
