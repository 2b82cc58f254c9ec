import Mathlib.Data.List.Basic
import Mathlib.Data.List.Nodup
import SqlCompose.Proofs.Catalog.Inquiry
import SqlCompose.Proofs.Identifier.Names
import SqlCompose.Schema.Statement

/-!
# Columns renamed with their definitions

MySQL answers a question about a table with the statement that makes it (`Listing`): a head, a line
for each column with its quoted name in front, the keys, and a closing line. The definition of a
column is what stands behind its name, and no other line begins with that name in quotes
(`Listing.WellFormed.exists_column`). So the statement tells the definition of every column and of
nothing else (`Adapter.definitionIn?_eq_some_iff`): a column that is renamed keeps its definition,
and a name that is no column of the table is left to the form that needs none.
-/

namespace SqlCompose

open Text (isBlank trim)

/-! ## What MySQL tells about a table -/

/-- The names that columns are quoted by as they stand. -/
def IsColumnName (name : List Char) : Prop :=
  name ≠ ['*'] ∧ ∀ mark ∈ ['\x60', '.', '(', '[', '{', '\n'], mark ∉ name

instance (name : List Char) : Decidable (IsColumnName name) :=
  @instDecidableAnd _ _ _ (List.decidableBAll _ _)

/-- A name between the quotes of MySQL. -/
def quotedName (name : List Char) : List Char :=
  '\x60' :: name ++ ['\x60']

/-- The line of a column. -/
structure ColumnLine where
  indent : List Char
  name : List Char
  gap : List Char
  definition : List Char

namespace ColumnLine

/-- The text of the line. -/
def text (c : ColumnLine) : List Char :=
  c.indent ++ (quotedName c.name ++ (c.gap ++ c.definition))

/-- Blanks in front of the name and behind it, and then a definition that ends neither with a blank
nor with a comma. -/
structure WellFormed (c : ColumnLine) : Prop where
  isBlank_indent : ∀ ch ∈ c.indent, isBlank ch = true
  isColumnName : IsColumnName c.name
  isBlank_gap : ∀ ch ∈ c.gap, isBlank ch = true
  definition_ne_nil : c.definition ≠ []
  trim_definition : trim c.definition = c.definition
  getLast?_definition : ∀ ch ∈ c.definition.getLast?, ch ≠ ','
  oneLine : '\n' ∉ c.text

end ColumnLine

/-- Lines with a comma behind each but the last. -/
def punctuated : List (List Char) → List (List Char)
  | [] => []
  | [line] => [line]
  | line :: lines => (line ++ [',']) :: punctuated lines

/-- The statement that makes a table: a head, the columns and the keys, and a closing line. -/
structure Listing where
  head : List Char
  columns : List ColumnLine
  keys : List (List Char)
  closing : List Char
  /-- What stands in front of the line feed where a line ends. -/
  lineEnd : List Char

namespace Listing

/-- The text of the statement. -/
def text (l : Listing) : List Char :=
  Text.joinWith (l.lineEnd ++ ['\n'])
    (l.head :: punctuated (l.columns.map ColumnLine.text ++ l.keys) ++ [l.closing])

/-- Columns with names of their own, and other lines that do not begin with a quoted name. -/
structure WellFormed (l : Listing) : Prop where
  columns : ∀ c ∈ l.columns, c.WellFormed
  nodup : (l.columns.map ColumnLine.name).Nodup
  others : ∀ line ∈ l.head :: l.closing :: l.keys,
    '\n' ∉ line ∧ ∀ c ∈ (Text.trimStart line).head?, c ≠ '\x60'
  lineEnd : l.lineEnd = [] ∨ l.lineEnd = ['\r']

end Listing

/-! ## Reading a line -/

open Adapter (definitionInLine?)

/-- A quoted name is found in front of a text just if it is the name that stands there. -/
theorem after?_quotedName {name other : List Char} (hname : '\x60' ∉ name) (hother : '\x60' ∉ other)
    (rest : List Char) :
    Text.after? (quotedName name) (quotedName other ++ rest) =
      if other = name then some rest else none := by
  split_ifs with h
  · exact Text.after?_eq_some_iff.2 (h ▸ rfl)
  · refine Option.eq_none_iff_forall_ne_some.2 fun rest' hrest => h ?_
    have htake : ∀ {cs : List Char}, '\x60' ∉ cs → ∀ rest,
        (cs ++ '\x60' :: rest).takeWhile (· != '\x60') = cs := fun hcs rest =>
      Text.takeWhile_append (fun c hc => bne_iff_ne.2 fun heq => hcs (heq ▸ hc))
        (by rintro _ ⟨⟩; rfl)
    have heq : other ++ '\x60' :: rest = name ++ '\x60' :: rest' := by
      simpa [quotedName] using Text.after?_eq_some_iff.1 hrest
    rw [← htake hother rest, heq, htake hname]

namespace ColumnLine.WellFormed

variable {c : ColumnLine} {commas : List Char}

/-- A definition with commas behind it has no blank at either end. -/
theorem trim_append (hc : c.WellFormed) (hcommas : ∀ ch ∈ commas, ch = ',') :
    trim (c.definition ++ commas) = c.definition ++ commas := by
  obtain ⟨hfirst, hlast⟩ := Text.trim_eq_self_iff.1 hc.trim_definition
  refine Text.trim_eq_self_iff.2 ⟨?_, Text.forall_getLast?_append hlast fun ch hch => ?_⟩
  · rwa [List.head?_append_of_ne_nil _ hc.definition_ne_nil]
  · rw [hcommas ch (List.mem_of_getLast? hch)]
    rfl

/-- Commas behind a definition are taken off, and nothing else is. -/
theorem dropWhile_append (hc : c.WellFormed) (hcommas : ∀ ch ∈ commas, ch = ',') :
    ((c.definition ++ commas).reverse.dropWhile (· == ',')).reverse = c.definition := by
  have hbehind : ∀ ch ∈ commas.reverse, (ch == ',') = true := fun ch hch =>
    beq_iff_eq.2 (hcommas ch (List.mem_reverse.1 hch))
  have hlast : ∀ ch ∈ c.definition.reverse.head?, (ch == ',') = false := by
    rw [List.head?_reverse]
    exact fun ch hch => beq_false_of_ne (hc.getLast?_definition ch hch)
  rw [List.reverse_append, Text.dropWhile_append hbehind hlast, List.reverse_reverse]

/-- The line of a column gives its definition to its name and to no other one. -/
theorem definitionInLine?_eq (hc : c.WellFormed) {name : List Char} (hname : '\x60' ∉ name)
    (hcommas : ∀ ch ∈ commas, ch = ',') {lineEnd : List Char}
    (hend : ∀ ch ∈ lineEnd, isBlank ch = true) :
    definitionInLine? (quotedName name) (c.text ++ commas ++ lineEnd) =
      if c.name = name then some c.definition else none := by
  have htext : c.text ++ commas ++ lineEnd =
      c.indent ++ (quotedName c.name ++ c.gap ++ (c.definition ++ commas) ++ lineEnd) := by
    simp [text]
  have hline : trim (quotedName c.name ++ c.gap ++ (c.definition ++ commas)) =
      quotedName c.name ++ c.gap ++ (c.definition ++ commas) := by
    refine Text.trim_eq_self_iff.2 ⟨by rintro _ ⟨⟩; rfl, ?_⟩
    rw [List.getLast?_append_of_ne_nil _ (List.append_ne_nil_of_left_ne_nil hc.definition_ne_nil _)]
    exact (Text.trim_eq_self_iff.1 (hc.trim_append hcommas)).2
  have hbehind : trim (c.gap ++ (c.definition ++ commas ++ [])) = c.definition ++ commas :=
    Text.trim_append hc.isBlank_gap (hc.trim_append hcommas) nofun
  rw [List.append_nil] at hbehind
  rw [definitionInLine?, htext, Text.trim_append hc.isBlank_indent hline hend, List.append_assoc,
    after?_quotedName hname (hc.isColumnName.2 _ List.mem_cons_self)]
  split_ifs with h
  · rw [Option.map_some, hbehind, hc.dropWhile_append hcommas]
  · rfl

end ColumnLine.WellFormed

/-- A line that does not begin with a quote gives no definition. -/
theorem definitionInLine?_eq_none {line : List Char}
    (hline : ∀ c ∈ (Text.trimStart line).head?, c ≠ '\x60') {behind : List Char}
    (hbehind : '\x60' ∉ behind) (name : List Char) :
    definitionInLine? (quotedName name) (line ++ behind) = none := by
  have hfirst : ∀ c ∈ (Text.trimStart (line ++ behind)).head?, c ≠ '\x60' := by
    rw [Text.trimStart, List.dropWhile_append]
    split_ifs with h
    · rintro c hc rfl
      exact hbehind ((List.dropWhile_suffix isBlank).subset (List.mem_of_head? hc))
    · rwa [List.head?_append_of_ne_nil _ fun hnil => h (List.isEmpty_iff.2 hnil)]
  rw [definitionInLine?, Option.map_eq_none_iff]
  refine Option.eq_none_iff_forall_ne_some.2 fun rest hrest => ?_
  have hprefix := Text.trimEnd_prefix (Text.trimStart (line ++ behind))
  rw [← Text.trim, Text.after?_eq_some_iff.1 hrest] at hprefix
  obtain ⟨others, hothers⟩ := hprefix
  exact hfirst '\x60' (by rw [← hothers]; rfl) rfl

/-! ## Reading the statement -/

/-- A punctuated line has commas at most behind it. -/
theorem exists_of_mem_punctuated {line : List Char} {lines : List (List Char)}
    (h : line ∈ punctuated lines) :
    ∃ bare ∈ lines, ∃ commas, (∀ ch ∈ commas, ch = ',') ∧ line = bare ++ commas := by
  fun_induction punctuated lines with
  | case1 => cases h
  | case2 bare =>
    exact ⟨bare, List.mem_cons_self, [], nofun, by rw [List.mem_singleton.1 h, List.append_nil]⟩
  | case3 bare lines _ ih =>
    rcases List.mem_cons.1 h with rfl | h
    · exact ⟨bare, List.mem_cons_self, [','], fun ch hch => List.mem_singleton.1 hch, rfl⟩
    · obtain ⟨other, hother, hline⟩ := ih h
      exact ⟨other, List.mem_cons_of_mem bare hother, hline⟩

/-- Every line is among the punctuated ones, with commas at most behind it. -/
theorem exists_mem_punctuated {bare : List Char} {lines : List (List Char)} (h : bare ∈ lines) :
    ∃ commas, (∀ ch ∈ commas, ch = ',') ∧ bare ++ commas ∈ punctuated lines := by
  fun_induction punctuated lines with
  | case1 => cases h
  | case2 line => exact ⟨[], nofun, by rwa [List.append_nil]⟩
  | case3 line lines _ ih =>
    rcases List.mem_cons.1 h with rfl | h
    · exact ⟨[','], fun ch hch => List.mem_singleton.1 hch, List.mem_cons_self⟩
    · obtain ⟨commas, hcommas, hmem⟩ := ih h
      exact ⟨commas, hcommas, List.mem_cons_of_mem _ hmem⟩

namespace Listing

variable {l : Listing} {name : List Char}

/-- The lines of the statement with what stands in front of the line feeds. -/
def lines (l : Listing) : List (List Char) :=
  (l.head :: punctuated (l.columns.map ColumnLine.text ++ l.keys)).map (· ++ l.lineEnd) ++
    [l.closing]

/-- A line is that of a column, with a comma behind it at most and the line end, or another one with
what may stand behind it. -/
theorem cases_of_mem_lines {line : List Char} (h : line ∈ l.lines) :
    (∃ c ∈ l.columns, ∃ commas, (∀ ch ∈ commas, ch = ',') ∧ line = c.text ++ commas ++ l.lineEnd) ∨
      ∃ other ∈ l.head :: l.closing :: l.keys, ∃ behind,
        (∀ ch ∈ behind, ch = ',' ∨ ch ∈ l.lineEnd) ∧ line = other ++ behind := by
  rcases List.mem_append.1 h with h | h
  · obtain ⟨front, hfront, rfl⟩ := List.mem_map.1 h
    rcases List.mem_cons.1 hfront with rfl | hfront
    · exact .inr ⟨l.head, by simp, l.lineEnd, fun _ hch => .inr hch, rfl⟩
    · obtain ⟨bare, hbare, commas, hcommas, rfl⟩ := exists_of_mem_punctuated hfront
      rcases List.mem_append.1 hbare with hbare | hbare
      · obtain ⟨c, hc, rfl⟩ := List.mem_map.1 hbare
        exact .inl ⟨c, hc, commas, hcommas, rfl⟩
      · refine .inr ⟨bare, by simp [hbare], commas ++ l.lineEnd, fun ch hch => ?_,
          List.append_assoc ..⟩
        exact (List.mem_append.1 hch).imp_left (hcommas ch)
  · exact .inr ⟨l.closing, by simp, [], nofun, by rw [List.mem_singleton.1 h, List.append_nil]⟩

/-- Every column has its line. -/
theorem exists_line {c : ColumnLine} (hc : c ∈ l.columns) :
    ∃ commas, (∀ ch ∈ commas, ch = ',') ∧ c.text ++ commas ++ l.lineEnd ∈ l.lines := by
  obtain ⟨commas, hcommas, hmem⟩ := exists_mem_punctuated
    (List.mem_append_left l.keys (List.mem_map_of_mem (f := ColumnLine.text) hc))
  exact ⟨commas, hcommas, List.mem_append_left _
    (List.mem_map_of_mem (f := (· ++ l.lineEnd)) (List.mem_cons_of_mem l.head hmem))⟩

namespace WellFormed

/-- A line ends with a carriage return at most. -/
theorem notMem_lineEnd (hl : l.WellFormed) {mark : Char} (hmark : mark ≠ '\r') :
    mark ∉ l.lineEnd := by
  rcases hl.lineEnd with h | h
  · exact h ▸ List.not_mem_nil
  · rw [h, List.mem_singleton]
    exact hmark

/-- The end of a line is blank. -/
theorem isBlank_lineEnd (hl : l.WellFormed) : ∀ c ∈ l.lineEnd, isBlank c = true := by
  rcases hl.lineEnd with h | h
  · exact h ▸ nofun
  · rw [h]
    exact List.all_eq_true.1 rfl

/-- Behind a line there are commas and its end, and nothing else. -/
theorem notMem_behind (hl : l.WellFormed) {behind : List Char}
    (hbehind : ∀ ch ∈ behind, ch = ',' ∨ ch ∈ l.lineEnd) {mark : Char} (hcomma : mark ≠ ',')
    (hreturn : mark ≠ '\r') : mark ∉ behind :=
  fun h => (hbehind mark h).elim hcomma (hl.notMem_lineEnd hreturn)

/-- No line has a line feed in it. -/
theorem notMem_lines (hl : l.WellFormed) : ∀ line ∈ l.lines, '\n' ∉ line := by
  intro line hline
  rcases cases_of_mem_lines hline with
    ⟨c, hc, commas, hcommas, rfl⟩ | ⟨other, hother, behind, hbehind, rfl⟩
  · have hcomma : '\n' ∉ commas := fun h => absurd (hcommas _ h) (by decide)
    simp [(hl.columns c hc).oneLine, hcomma, hl.notMem_lineEnd]
  · simp [(hl.others other hother).1, hl.notMem_behind hbehind]

/-- The lines are read off the statement. -/
theorem splitOn_text (hl : l.WellFormed) : Text.splitOn '\n' l.text = l.lines := by
  have htext : l.text = Text.joinWith ['\n'] l.lines := by
    rw [text, lines, Text.joinWith_concat, Text.joinWith_concat, List.flatMap_map]
    simp only [List.append_assoc]
  rw [htext]
  exact Text.splitOn_joinWith (List.concat_ne_nil _ _) hl.notMem_lines

/-- A line that gives a definition to a name is the line of a column of that name. -/
theorem exists_column (hl : l.WellFormed) (hname : '\x60' ∉ name) {line definition : List Char}
    (hline : line ∈ l.lines) (h : definitionInLine? (quotedName name) line = some definition) :
    ∃ c ∈ l.columns, c.name = name ∧ c.definition = definition := by
  rcases cases_of_mem_lines hline with
    ⟨c, hc, commas, hcommas, rfl⟩ | ⟨other, hother, behind, hbehind, rfl⟩
  · rw [(hl.columns c hc).definitionInLine?_eq hname hcommas hl.isBlank_lineEnd] at h
    obtain ⟨heq, hdefinition⟩ := Option.ite_none_right_eq_some.1 h
    exact ⟨c, hc, heq, Option.some.inj hdefinition⟩
  · have hquote : '\x60' ∉ behind := hl.notMem_behind hbehind (by decide) (by decide)
    rw [definitionInLine?_eq_none (hl.others other hother).2 hquote] at h
    cases h

/-- The lines give a name the definition of the column of that name, and none to another name. -/
theorem findSome?_lines (hl : l.WellFormed) (hname : '\x60' ∉ name) {definition : List Char} :
    l.lines.findSome? (definitionInLine? (quotedName name)) = some definition ↔
      ∃ c ∈ l.columns, c.name = name ∧ c.definition = definition := by
  constructor
  · intro h
    obtain ⟨line, hline, hdefinition⟩ := List.exists_of_findSome?_eq_some h
    exact hl.exists_column hname hline hdefinition
  · rintro ⟨c, hc, rfl, rfl⟩
    obtain ⟨commas, hcommas, hmem⟩ := exists_line hc
    have hown := (hl.columns c hc).definitionInLine?_eq hname hcommas hl.isBlank_lineEnd
    rw [if_pos rfl] at hown
    have hsome : (l.lines.findSome? (definitionInLine? (quotedName c.name))).isSome = true :=
      List.findSome?_isSome_iff.2 ⟨_, hmem, by rw [hown]; rfl⟩
    obtain ⟨found, hfound⟩ := Option.isSome_iff_exists.1 hsome
    -- What is found first is the line of a column of that name, and there is only one.
    obtain ⟨line, hline, hdefinition⟩ := List.exists_of_findSome?_eq_some hfound
    obtain ⟨c', hc', heq, rfl⟩ := hl.exists_column hname hline hdefinition
    rw [hfound, List.inj_on_of_nodup_map hl.nodup hc' hc heq]

end WellFormed

end Listing

/-! ## Renaming -/

namespace Adapter

variable {a : Adapter}

/-- A name of a column is quoted as the server lists it. -/
theorem quoteColumn_of_isColumnName (ha : a.dialect = .mySql) {name : String}
    (h : IsColumnName name.toList) :
    a.quoteColumn name = String.ofList (quotedName name.toList) := by
  obtain ⟨hstar, hmarks⟩ := h
  have hplain : Identifier.IsPlain name.toList := by
    refine ⟨hmarks '(' (by decide), fun hpair => ?_, fun hpair => ?_⟩
    · exact hmarks '[' (by decide) (hpair.subset List.mem_cons_self)
    · exact hmarks '{' (by decide) (hpair.subset List.mem_cons_self)
  have hquote : a.quoteChar = '\x60' := by
    rw [quoteChar, ha]
    rfl
  rw [quoteColumn_of_isPlain hplain, Identifier.dottedColumn,
    Text.splitLast?_eq_none_iff.2 (hmarks '.' (by decide)), hquote]
  dsimp only
  rw [Identifier.quoteColumnPart_of_ne hstar,
    Identifier.quoteTablePart_of_notMem (hmarks '\x60' (by decide)), quotedName]

/-- The statement gives a name the definition of the column of that name, and none to another name. -/
theorem definitionIn?_eq_some_iff (ha : a.dialect = .mySql) {l : Listing} (hl : l.WellFormed)
    {name : String} (hname : IsColumnName name.toList) {definition : String} :
    definitionIn? (a.quoteColumn name) (String.ofList l.text) = some definition ↔
      ∃ c ∈ l.columns, c.name = name.toList ∧ String.ofList c.definition = definition := by
  rw [quoteColumn_of_isColumnName ha hname, definitionIn?, String.toList_ofList, String.toList_ofList,
    hl.splitOn_text, Option.map_eq_some_iff]
  simp only [hl.findSome?_lines (hname.2 _ List.mem_cons_self)]
  constructor
  · rintro ⟨_, ⟨c, hc, heq, rfl⟩, hdefinition⟩
    exact ⟨c, hc, heq, hdefinition⟩
  · rintro ⟨c, hc, heq, hdefinition⟩
    exact ⟨c.definition, ⟨c, hc, heq, rfl⟩, hdefinition⟩

/-- What the statement of a renaming is made of, where the database tells about the table. -/
theorem renameColumn_of_told (ha : a.dialect = .mySql) {d : Driver} (hd : a.driver = some d)
    {table oldName newName told : String} {row : Row} {rows : List Row}
    (hrows : d.queryAll ("SHOW CREATE TABLE " ++ a.quoteTable table) = .ok (row :: rows))
    (htold : (row.text? "Create Table").or (row.textAt? 1) = some told) :
    a.renameColumn table oldName newName =
      match definitionIn? (a.quoteColumn oldName) told with
      | some definition => .ok ("ALTER TABLE " ++ a.quoteTable table ++ " CHANGE " ++
          a.quoteColumn oldName ++ " " ++ a.quoteColumn newName ++ " " ++ definition)
      | none => .ok ("ALTER TABLE " ++ a.quoteTable table ++ " RENAME COLUMN " ++
          a.quoteColumn oldName ++ " TO " ++ a.quoteColumn newName) := by
  have hreported : reportedDefinition d (a.quoteTable table) (a.quoteColumn oldName) =
      .ok (definitionIn? (a.quoteColumn oldName) told) := by
    rw [reportedDefinition, Driver.queryOne, hrows]
    simp only [Except.map, List.head?_cons, Option.bind_some, htold]
  unfold renameColumn
  simp only [ha, hd, hreported]
  rfl

/-- A column that is renamed keeps the definition that the database tells, and a name that is no
column of the table is renamed without one. -/
theorem renameColumn_listed (ha : a.dialect = .mySql) {d : Driver} (hd : a.driver = some d)
    {l : Listing} (hl : l.WellFormed) {table : String} {row : Row} {rows : List Row}
    (hrows : d.queryAll ("SHOW CREATE TABLE " ++ a.quoteTable table) = .ok (row :: rows))
    (htold : (row.text? "Create Table").or (row.textAt? 1) = some (String.ofList l.text))
    (newName : String) :
    (∀ c ∈ l.columns, a.schemaStatement (.renameColumn table (String.ofList c.name) newName) =
      .ok ("ALTER TABLE " ++ a.quoteTable table ++ " CHANGE " ++ String.ofList (quotedName c.name) ++
        " " ++ a.quoteColumn newName ++ " " ++ String.ofList c.definition)) ∧
    ∀ oldName : String, IsColumnName oldName.toList → (∀ c ∈ l.columns, c.name ≠ oldName.toList) →
      a.schemaStatement (.renameColumn table oldName newName) =
        .ok ("ALTER TABLE " ++ a.quoteTable table ++ " RENAME COLUMN " ++
          String.ofList (quotedName oldName.toList) ++ " TO " ++ a.quoteColumn newName) := by
  constructor
  · intro c hc
    have hname : IsColumnName (String.ofList c.name).toList := by
      rw [String.toList_ofList]
      exact (hl.columns c hc).isColumnName
    have hdefinition := (definitionIn?_eq_some_iff ha hl hname).2
      ⟨c, hc, String.toList_ofList.symm, rfl⟩
    rw [schemaStatement, renameColumn_of_told ha hd hrows htold, hdefinition]
    dsimp only
    rw [quoteColumn_of_isColumnName ha hname, String.toList_ofList]
  · intro oldName hname hnone
    have hdefinition : definitionIn? (a.quoteColumn oldName) (String.ofList l.text) = none := by
      refine Option.eq_none_iff_forall_ne_some.2 fun definition h => ?_
      obtain ⟨c, hc, heq, -⟩ := (definitionIn?_eq_some_iff ha hl hname).1 h
      exact hnone c hc heq
    rw [schemaStatement, renameColumn_of_told ha hd hrows htold, hdefinition]
    dsimp only
    rw [quoteColumn_of_isColumnName ha hname]

/-- Two columns of which one has a name that the other one's begins with, and a key that is no
column. -/
theorem renameColumn_listed_prefix :
    let told := "CREATE TABLE `t` (\n  `ab` int,\n  `a` varchar(9) DEFAULT ',,',\n  KEY `k` (`a`)\n)"
    let row : Row := ⟨[("Table", .text "t"), ("Create Table", .text told)]⟩
    let a := ofDialect .mySql "" (some (.answering "mysql" [("SHOW CREATE TABLE `t`", [row])]))
    a.schemaStatement (.renameColumn "t" "a" "b") =
        .ok "ALTER TABLE `t` CHANGE `a` `b` varchar(9) DEFAULT ',,'" ∧
      a.schemaStatement (.renameColumn "t" "k" "b") =
        .ok "ALTER TABLE `t` RENAME COLUMN `k` TO `b`" := by
  intro told row a
  let ab : ColumnLine := ⟨"  ".toList, "ab".toList, [' '], "int".toList⟩
  let c : ColumnLine := ⟨"  ".toList, "a".toList, [' '], "varchar(9) DEFAULT ',,'".toList⟩
  let l : Listing := ⟨"CREATE TABLE `t` (".toList, [ab, c], ["  KEY `k` (`a`)".toList],
    [')'], []⟩
  have hl : l.WellFormed := by
    refine ⟨List.forall_mem_cons.2 ⟨?_, List.forall_mem_singleton.2 ?_⟩, by decide, ?_, .inl rfl⟩
    · exact ⟨List.all_eq_true.1 rfl, by decide, List.all_eq_true.1 rfl, by decide, by decide,
        by rintro _ ⟨⟩; decide, by decide⟩
    · exact ⟨List.all_eq_true.1 rfl, by decide, List.all_eq_true.1 rfl, by decide, by decide,
        by rintro _ ⟨⟩; decide, by decide⟩
    · simp only [l, List.forall_mem_cons]
      refine ⟨⟨by decide, ?_⟩, ⟨by decide, ?_⟩, ⟨by decide, ?_⟩, nofun⟩ <;> (rintro _ ⟨⟩; decide)
  have hquery : "SHOW CREATE TABLE " ++ a.quoteTable "t" = "SHOW CREATE TABLE `t`" := by decide
  have hrows : (Driver.answering "mysql" [("SHOW CREATE TABLE `t`", [row])]).queryAll
      ("SHOW CREATE TABLE " ++ a.quoteTable "t") = .ok [row] := by
    rw [hquery]
    rfl
  have htold : (row.text? "Create Table").or (row.textAt? 1) = some (String.ofList l.text) := by
    decide
  obtain ⟨hcolumn, hother⟩ := renameColumn_listed (a := a) rfl rfl hl hrows htold "b"
  have hname : IsColumnName "k".toList := by decide
  refine ⟨(hcolumn c (by simp [l])).trans ?_, (hother "k" hname (by decide)).trans ?_⟩
  · decide
  · decide

end Adapter

end SqlCompose
