import Mathlib.Tactic.Common
import SqlCompose.Proofs.ColumnType.Reading
import SqlCompose.Schema.Statement

/-!
# Column definitions mapped twice

The type in front of a definition is mapped to a type of the dialect, and the size and the modifiers
are carried over. What comes out is a definition again, which begins with the first word of that type
(`Dialect.name_of_read?_mapped`). Where this word is an abstract type as well, it stands for itself,
so a definition that has been mapped is left alone (`Dialect.columnType_mapped`). Double precision is
the exception: it is two words, and the first one of them is brought to two words again
(`Dialect.columnType_columnType_iff`).
-/

namespace SqlCompose

open Text (isBlank isWord trim)

namespace Dialect

open TypeText

variable {d : Dialect}

/-! ## The tables of types -/

/-- How the types of the dialects are taken apart: one without a size behind its name has no
parenthesis at all, and none ends in a blank. -/
theorem exists_reading (d : Dialect) : ∀ entry ∈ d.columnTypes, ∃ t ∈ read? entry.2.toList,
    (t.size = none → '(' ∉ t.text) ∧ ∀ c ∈ t.text.getLast?, isBlank c = false := by
  have htables : ∀ entry ∈ d.columnTypes, ∃ t ∈ read? entry.2.toList,
      (t.size = none → '(' ∉ t.text) ∧ t.text.getLast?.all (!isBlank ·) = true := by
    cases d <;> decide +kernel
  intro entry hentry
  obtain ⟨t, ht, hparen, hlast⟩ := htables entry hentry
  exact ⟨t, ht, hparen, fun c hc => by simpa [Option.mem_def.1 hc] using hlast⟩

/-- An abstract type that a type of the dialect begins with stands for this word, with a size only if
the type has one. The double precision of PostgreSQL is the exception. -/
theorem keeps_types (d : Dialect) : ∀ entry ∈ d.columnTypes, ∀ t ∈ read? entry.2.toList,
    ∀ type ∈ d.mappedType? t.name, t.text = "double precision".toList ∨
      ∃ t' ∈ read? type, t'.name = t.name ∧ (t'.size ≠ none → t.size ≠ none) ∧
        t'.modifiers = [] := by
  cases d <;> decide +kernel

/-- A mapped type stands in the table of the dialect, under the name in any letter case. -/
theorem exists_of_mappedType? {name type : List Char} (h : d.mappedType? name = some type) :
    ∃ entry ∈ d.columnTypes, Text.sameLetters entry.1.toList name = true ∧ entry.2.toList = type := by
  obtain ⟨entry, hfind, rfl⟩ := Option.map_eq_some_iff.1 h
  have hname := List.find?_some hfind
  exact ⟨entry, List.mem_of_find?_eq_some hfind, hname, rfl⟩

/-- A definition is mapped by its first word, with its size and its modifiers kept. -/
theorem mappedDefinition?_eq (d : Dialect) (cs : List Char) :
    d.mappedDefinition? cs = (read? (trim cs)).bind fun p =>
      (d.mappedType? p.name).map fun type => resized type p.size ++ p.modifiers := by
  unfold mappedDefinition?
  cases read? (trim cs) with
  | none => rfl
  | some p =>
    obtain ⟨name, size, modifiers⟩ := p
    cases hname : d.mappedType? name with
    | none => simp [hname]
    | some type => cases size <;> simp [hname, resized]

/-- The type of a column is its mapped definition, if there is one. -/
theorem columnType_of_mapped {definition : String} {cs : List Char}
    (h : d.mappedDefinition? definition.toList = some cs) :
    d.columnType definition = String.ofList cs := by
  rw [columnType, h]

/-- Any other definition is its own type. -/
theorem columnType_of_unmapped {definition : String}
    (h : d.mappedDefinition? definition.toList = none) : d.columnType definition = definition := by
  rw [columnType, h]

/-! ## Mapped definitions -/

section

variable {t p : TypeText}

/-- A mapped definition begins with the first word of the type, and with a size behind it if the type
has one there. -/
theorem exists_behind (ht : t.IsReading) (hparen : t.size = none → '(' ∉ t.text)
    (hp : p.IsReading) : ∃ behind, resized t.text p.size ++ p.modifiers = t.name ++ behind ∧
      (∀ c ∈ behind.head?, isWord c = false) ∧ (t.size ≠ none → size? behind ≠ none) := by
  cases hsize : p.size with
  | none =>
    refine ⟨sizeText t.size ++ t.modifiers ++ p.modifiers, by simp [resized, text], ?_, ?_⟩
    · exact Text.forall_head?_append ht.head?_behind (hp.ends hsize).1
    · intro h
      obtain ⟨own, hown⟩ := Option.ne_none_iff_exists'.1 h
      rw [hown, List.append_assoc, size?_sizeText (ht.closed own hown)]
      exact Option.some_ne_none _
  | some size =>
    have hopen (rest : List Char) :
        ∀ c ∈ (sizeText (some size) ++ rest).head?, isWord c = false := by
      rintro _ ⟨⟩
      decide
    cases hown : t.size with
    | none =>
      refine ⟨t.modifiers ++ (sizeText (some size) ++ p.modifiers), ?_, ?_, fun h => absurd rfl h⟩
      · rw [resized, withSize_of_unsized (hparen hown), text, hown]
        simp [sizeText]
      · exact Text.forall_head?_append (ht.ends hown).1 (hopen _)
    | some own =>
      refine ⟨sizeText (some size) ++ (t.modifiers ++ p.modifiers), ?_, hopen _, fun _ => ?_⟩
      · rw [resized, withSize_of_sized ht hown]
        simp
      · rw [size?_sizeText (hp.closed size hsize)]
        exact Option.some_ne_none _

/-- A type that ends with no blank does not with another size. -/
theorem isBlank_getLast?_resized (ht : t.IsReading) (hparen : t.size = none → '(' ∉ t.text)
    (hlast : ∀ c ∈ t.text.getLast?, isBlank c = false) (size : Option (List Char)) :
    ∀ c ∈ (resized t.text size).getLast?, isBlank c = false := by
  cases size with
  | none => exact hlast
  | some size =>
    have hclosing : ∀ c ∈ (sizeText (some size)).getLast?, isBlank c = false := by
      rw [sizeText, List.getLast?_concat]
      rintro _ ⟨⟩
      decide
    cases hown : t.size with
    | none =>
      rw [resized, withSize_of_unsized (hparen hown)]
      exact Text.forall_getLast?_append hlast hclosing
    | some own =>
      rw [resized, withSize_of_sized ht hown, ← List.append_assoc]
      refine Text.forall_getLast?_append ?_ ?_
      · refine Text.forall_getLast?_append (fun c hc => ?_) hclosing
        exact Text.isBlank_of_isWord (ht.isWord_name c (List.mem_of_getLast? hc))
      · exact fun c hc => hlast c (mem_getLast?_text hc)

/-- A mapped definition neither begins nor ends with a blank. -/
theorem trim_mapped (ht : t.IsReading) (hparen : t.size = none → '(' ∉ t.text)
    (hlast : ∀ c ∈ t.text.getLast?, isBlank c = false) (hp : p.IsReading)
    (hend : ∀ c ∈ p.text.getLast?, isBlank c = false) :
    trim (resized t.text p.size ++ p.modifiers) = resized t.text p.size ++ p.modifiers := by
  refine Text.trim_eq_self_iff.2 ⟨?_, ?_⟩
  · obtain ⟨behind, heq, -, -⟩ := exists_behind ht hparen hp
    obtain ⟨first, name, hname⟩ := List.exists_cons_of_ne_nil ht.name_ne_nil
    rw [heq, hname]
    rintro _ ⟨⟩
    exact Text.isBlank_of_isWord (ht.isWord_name first (hname ▸ List.mem_cons_self))
  · refine Text.forall_getLast?_append (isBlank_getLast?_resized ht hparen hlast p.size) ?_
    exact fun c hc => hend c (mem_getLast?_text hc)

/-- What a mapped definition is taken apart to begins with the first word of the type, and has a size
if the type has one. -/
theorem name_of_read?_mapped (ht : t.IsReading) (hparen : t.size = none → '(' ∉ t.text)
    (hp : p.IsReading) {q : TypeText} (hq : read? (resized t.text p.size ++ p.modifiers) = some q) :
    q.name = t.name ∧ (t.size ≠ none → q.size ≠ none) := by
  obtain ⟨behind, heq, hhead, hsize⟩ := exists_behind ht hparen hp
  obtain ⟨hreading, htext⟩ := read?_eq_some_iff.1 hq
  rw [heq] at htext
  have hname : q.name = t.name := by
    rw [← hreading.takeWhile_text, htext, Text.takeWhile_append ht.isWord_name hhead]
  refine ⟨hname, fun h hnone => hsize h ?_⟩
  rw [text, hname, hnone] at htext
  rw [← List.append_cancel_left htext]
  exact (hreading.ends hnone).2

end

/-- A definition with the name of a type that stands for this word is mapped to itself. -/
theorem resized_eq_text {t q : TypeText} (ht : t.IsReading) (hq : q.IsReading)
    (hname : t.name = q.name) (hsize : t.size ≠ none → q.size ≠ none) (hmodifiers : t.modifiers = []) :
    resized t.text q.size ++ q.modifiers = q.text := by
  cases hown : t.size with
  | none =>
    have htext : t.text = q.name := by
      rw [text, hown, hmodifiers, hname]
      exact List.append_nil _
    have hparen : '(' ∉ t.text := htext ▸ paren_notMem hq.isWord_name
    cases hq' : q.size with
    | none =>
      rw [resized, htext, text, hq']
      rfl
    | some size =>
      rw [resized, withSize_of_unsized hparen, htext, text, hq', List.append_assoc]
  | some own =>
    obtain ⟨size, hsize⟩ := Option.ne_none_iff_exists'.1 (hsize (hown ▸ Option.some_ne_none own))
    rw [hsize, resized, withSize_of_sized ht hown, hname, hmodifiers, text, hsize]
    simp

/-- A definition that is not mapped is left as it is. -/
theorem columnType_ofList (d : Dialect) (cs : List Char) :
    d.columnType (String.ofList cs) = String.ofList ((d.mappedDefinition? cs).getD cs) := by
  rw [columnType, String.toList_ofList]
  cases d.mappedDefinition? cs <;> rfl

/-- What a definition is mapped to is left alone when it is mapped again, but for double precision. -/
theorem columnType_mapped {entry : String × String} (hentry : entry ∈ d.columnTypes)
    (hne : entry.2.toList ≠ "double precision".toList) {p : TypeText} (hp : p.IsReading)
    (hend : ∀ c ∈ p.text.getLast?, isBlank c = false) :
    d.columnType (String.ofList (resized entry.2.toList p.size ++ p.modifiers)) =
      String.ofList (resized entry.2.toList p.size ++ p.modifiers) := by
  obtain ⟨t, hread, hparen, hlast⟩ := exists_reading d entry hentry
  obtain ⟨ht, htext⟩ := read?_eq_some_iff.1 hread
  have hkeeps := keeps_types d entry hentry t hread
  rw [← htext] at hne ⊢
  rw [columnType_ofList, mappedDefinition?_eq, trim_mapped ht hparen hlast hp hend]
  cases hq : read? (resized t.text p.size ++ p.modifiers) with
  | none => rfl
  | some q =>
    obtain ⟨hname, hsize⟩ := name_of_read?_mapped ht hparen hp hq
    rw [Option.bind_some, hname]
    cases htype : d.mappedType? t.name with
    | none => rfl
    | some type =>
      obtain ⟨t', hread', hname', hsize', hmodifiers⟩ := (hkeeps type htype).resolve_left hne
      obtain ⟨ht', rfl⟩ := read?_eq_some_iff.1 hread'
      obtain ⟨hreading, htext'⟩ := read?_eq_some_iff.1 hq
      have hself := resized_eq_text ht' hreading (hname'.trans hname.symm)
        (fun h => hsize (hsize' h)) hmodifiers
      rw [Option.map_some, Option.getD_some, hself, htext']

/-- A definition without a size behind its first word is mapped by this word alone, unless there is a
line break in it. -/
theorem mappedDefinition?_of_bare {word rest type : List Char} (hne : word ≠ [])
    (hword : ∀ c ∈ word, isWord c = true) (hrest : ∀ c ∈ rest.head?, isWord c = false)
    (hbare : size? rest = none) (htrim : trim (word ++ rest) = word ++ rest)
    (htype : d.mappedType? word = some type) :
    d.mappedDefinition? (word ++ rest) = if '\n' ∈ rest then none else some (type ++ rest) := by
  have htake : (word ++ rest).takeWhile isWord = word := Text.takeWhile_append hword hrest
  have hdrop : (word ++ rest).dropWhile isWord = rest := Text.dropWhile_append hword hrest
  rw [mappedDefinition?_eq, htrim, read?_of_bare (by rw [hdrop, hbare]), htake, hdrop]
  by_cases hline : '\n' ∈ rest
  · rw [if_pos (.inr hline), if_pos hline]
    rfl
  · rw [if_neg (not_or.2 ⟨hne, hline⟩), if_neg hline, Option.bind_some, htype]
    rfl

/-- What a definition is mapped to as double precision brings the second word in once more when it is
mapped again, unless a line break in the size keeps it from being taken apart. -/
theorem columnType_doublePrecision_iff
    (hd : d.mappedType? "double".toList = some "double precision".toList) {p : TypeText}
    (hp : p.IsReading) (hend : ∀ c ∈ p.text.getLast?, isBlank c = false) :
    d.columnType (String.ofList (resized "double precision".toList p.size ++ p.modifiers)) =
        String.ofList (resized "double precision".toList p.size ++ p.modifiers) ↔
      ∃ size ∈ p.size, '\n' ∈ size := by
  have hread : read? "double precision".toList =
      some ⟨"double".toList, none, " precision".toList⟩ := by decide
  obtain ⟨ht, htext⟩ := read?_eq_some_iff.1 hread
  have hparen : '(' ∉ "double precision".toList := by decide
  have htrim := trim_mapped ht (fun _ => hparen) (by rintro _ ⟨⟩; rfl) hp hend
  have hcs : resized "double precision".toList p.size ++ p.modifiers =
      "double".toList ++ (" precision".toList ++ (sizeText p.size ++ p.modifiers)) := by
    cases p.size with
    | none => rfl
    | some size =>
      rw [resized, withSize_of_unsized hparen, List.append_assoc]
      rfl
  have hline : '\n' ∈ " precision".toList ++ (sizeText p.size ++ p.modifiers) ↔
      ∃ size ∈ p.size, '\n' ∈ size := by
    rw [List.mem_append, List.mem_append]
    cases p.size with
    | none => simp [sizeText, hp.oneLine]
    | some size => simp [sizeText, hp.oneLine]
  rw [htext, hcs] at htrim
  rw [columnType_ofList, hcs, String.ofList_inj, ← hline, mappedDefinition?_of_bare (by decide)
    ht.isWord_name (by rintro _ ⟨⟩; decide) rfl htrim hd]
  split_ifs with h
  · exact iff_of_true rfl h
  · refine iff_of_false (fun heq => ?_) h
    have hlength := congrArg List.length heq
    simp at hlength
    omega

/-- Whether a definition is mapped to double precision, which is two words, in a single line. -/
def RepeatsPrecision (d : Dialect) (definition : String) : Prop :=
  ∃ p, read? (trim definition.toList) = some p ∧
    d.mappedType? p.name = some "double precision".toList ∧ ∀ size ∈ p.size, '\n' ∉ size

/-- Only PostgreSQL has double precision, and it takes the first word of it for an abstract type. -/
theorem mappedType?_double {name : List Char}
    (h : d.mappedType? name = some "double precision".toList) :
    d.mappedType? "double".toList = some "double precision".toList := by
  obtain ⟨entry, hentry, -, htype⟩ := exists_of_mappedType? h
  have htables : ∀ entry ∈ d.columnTypes, entry.2.toList = "double precision".toList →
      d.mappedType? "double".toList = some "double precision".toList := by
    cases d <;> decide +kernel
  exact htables entry hentry htype

/-- A definition is mapped to one that is left alone when it is mapped again, unless it is mapped to
double precision. -/
theorem columnType_columnType_iff (d : Dialect) (definition : String) :
    d.columnType (d.columnType definition) = d.columnType definition ↔
      ¬ d.RepeatsPrecision definition := by
  have hmapped := d.mappedDefinition?_eq definition.toList
  cases hread : read? (trim definition.toList) with
  | none =>
    rw [hread, Option.bind_none] at hmapped
    rw [columnType_of_unmapped hmapped, columnType_of_unmapped hmapped]
    refine iff_of_true rfl ?_
    rintro ⟨p, hp, -⟩
    rw [hread] at hp
    cases hp
  | some p =>
    rw [hread, Option.bind_some] at hmapped
    obtain ⟨hp, htext⟩ := read?_eq_some_iff.1 hread
    have hend : ∀ c ∈ p.text.getLast?, isBlank c = false := htext ▸ Text.isBlank_getLast?_trim _
    have hrepeats : d.RepeatsPrecision definition ↔
        d.mappedType? p.name = some "double precision".toList ∧ ∀ size ∈ p.size, '\n' ∉ size := by
      simp only [RepeatsPrecision, hread, Option.some.injEq, exists_eq_left']
    cases htype : d.mappedType? p.name with
    | none =>
      rw [htype, Option.map_none] at hmapped
      rw [columnType_of_unmapped hmapped, columnType_of_unmapped hmapped, hrepeats, htype]
      exact iff_of_true rfl fun h => nomatch h.1
    | some type =>
      rw [htype, Option.map_some] at hmapped
      rw [columnType_of_mapped hmapped, hrepeats, htype]
      obtain ⟨entry, hentry, -, rfl⟩ := exists_of_mappedType? htype
      by_cases hdouble : entry.2.toList = "double precision".toList
      · rw [hdouble] at htype ⊢
        rw [columnType_doublePrecision_iff (mappedType?_double htype) hp hend]
        simp
      · refine iff_of_true (columnType_mapped hentry hdouble hp hend) fun h => ?_
        exact hdouble (Option.some.inj h.1)

/-- A definition in the words of PostgreSQL is changed. -/
theorem columnType_doublePrecision :
    columnType .postgreSql "double" = "double precision" ∧
      columnType .postgreSql (columnType .postgreSql "double") ≠ columnType .postgreSql "double" := by
  decide

end Dialect

/-! ## Changes with mapped definitions -/

/-- The line with the definition of its column replaced. -/
def TableElement.mapDefinition (f : String → String) : TableElement → TableElement
  | .column name definition => .column name (f definition)
  | .constraint sql => .constraint sql

/-- The definition of the line's column. -/
def TableElement.definition? : TableElement → Option String
  | .column _ definition => some definition
  | .constraint _ => none

/-- The change with the definitions of its columns replaced. -/
def SchemaChange.mapDefinitions (f : String → String) : SchemaChange → SchemaChange
  | .createTable name (.elements lines) ifNotExists options =>
    .createTable name (.elements (lines.map (·.mapDefinition f))) ifNotExists options
  | .addColumn table column definition => .addColumn table column (f definition)
  | .alterColumn table column definition => .alterColumn table column (f definition)
  | c => c

/-- The definitions of the change's columns. -/
def SchemaChange.definitions : SchemaChange → List String
  | .createTable _ (.elements lines) _ _ => lines.filterMap (·.definition?)
  | .addColumn _ _ definition => [definition]
  | .alterColumn _ _ definition => [definition]
  | _ => []

namespace Adapter

/-- Definitions of the same type give the same line. -/
theorem elementText_mapDefinition (a : Adapter) {f : String → String} {line : TableElement}
    (h : ∀ definition ∈ line.definition?,
      a.dialect.columnType (f definition) = a.dialect.columnType definition) :
    a.elementText (line.mapDefinition f) = a.elementText line := by
  cases line with
  | column name definition => rw [TableElement.mapDefinition, elementText, elementText, h _ rfl]
  | constraint sql => rfl

/-- Columns are written with the definitions that theirs are mapped to. -/
theorem schemaStatement_mapDefinitions (a : Adapter) {f : String → String} {c : SchemaChange}
    (h : ∀ definition ∈ c.definitions,
      a.dialect.columnType (f definition) = a.dialect.columnType definition) :
    a.schemaStatement (c.mapDefinitions f) = a.schemaStatement c := by
  cases c with
  | createTable name body ifNotExists options =>
    cases body with
    | raw sql => rfl
    | elements lines =>
      have htexts : (lines.map (·.mapDefinition f)).map a.elementText = lines.map a.elementText := by
        rw [List.map_map]
        refine List.map_congr_left fun line hline => a.elementText_mapDefinition fun definition hd => ?_
        exact h definition (List.mem_filterMap.2 ⟨line, hline, hd⟩)
      cases lines with
      | nil => rfl
      | cons line lines =>
        simp only [SchemaChange.mapDefinitions, schemaStatement, createTable, List.map_cons] at htexts ⊢
        rw [htexts]
  | addColumn table column definition =>
    simp only [SchemaChange.mapDefinitions, schemaStatement, h _ List.mem_cons_self]
  | alterColumn table column definition =>
    simp only [SchemaChange.mapDefinitions, schemaStatement, alterColumn, h _ List.mem_cons_self]
  | _ => rfl

/-- Definitions that have been mapped stand in the statements as they are, unless there is double
precision among them. -/
theorem mapped_definitions_stay (a : Adapter) :
    (∀ definition, a.dialect.columnType (a.dialect.columnType definition) =
        a.dialect.columnType definition ↔ ¬ a.dialect.RepeatsPrecision definition) ∧
      ∀ c : SchemaChange, (∀ definition ∈ c.definitions, ¬ a.dialect.RepeatsPrecision definition) →
        a.schemaStatement (c.mapDefinitions a.dialect.columnType) = a.schemaStatement c := by
  refine ⟨a.dialect.columnType_columnType_iff, fun c h => ?_⟩
  refine a.schemaStatement_mapDefinitions fun definition hd => ?_
  exact (a.dialect.columnType_columnType_iff definition).2 (h definition hd)

/-- A table of PostgreSQL, in abstract types and in those of the dialect. -/
theorem mapped_definitions_stay_createTable :
    (ofDialect .postgreSql "" none).schemaStatement (.createTable "t"
        (.elements [.column "id" "bigserial NOT NULL PRIMARY KEY",
          .column "price" "numeric(10,2) NOT NULL", .constraint "UNIQUE (price)"]) false none) =
      (ofDialect .postgreSql "" none).schemaStatement (.createTable "t"
        (.elements [.column "id" "bigpk", .column "price" "Money(10,2) NOT NULL",
          .constraint "UNIQUE (price)"]) false none) := by
  refine ((ofDialect .postgreSql "" none).mapped_definitions_stay.2 (.createTable "t"
    (.elements [.column "id" "bigpk", .column "price" "Money(10,2) NOT NULL",
      .constraint "UNIQUE (price)"]) false none) fun definition hd => ?_)
  have hmem : definition = "bigpk" ∨ definition = "Money(10,2) NOT NULL" := by
    simpa [SchemaChange.definitions, TableElement.definition?] using hd
  rcases hmem with rfl | rfl <;> exact (Dialect.columnType_columnType_iff _ _).1 (by decide)

end Adapter

end SqlCompose
