import Mathlib.Data.List.Nodup
import SqlCompose.Proofs.ColumnType.Mapping

/-!
# Sizes in column definitions

A size behind an abstract type belongs directly behind the name of the type that this one stands for,
in front of the modifiers that come along with it (`Dialect.sized`). It does land there where the
type has a size of its own or comes without modifiers; behind the serial types of PostgreSQL and the
primary keys of SQLite it lands at the end (`Dialect.withSize_eq_sized_iff`).
-/

namespace SqlCompose.Dialect

open Text (isBlank isWord trim)

open TypeText

variable {d : Dialect}

/-! ## Where a size belongs -/

/-- A type of a dialect, cut in two where its modifiers begin: types are written in small letters,
and the modifiers that some bring along are words in capital letters. -/
def splitModifiers : List Char → List Char × List Char
  | [] => ([], [])
  | c :: cs =>
    if c = ' ' ∧ cs.head?.any Char.isUpper = true then ([], c :: cs)
    else (c :: (splitModifiers cs).1, (splitModifiers cs).2)

/-- A type with a size directly behind its name, in the place of its own size if it has one. -/
def sized (size type : List Char) : List Char :=
  (splitModifiers type).1.takeWhile (· != '(') ++ '(' :: size ++ ')' :: (splitModifiers type).2

example : sized "5".toList "bigint(20) NOT NULL".toList = "bigint(5) NOT NULL".toList := by decide
example : sized "5".toList "double precision".toList = "double precision(5)".toList := by decide
example : sized "5".toList "serial NOT NULL".toList = "serial(5) NOT NULL".toList := by decide

/-- A type is its front with its modifiers behind. -/
theorem splitModifiers_append (type : List Char) :
    (splitModifiers type).1 ++ (splitModifiers type).2 = type := by
  induction type with
  | nil => rfl
  | cons c cs ih =>
    rw [splitModifiers]
    split
    · rfl
    · rw [List.cons_append, ih]

/-- The modifiers begin with a space. -/
theorem head?_splitModifiers (type : List Char) :
    ∀ c ∈ (splitModifiers type).2.head?, c = ' ' := by
  induction type with
  | nil => exact nofun
  | cons c cs ih =>
    rw [splitModifiers]
    split
    · rename_i h
      rintro _ ⟨⟩
      exact h.1
    · exact ih

/-! ## Where a size lands -/

/-- Where a type has a size, its modifiers stand behind it. -/
theorem exists_own_size (d : Dialect) : ∀ entry ∈ d.columnTypes, '(' ∈ entry.2.toList →
    (size? (entry.2.toList.dropWhile (· != '('))).map (·.2) =
        some (splitModifiers entry.2.toList).2 ∧
      (splitModifiers entry.2.toList).1.takeWhile (· != '(') =
        entry.2.toList.takeWhile (· != '(') := by
  cases d <;> decide +kernel

/-- A size is put in its place where the type has one already or brings no modifiers along. -/
theorem withSize_eq_sized_iff {entry : String × String} (hentry : entry ∈ d.columnTypes)
    (size : List Char) :
    withSize size entry.2.toList = sized size entry.2.toList ↔
      '(' ∈ entry.2.toList ∨ (splitModifiers entry.2.toList).2 = [] := by
  by_cases hparen : '(' ∈ entry.2.toList
  · refine iff_of_true ?_ (.inl hparen)
    obtain ⟨hbehind, hname⟩ := exists_own_size d entry hentry hparen
    obtain ⟨⟨own, behind⟩, hsize, rfl⟩ := Option.map_eq_some_iff.1 hbehind
    unfold withSize sized
    simp only [Text.drop_takeWhile, hsize, hname]
  · -- Both sides are the type with the size put in, behind the modifiers and in front of them.
    rw [withSize_of_unsized hparen, sized, or_iff_right hparen]
    have happend := splitModifiers_append entry.2.toList
    have hhead := head?_splitModifiers entry.2.toList
    generalize splitModifiers entry.2.toList = parts at happend hhead ⊢
    obtain ⟨type, modifiers⟩ := parts
    rw [← happend, List.mem_append, not_or] at hparen
    have hname : type.takeWhile (· != '(') = type :=
      List.takeWhile_eq_self_iff.2 fun c hc => bne_iff_ne.2 fun heq => hparen.1 (heq ▸ hc)
    rw [← happend, hname]
    cases modifiers with
    | nil => simp [sizeText]
    | cons c cs =>
      obtain rfl : c = ' ' := hhead c rfl
      simp [sizeText]

/-- An abstract type is a word, however its letters are written. -/
theorem isWord_of_sameLetters {entry : String × String} (hentry : entry ∈ d.columnTypes)
    {name : List Char} (hname : Text.sameLetters entry.1.toList name = true) :
    name ≠ [] ∧ ∀ c ∈ name, isWord c = true := by
  have htables : ∀ entry ∈ d.columnTypes,
      entry.1.toList ≠ [] ∧ entry.1.toList.all (·.toLower.isAlpha) = true := by
    cases d <;> decide +kernel
  obtain ⟨hne, halpha⟩ := htables entry hentry
  have hmap := beq_iff_eq.1 hname
  refine ⟨?_, fun c hc => ?_⟩
  · rintro rfl
    exact hne (List.map_eq_nil_iff.1 hmap)
  · have hmem : c.toLower ∈ entry.1.toList.map Char.toLower := hmap ▸ List.mem_map_of_mem hc
    obtain ⟨own, hown, heq⟩ := List.mem_map.1 hmem
    have hc : c.isAlpha = true :=
      Text.isAlpha_of_toLower (heq ▸ List.all_eq_true.1 halpha own hown)
    exact Text.isWord_of_isAlphanum (by rw [Char.isAlphanum, hc, Bool.true_or])

/-- An abstract type stands for the type in its line of the table, however its letters are written. -/
theorem mappedType?_of_mem {entry : String × String} (hentry : entry ∈ d.columnTypes)
    {name : List Char} (hname : Text.sameLetters entry.1.toList name = true) :
    d.mappedType? name = some entry.2.toList := by
  have hnodup : (d.columnTypes.map fun e => e.1.toList.map Char.toLower).Nodup := by
    cases d <;> decide +kernel
  have hsome : (d.columnTypes.find? fun e => Text.sameLetters e.1.toList name).isSome :=
    List.find?_isSome.2 ⟨entry, hentry, hname⟩
  obtain ⟨other, hfind⟩ := Option.isSome_iff_exists.1 hsome
  have hsame := List.find?_some hfind
  have heq : other = entry := by
    refine List.inj_on_of_nodup_map hnodup (List.mem_of_find?_eq_some hfind) hentry ?_
    exact (beq_iff_eq.1 hsame).trans (beq_iff_eq.1 hname).symm
  rw [mappedType?, hfind, heq, Option.map_some]

/-- A definition that begins with an abstract type and a size is mapped to the type with this size. -/
theorem mappedDefinition?_of_sized {entry : String × String} (hentry : entry ∈ d.columnTypes)
    {name size modifiers : List Char} (hname : Text.sameLetters entry.1.toList name = true)
    (hsize : ')' ∉ size) (hline : '\n' ∉ modifiers)
    (hend : ∀ c ∈ modifiers.getLast?, isBlank c = false) :
    d.mappedDefinition? (name ++ '(' :: size ++ ')' :: modifiers) =
      some (withSize size entry.2.toList ++ modifiers) := by
  obtain ⟨hne, hword⟩ := isWord_of_sameLetters hentry hname
  have htrim : trim (name ++ '(' :: size ++ ')' :: modifiers) =
      name ++ '(' :: size ++ ')' :: modifiers := by
    refine Text.trim_eq_self_iff.2 ⟨?_, ?_⟩
    · obtain ⟨first, rest, rfl⟩ := List.exists_cons_of_ne_nil hne
      rintro _ ⟨⟩
      exact Text.isBlank_of_isWord (hword first List.mem_cons_self)
    · rw [List.append_cons]
      refine Text.forall_getLast?_append ?_ hend
      rw [List.getLast?_concat]
      rintro _ ⟨⟩
      decide
  have hread : read? (name ++ '(' :: size ++ ')' :: modifiers) =
      some ⟨name, some size, modifiers⟩ := by
    refine read?_eq_some_iff.2 ⟨⟨hne, hword, ?_, nofun, hline⟩, by simp [text, sizeText]⟩
    rintro _ ⟨⟩
    exact hsize
  rw [mappedDefinition?_eq, htrim, hread, Option.bind_some, mappedType?_of_mem hentry hname]
  rfl

/-- A size behind an abstract type lands directly behind the name of the mapped type if this has a size
already or brings no modifiers along, and only then. -/
theorem columnType_sized_iff (d : Dialect) {entry : String × String}
    (hentry : entry ∈ d.columnTypes) {name size modifiers : List Char}
    (hname : Text.sameLetters entry.1.toList name = true) (hsize : ')' ∉ size)
    (hline : '\n' ∉ modifiers) (hend : ∀ c ∈ modifiers.getLast?, isBlank c = false) :
    d.columnType (String.ofList (name ++ '(' :: size ++ ')' :: modifiers)) =
        String.ofList (sized size entry.2.toList ++ modifiers) ↔
      '(' ∈ entry.2.toList ∨ (splitModifiers entry.2.toList).2 = [] := by
  rw [columnType_ofList, mappedDefinition?_of_sized hentry hname hsize hline hend, Option.getD_some,
    String.ofList_inj, List.append_left_inj]
  exact withSize_eq_sized_iff hentry size

/-- A size with a line break in it, behind a name in capital letters. -/
theorem columnType_sized_iff_money :
    columnType .sqlite "MONEY(10,\n2) NOT NULL" = "decimal(10,\n2) NOT NULL" := by
  have hentry : ("money", "decimal(19,4)") ∈ columnTypes .sqlite := by decide
  have hname : Text.sameLetters "money".toList "MONEY".toList = true := by decide
  have hsize : ')' ∉ "10,\n2".toList := by decide
  have hline : '\n' ∉ " NOT NULL".toList := by decide
  have hend : ∀ c ∈ " NOT NULL".toList.getLast?, isBlank c = false := by
    rintro _ ⟨⟩
    rfl
  exact (columnType_sized_iff .sqlite hentry hname hsize hline hend).2 (.inl (by decide))

/-- The size of a primary key lands behind its modifiers. -/
theorem columnType_sized_primaryKey :
    let type := "integer PRIMARY KEY AUTOINCREMENT NOT NULL"
    ("pk", type) ∈ columnTypes .sqlite ∧ columnType .sqlite "pk(5)" = type ++ "(5)" ∧
      columnType .sqlite "pk(5)" ≠ String.ofList (sized "5".toList type.toList) ∧
      String.ofList (sized "5".toList type.toList) =
        "integer(5) PRIMARY KEY AUTOINCREMENT NOT NULL" := by
  decide

end SqlCompose.Dialect
