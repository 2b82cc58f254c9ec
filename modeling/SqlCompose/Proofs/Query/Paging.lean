import Mathlib.Algebra.Group.Nat.Defs
import SqlCompose.Decimal.Integer
import SqlCompose.Paging
import SqlCompose.Text.Split

/-!
# The rows that a paging clause selects

A paging clause is read by the grammar of its dialect as a window on the rows of an answer
(`Dialect.window?`). The window of the clause for a limit and an offset selects the rows that these ask
for (`Dialect.limitOffset_selects`). Each dialect has a largest number of rows, which also stands for
no limit where the dialect has no words for that; a number beyond it goes into the clause as it is
(`Dialect.limitOffset_beyond`), so the clause is valid for the numbers up to it and for no others.
-/

namespace SqlCompose

/-! ## Windows -/

/-- A window on the rows of an answer: some are skipped, and of the others no more than a number is
taken, or all of them. -/
structure Window where
  skip : Nat
  take : Option Nat
  deriving DecidableEq

/-- The rows in the window, in their order. -/
def Window.select {α : Type} (w : Window) (rows : List α) : List α :=
  match w.take with
  | none => rows.drop w.skip
  | some n => (rows.drop w.skip).take n

/-- The rows behind the first `offset` ones, and no more than `limit` of them. Zero counts as
unset. -/
def requested {α : Type} (limit offset : Option UInt64) (rows : List α) : List α :=
  let others := rows.drop (offset.getD 0).toNat
  if limit.getD 0 = 0 then others else others.take (limit.getD 0).toNat

/-! ## The words of a clause -/

namespace Paging

/-- What a paging clause is made of. -/
inductive Lexeme where
  | limit
  | offset
  | all
  | comma
  | number (n : Nat)
  deriving DecidableEq

/-- The lexeme of a word, which is a number or a keyword. The empty word has none. -/
def wordLexemes? (word : List Char) : Option (List Lexeme) :=
  if word = [] then some []
  else if let some n := Decimal.readNat? word then some [.number n]
  else if word = "LIMIT".toList then some [.limit]
  else if word = "OFFSET".toList then some [.offset]
  else if word = "ALL".toList then some [.all]
  else none

/-- The lexemes of a stretch without blanks. -/
def stretchLexemes? (cs : List Char) : Option (List Lexeme) :=
  ((Text.splitOn ',' cs).mapM wordLexemes?).map [Lexeme.comma].intercalate

/-- The lexemes of a clause. -/
def lexemes? (cs : List Char) : Option (List Lexeme) :=
  ((Text.splitOn ' ' cs).mapM stretchLexemes?).map List.flatten

/-- A stretch without blanks has the given lexemes. -/
def Stretch (cs : List Char) (lexemes : List Lexeme) : Prop :=
  ' ' ∉ cs ∧ stretchLexemes? cs = some lexemes

instance (cs : List Char) (lexemes : List Lexeme) : Decidable (Stretch cs lexemes) :=
  inferInstanceAs (Decidable (_ ∧ _))

theorem stretch_limit : Stretch ['L', 'I', 'M', 'I', 'T'] [.limit] := by decide

theorem stretch_offset : Stretch ['O', 'F', 'F', 'S', 'E', 'T'] [.offset] := by decide

theorem stretch_all : Stretch ['A', 'L', 'L'] [.all] := by decide

/-- A written number is read as a number. -/
theorem wordLexemes?_toDigits (n : Nat) :
    wordLexemes? (Nat.toDigits 10 n) = some [.number n] := by
  rw [wordLexemes?, if_neg Nat.toDigits_ne_nil, Decimal.readNat?_toDigits]

/-- So it is a stretch of its own. -/
theorem stretch_number (n : Nat) : Stretch (Nat.toDigits 10 n) [.number n] := by
  refine ⟨Decimal.notMem_toDigits rfl n, ?_⟩
  rw [stretchLexemes?, Text.splitOn_eq_singleton (Decimal.notMem_toDigits rfl n)]
  simp [wordLexemes?_toDigits]

/-- A comma behind a number belongs to its stretch. -/
theorem stretch_number_comma (n : Nat) :
    Stretch (Nat.toDigits 10 n ++ [',']) [.number n, .comma] := by
  constructor
  · simp [Decimal.notMem_toDigits (c := ' ') rfl n]
  · have hempty : wordLexemes? [] = some [] := rfl
    rw [stretchLexemes?, Text.splitOn_append,
      Text.splitOn_eq_singleton (Decimal.notMem_toDigits rfl n)]
    simp [Text.splitOn, wordLexemes?_toDigits, hempty]

variable {cs : List Char} {lexemes : List Lexeme}

/-- A clause of one stretch has its lexemes. -/
theorem Stretch.lexemes? (h : Stretch cs lexemes) : lexemes? cs = some lexemes := by
  rw [Paging.lexemes?, Text.splitOn_eq_singleton h.1]
  simp [h.2]

/-- A stretch in front of a blank is read on its own. -/
theorem Stretch.append (h : Stretch cs lexemes) {rest : List Char} {others : List Lexeme}
    (hrest : Paging.lexemes? rest = some others) :
    Paging.lexemes? (cs ++ ' ' :: rest) = some (lexemes ++ others) := by
  obtain ⟨parts, hparts, rfl⟩ := Option.map_eq_some_iff.1 hrest
  rw [Paging.lexemes?, Text.splitOn_append, Text.splitOn_eq_singleton h.1, List.singleton_append,
    List.mapM_cons, h.2, hparts]
  rfl

end Paging

/-! ## The grammar of a clause -/

namespace Dialect

/-- The window that a clause stands for in the grammar of the dialect. A comma swaps the two numbers,
and only PostgreSQL has words for a window without a bound. -/
def window? (d : Dialect) (clause : List Char) : Option Window :=
  match Paging.lexemes? clause with
  | some [] => some ⟨0, none⟩
  | some [.limit, .number n] => some ⟨0, some n⟩
  | some [.limit, .number n, .offset, .number skip] => some ⟨skip, some n⟩
  | some [.limit, .number skip, .comma, .number n] =>
    if d = .postgreSql then none else some ⟨skip, some n⟩
  | some [.limit, .all] => if d = .postgreSql then some ⟨0, none⟩ else none
  | some [.limit, .all, .offset, .number skip] =>
    if d = .postgreSql then some ⟨skip, none⟩ else none
  | some [.offset, .number skip] => if d = .postgreSql then some ⟨skip, none⟩ else none
  | _ => none

/-- The largest number of rows that the dialect has: words of 64 bits, with a sign except in MySQL. -/
def largestCount : Dialect → Nat
  | .mySql => 18446744073709551615
  | _ => 9223372036854775807

/-- How many rows the dialect takes where no limit is set: all of them in PostgreSQL, and elsewhere the
largest number. -/
def unlimited (d : Dialect) : Option Nat :=
  if d = .postgreSql then none else some d.largestCount

end Dialect

/-- Whether the dialect has the numbers of a window. -/
def Window.Fits (w : Window) (d : Dialect) : Prop :=
  w.skip ≤ d.largestCount ∧ ∀ n ∈ w.take, n ≤ d.largestCount

namespace Dialect

variable {d : Dialect}

/-- A limit is a window at the beginning. -/
theorem window?_limit (d : Dialect) (n : Nat) :
    d.window? ("LIMIT " ++ toString n).toList = some ⟨0, some n⟩ := by
  have hchars : ("LIMIT " ++ toString n).toList =
      ['L', 'I', 'M', 'I', 'T'] ++ ' ' :: Nat.toDigits 10 n := by
    rw [String.toList_append, Decimal.toList_toString]
    rfl
  rw [window?, hchars, Paging.stretch_limit.append (Paging.stretch_number n).lexemes?]
  rfl

/-- A limit and an offset are a window behind the skipped rows. -/
theorem window?_limit_offset (d : Dialect) (n skip : Nat) :
    d.window? ("LIMIT " ++ toString n ++ " OFFSET " ++ toString skip).toList =
      some ⟨skip, some n⟩ := by
  have hchars : ("LIMIT " ++ toString n ++ " OFFSET " ++ toString skip).toList =
      ['L', 'I', 'M', 'I', 'T'] ++ ' ' :: (Nat.toDigits 10 n ++ ' ' ::
        (['O', 'F', 'F', 'S', 'E', 'T'] ++ ' ' :: Nat.toDigits 10 skip)) := by
    simp [String.toList_append]
  rw [window?, hchars, Paging.stretch_limit.append <| (Paging.stretch_number n).append <|
    Paging.stretch_offset.append (Paging.stretch_number skip).lexemes?]
  rfl

/-- In front of a comma stands the number of rows to skip. -/
theorem window?_comma (hd : d ≠ .postgreSql) (skip n : Nat) :
    d.window? ("LIMIT " ++ toString skip ++ ", " ++ toString n).toList =
      some ⟨skip, some n⟩ := by
  have hchars : ("LIMIT " ++ toString skip ++ ", " ++ toString n).toList =
      ['L', 'I', 'M', 'I', 'T'] ++ ' ' :: ((Nat.toDigits 10 skip ++ [',']) ++ ' ' ::
        Nat.toDigits 10 n) := by
    simp [String.toList_append]
  rw [window?, hchars, Paging.stretch_limit.append <|
    (Paging.stretch_number_comma skip).append (Paging.stretch_number n).lexemes?]
  exact if_neg hd

/-- PostgreSQL has words for a window without a bound. -/
theorem window?_all (skip : Nat) :
    window? .postgreSql ("LIMIT ALL OFFSET " ++ toString skip).toList = some ⟨skip, none⟩ := by
  have hwords : "LIMIT ALL OFFSET ".toList =
      ['L', 'I', 'M', 'I', 'T', ' ', 'A', 'L', 'L', ' ', 'O', 'F', 'F', 'S', 'E', 'T', ' '] := by
    decide
  have hchars : ("LIMIT ALL OFFSET " ++ toString skip).toList =
      ['L', 'I', 'M', 'I', 'T'] ++ ' ' :: (['A', 'L', 'L'] ++ ' ' ::
        (['O', 'F', 'F', 'S', 'E', 'T'] ++ ' ' :: Nat.toDigits 10 skip)) := by
    rw [String.toList_append, Decimal.toList_toString, hwords]
    rfl
  rw [window?, hchars, Paging.stretch_limit.append <| Paging.stretch_all.append <|
    Paging.stretch_offset.append (Paging.stretch_number skip).lexemes?]
  rfl

/-- Without a limit the rows behind the offset are taken without one. -/
theorem window?_offsetOnly (d : Dialect) (offset : UInt64) :
    d.window? (d.offsetOnly offset).toList = some ⟨offset.toNat, d.unlimited⟩ := by
  cases d with
  | mySql =>
    have hcount : ", 18446744073709551615" = ", " ++ toString (largestCount .mySql) := rfl
    have htext : offsetOnly .mySql offset =
        "LIMIT " ++ toString offset.toNat ++ ", " ++ toString (largestCount .mySql) := by
      have hunfold : offsetOnly .mySql offset =
          "LIMIT " ++ toString offset.toNat ++ ", 18446744073709551615" := rfl
      rw [hunfold, hcount, ← String.append_assoc]
    rw [htext]
    exact window?_comma (by decide) offset.toNat _
  | postgreSql => exact window?_all offset.toNat
  | sqlite => exact window?_limit_offset .sqlite (largestCount .sqlite) offset.toNat

/-- The window of every paging clause. -/
theorem window?_limitOffset (d : Dialect) (limit offset : Option UInt64) :
    d.window? (d.limitOffset limit offset).toList = some ⟨(offset.getD 0).toNat,
      if limit.getD 0 ≠ 0 then some (limit.getD 0).toNat
      else if offset.getD 0 ≠ 0 then d.unlimited else none⟩ := by
  have hset (n : Option UInt64) :
      n.filter (· != 0) = if n.getD 0 = 0 then none else some (n.getD 0) := by
    cases n with
    | none => rfl
    | some n => by_cases h : n = 0 <;> simp [h]
  rw [limitOffset, hset, hset]
  generalize limit.getD 0 = limit
  generalize offset.getD 0 = offset
  by_cases hlimit : limit = 0
  · by_cases hoffset : offset = 0
    · subst hlimit hoffset
      rfl
    · simp only [hlimit, hoffset, if_true, if_false, ne_eq, not_true_eq_false, not_false_eq_true]
      exact d.window?_offsetOnly offset
  · by_cases hoffset : offset = 0
    · simp only [hlimit, hoffset, if_true, if_false, ne_eq, not_false_eq_true]
      exact d.window?_limit limit.toNat
    · simp only [hlimit, hoffset, if_false, ne_eq, not_false_eq_true, if_true]
      exact d.window?_limit_offset limit.toNat offset.toNat

/-- The largest number takes all rows of a list that is shorter than `2 ^ 63`. -/
theorem select_unlimited {α : Type} {rows : List α} (hrows : rows.length < 2 ^ 63) (skip : Nat) :
    (Window.mk skip d.unlimited).select rows = rows.drop skip := by
  have hcount : rows.length ≤ d.largestCount := by
    cases d <;> simp only [largestCount] <;> omega
  unfold unlimited Window.select
  by_cases hd : d = .postgreSql
  · simp only [hd, if_true]
  · simp only [hd, if_false]
    exact List.take_of_length_le (by rw [List.length_drop]; omega)

/-- The number that stands for no limit is one of the dialect. -/
theorem le_largestCount_of_mem_unlimited : ∀ n ∈ d.unlimited, n ≤ d.largestCount := by
  cases d <;> simp [unlimited]

/-- The paging clause of a limit and an offset selects the rows that these ask for, as the grammar of
the dialect reads it, and it is valid if neither is beyond the largest number of the dialect, and only
then. -/
theorem limitOffset_selects (d : Dialect) (limit offset : Option UInt64) :
    ∃ w, d.window? (d.limitOffset limit offset).toList = some w ∧
      (∀ {α : Type} (rows : List α), rows.length < 2 ^ 63 →
        w.select rows = requested limit offset rows) ∧
      (w.Fits d ↔
        (limit.getD 0).toNat ≤ d.largestCount ∧ (offset.getD 0).toNat ≤ d.largestCount) := by
  refine ⟨_, d.window?_limitOffset limit offset, fun rows hrows => ?_, ?_⟩
  · unfold requested
    generalize limit.getD 0 = limit
    generalize offset.getD 0 = offset
    by_cases hlimit : limit = 0
    · by_cases hoffset : offset = 0
      · simp [hlimit, hoffset, Window.select]
      · simp [hlimit, hoffset, select_unlimited hrows]
    · simp [hlimit, Window.select]
  · unfold Window.Fits
    by_cases hlimit : limit.getD 0 = 0
    · by_cases hoffset : offset.getD 0 = 0
      · simp [hlimit, hoffset]
      · simpa [hlimit, hoffset] using fun _ => le_largestCount_of_mem_unlimited
    · simp [hlimit, and_comm]

/-- An offset of two without a limit, in MySQL. -/
theorem limitOffset_selects_mySql :
    ∃ w, window? .mySql "LIMIT 2, 18446744073709551615".toList = some w ∧
      w.select ["a", "b", "c", "d"] = ["c", "d"] ∧ w.Fits .mySql := by
  obtain ⟨w, hw, hselect, hfits⟩ := limitOffset_selects .mySql (some 0) (some 2)
  exact ⟨w, hw, hselect ["a", "b", "c", "d"] (by decide), hfits.2 (by decide)⟩

/-- A limit beyond the largest number of SQLite is written into the clause. -/
theorem limitOffset_beyond :
    limitOffset .sqlite (some 18446744073709551615) none = "LIMIT 18446744073709551615" ∧
      window? .sqlite "LIMIT 18446744073709551615".toList =
        some ⟨0, some 18446744073709551615⟩ ∧
      largestCount .sqlite < 18446744073709551615 := by
  decide

end Dialect

end SqlCompose
