import Mathlib.Data.List.Infix
import SqlCompose.Proofs.Literal.Reading
import SqlCompose.Proofs.Rendering.Writing
import SqlCompose.Query.Render

/-!
# What patterns find

A pattern of `LIKE` is read as parts (`LikePart.parse?`): wildcards, and characters that stand for
themselves. The escape character takes the meaning from the character behind it. Whether the parts
match a text is decided by trying all ends of the text where a wildcard for any text stands
(`LikePart.run`).

The lookups that put a text between wildcards find it and nothing else, wherever it has wildcards,
backslashes or quotes of its own (`Test.like_finds`): their pattern, as it is bound and as it is
read from its literal, matches the texts that have it at the place that is asked for.
-/

namespace SqlCompose

/-! ## Patterns -/

/-- A part of a pattern. -/
inductive LikePart where
  /-- Any text, also none. -/
  | anyText
  | anyChar
  /-- The character itself. -/
  | char (c : Char)

namespace LikePart

/-- What a character stands for if it is not escaped. -/
def ofChar : Char → LikePart
  | '%' => anyText
  | '_' => anyChar
  | c => char c

/-- The parts of a pattern with an escape character, if there is one. It must not stand last. -/
def parse? (escape : Option Char) : List Char → Option (List LikePart)
  | [] => some []
  | [c] => if escape = some c then none else some [ofChar c]
  | c :: d :: cs =>
    if escape = some c then (parse? escape cs).map (char d :: ·)
    else (parse? escape (d :: cs)).map (ofChar c :: ·)

/-- Whether parts match a text. -/
def run : List LikePart → List Char → Bool
  | [], t => t.isEmpty
  | anyText :: ps, t => t.tails.any (run ps)
  | anyChar :: _, [] => false
  | anyChar :: ps, _ :: t => run ps t
  | char _ :: _, [] => false
  | char c :: ps, d :: t => c == d && run ps t

/-- A character without a meaning of its own stands for itself. -/
theorem ofChar_eq_char {c : Char} (h : Lookup.isPatternMark c = false) : ofChar c = char c := by
  unfold ofChar
  split
  · cases h
  · cases h
  · rfl

/-- A character that is not the escape is taken as it is. -/
theorem parse?_cons {escape : Option Char} {c : Char} (h : escape ≠ some c) (cs : List Char) :
    parse? escape (c :: cs) = (parse? escape cs).map (ofChar c :: ·) := by
  cases cs with
  | nil => exact if_neg h
  | cons d cs => rw [parse?, if_neg h]

/-- A text is escaped into parts that stand for its characters, whatever follows it. -/
theorem parse?_escapeLike_append (s rest : List Char) :
    parse? (some '\\') (Lookup.escapeLike s ++ rest) =
      (parse? (some '\\') rest).map (s.map char ++ ·) := by
  rw [Lookup.escapeLike]
  induction s with
  | nil => simp
  | cons c s ih =>
    rw [List.flatMap_cons, List.append_assoc]
    cases hc : Lookup.isPatternMark c with
    | true =>
      rw [if_pos rfl, List.cons_append, List.cons_append, parse?, if_pos rfl, List.nil_append, ih,
        Option.map_map]
      rfl
    | false =>
      have hescape : some '\\' ≠ some c := by
        rintro ⟨⟩
        cases hc
      rw [if_neg Bool.false_ne_true, List.cons_append, parse?_cons hescape, ofChar_eq_char hc,
        List.nil_append, ih, Option.map_map]
      rfl

/-- Any text is passed over, down to an end that the rest matches. -/
theorem run_anyText_iff {ps : List LikePart} {t : List Char} :
    run (anyText :: ps) t = true ↔ ∃ u, u <:+ t ∧ run ps u = true := by
  simp only [run, List.any_eq_true, List.mem_tails]

/-- Characters match themselves, and the parts behind them match the rest. -/
theorem run_map_char_append (s : List Char) (ps : List LikePart) (t : List Char) :
    run (s.map char ++ ps) t = true ↔ ∃ u, s ++ u = t ∧ run ps u = true := by
  induction s generalizing t with
  | nil => simp
  | cons c s ih =>
    cases t with
    | nil => simp [run]
    | cons d t =>
      rw [List.map_cons, List.cons_append, run, Bool.and_eq_true, ih, beq_iff_eq]
      simp only [List.cons_append, List.cons.injEq, and_assoc, exists_and_left]

/-- At its end a pattern matches nothing more. -/
theorem run_nil_iff {t : List Char} : run [] t = true ↔ t = [] :=
  List.isEmpty_iff

/-- A wildcard at the end matches whatever is left. -/
theorem run_anyText (t : List Char) : run [anyText] t = true :=
  run_anyText_iff.2 ⟨[], List.nil_suffix, rfl⟩

end LikePart

/-- Whether a pattern with an escape character, if there is one, matches a text. -/
def likes (escape : Option Char) (pattern t : List Char) : Bool :=
  (LikePart.parse? escape pattern).any (LikePart.run · t)

namespace LikeMatch

open LikePart

/-- The texts that have `s` at the place that is asked for. -/
def Admits : LikeMatch → (s t : List Char) → Prop
  | contains, s, t => s <:+: t
  | startsWith, s, t => s <+: t
  | endsWith, s, t => s <:+ t

/-- A text between wildcards. -/
def parts (s : List Char) : LikeMatch → List LikePart
  | contains => anyText :: (s.map char ++ [anyText])
  | startsWith => s.map char ++ [anyText]
  | endsWith => anyText :: (s.map char ++ [])

/-- The wildcards around an escaped text are the only ones of the pattern. -/
theorem parse?_pattern (kind : LikeMatch) (s : List Char) :
    parse? (some '\\') (kind.pattern (Lookup.escapeLike s)) = some (kind.parts s) := by
  have hpercent : some '\\' ≠ some '%' := by decide
  have hend : Lookup.escapeLike s = Lookup.escapeLike s ++ [] := (List.append_nil _).symm
  cases kind with
  | contains =>
    rw [pattern, List.cons_append, parse?_cons hpercent, parse?_escapeLike_append]
    rfl
  | startsWith =>
    rw [pattern, parse?_escapeLike_append]
    rfl
  | endsWith =>
    rw [pattern, parse?_cons hpercent, hend, parse?_escapeLike_append]
    rfl

/-- The parts of a pattern match what the kind of the search admits. -/
theorem run_parts_iff (kind : LikeMatch) (s t : List Char) :
    run (kind.parts s) t = true ↔ kind.Admits s t := by
  have hleading (u : List Char) : run (s.map char ++ [anyText]) u = true ↔ s <+: u := by
    rw [run_map_char_append]
    exact exists_congr fun v => and_iff_left (run_anyText v)
  have hwhole (u : List Char) : run (s.map char ++ []) u = true ↔ s = u := by
    rw [run_map_char_append]
    simp only [run_nil_iff, exists_eq_right, List.append_nil]
  cases kind with
  | startsWith => exact hleading t
  | contains =>
    rw [parts, run_anyText_iff, Admits, List.infix_iff_prefix_suffix]
    simp only [hleading, and_comm]
  | endsWith =>
    rw [parts, run_anyText_iff, Admits]
    simp only [hwhole, exists_eq_right']

/-- The pattern of a text matches the texts that have it at the place that is asked for. -/
theorem likes_pattern_iff (kind : LikeMatch) (s t : List Char) :
    likes (some '\\') (kind.pattern (Lookup.escapeLike s)) t = true ↔ kind.Admits s t := by
  rw [likes, parse?_pattern, Option.any_some, run_parts_iff]

/-- The name of a lookup with regard to letter case or without it. -/
def lookupName (kind : LikeMatch) (anyCase : Bool) : String :=
  (if anyCase then "i" else "") ++
    match kind with
    | contains => "contains"
    | startsWith => "startswith"
    | endsWith => "endswith"

end LikeMatch

/-! ## Patterns in statements -/

namespace Dialect

/-- The escape character of a pattern where the statement names none. -/
def defaultEscape : Dialect → Option Char
  | .sqlite => none
  | _ => some '\\'

/-- The escape character that is named behind a pattern, which has to be a single one, and what
follows. -/
def readEscape? (d : Dialect) (cs : List Char) : Option (Option Char × List Char) :=
  match Text.after? " ESCAPE ".toList cs with
  | none => some (d.defaultEscape, cs)
  | some cs =>
    match d.lexeme? cs with
    | some (.string [c], rest) => some (some c, rest)
    | _ => none

/-- Text that goes on neither with a string nor with an escape character. -/
def EndsPattern (rest : List Char) : Prop :=
  rest.head? ≠ some '\'' ∧ Text.after? " ESCAPE ".toList rest = none

/-- No string goes on behind a pattern. -/
theorem EndsPattern.head?_ne_quote {rest : List Char} (h : EndsPattern rest) (d : Dialect) :
    (d.likeEscape.toList ++ rest).head? ≠ some '\'' := by
  cases d with
  | mySql | postgreSql => exact h.1
  | sqlite => nofun

/-- Whether letter case is left out of account by putting both sides in lower case. -/
def lowers (d : Dialect) (anyCase : Bool) : Bool :=
  anyCase && d ≠ .postgreSql

/-- What is compared with a pattern. -/
def likeSubject (d : Dialect) (anyCase : Bool) (field : String) : String :=
  if d.lowers anyCase then "LOWER(" ++ field ++ ")" else field

/-- The operator in front of a pattern. -/
def likeOperator (d : Dialect) (anyCase : Bool) : String :=
  match d, anyCase with
  | .mySql, false => "LIKE BINARY"
  | .postgreSql, true => "ILIKE"
  | _, _ => "LIKE"

/-- The text that is looked for. -/
def sought (d : Dialect) (anyCase : Bool) (s : String) : String :=
  if d.lowers anyCase then Text.lowerCase s else s

/-- The backslash is the escape character in every dialect. -/
theorem readEscape?_likeEscape (d : Dialect) {rest : List Char} (h : EndsPattern rest) :
    d.readEscape? (d.likeEscape.toList ++ rest) = some (some '\\', rest) := by
  obtain ⟨hquote, hescape⟩ := h
  cases d with
  | mySql | postgreSql =>
    rw [likeEscape, String.toList_empty, List.nil_append, readEscape?, hescape]
    · rfl
    · nofun
  | sqlite =>
    have hclause : Text.after? " ESCAPE ".toList (sqlite.likeEscape.toList ++ rest) =
        some ('\'' :: (sqlite.escapeChars ['\\'] ++ '\'' :: rest)) :=
      Text.after?_eq_some_iff.2 rfl
    rw [readEscape?, hclause]
    simp only [lexeme?_escapeChars sqlite ['\\'] hquote]

end Dialect

/-- What `like` writes for a value that has a plain text. -/
theorem Lookup.like_of_plain? (name operator lhs : String) (kind : LikeMatch) (lower : Bool)
    (ctx : LookupContext) {v : Value} {s : String} (hv : v.plain? = some s) :
    like name operator kind lower ctx lhs (.value v) =
      .text (lhs ++ " " ++ operator ++ " ") ++ ctx.value (likePattern kind lower s) ++
        .text ctx.adapter.dialect.likeEscape := by
  have hplain : (Comparand.value v).value?.bind Value.plain? = some s := hv
  rw [like, hplain]

/-- The dialect decides how letter case is left out of account. -/
theorem Lookup.matching_eq_like (a : Adapter) (anyCase : Bool) (name : String) (kind : LikeMatch)
    (field : String) (c : Comparand) :
    (if anyCase then matchingAnyCase else matching) name kind a.context field c =
      like name (a.dialect.likeOperator anyCase) kind (a.dialect.lowers anyCase) a.context
        (a.dialect.likeSubject anyCase field) c := by
  obtain ⟨dialect, _⟩ := a
  cases dialect <;> cases anyCase <;> rfl

/-- A leaf that looks for the text of a value is a comparison with the pattern of that text. -/
theorem Test.rendering_like {a : Adapter} (ha : a.lookups = Lookup.standard) (field : String)
    (kind : LikeMatch) (anyCase : Bool) {v : Value} {s : String} (hv : v.plain? = some s) :
    Test.rendering a ⟨field, some (kind.lookupName anyCase), .value v⟩ =
      .text (a.dialect.likeSubject anyCase (a.quoteColumn field) ++ " " ++
          a.dialect.likeOperator anyCase ++ " ") ++
        a.value (Lookup.likePattern kind (a.dialect.lowers anyCase) s) ++
        .text a.dialect.likeEscape := by
  have hfound : Lookup.standard.get? (kind.lookupName anyCase) =
      some ((if anyCase then Lookup.matchingAnyCase else Lookup.matching)
        (kind.lookupName anyCase) kind) := by
    cases anyCase <;> cases kind <;> rfl
  rw [Test.rendering, Option.getD_some, ha, hfound]
  exact (Lookup.matching_eq_like a anyCase _ kind _ _).trans (Lookup.like_of_plain? _ _ _ _ _ _ hv)

namespace Rendering

/-- A value between two texts, with a placeholder for it. -/
theorem boundText_between (a : Adapter) (front behind : String) (v : Value) :
    (text front ++ a.value v ++ text behind).boundText =
      .ok (front ++ a.dialect.placeholder 1 ++ behind, [v]) := by
  have hwrite : (text front ++ a.value v ++ text behind).write .bound =
      (.ok (front ++ a.dialect.placeholder 1 ++ behind), ⟨.bound, [v]⟩) := by
    rw [write_append_text_eq, write_text_append_eq]
    rfl
  exact boundText_of_ok hwrite

/-- A value between two texts, with its literal. -/
theorem inlineText_between (a : Adapter) (front behind : String) (v : Value) :
    (text front ++ a.value v ++ text behind).inlineText =
      .ok (front ++ a.quoteValue v ++ behind) := by
  rw [inlineText, write_append_text_eq, write_text_append_eq]
  rfl

end Rendering

/-- The lookups that look for a text at a place find it there and nothing else. Their pattern is
bound, or stands in a literal that is read as the pattern; either way the backslash is its escape
character, and it matches the texts that have the plain text of the value at that place. Where the
field is put in lower case, so is the plain text. -/
theorem Test.like_finds {a : Adapter} (ha : a.lookups = Lookup.standard) (field : String)
    (kind : LikeMatch) (anyCase : Bool) {v : Value} {s : String} (hv : v.plain? = some s) :
    let leaf := Test.rendering a ⟨field, some (kind.lookupName anyCase), .value v⟩
    let lead := a.dialect.likeSubject anyCase (a.quoteColumn field) ++ " " ++
      a.dialect.likeOperator anyCase ++ " "
    let clause := a.dialect.likeEscape
    ∃ pattern,
      leaf.boundText = .ok (lead ++ a.dialect.placeholder 1 ++ clause, [.text pattern]) ∧
      leaf.inlineText = .ok (lead ++ a.quoteString pattern ++ clause) ∧
      (∀ rest, Dialect.EndsPattern rest →
        a.dialect.readEscape? (clause.toList ++ rest) = some (some '\\', rest) ∧
        ((∀ s, a.quoteString s = a.dialect.stringLiteral s) →
          a.dialect.readText? ((a.quoteString pattern).toList ++ (clause.toList ++ rest)) =
            some (pattern, clause.toList ++ rest))) ∧
      ∀ t, likes (some '\\') pattern.toList t = true ↔
        kind.Admits (a.dialect.sought anyCase s).toList t := by
  intro leaf lead clause
  have hleaf : leaf = _ := Test.rendering_like ha field kind anyCase hv
  refine ⟨String.ofList (kind.pattern (Lookup.escapeLike (a.dialect.sought anyCase s).toList)),
    ?_, ?_, fun rest hrest => ⟨a.dialect.readEscape?_likeEscape hrest, fun hquote => ?_⟩,
    fun t => ?_⟩
  · rw [hleaf]
    exact Rendering.boundText_between a lead clause _
  · rw [hleaf]
    exact Rendering.inlineText_between a lead clause _
  · rw [hquote]
    exact a.dialect.readText?_stringLiteral _ (hrest.head?_ne_quote a.dialect)
  · rw [String.toList_ofList]
    exact kind.likes_pattern_iff _ t

/-- Of a text with a wildcard and a quote, in SQLite and in front of a parenthesis. -/
theorem Test.like_finds_sqlite :
    let a := Adapter.ofDialect .sqlite "" none
    ∃ pattern rest, rest = " ESCAPE '\\')".toList ∧
      a.dialect.readText? ((a.quoteString pattern).toList ++ rest) = some (pattern, rest) ∧
      a.dialect.readEscape? rest = some (some '\\', [')']) ∧
      likes (some '\\') pattern.toList "at 5%'s".toList = true ∧
      ¬ likes (some '\\') pattern.toList "at 50%'s".toList = true := by
  intro a
  obtain ⟨pattern, -, -, hread, hlikes⟩ :=
    Test.like_finds (a := a) rfl "rate" .contains false (v := .text "5%'") rfl
  obtain ⟨hescape, hliteral⟩ := hread [')'] ⟨by decide, by decide⟩
  have hrest : Dialect.sqlite.likeEscape.toList ++ [')'] = " ESCAPE '\\')".toList := by decide
  refine ⟨pattern, _, hrest, hliteral fun _ => rfl, hescape, (hlikes _).2 ?_, fun h => ?_⟩
  · exact ⟨"at ".toList, ['s'], by decide⟩
  · have hfound : "5%'".toList <:+: "at 50%'s".toList := (hlikes _).1 h
    exact absurd hfound (by decide)

end SqlCompose
