import Mathlib.Data.List.TakeWhile
import SqlCompose.Proofs.Rendering.Writing
import SqlCompose.Query.Render
import SqlCompose.Query.SelectList

/-!
# Texts that are taken as queries

A text may stand for a source or for a column. It is taken as a query in parentheses if it begins with
the word `SELECT` and a space behind it (`isSelectText_iff`), and as a name otherwise. Other blanks
behind the word count for nothing, so a query with a line break there is quoted as if it were a name
(`Adapter.takesAsQuery_iff`).
-/

namespace SqlCompose

open Text

/-- A text begins with the word `SELECT`, in letters of any case and behind any blanks, and the blank
follows it. -/
def OpensSelect (blank : Char) (cs : List Char) : Prop :=
  isBlank blank = true ∧ ∃ before word rest, (∀ c ∈ before, isBlank c = true) ∧
    sameLetters word "SELECT".toList = true ∧ cs = before ++ (word ++ blank :: rest)

/-- The text with an alias behind it, if there is one. -/
def aliasedText (text : String) : Option String → String
  | some name => text ++ " AS " ++ name
  | none => text

namespace Adapter

/-- A text is taken as a query: as a source and as a column, it is written in parentheses, with
nothing but its placeholders expanded, and no values are bound for it. -/
structure TakesAsQuery (a : Adapter) (s : String) : Prop where
  source : Source.ofText s = .raw (trimmed s)
  selected : Selected.ofChars s.toList = .raw (trimmed s)
  sourceText : ∀ aliasName p, ((Source.ofText s).rendering a aliasName).write p =
    (.ok (aliasedText ("(" ++ a.quoteSql (trimmed s) ++ ")") (aliasName.map a.quoteTable)), p)
  columnText : ∀ aliasName p, ((Selected.ofChars s.toList).rendering a aliasName).write p =
    (.ok (aliasedText ("(" ++ a.quoteSql (trimmed s) ++ ")") (aliasName.map a.quoteColumn)), p)

/-- A text is taken as a name: as a source it is written like a table, and as a column like a
column. -/
structure TakesAsName (a : Adapter) (s : String) : Prop where
  source : Source.ofText s = .table (trimmed s)
  selected : Selected.ofChars s.toList = .column (trimmed s)
  sourceText : ∀ aliasName p, ((Source.ofText s).rendering a aliasName).write p =
    (.ok (aliasedText (a.quoteTable (trimmed s)) (aliasName.map a.quoteTable)), p)
  columnText : ∀ aliasName p, ((Selected.ofChars s.toList).rendering a aliasName).write p =
    (.ok (aliasedText (a.quoteColumn (trimmed s)) (aliasName.map a.quoteColumn)), p)

end Adapter

variable {cs word : List Char} {blank : Char}

/-! ## The word at the front -/

/-- Words of the same letters are of one length. -/
theorem length_of_sameLetters {other : List Char} (h : sameLetters word other = true) :
    word.length = other.length := by
  have hlower : word.map Char.toLower = other.map Char.toLower := beq_iff_eq.1 h
  simpa using congrArg List.length hlower

/-- The word holds letters only, and so no blanks. -/
theorem isBlank_of_mem_select (h : sameLetters word "SELECT".toList = true) :
    ∀ c ∈ word, isBlank c = false := by
  intro c hc
  have hmem : c.toLower ∈ "SELECT".toList.map Char.toLower :=
    beq_iff_eq.1 h ▸ List.mem_map_of_mem hc
  have halpha : ∀ d ∈ "SELECT".toList.map Char.toLower, d.isAlpha = true := List.all_eq_true.1 rfl
  refine isBlank_of_isWord (isWord_of_isAlphanum ?_)
  exact Bool.or_eq_true_iff.2 (.inl (isAlpha_of_toLower (halpha _ hmem)))

/-- Behind the blanks at its front, the text begins with the word. -/
theorem opensSelect_iff : OpensSelect blank cs ↔ isBlank blank = true ∧
    ∃ word rest, sameLetters word "SELECT".toList = true ∧ trimStart cs = word ++ blank :: rest := by
  refine and_congr_right fun _ => ⟨?_, ?_⟩
  · rintro ⟨before, word, rest, hbefore, hword, rfl⟩
    refine ⟨word, rest, hword, ?_⟩
    rw [trimStart_append hbefore]
    have hne : word ≠ [] := List.ne_nil_of_length_pos (length_of_sameLetters hword ▸ Nat.succ_pos 5)
    obtain ⟨c, word, rfl⟩ := List.exists_cons_of_ne_nil hne
    refine trimStart_eq_self fun d hd => ?_
    cases hd
    exact isBlank_of_mem_select hword c List.mem_cons_self
  · rintro ⟨word, rest, hword, hcs⟩
    refine ⟨cs.takeWhile isBlank, word, rest, fun _ hc => List.mem_takeWhile_imp hc, hword, ?_⟩
    rw [← hcs, trimStart, List.takeWhile_append_dropWhile]

/-- There is one blank behind the word at most. -/
theorem OpensSelect.unique {blank' : Char} (h : OpensSelect blank cs) (h' : OpensSelect blank' cs) :
    blank = blank' := by
  obtain ⟨-, word, rest, hword, hcs⟩ := opensSelect_iff.1 h
  obtain ⟨-, word', rest', hword', hcs'⟩ := opensSelect_iff.1 h'
  have hlength : word.length = word'.length :=
    (length_of_sameLetters hword).trans (length_of_sameLetters hword').symm
  obtain ⟨-, hbehind⟩ := List.append_inj (hcs.symm.trans hcs') hlength
  exact (List.cons.inj hbehind).1

/-- The test asks for the word and a space. -/
theorem isSelectText_iff : isSelectText cs = true ↔ OpensSelect ' ' cs := by
  rw [opensSelect_iff, isSelectText]
  constructor
  · intro h
    have hlower : ((trimStart cs).take 7).map Char.toLower =
        "SELECT".toList.map Char.toLower ++ [' '] := beq_iff_eq.1 h
    obtain ⟨word, behind, htake, hword, hbehind⟩ := List.map_eq_append_iff.1 hlower
    obtain ⟨c, rfl, hc⟩ := List.map_eq_singleton_iff.1 hbehind
    obtain rfl := eq_of_toLower_eq (by decide) hc
    refine ⟨rfl, word, (trimStart cs).drop 7, beq_iff_eq.2 hword, ?_⟩
    rw [← List.singleton_append, ← List.append_assoc, ← htake, List.take_append_drop]
  · rintro ⟨-, word, rest, hword, hcs⟩
    have hlength : word.length = 6 := length_of_sameLetters hword
    have htake : (trimStart cs).take 7 = word ++ [' '] := by
      rw [hcs, ← List.singleton_append, ← List.append_assoc,
        List.take_left' (by rw [List.length_append, hlength]; rfl)]
    rw [htake]
    have hlower : word.map Char.toLower = "SELECT".toList.map Char.toLower := beq_iff_eq.1 hword
    refine beq_iff_eq.2 ?_
    rw [List.map_append, hlower]
    rfl

/-! ## What is written -/

namespace Adapter

variable {a : Adapter} {p p' : Parameters} {r : Rendering} {text s : String}

/-- An alias stands behind what is written. -/
theorem write_withAlias (h : r.write p = (.ok text, p')) (aliasName : Option String) :
    (withAlias r aliasName).write p = (.ok (aliasedText text aliasName), p') := by
  cases aliasName with
  | none => exact h
  | some name =>
    rw [aliasedText, String.append_assoc]
    exact Rendering.write_append_of_ok h (Rendering.write_text _)

/-- A text that opens with `SELECT` and a space is taken as a query. -/
theorem takesAsQuery (a : Adapter) (h : OpensSelect ' ' s.toList) : a.TakesAsQuery s := by
  have hsource : Source.ofText s = .raw (trimmed s) := if_pos (isSelectText_iff.2 h)
  have hselected : Selected.ofChars s.toList = .raw (trimmed s) := if_pos (isSelectText_iff.2 h)
  refine ⟨hsource, hselected, fun aliasName p => ?_, fun aliasName p => ?_⟩
  · rw [hsource]
    exact write_withAlias (Rendering.write_paren_of_ok (Rendering.write_text _)) _
  · rw [hselected]
    exact write_withAlias (Rendering.write_paren_of_ok (Rendering.write_text _)) _

/-- Any other text is taken as a name. -/
theorem takesAsName (a : Adapter) (h : ¬ OpensSelect ' ' s.toList) : a.TakesAsName s := by
  have hsource : Source.ofText s = .table (trimmed s) :=
    if_neg fun hselect => h (isSelectText_iff.1 hselect)
  have hselected : Selected.ofChars s.toList = .column (trimmed s) :=
    if_neg fun hselect => h (isSelectText_iff.1 hselect)
  refine ⟨hsource, hselected, fun aliasName p => ?_, fun aliasName p => ?_⟩
  · rw [hsource]
    exact write_withAlias (Rendering.write_text _) _
  · rw [hselected]
    exact write_withAlias (Rendering.write_text _) _

/-- No text is taken as both. -/
theorem TakesAsQuery.not_name (h : a.TakesAsQuery s) : ¬ a.TakesAsName s := fun hname => by
  have heq := h.source.symm.trans hname.source
  cases heq

/-- How a text is taken is known from how it opens. -/
theorem takes_iff (a : Adapter) (s : String) :
    (a.TakesAsQuery s ↔ OpensSelect ' ' s.toList) ∧
    (a.TakesAsName s ↔ ¬ OpensSelect ' ' s.toList) := by
  constructor
  · exact ⟨fun h => by_contra fun hnot => h.not_name (a.takesAsName hnot), a.takesAsQuery⟩
  · exact ⟨fun h hopens => (a.takesAsQuery hopens).not_name h, a.takesAsName⟩

/-- A text is taken as a query if it opens with `SELECT` and a space, and as a name if it does not. So
all texts that open with `SELECT` and some blank are taken as queries but those where it is another
blank than a space. -/
theorem takesAsQuery_iff (a : Adapter) (s : String) :
    (a.TakesAsQuery s ↔ OpensSelect ' ' s.toList) ∧
    (a.TakesAsName s ↔ ¬ OpensSelect ' ' s.toList) ∧
    (((∃ blank, OpensSelect blank s.toList) → a.TakesAsQuery s) ↔
      ∀ blank, OpensSelect blank s.toList → blank = ' ') := by
  obtain ⟨hquery, hname⟩ := a.takes_iff s
  refine ⟨hquery, hname, ?_⟩
  rw [hquery]
  constructor
  · intro h blank hblank
    exact hblank.unique (h ⟨blank, hblank⟩)
  · rintro h ⟨blank, hblank⟩
    exact h blank hblank ▸ hblank

/-- Behind `SELECT` and a tab, a query is quoted like the name of a table. -/
theorem not_takesAsQuery_tab :
    let a := Adapter.ofDialect .sqlite "" none
    OpensSelect '\t' "SELECT\tid FROM t".toList ∧
      ¬ a.TakesAsQuery "SELECT\tid FROM t" ∧
      (Source.ofText "SELECT\tid FROM t").rendering a none =
        .text "\x60SELECT\tid FROM t\x60" := by
  intro a
  have hopens : OpensSelect '\t' "SELECT\tid FROM t".toList :=
    ⟨rfl, [], "SELECT".toList, "id FROM t".toList, nofun, rfl, rfl⟩
  refine ⟨hopens, fun htakes => ?_, rfl⟩
  have hspace := hopens.unique ((a.takes_iff _).1.1 htakes)
  cases hspace

end Adapter

end SqlCompose
