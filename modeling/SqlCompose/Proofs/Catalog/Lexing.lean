import SqlCompose.Catalog.Folding
import SqlCompose.Proofs.Literal.Reading

/-!
# Reading queries

How a database takes the text of a query apart (`Dialect.lex?`): into string literals, quoted names,
and the text in front of them and behind each of them. Outside of quotes only such characters are
accepted as cannot begin a comment or another way of quoting, and quotes do not begin right behind a
word or another quoted part.

A query that is written as text with literals and quoted names is read as that, if there is no
backslash in a string where it has a meaning (`Dialect.QueryParts.lex?_written`).
-/

namespace SqlCompose

namespace Text

/-- The content of a quoted name behind its first quote, and what follows its last one, which is the
first that is not written twice. -/
def undoubled? (quote : Char) : List Char → Option (List Char × List Char)
  | [] => none
  | [c] => if c = quote then some ([], []) else none
  | c :: d :: cs =>
    if c = quote then
      if d = quote then (undoubled? quote cs).map fun (content, rest) => (quote :: content, rest)
      else some ([], d :: cs)
    else (undoubled? quote (d :: cs)).map fun (content, rest) => (c :: content, rest)

/-- A text without the character stays as it is. -/
theorem doubled_eq_self {c : Char} {cs : List Char} (h : c ∉ cs) : doubled c cs = cs :=
  replaceChar_eq_self h

/-- A doubled content is read as it was, up to a quote that is not written twice. -/
theorem undoubled?_doubled (quote : Char) (cs : List Char) {rest : List Char}
    (hrest : rest.head? ≠ some quote) :
    undoubled? quote (doubled quote cs ++ quote :: rest) = some (cs, rest) := by
  rw [doubled, replaceChar]
  induction cs with
  | nil =>
    cases rest with
    | nil => exact if_pos rfl
    | cons c rest =>
      have hc : c ≠ quote := fun h => hrest (congrArg some h)
      rw [List.flatMap_nil, List.nil_append, undoubled?, if_pos rfl, if_neg hc]
  | cons c cs ih =>
    rw [List.flatMap_cons, List.append_assoc]
    by_cases hc : c = quote
    · subst hc
      rw [if_pos rfl, List.cons_append, List.cons_append, List.nil_append, undoubled?, if_pos rfl,
        if_pos rfl, ih]
      rfl
    · obtain ⟨d, ds, hds⟩ : ∃ d ds, (cs.flatMap fun x => if x = quote then [quote, quote] else [x]) ++
          quote :: rest = d :: ds :=
        List.exists_cons_of_ne_nil (by simp)
      rw [if_neg hc, List.singleton_append, hds, undoubled?, if_neg hc, ← hds, ih]
      rfl

/-- What is left behind a quote is shorter. -/
theorem undoubled?_length {quote : Char} {cs content rest : List Char}
    (h : undoubled? quote cs = some (content, rest)) : rest.length < cs.length := by
  fun_induction undoubled? quote cs generalizing content with
  | case1 => cases h
  | case2 => cases h; exact Nat.one_pos
  | case3 => cases h
  | case4 cs ih | case6 _ _ cs _ ih =>
    obtain ⟨⟨content', rest'⟩, hread, heq⟩ := Option.map_eq_some_iff.1 h
    cases heq
    have hrest := ih hread
    grind
  | case5 => cases h; exact Nat.lt_succ_self _

end Text

namespace Dialect

/-- What is left behind a string is shorter. -/
theorem content?_length {d : Dialect} {cs content rest : List Char}
    (h : d.content? cs = some (content, rest)) : rest.length < cs.length := by
  fun_induction content? d cs generalizing content with
  | case1 => cases h
  | case3 => cases h; exact Nat.lt_succ_self _
  | _ =>
    obtain ⟨⟨content', rest'⟩, hread, heq⟩ := Option.map_eq_some_iff.1 h
    cases heq
    grind

/-! ## The parts of a query -/

/-- What stands in quotes. -/
inductive Quoted where
  /-- A string. -/
  | text (content : String)
  /-- A name. -/
  | name (content : String)
  deriving DecidableEq

/-- What is quoted behind a quote, and what follows it. -/
def quoted? (d : Dialect) (quote : Char) (cs : List Char) : Option (Quoted × List Char) :=
  if quote = '\'' then
    (d.content? cs).map fun (content, rest) => (.text (String.ofList content), rest)
  else (Text.undoubled? quote cs).map fun (content, rest) => (.name (String.ofList content), rest)

/-- What is left behind quoted text is shorter. -/
theorem quoted?_length {d : Dialect} {quote : Char} {cs rest : List Char} {q : Quoted}
    (h : d.quoted? quote cs = some (q, rest)) : rest.length < cs.length := by
  unfold quoted? at h
  split at h
  all_goals
    obtain ⟨⟨content, rest'⟩, hread, heq⟩ := Option.map_eq_some_iff.1 h
    cases heq
  · exact content?_length hread
  · exact Text.undoubled?_length hread

/-- Characters of words. -/
def isWordMark (c : Char) : Bool :=
  c.isAlphanum || c == '_'

/-- Characters that stand for themselves outside of quotes. Brackets are quotes to others than
PostgreSQL. -/
def isBare (d : Dialect) (c : Char) : Bool :=
  isWordMark c || [' ', '(', ')', '*', ',', '.', ':', '='].contains c ||
    d = .postgreSql && ['[', ']'].contains c

/-- A query: the text in front of all that is quoted, and what is quoted with the text behind
each. -/
structure QueryParts where
  front : String
  quoted : List (Quoted × String)
  deriving DecidableEq

namespace QueryParts

/-- With more text at the front. -/
def behind (text : String) (p : QueryParts) : QueryParts :=
  ⟨text ++ p.front, p.quoted⟩

/-- With something quoted at the front. -/
def behindQuoted (q : Quoted) (p : QueryParts) : QueryParts :=
  ⟨"", (q, p.front) :: p.quoted⟩

theorem behind_empty (p : QueryParts) : p.behind "" = p := by
  rw [behind, String.empty_append]

/-- Texts in front of a query are put together. -/
theorem behind_behind (s t : String) (p : QueryParts) :
    (p.behind t).behind s = p.behind (s ++ t) := by
  rw [behind, behind, behind, String.append_assoc]

end QueryParts

/-- The parts of a text, which may be `glued` to something that a quote must not follow. -/
def lex? (d : Dialect) (glued : Bool) : List Char → Option QueryParts
  | [] => some ⟨"", []⟩
  | c :: cs =>
    if c = '\'' ∨ c = d.quoteChar then
      if glued then none
      else
        match _h : d.quoted? c cs with
        | none => none
        | some (q, rest) => (lex? d true rest).map (·.behindQuoted q)
    else if d.isBare c then (lex? d (isWordMark c) cs).map (·.behind (String.ofList [c]))
    else none
termination_by cs => cs.length
decreasing_by
  · exact Nat.lt_succ_of_lt (quoted?_length _h)
  · exact Nat.lt_succ_self _

/-- Whether a quote must not follow a text behind what is `glued` or not. -/
def gluedBy (glued : Bool) (cs : List Char) : Bool :=
  cs.foldl (fun _ c => isWordMark c) glued

/-- Bare text has no quotes in it. -/
theorem not_quote_of_isBare {d : Dialect} {c : Char} (h : d.isBare c = true) :
    ¬ (c = '\'' ∨ c = d.quoteChar) := by
  rintro (rfl | rfl)
  · cases d <;> cases h
  · cases d <;> cases h

/-- Text without quotes is read as it is, whatever follows it. -/
theorem lex?_append (d : Dialect) (glued : Bool) {cs : List Char} (h : cs.all d.isBare = true)
    (rest : List Char) :
    d.lex? glued (cs ++ rest) =
      (d.lex? (gluedBy glued cs) rest).map (·.behind (String.ofList cs)) := by
  induction cs generalizing glued with
  | nil => simp [QueryParts.behind_empty, gluedBy]
  | cons c cs ih =>
    rw [List.all_cons, Bool.and_eq_true] at h
    obtain ⟨hc, hcs⟩ := h
    have hcons : String.ofList (c :: cs) = String.ofList [c] ++ String.ofList cs := by
      rw [← String.ofList_append, List.singleton_append]
    rw [List.cons_append, lex?, if_neg (not_quote_of_isBare hc), if_pos hc, ih _ hcs,
      Option.map_map, hcons]
    congr 1
    funext p
    exact p.behind_behind _ _

/-- Text that is read as it is. -/
def Bare (d : Dialect) (s : String) : Prop :=
  s.toList.all d.isBare = true

/-- Text that is read as it is, and that a quote may follow. -/
def Opens (d : Dialect) (s : String) : Prop :=
  d.Bare s ∧ gluedBy true s.toList = false

section
variable {d : Dialect} {s t : String}

-- The characters of a literal text are found by unification, which is faster than taking it apart.
/-- A text of bare characters is bare. -/
theorem Bare.ofList (cs : List Char) (h : cs.all d.isBare = true) : d.Bare (String.ofList cs) := by
  rwa [Bare, String.toList_ofList]

/-- A text of bare characters may stand in front of a quote if it does not end in a word. -/
theorem Opens.ofList (cs : List Char) (h : cs.all d.isBare = true) (hcs : gluedBy true cs = false) :
    d.Opens (String.ofList cs) := by
  rw [Opens, String.toList_ofList]
  exact ⟨.ofList cs h, hcs⟩

/-- Bare texts may be put together. -/
theorem Bare.append (hs : d.Bare s) (ht : d.Bare t) : d.Bare (s ++ t) := by
  rw [Bare, String.toList_append, List.all_append, hs, ht]
  rfl

/-- Whether a quote may follow depends on nothing in front of such a text. -/
theorem Opens.gluedBy_eq (h : d.Opens s) (glued : Bool) :
    gluedBy glued s.toList = false := by
  obtain ⟨-, h⟩ := h
  cases hs : s.toList with
  | nil => rw [hs] at h; cases h
  | cons c cs => rwa [hs] at h

/-- Whether a quote may follow is decided at the end. -/
theorem Opens.append (hs : d.Bare s) (ht : d.Opens t) : d.Opens (s ++ t) := by
  refine ⟨hs.append ht.1, ?_⟩
  rw [String.toList_append, gluedBy, List.foldl_append]
  exact ht.gluedBy_eq _

/-- Bare text is read as nothing else. -/
theorem lex?_of_bare (glued : Bool) (h : d.Bare s) :
    d.lex? glued s.toList = some ⟨s, []⟩ := by
  have happend := d.lex?_append glued h []
  rwa [List.append_nil, lex?, Option.map_some, QueryParts.behind, String.append_empty,
    String.ofList_toList] at happend

end

/-- What is quoted is read where it does not follow a word. -/
theorem lex?_quoted {d : Dialect} {quote : Char} (hquote : quote = '\'' ∨ quote = d.quoteChar)
    {cs rest : List Char} {q : Quoted} (h : d.quoted? quote cs = some (q, rest)) :
    d.lex? false (quote :: cs) = (d.lex? true rest).map (·.behindQuoted q) := by
  rw [lex?, if_pos hquote, if_neg Bool.false_ne_true]
  split
  · rw [h] at *
    contradiction
  · rename_i hread
    cases h.symm.trans hread
    rfl

/-- A string that is not closed is not read. -/
theorem lex?_eq_none {d : Dialect} {cs : List Char} (h : d.content? cs = none) :
    d.lex? false ('\'' :: cs) = none := by
  have hquoted : d.quoted? '\'' cs = none := by rw [quoted?, if_pos rfl, h]; rfl
  rw [lex?, if_pos (.inl rfl), if_neg Bool.false_ne_true]
  split
  · rfl
  · rename_i hread
    cases hquoted.symm.trans hread

/-! ## Queries are read as they are written -/

open Catalog

/-- Without backslashes that have a meaning, escaping doubles quotes only. -/
theorem escapeChars_eq_doubled {d : Dialect} {cs : List Char}
    (h : d.hasBackslash = true → '\\' ∉ cs) : d.escapeChars cs = Text.doubled '\'' cs := by
  cases d with
  | mySql => rw [escapeChars, Text.doubled_eq_self (h rfl)]
  | postgreSql | sqlite => rfl

namespace Quoted

/-- A literal or a quoted name. -/
def written (d : Dialect) : Quoted → String
  | text s => literal s
  | name s => inQuotes d.quoteChar s

/-- What is read as it was written: names, and strings without backslashes that have a meaning. -/
def Safe (d : Dialect) : Quoted → Prop
  | text s => d.hasBackslash = true → '\\' ∉ s.toList
  | name _ => True

/-- Where the backslash has no meaning, every string is read as it was written. -/
theorem safe_of_hasBackslash {d : Dialect} (hd : d.hasBackslash = false) (q : Quoted) :
    q.Safe d := by
  cases q with
  | text s => exact fun h => absurd (hd.symm.trans h) Bool.false_ne_true
  | name _ => trivial

/-- A literal or a quoted name is read as what it was written for. -/
theorem lex?_written {d : Dialect} {q : Quoted} (hq : q.Safe d) {rest : List Char}
    (hrest : ∀ c, rest.head? = some c → ¬ (c = '\'' ∨ c = d.quoteChar)) :
    d.lex? false ((q.written d).toList ++ rest) = (d.lex? true rest).map (·.behindQuoted q) := by
  cases q with
  | text s =>
    have hchars : (literal s).toList ++ rest =
        '\'' :: (d.escapeChars s.toList ++ '\'' :: rest) := by
      rw [escapeChars_eq_doubled hq]
      simp [literal, inQuotes, String.toList_ofList]
    have hcontent := d.content?_escapeChars s.toList fun h => hrest _ h (.inl rfl)
    rw [written, hchars]
    refine lex?_quoted (.inl rfl) ?_
    rw [quoted?, if_pos rfl, hcontent]
    exact congrArg (fun s => some (text s, rest)) String.ofList_toList
  | name s =>
    have hchars : (inQuotes d.quoteChar s).toList ++ rest =
        d.quoteChar :: (Text.doubled d.quoteChar s.toList ++ d.quoteChar :: rest) := by
      simp [inQuotes, String.toList_ofList]
    have hcontent := Text.undoubled?_doubled d.quoteChar s.toList fun h => hrest _ h (.inr rfl)
    have hname : d.quoteChar ≠ '\'' := by cases d <;> decide
    rw [written, hchars]
    refine lex?_quoted (.inr rfl) ?_
    rw [quoted?, if_neg hname, hcontent]
    exact congrArg (fun s => some (name s, rest)) String.ofList_toList

end Quoted

namespace QueryParts

/-- The text of a query. -/
def written (d : Dialect) (p : QueryParts) : String :=
  p.quoted.foldl (fun text (q, behind) => text ++ q.written d ++ behind) p.front

/-- Texts outside of quotes that are read as they are, with something quoted between neighbours. -/
def Spaced (d : Dialect) : List String → Prop
  | [] => True
  | [text] => d.Bare text
  | text :: texts => d.Opens text ∧ Spaced d texts

/-- Text in front is written in front. -/
theorem written_append (d : Dialect) (s t : String) (qs : List (Quoted × String)) :
    written d ⟨s ++ t, qs⟩ = s ++ written d ⟨t, qs⟩ := by
  induction qs generalizing t with
  | nil => rfl
  | cons q qs ih =>
    have hassoc : s ++ t ++ q.1.written d ++ q.2 = s ++ (t ++ q.1.written d ++ q.2) := by
      rw [String.append_assoc, String.append_assoc, String.append_assoc]
    exact (congrArg (fun text => written d ⟨text, qs⟩) hassoc).trans (ih _)

/-- A quoted part is written between the texts around it. -/
theorem written_cons (d : Dialect) (front behind : String) (q : Quoted)
    (qs : List (Quoted × String)) :
    written d ⟨front, (q, behind) :: qs⟩ = front ++ (q.written d ++ written d ⟨behind, qs⟩) := by
  rw [← String.append_assoc, ← written_append]
  rfl

/-- No quote follows another one directly. -/
theorem not_quote_of_spaced {d : Dialect} {front : String} {qs : List (Quoted × String)}
    (h : Spaced d (front :: qs.map (·.2))) (c : Char)
    (hc : (written d ⟨front, qs⟩).toList.head? = some c) : ¬ (c = '\'' ∨ c = d.quoteChar) := by
  suffices hfront : d.Bare front ∧ c ∈ front.toList from
    not_quote_of_isBare (List.all_eq_true.1 hfront.1 c hfront.2)
  cases qs with
  | nil => exact ⟨h, List.mem_of_mem_head? hc⟩
  | cons q qs =>
    obtain ⟨hopens, -⟩ := h
    refine ⟨hopens.1, ?_⟩
    obtain ⟨q, behind⟩ := q
    rw [written_cons, String.toList_append] at hc
    cases hfront : front.toList with
    | nil =>
      have hglued := hopens.2
      rw [hfront] at hglued
      cases hglued
    | cons x xs =>
      rw [hfront] at hc
      cases hc
      exact List.mem_cons_self

/-- A query is read as it was written. -/
theorem lex?_written {d : Dialect} (glued : Bool) {p : QueryParts} {text : String}
    (htext : text = p.written d) (hp : ∀ q ∈ p.quoted, q.1.Safe d)
    (hspaced : Spaced d (p.front :: p.quoted.map (·.2))) : d.lex? glued text.toList = some p := by
  subst htext
  obtain ⟨front, qs⟩ := p
  induction qs generalizing front glued with
  | nil => exact lex?_of_bare glued hspaced
  | cons q qs ih =>
    obtain ⟨q, behind⟩ := q
    obtain ⟨hopens, hbehind⟩ := hspaced
    have hread := ih true behind (fun q hq => hp q (List.mem_cons_of_mem _ hq)) hbehind
    have hquoted := Quoted.lex?_written (hp _ List.mem_cons_self) (not_quote_of_spaced hbehind)
    rw [written_cons, String.toList_append, d.lex?_append glued hopens.1, hopens.gluedBy_eq,
      String.toList_append, hquoted, hread]
    simp [QueryParts.behind, behindQuoted]

/-- So is a text that begins with something quoted. -/
theorem lex?_written_of_front {d : Dialect} {p : QueryParts} {text : String}
    (htext : text = p.written d) (hfront : p.front = "") (hp : ∀ q ∈ p.quoted, q.1.Safe d)
    (hspaced : Spaced d (p.quoted.map (·.2))) : d.lex? false text.toList = some p := by
  subst htext
  obtain ⟨front, qs⟩ := p
  cases hfront
  cases qs with
  | nil => rw [written, List.foldl_nil, String.toList_empty, lex?]
  | cons q qs =>
    obtain ⟨q, behind⟩ := q
    have hread : d.lex? true (written d ⟨behind, qs⟩).toList = some ⟨behind, qs⟩ :=
      lex?_written true rfl (fun q hq => hp q (List.mem_cons_of_mem _ hq)) hspaced
    have hquoted := Quoted.lex?_written (hp _ List.mem_cons_self) (not_quote_of_spaced hspaced)
    rw [written_cons, String.empty_append, String.toList_append, hquoted, hread]
    rfl

end QueryParts

end Dialect

end SqlCompose
