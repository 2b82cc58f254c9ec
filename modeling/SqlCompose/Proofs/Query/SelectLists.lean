import Mathlib.Data.List.Basic
import Mathlib.Data.List.TakeWhile
import Mathlib.Tactic.Common
import SqlCompose.Query.Verbs
import SqlCompose.Text.Blank

/-!
# Select lists read back

A text is closed (`SelectList.Closed`) when its quotations end and its parentheses are balanced; a
closed text without commas outside of them is passed over as a whole (`SelectList.parts_append`). So
a list is cut where its entries were joined (`SelectList.parts_append_comma`), and each of them is
read as the expression and the alias that it was written from (`SelectList.Entry.Writes.column_eq`),
whatever commas, quotes and words the expression holds.
-/

namespace SqlCompose

open Text (isBlank isWord trim)

namespace SelectList

/-! ## Closed texts -/

/-- The characters that mean nothing for the cutting of a list. -/
def isPlain (c : Char) : Bool :=
  !(isQuote c || c == '(' || c == ')' || c == ',')

/-- A text of which the quotations end and the parentheses are balanced. The flag tells whether it
may have commas outside of them. -/
inductive Closed : Bool → List Char → Prop
  | nil {commas : Bool} : Closed commas []
  | plain {commas : Bool} {c : Char} {cs : List Char} (hc : isPlain c = true)
      (hcs : Closed commas cs) : Closed commas (c :: cs)
  | comma {cs : List Char} (hcs : Closed true cs) : Closed true (',' :: cs)
  | quoted {commas : Bool} {q : Char} {body cs : List Char} (hq : isQuote q = true)
      (hbody : q ∉ body) (hcs : Closed commas cs) : Closed commas (q :: body ++ q :: cs)
  | group {commas : Bool} {inner cs : List Char} (hinner : Closed true inner)
      (hcs : Closed commas cs) : Closed commas ('(' :: inner ++ ')' :: cs)

namespace Closed

variable {commas : Bool} {x y : List Char}

/-- Closed texts may be put together. -/
theorem append (hx : Closed commas x) (hy : Closed commas y) : Closed commas (x ++ y) := by
  induction hx with
  | nil => exact hy
  | plain hc _ ih => exact (ih hy).plain hc
  | comma _ ih => exact (ih hy).comma
  | quoted hq hbody _ ih =>
    rw [List.append_assoc, List.cons_append]
    exact (ih hy).quoted hq hbody
  | group hinner _ _ ih =>
    rw [List.append_assoc, List.cons_append]
    exact .group hinner (ih hy)

/-- A text without marks is closed. -/
theorem of_isPlain (h : ∀ c ∈ x, isPlain c = true) : Closed commas x := by
  induction x with
  | nil => exact .nil
  | cons c cs ih =>
    obtain ⟨hc, hcs⟩ := List.forall_mem_cons.1 h
    exact (ih hcs).plain hc

end Closed

/-- A class of characters is plain if it has none of the marks. -/
theorem isPlain_of {p : Char → Bool} (hp : ['\'', '"', '\x60', '(', ')', ','].any p = false)
    {c : Char} (h : p c = true) : isPlain c = true := by
  have hne : ∀ mark ∈ ['\'', '"', '\x60', '(', ')', ','], c ≠ mark := by
    rintro _ hmark rfl
    exact List.any_eq_false.1 hp c hmark h
  simp only [List.forall_mem_cons] at hne
  simp [isPlain, isQuote, hne]

/-- No mark is a word character. -/
theorem isPlain_of_isWord {c : Char} (h : isWord c = true) : isPlain c = true :=
  isPlain_of (by decide) h

/-- No mark is a blank. -/
theorem isPlain_of_isBlank {c : Char} (h : isBlank c = true) : isPlain c = true :=
  isPlain_of (by decide) h

/-! ## Cutting at commas -/

/-- A list has at least one part. -/
theorem parts_ne_nil (depth : Nat) (quote : Option Char) (cs : List Char) :
    parts depth quote cs ≠ [] := by
  have hprepend : ∀ (c : Char) (ps : List (List Char)), prepend c ps ≠ [] := fun c ps => by
    cases ps <;> exact List.cons_ne_nil _ _
  cases cs with
  | nil => exact List.cons_ne_nil _ _
  | cons c cs =>
    unfold parts
    split
    · exact hprepend _ _
    · split_ifs
      exacts [hprepend _ _, hprepend _ _, hprepend _ _, List.cons_ne_nil _ _, hprepend _ _]

/-- Characters are put in front of the first part. -/
theorem foldr_prepend_cons (x part : List Char) (others : List (List Char)) :
    x.foldr prepend (part :: others) = (x ++ part) :: others := by
  induction x with
  | nil => rfl
  | cons c x ih => rw [List.foldr_cons, ih, prepend, List.cons_append]

/-- Further parts do not matter to what is put in front. -/
theorem foldr_prepend_append (x : List Char) {ps others : List (List Char)} (h : ps ≠ []) :
    x.foldr prepend (ps ++ others) = x.foldr prepend ps ++ others := by
  obtain ⟨part, ps, rfl⟩ := List.exists_cons_of_ne_nil h
  rw [List.cons_append, foldr_prepend_cons, foldr_prepend_cons, List.cons_append]

/-- A quotation is passed over up to the quote that ends it. -/
theorem parts_quoted {q : Char} {body : List Char} (hbody : q ∉ body) (depth : Nat)
    (rest : List Char) :
    parts depth (some q) (body ++ q :: rest) =
      body.foldr prepend (prepend q (parts depth none rest)) := by
  induction body with
  | nil => simp [parts]
  | cons c body ih =>
    rw [List.mem_cons, not_or] at hbody
    rw [List.cons_append, parts]
    simp only [if_neg (Ne.symm hbody.1), ih hbody.2, List.foldr_cons]

/-- A character without a meaning belongs to the part that it stands in. -/
theorem parts_plain {c : Char} (hc : isPlain c = true) (depth : Nat) (rest : List Char) :
    parts depth none (c :: rest) = prepend c (parts depth none rest) := by
  simp only [isPlain, Bool.not_eq_true', Bool.or_eq_false_iff, beq_eq_false_iff_ne] at hc
  obtain ⟨⟨⟨hquote, hopen⟩, hclose⟩, hcomma⟩ := hc
  simp [parts, hquote, hopen, hclose, hcomma]

/-- A closed text is passed over as a whole, if it has no commas or stands in parentheses. -/
theorem parts_append {commas : Bool} {x : List Char} (hx : Closed commas x) {depth : Nat}
    (hdepth : commas = true → depth ≠ 0) (rest : List Char) :
    parts depth none (x ++ rest) = x.foldr prepend (parts depth none rest) := by
  -- Inside a group the depth is one more, so commas may stand there.
  induction hx generalizing depth rest with
  | nil => rfl
  | plain hc _ ih => rw [List.cons_append, parts_plain hc, ih hdepth, List.foldr_cons]
  | comma _ ih =>
    rw [List.cons_append, List.foldr_cons, ← ih hdepth]
    simp [parts, isQuote, hdepth rfl]
  | @quoted _ q body cs hq hbody _ ih =>
    have hopen : parts depth none (q :: (body ++ q :: (cs ++ rest))) =
        prepend q (parts depth (some q) (body ++ q :: (cs ++ rest))) := by
      rw [parts]
      simp only [if_pos hq]
    rw [List.append_assoc, List.cons_append, List.cons_append, hopen, parts_quoted hbody, ih hdepth]
    simp only [List.foldr_append, List.foldr_cons]
  | @group _ inner cs _ _ ihinner ih =>
    have hopen : parts depth none ('(' :: (inner ++ ')' :: (cs ++ rest))) =
        prepend '(' (parts (depth + 1) none (inner ++ ')' :: (cs ++ rest))) := by
      simp [parts, isQuote]
    have hclose : parts (depth + 1) none (')' :: (cs ++ rest)) =
        prepend ')' (parts depth none (cs ++ rest)) := by
      simp [parts, isQuote]
    rw [List.append_assoc, List.cons_append, List.cons_append, hopen,
      ihinner (fun _ => Nat.succ_ne_zero depth), hclose, ih hdepth]
    simp only [List.foldr_append, List.foldr_cons]

/-- A closed text without commas is its only part. -/
theorem parts_eq_singleton {x : List Char} (hx : Closed false x) : parts 0 none x = [x] := by
  have h : parts 0 none (x ++ []) = x.foldr prepend (parts 0 none []) := parts_append hx nofun []
  rw [List.append_nil] at h
  rw [h, parts, foldr_prepend_cons, List.append_nil]

/-- A comma outside of quotes and parentheses ends a part. -/
theorem parts_comma (rest : List Char) : parts 0 none (',' :: rest) = [] :: parts 0 none rest := by
  simp [parts, isQuote]

/-- A comma behind a closed text cuts. -/
theorem parts_append_comma {commas : Bool} {x : List Char} (hx : Closed commas x) (y : List Char) :
    parts 0 none (x ++ ',' :: y) = parts 0 none x ++ parts 0 none y := by
  -- What is passed over as a whole only goes in front of the first part.
  have hfront : ∀ {front cs : List Char}, Closed false front →
      parts 0 none (cs ++ ',' :: y) = parts 0 none cs ++ parts 0 none y →
      parts 0 none (front ++ cs ++ ',' :: y) = parts 0 none (front ++ cs) ++ parts 0 none y := by
    intro front cs h heq
    rw [List.append_assoc, parts_append h nofun, heq, parts_append h nofun,
      foldr_prepend_append front (parts_ne_nil 0 none cs)]
  induction hx with
  | nil => rw [List.nil_append, parts_comma, parts, List.singleton_append]
  | plain hc _ ih => exact hfront (Closed.nil.plain hc) ih
  | comma _ ih => rw [List.cons_append, parts_comma, ih, parts_comma, List.cons_append]
  | @quoted _ q body _ hq hbody _ ih =>
    rw [List.append_cons (q :: body)]
    exact hfront (Closed.nil.quoted hq hbody) ih
  | @group _ inner _ hinner _ _ ih =>
    rw [List.append_cons ('(' :: inner)]
    exact hfront (.group hinner .nil) ih

/-- A list is cut where its entries were joined. -/
theorem entries_append_comma {commas : Bool} {x : List Char} (hx : Closed commas x)
    (y : List Char) : entries (x ++ ',' :: y) = entries x ++ entries y := by
  rw [entries, parts_append_comma hx, List.map_append, List.filter_append, entries, entries]

/-- Closed parts without commas that are not blank are the entries of the list that they are joined
to. -/
theorem entries_joinWith {parts : List (List Char)}
    (h : ∀ part ∈ parts, trim part ≠ [] ∧ Closed false part) :
    entries (Text.joinWith [','] parts) = parts.map trim := by
  have halone : ∀ part ∈ parts, entries part = [trim part] := fun part hpart => by
    obtain ⟨hne, hclosed⟩ := h part hpart
    rw [entries, parts_eq_singleton hclosed, List.map_singleton,
      List.filter_cons_of_pos (by simp [hne]), List.filter_nil]
  fun_induction Text.joinWith [','] parts with
  | case1 => rfl
  | case2 part => exact halone part List.mem_cons_self
  | case3 part others _ ih =>
    obtain ⟨hpart, hothers⟩ := List.forall_mem_cons.1 h
    rw [List.append_assoc, List.singleton_append, entries_append_comma hpart.2,
      ih hothers fun other hother => halone other (List.mem_cons_of_mem part hother),
      halone part List.mem_cons_self, List.map_cons, List.singleton_append]

/-! ## Aliases -/

/-- The word `AS` in any letter case, the long s included. -/
def IsAs (word : List Char) : Prop :=
  ∃ a s, word = [a, s] ∧ (a = 'a' ∨ a = 'A') ∧ (s = 's' ∨ s = 'S' ∨ s = 'ſ')

/-- The word has no marks in it. -/
theorem IsAs.isPlain {word : List Char} (h : IsAs word) : ∀ c ∈ word, isPlain c = true := by
  obtain ⟨a, s, rfl, ha, hs⟩ := h
  rcases ha with rfl | rfl <;> rcases hs with rfl | rfl | rfl <;> exact List.all_eq_true.1 rfl

/-- One blank or several. -/
def IsGap (cs : List Char) : Prop :=
  cs ≠ [] ∧ ∀ c ∈ cs, isBlank c = true

/-- An expression with an alias behind it: a gap, the word `AS`, another gap and the alias. -/
def IsAliased (expr name cs : List Char) : Prop :=
  ∃ gap word gap', IsGap gap ∧ IsAs word ∧ IsGap gap' ∧
    cs = expr ++ (gap ++ (word ++ (gap' ++ name)))

/-- A text that ends in what may be an alias. -/
def EndsInAlias (cs : List Char) : Prop :=
  ∃ expr name, IsAliased expr name cs ∧ name ≠ [] ∧ ∀ c ∈ name, isAliasChar c = true

/-- The word is taken off the end of a text in any letter case. -/
theorem beforeAs?_eq_some_iff {cs rest : List Char} :
    beforeAs? cs = some rest ↔ ∃ word, IsAs word ∧ cs = word.reverse ++ rest := by
  constructor
  · intro h
    unfold beforeAs? at h
    split at h
    · rename_i s a before
      obtain ⟨hword, ⟨⟩⟩ := Option.ite_none_right_eq_some.1 h
      simp only [Bool.and_eq_true, Bool.or_eq_true, beq_iff_eq] at hword
      exact ⟨[a, s], ⟨a, s, rfl, hword.2, or_assoc.1 hword.1⟩, rfl⟩
    · cases h
  · rintro ⟨_, ⟨a, s, rfl, ha, hs⟩, rfl⟩
    rcases ha with rfl | rfl <;> rcases hs with rfl | rfl | rfl <;> rfl

/-- No character of an alias is a blank. -/
theorem isBlank_of_isAliasChar {c : Char} (h : isAliasChar c = true) : isBlank c = false := by
  simp only [isAliasChar, Bool.or_eq_true, beq_iff_eq] at h
  rcases h with (((h | rfl) | rfl) | rfl) | rfl
  · exact Text.isBlank_of_isWord h
  all_goals rfl

/-- Word characters may stand in an alias. -/
theorem isAliasChar_of_isWord {c : Char} (h : isWord c = true) : isAliasChar c = true := by
  simp [isAliasChar, h]

/-- A stretch of blanks is a gap. -/
theorem isGap_takeWhile {cs : List Char} (h : isBlank (cs.headD 'x') = true) :
    IsGap (cs.takeWhile isBlank).reverse := by
  refine ⟨?_, fun c hc => List.mem_takeWhile_imp (List.mem_reverse.1 hc)⟩
  cases cs with
  | nil => exact absurd h (by decide)
  | cons c cs =>
    have hc : isBlank c = true := h
    rw [List.takeWhile_cons_of_pos hc]
    simp

namespace IsGap

variable {gap : List Char}

/-- A gap begins with a blank. -/
theorem isBlank_headD (h : IsGap gap) (cs : List Char) :
    isBlank ((gap.reverse ++ cs).headD 'x') = true := by
  obtain ⟨last, others, hreverse⟩ := List.exists_cons_of_ne_nil (List.reverse_ne_nil_iff.2 h.1)
  rw [hreverse]
  exact h.2 last (List.mem_reverse.1 (hreverse ▸ List.mem_cons_self))

/-- A gap is trimmed off. -/
theorem trimStart_append (h : IsGap gap) {cs : List Char}
    (hcs : ∀ c ∈ cs.head?, isBlank c = false) : Text.trimStart (gap.reverse ++ cs) = cs :=
  Text.dropWhile_append (fun c hc => h.2 c (List.mem_reverse.1 hc)) hcs

end IsGap

/-- What is cut off an entry as its alias stands behind the word `AS`. -/
theorem isAliased_of_splitAlias? {entry expr name : List Char}
    (h : splitAlias? entry = some (expr, name)) :
    ∃ front, IsAliased front name entry ∧ name ≠ [] ∧ ∀ c ∈ name, isAliasChar c = true := by
  unfold splitAlias? at h
  simp only [Option.bind_eq_bind, Text.drop_takeWhile] at h
  have hentry := List.takeWhile_append_dropWhile (p := fun c => !isBlank c) (l := entry.reverse)
  generalize entry.reverse.takeWhile (fun c => !isBlank c) = word at h hentry
  generalize entry.reverse.dropWhile (fun c => !isBlank c) = behind at h hentry
  obtain ⟨before, hbefore, hif⟩ := Option.bind_eq_some_iff.1 h
  obtain ⟨hfits, heq⟩ := Option.ite_none_right_eq_some.1 hif
  obtain ⟨-, rfl⟩ := Prod.mk.inj (Option.some.inj heq)
  simp only [Bool.and_eq_true, Bool.not_eq_true', List.isEmpty_eq_false_iff, List.all_eq_true]
    at hfits
  obtain ⟨⟨⟨⟨hname, hchars⟩, hbehind⟩, hfront⟩, -⟩ := hfits
  obtain ⟨letters, hletters, htrim⟩ := beforeAs?_eq_some_iff.1 hbefore
  refine ⟨(Text.trimStart before).reverse,
    ⟨_, letters, _, isGap_takeWhile hfront, hletters, isGap_takeWhile hbehind, ?_⟩,
    List.reverse_ne_nil_iff.2 hname, fun c hc => hchars c (List.mem_reverse.1 hc)⟩
  have hblanks : ∀ cs, cs.takeWhile isBlank ++ Text.trimStart cs = cs := fun cs =>
    List.takeWhile_append_dropWhile
  rw [← List.reverse_inj, ← hentry]
  simp only [List.reverse_append, List.reverse_reverse, List.append_assoc]
  rw [hblanks before, ← htrim, hblanks behind]

/-- What stands behind the word `AS` is cut off as the alias, for an alias has no blanks. -/
theorem IsAliased.splitAlias?_eq {expr name entry : List Char} (h : IsAliased expr name entry)
    (hne : expr ≠ []) (hexpr : trim expr = expr) (hname : name ≠ [])
    (hchars : ∀ c ∈ name, isAliasChar c = true) : splitAlias? entry = some (expr, name) := by
  obtain ⟨gap, word, gap', hgap, hword, hgap', rfl⟩ := h
  -- An entry is read from the right, so what stands behind the word `AS` comes first.
  have hreverse : (expr ++ (gap ++ (word ++ (gap' ++ name)))).reverse =
      name.reverse ++ (gap'.reverse ++ (word.reverse ++ (gap.reverse ++ expr.reverse))) := by
    simp
  have hshown : ∀ c ∈ name.reverse, (!isBlank c) = true := fun c hc => by
    rw [isBlank_of_isAliasChar (hchars c (List.mem_reverse.1 hc)), Bool.not_false]
  have hblank : ∀ rest, ∀ c ∈ (gap'.reverse ++ rest).head?, (!isBlank c) = false := fun rest c hc => by
    have hfirst := hgap'.isBlank_headD rest
    rw [List.headD_eq_head?_getD, Option.mem_def.1 hc, Option.getD_some] at hfirst
    rw [hfirst, Bool.not_true]
  have hletters : ∀ rest, ∀ c ∈ (word.reverse ++ rest).head?, isBlank c = false := by
    obtain ⟨a, s, rfl, -, hs⟩ := hword
    rintro rest _ ⟨⟩
    rcases hs with rfl | rfl | rfl <;> rfl
  have hbefore : beforeAs? (word.reverse ++ (gap.reverse ++ expr.reverse)) =
      some (gap.reverse ++ expr.reverse) := beforeAs?_eq_some_iff.2 ⟨word, hword, rfl⟩
  have hlast : ∀ c ∈ expr.reverse.head?, isBlank c = false := by
    rw [List.head?_reverse]
    exact (Text.trim_eq_self_iff.1 hexpr).2
  unfold splitAlias?
  simp only [Option.bind_eq_bind, Text.drop_takeWhile]
  rw [hreverse, Text.takeWhile_append hshown (hblank _), Text.dropWhile_append hshown (hblank _),
    hgap'.trimStart_append (hletters _), hbefore, Option.bind_some, hgap.trimStart_append hlast,
    if_pos, List.reverse_reverse, List.reverse_reverse, hexpr]
  simp only [hgap.isBlank_headD, hgap'.isBlank_headD]
  simpa [hne, hname] using hchars

/-! ## Entries -/

/-- An expression and possibly an alias. -/
structure Entry where
  expr : List Char
  aliasName : Option (List Char)

namespace Entry

/-- The column of an entry. -/
def column (e : Entry) : SelectColumn :=
  ⟨Selected.ofChars e.expr, e.aliasName.map String.ofList⟩

/-- What an entry may be made of: an expression that is closed and has no commas, and an alias that
is a word. An expression without an alias may not end in what would be one. -/
structure WellFormed (e : Entry) : Prop where
  expr_ne_nil : e.expr ≠ []
  trim_expr : trim e.expr = e.expr
  closed : Closed false e.expr
  isWord_alias : ∀ name ∈ e.aliasName, name ≠ [] ∧ ∀ c ∈ name, isWord c = true
  bare : e.aliasName = none → ¬ EndsInAlias e.expr

/-- How an entry may be written, blanks around it left out. -/
inductive Writes : Entry → List Char → Prop
  | bare (expr : List Char) : Writes ⟨expr, none⟩ expr
  | aliased {expr name cs : List Char} (h : IsAliased expr name cs) : Writes ⟨expr, some name⟩ cs

/-- A part of a list that holds an entry, with any blanks around it. -/
def Listed (e : Entry) (part : List Char) : Prop :=
  ∃ before cs behind, e.Writes cs ∧ part = before ++ (cs ++ behind) ∧
    (∀ c ∈ before, isBlank c = true) ∧ ∀ c ∈ behind, isBlank c = true

variable {e : Entry} {cs part : List Char}

/-- An entry is read as the column that it was written from. -/
theorem Writes.column_eq (h : e.Writes cs) (he : e.WellFormed) :
    SelectList.column cs = e.column := by
  cases h with
  | bare =>
    cases hsplit : splitAlias? cs with
    | none => rw [SelectList.column, hsplit, column, Option.map_none]
    | some sides =>
      obtain ⟨front, haliased, hname⟩ := isAliased_of_splitAlias? hsplit
      exact absurd ⟨front, sides.2, haliased, hname⟩ (he.bare rfl)
  | aliased h =>
    obtain ⟨hne, hword⟩ := he.isWord_alias _ rfl
    rw [SelectList.column, h.splitAlias?_eq he.expr_ne_nil he.trim_expr hne
      (fun c hc => isAliasChar_of_isWord (hword c hc)), column, Option.map_some]

/-- What is written of an entry is a closed text without commas, and neither begins nor ends with a
blank. -/
theorem Writes.closed (h : e.Writes cs) (he : e.WellFormed) :
    cs ≠ [] ∧ trim cs = cs ∧ Closed false cs := by
  cases h with
  | bare => exact ⟨he.expr_ne_nil, he.trim_expr, he.closed⟩
  | @aliased expr name _ h =>
    obtain ⟨hne, hword⟩ := he.isWord_alias _ rfl
    obtain ⟨gap, word, gap', hgap, hletters, hgap', rfl⟩ := h
    refine ⟨List.append_ne_nil_of_left_ne_nil he.expr_ne_nil _, Text.trim_eq_self_iff.2 ⟨?_, ?_⟩,
      he.closed.append (.of_isPlain fun c hc => ?_)⟩
    · rw [List.head?_append_of_ne_nil _ he.expr_ne_nil]
      exact (Text.trim_eq_self_iff.1 he.trim_expr).1
    · simp only [← List.append_assoc]
      rw [List.getLast?_append_of_ne_nil _ hne]
      exact fun c hc => Text.isBlank_of_isWord (hword c (List.mem_of_getLast? hc))
    · simp only [List.mem_append] at hc
      rcases hc with hc | hc | hc | hc
      · exact isPlain_of_isBlank (hgap.2 c hc)
      · exact hletters.isPlain c hc
      · exact isPlain_of_isBlank (hgap'.2 c hc)
      · exact isPlain_of_isWord (hword c hc)

/-- A part of a list is read as the entry that it holds. -/
theorem Listed.trim_part (h : e.Listed part) (he : e.WellFormed) :
    trim part ≠ [] ∧ Closed false part ∧ SelectList.column (trim part) = e.column := by
  obtain ⟨before, cs, behind, hcs, rfl, hbefore, hbehind⟩ := h
  obtain ⟨hne, htrim, hclosed⟩ := hcs.closed he
  have hblanks : ∀ {blanks : List Char}, (∀ c ∈ blanks, isBlank c = true) → Closed false blanks :=
    fun h => .of_isPlain fun c hc => isPlain_of_isBlank (h c hc)
  rw [Text.trim_append hbefore htrim hbehind]
  exact ⟨hne, (hblanks hbefore).append (hclosed.append (hblanks hbehind)), hcs.column_eq he⟩

end Entry

/-- A list is read as the entries that it was joined from. -/
theorem parse_joinWith {entries : List Entry} {parts : List (List Char)}
    (h : List.Forall₂ Entry.Listed entries parts) (hentries : ∀ e ∈ entries, e.WellFormed) :
    parse (String.ofList (Text.joinWith [','] parts)) = entries.map Entry.column := by
  have hparts : (∀ part ∈ parts, trim part ≠ [] ∧ Closed false part) ∧
      (parts.map trim).map column = entries.map Entry.column := by
    induction h with
    | nil => exact ⟨nofun, rfl⟩
    | cons hpart _ ih =>
      obtain ⟨he, hentries⟩ := List.forall_mem_cons.1 hentries
      obtain ⟨hne, hclosed, hcolumn⟩ := hpart.trim_part he
      obtain ⟨hparts, hcolumns⟩ := ih hentries
      exact ⟨List.forall_mem_cons.2 ⟨⟨hne, hclosed⟩, hparts⟩, congrArg₂ List.cons hcolumn hcolumns⟩
  rw [parse, String.toList_ofList, entries_joinWith hparts.1, hparts.2]

/-- Two lists with a comma between them are read as one behind the other. -/
theorem parse_append_comma {commas : Bool} {x : String} (hx : Closed commas x.toList) (y : String) :
    parse (x ++ "," ++ y) = parse x ++ parse y := by
  have htoList : (x ++ "," ++ y).toList = x.toList ++ ',' :: y.toList := by simp
  rw [parse, htoList, entries_append_comma hx, List.map_append, parse, parse]

end SelectList

namespace Query

open SelectList

/-- A select list adds just the columns of the entries that it was written from, and what stands in
front of a comma may be added on its own if it is closed. -/
theorem addSelect_listed (q : Query) :
    (∀ {entries : List Entry} {parts : List (List Char)}, (∀ e ∈ entries, e.WellFormed) →
      List.Forall₂ Entry.Listed entries parts →
      q.addSelect (String.ofList (Text.joinWith [','] parts)) =
        { q with columns := q.columns ++ entries.map Entry.column }) ∧
    ∀ (commas : Bool) (x y : String), Closed commas x.toList →
      q.addSelect (x ++ "," ++ y) = (q.addSelect x).addSelect y := by
  constructor
  · intro entries parts hentries hparts
    rw [addSelect, parse_joinWith hparts hentries]
  · intro commas x y hx
    simp only [addSelect, parse_append_comma hx, List.append_assoc]

/-- An expression that holds the word `AS`, and one that holds a comma and an open parenthesis. -/
theorem addSelect_listed_quoted :
    let q := Query.new (.ofDialect .mySql "" none)
    q.addSelect "CAST(x AS int) ,'a,(b'  aS\tn" =
        { q with columns := [⟨.column "CAST(x AS int)", none⟩, ⟨.column "'a,(b'", some "n"⟩] } ∧
      q.addSelect "a, 'a,(b',n" = (q.addSelect "a, 'a,(b'").addSelect "n" := by
  intro q
  have hcast : Closed false ("CAST".toList ++ ('(' :: "x AS int".toList ++ ')' :: [])) :=
    (Closed.of_isPlain (List.all_eq_true.1 rfl)).append
      (.group (.of_isPlain (List.all_eq_true.1 rfl)) .nil)
  have hquoted : Closed false ('\'' :: "a,(b".toList ++ '\'' :: []) :=
    .quoted rfl (by decide) .nil
  -- A parenthesis is no character of an alias.
  have hbare : ¬ EndsInAlias "CAST(x AS int)".toList := by
    rintro ⟨expr, name, ⟨gap, word, gap', -, -, -, heq⟩, hne, hchars⟩
    have hlast := congrArg List.getLast? heq
    simp only [← List.append_assoc, List.getLast?_append_of_ne_nil _ hne] at hlast
    exact absurd (hchars ')' (List.mem_of_getLast? hlast.symm)) (by decide)
  have hentries : ∀ e ∈ [Entry.mk "CAST(x AS int)".toList none, ⟨"'a,(b'".toList, some ['n']⟩],
      e.WellFormed := by
    refine List.forall_mem_cons.2 ⟨?_, List.forall_mem_singleton.2 ?_⟩
    · exact ⟨by decide, by decide, hcast, nofun, fun _ => hbare⟩
    · refine ⟨by decide, by decide, hquoted, ?_, nofun⟩
      rintro _ ⟨⟩
      exact ⟨by decide, List.all_eq_true.1 rfl⟩
  have hparts : List.Forall₂ Entry.Listed
      [⟨"CAST(x AS int)".toList, none⟩, ⟨"'a,(b'".toList, some ['n']⟩]
      ["CAST(x AS int) ".toList, "'a,(b'  aS\tn".toList] := by
    have haliased : IsAliased "'a,(b'".toList ['n'] "'a,(b'  aS\tn".toList :=
      ⟨"  ".toList, "aS".toList, ['\t'], ⟨by decide, List.all_eq_true.1 rfl⟩,
        ⟨'a', 'S', rfl, .inl rfl, .inr (.inl rfl)⟩, ⟨by decide, List.all_eq_true.1 rfl⟩, rfl⟩
    refine .cons ⟨[], _, [' '], .bare _, rfl, nofun, List.all_eq_true.1 rfl⟩ (.cons ?_ .nil)
    exact ⟨[], _, [], .aliased haliased, (List.append_nil _).symm, nofun, nofun⟩
  have hlist : Closed true ("a, ".toList ++ ('\'' :: "a,(b".toList ++ '\'' :: [])) :=
    .plain rfl (.comma (.plain rfl (.quoted rfl (by decide) .nil)))
  have hcolumn : ∀ s : String, isSelectText s.toList = false → trim s.toList = s.toList →
      Selected.ofChars s.toList = .column s := fun s hselect htrim => by
    rw [Selected.ofChars, hselect, htrim, String.ofList_toList, if_neg Bool.false_ne_true]
  refine ⟨?_, q.addSelect_listed.2 true "a, 'a,(b'" "n" hlist⟩
  have hadd := q.addSelect_listed.1 hentries hparts
  rw [List.map_cons, List.map_singleton, Entry.column, Entry.column,
    hcolumn _ (by decide) (by decide), hcolumn _ (by decide) (by decide)] at hadd
  exact hadd

end Query

end SqlCompose
