import Mathlib.Data.Bool.AllAny
import Mathlib.Data.List.TakeWhile
import SqlCompose.Identifier.Placeholder

/-!
# Where placeholders stand

A placeholder holds a name, and a table placeholder may hold a percent sign in front of the name and
behind it (`Segment.IsPlaceholder`). One stands at the front of a text just if the text begins with it
(`Segment.placeholder?_eq_some_iff`). So a text may be cut into segments in two parts, as long as no
placeholder that is opened in the first part is closed in the second (`Segment.segments_append`).
-/

namespace SqlCompose.Segment

open Text

/-- The name in a placeholder: characters of names, at least one of them. -/
def IsName (name : List Char) : Prop :=
  name ≠ [] ∧ ∀ c ∈ name, isNameChar c = true

instance (name : List Char) : Decidable (IsName name) :=
  decidable_of_iff (name ≠ [] ∧ name.all isNameChar = true) (and_congr_right' List.all_eq_true)

/-- Whether a segment is a placeholder. -/
def IsPlaceholder : Segment → Prop
  | .char _ => False
  | .table name => ∃ before core behind, name = before ++ core ++ behind ∧
      (before = [] ∨ before = ['%']) ∧ IsName core ∧ (behind = [] ∨ behind = ['%'])
  | .column name => IsName name

/-- A character of names is none of the others. -/
theorem ne_of_isNameChar {c d : Char} (hc : isNameChar c = true) (hd : isNameChar d = false) :
    c ≠ d := by
  rintro rfl
  rw [hc] at hd
  cases hd

/-! ## Reading a placeholder -/

/-- At most one percent sign is read. -/
theorem percent_eq (cs : List Char) : percent cs = [] ∨ percent cs = ['%'] := by
  unfold percent
  split
  · exact .inr rfl
  · exact .inl rfl

/-- Where no percent sign follows, none is read. -/
theorem percent_append {before rest : List Char} (hbefore : before = [] ∨ before = ['%'])
    (hrest : ∀ c ∈ rest.head?, c ≠ '%') : percent (before ++ rest) = before := by
  rcases hbefore with rfl | rfl
  · cases rest with
    | nil => rfl
    | cons c rest =>
      have hc := hrest c rfl
      unfold percent
      split
      · rename_i heq
        exact absurd (List.cons.inj heq).1 hc
      · rfl
  · rfl

/-- The name of a table is read back, with the percent signs around it. -/
theorem tableName?_append {before core behind : List Char}
    (hbefore : before = [] ∨ before = ['%']) (hcore : IsName core)
    (hbehind : behind = [] ∨ behind = ['%']) (rest : List Char) :
    tableName? (before ++ (core ++ (behind ++ '}' :: '}' :: rest))) =
      some (before ++ core ++ behind) := by
  obtain ⟨hne, hname⟩ := hcore
  have hfirst : percent (before ++ (core ++ (behind ++ '}' :: '}' :: rest))) = before := by
    refine percent_append hbefore fun c hc => ?_
    obtain ⟨d, core, rfl⟩ := List.exists_cons_of_ne_nil hne
    cases hc
    exact ne_of_isNameChar (hname c List.mem_cons_self) (by decide)
  have hcore : (core ++ (behind ++ '}' :: '}' :: rest)).takeWhile isNameChar = core := by
    refine takeWhile_append hname fun c hc => ?_
    rcases hbehind with rfl | rfl <;> cases hc <;> decide
  have hlast : percent (behind ++ '}' :: '}' :: rest) = behind :=
    percent_append hbehind fun c hc => by cases hc; decide
  have hempty : core.isEmpty = false := by simpa using hne
  unfold tableName?
  simp only [hfirst, List.drop_left, hcore, hlast, hempty]
  rfl

/-- The name of a column is read back. -/
theorem columnName?_append {name : List Char} (h : IsName name) (rest : List Char) :
    columnName? (name ++ ']' :: ']' :: rest) = some name := by
  obtain ⟨hne, hname⟩ := h
  have htake : (name ++ ']' :: ']' :: rest).takeWhile isNameChar = name :=
    takeWhile_append hname fun c hc => by cases hc; decide
  have hempty : name.isEmpty = false := by simpa using hne
  unfold columnName?
  simp only [htake, List.drop_left, hempty]
  rfl

/-- A text that begins with a placeholder is read as beginning with it. -/
theorem placeholder?_source_append {s : Segment} (h : s.IsPlaceholder) (rest : List Char) :
    placeholder? (s.source ++ rest) = some s := by
  cases s with
  | char c => exact h.elim
  | table name =>
    obtain ⟨before, core, behind, rfl, hbefore, hcore, hbehind⟩ := h
    have hread := tableName?_append hbefore hcore hbehind rest
    simp only [source, List.cons_append, List.append_assoc, List.nil_append, placeholder?]
    rw [hread, Option.map_some, List.append_assoc]
  | column name =>
    have hread := columnName?_append h rest
    simp only [source, List.cons_append, List.append_assoc, List.nil_append, placeholder?]
    rw [hread, Option.map_some]

/-- A stretch of characters of names is a name. -/
theorem isName_takeWhile {cs : List Char} (h : cs.takeWhile isNameChar ≠ []) :
    IsName (cs.takeWhile isNameChar) :=
  ⟨h, fun _ hc => List.mem_takeWhile_imp hc⟩

/-- What is read is a placeholder. -/
theorem isPlaceholder_of_placeholder? {cs : List Char} {s : Segment} (h : placeholder? cs = some s) :
    s.IsPlaceholder := by
  unfold placeholder? at h
  split at h
  · obtain ⟨name, hname, rfl⟩ := Option.map_eq_some_iff.1 h
    unfold tableName? at hname
    dsimp only at hname
    split at hname
    · cases hname
    · rename_i hne
      obtain ⟨_, -, rfl⟩ := Option.map_eq_some_iff.1 hname
      exact ⟨_, _, _, rfl, percent_eq _, isName_takeWhile (by simpa using hne), percent_eq _⟩
  · obtain ⟨name, hname, rfl⟩ := Option.map_eq_some_iff.1 h
    unfold columnName? at hname
    dsimp only at hname
    split at hname
    · cases hname
    · rename_i hne
      obtain ⟨_, -, rfl⟩ := Option.map_eq_some_iff.1 hname
      exact isName_takeWhile (by simpa using hne)
  · cases h

/-- A placeholder is read just where a text begins with one. -/
theorem placeholder?_eq_some_iff {cs : List Char} {s : Segment} :
    placeholder? cs = some s ↔ s.IsPlaceholder ∧ ∃ rest, cs = s.source ++ rest := by
  constructor
  · intro h
    exact ⟨isPlaceholder_of_placeholder? h, eq_of_placeholder? h⟩
  · rintro ⟨hs, rest, rfl⟩
    exact placeholder?_source_append hs rest

/-- Nothing is read just where a text begins with no placeholder. -/
theorem placeholder?_eq_none_iff {cs : List Char} :
    placeholder? cs = none ↔ ∀ s : Segment, s.IsPlaceholder → ¬ s.source <+: cs := by
  rw [Option.eq_none_iff_forall_ne_some]
  refine forall_congr' fun s => ?_
  rw [Ne, placeholder?_eq_some_iff, not_and]
  exact imp_congr_right fun _ => not_congr (exists_congr fun _ => eq_comm)

/-- No placeholder stands where a text begins with neither a brace nor a bracket. -/
theorem placeholder?_cons_eq_none {c : Char} (h : c ≠ '{' ∧ c ≠ '[') (cs : List Char) :
    placeholder? (c :: cs) = none := by
  unfold placeholder?
  split
  · rename_i heq
    exact absurd (List.cons.inj heq).1 h.1
  · rename_i heq
    exact absurd (List.cons.inj heq).1 h.2
  · rfl

/-! ## Cutting a text -/

/-- A placeholder at the front is the first segment. -/
theorem segments_of_placeholder? {c : Char} {cs : List Char} {s : Segment}
    (h : placeholder? (c :: cs) = some s) :
    segments (c :: cs) = s :: segments ((c :: cs).drop s.source.length) := by
  have hpos : s.source.length = s.source.length - 1 + 1 :=
    (Nat.succ_pred_eq_of_pos (List.length_pos_iff.2 (source_ne_nil s))).symm
  rw [segments, segmentsAfter, h, hpos, List.drop_succ_cons, ← segmentsAfter_eq_drop]

/-- Any other character is a segment of its own. -/
theorem segments_of_none {c : Char} {cs : List Char} (h : placeholder? (c :: cs) = none) :
    segments (c :: cs) = .char c :: segments cs := by
  rw [segments, segmentsAfter, h]
  rfl

/-- A placeholder is cut off a text that begins with it. -/
theorem segments_source_append {s : Segment} (h : s.IsPlaceholder) (rest : List Char) :
    segments (s.source ++ rest) = s :: segments rest := by
  obtain ⟨c, cs, hcs⟩ := List.exists_cons_of_ne_nil (source_ne_nil s)
  have hread := placeholder?_source_append h rest
  rw [hcs, List.cons_append] at hread
  rw [hcs, List.cons_append, segments_of_placeholder? hread, ← List.cons_append, ← hcs,
    List.drop_left]

/-- A text that is one placeholder is cut into this placeholder. -/
theorem segments_source {s : Segment} (h : s.IsPlaceholder) : segments s.source = [s] := by
  have hcut := segments_source_append h []
  rwa [List.append_nil] at hcut

/-- Nothing is cut out of a text without braces and brackets. -/
theorem segments_eq_map_char {cs : List Char} (h : ∀ c ∈ cs, c ≠ '{' ∧ c ≠ '[') :
    segments cs = cs.map .char := by
  induction cs with
  | nil => rfl
  | cons c cs ih =>
    obtain ⟨hc, hcs⟩ := List.forall_mem_cons.1 h
    rw [segments_of_none (placeholder?_cons_eq_none hc cs), ih hcs, List.map_cons]

/-- A segment of a text is a character or a placeholder. -/
theorem isPlaceholder_of_mem_segments {cs : List Char} {s : Segment} (h : s ∈ segments cs) :
    (∃ c, s = .char c) ∨ s.IsPlaceholder := by
  match cs with
  | [] => cases h
  | c :: cs =>
    cases hread : placeholder? (c :: cs) with
    | none =>
      rw [segments_of_none hread] at h
      rcases List.mem_cons.1 h with rfl | h
      · exact .inl ⟨c, rfl⟩
      · exact isPlaceholder_of_mem_segments h
    | some t =>
      rw [segments_of_placeholder? hread] at h
      rcases List.mem_cons.1 h with rfl | h
      · exact .inr (isPlaceholder_of_placeholder? hread)
      · have hpos := List.length_pos_iff.2 (source_ne_nil t)
        exact isPlaceholder_of_mem_segments h
termination_by cs.length
decreasing_by
  · simp
  · rw [List.length_drop, List.length_cons]
    omega

/-- A text is cut in two parts, if no placeholder stands across the place where they meet. -/
theorem segments_append {cs rest : List Char}
    (h : ∀ t, t ≠ [] → t <:+ cs → placeholder? (t ++ rest) = placeholder? t) :
    segments (cs ++ rest) = segments cs ++ segments rest := by
  match cs with
  | [] => rfl
  | c :: cs =>
    have hhere := h (c :: cs) (List.cons_ne_nil _ _) List.suffix_rfl
    rw [List.cons_append] at hhere
    cases hread : placeholder? (c :: cs) with
    | none =>
      rw [hread] at hhere
      rw [segments_of_none hread, List.cons_append, segments_of_none hhere, List.cons_append,
        segments_append fun t ht hsuffix => h t ht (hsuffix.trans (List.suffix_cons c cs))]
    | some s =>
      rw [hread] at hhere
      obtain ⟨behind, hbehind⟩ := eq_of_placeholder? hread
      have hdrop : (c :: cs).drop s.source.length = behind := by rw [hbehind, List.drop_left]
      have hdrop' : (c :: (cs ++ rest)).drop s.source.length = behind ++ rest := by
        rw [← List.cons_append, hbehind, List.append_assoc, List.drop_left]
      have hlength := congrArg List.length hbehind
      have hpos := List.length_pos_iff.2 (source_ne_nil s)
      rw [segments_of_placeholder? hread, List.cons_append, segments_of_placeholder? hhere,
        List.cons_append, hdrop, hdrop', segments_append fun t ht hsuffix =>
          h t ht (hsuffix.trans ⟨s.source, hbehind.symm⟩)]
termination_by cs.length
decreasing_by
  · simp
  · rw [hlength, List.length_append]
    omega

/-! ## Texts that bar placeholders -/

/-- A text in which no placeholder ends that is opened before it: it begins with the characters of a
name, up to its end or to an opening brace. -/
structure Bars (rest : List Char) : Prop where
  begins : ∃ c ∈ rest.head?, isNameChar c = true
  ends : ∀ c ∈ (rest.dropWhile isNameChar).head?, c = '{'

/-- Around the name of a placeholder stand characters that no name has, and behind it others than
opening braces. -/
theorem exists_core {s : Segment} (h : s.IsPlaceholder) :
    ∃ opening core closing, s.source = opening ++ (core ++ closing) ∧
      (∀ c ∈ opening, isNameChar c = false) ∧ (∀ c ∈ core, isNameChar c = true) ∧
      closing ≠ [] ∧ ∀ c ∈ closing, isNameChar c = false ∧ c ≠ '{' := by
  cases s with
  | char c => exact h.elim
  | table name =>
    obtain ⟨before, core, behind, rfl, hbefore, hcore, hbehind⟩ := h
    refine ⟨'{' :: '{' :: before, core, behind ++ ['}', '}'], by simp [source], ?_, hcore.2,
      by simp, ?_⟩
    · rcases hbefore with rfl | rfl <;> exact List.all_iff_forall_prop.1 (by decide)
    · rcases hbehind with rfl | rfl <;> exact List.all_iff_forall_prop.1 (by decide)
  | column name =>
    exact ⟨['[', '['], name, [']', ']'], rfl, List.all_iff_forall_prop.1 (by decide), h.2,
      List.cons_ne_nil _ _, List.all_iff_forall_prop.1 (by decide)⟩

/-- No placeholder ends in a text that bars it. -/
theorem placeholder?_append {t rest : List Char} (hrest : Bars rest) :
    placeholder? (t ++ rest) = placeholder? t := by
  refine Option.ext fun s => ?_
  rw [placeholder?_eq_some_iff, placeholder?_eq_some_iff]
  refine and_congr_right fun hs => ⟨?_, ?_⟩
  · rintro ⟨behind, heq⟩
    rcases List.append_eq_append_iff.1 heq with ⟨x, hsource, rfl⟩ | ⟨x, ht, -⟩
    · -- The placeholder ends behind `t`, which `rest` does not allow.
      obtain ⟨opening, core, closing, hcut, hopening, hcore, hne, hclosing⟩ := exists_core hs
      obtain ⟨⟨c, hc, hname⟩, hends⟩ := hrest
      cases x with
      | nil => exact ⟨[], by rw [hsource, List.append_nil, List.append_nil]⟩
      | cons d x =>
        cases hc
        obtain ⟨y, hy⟩ : ∃ y, core ++ closing = y ++ c :: x := by
          rcases List.append_eq_append_iff.1 (hsource.symm.trans hcut) with ⟨y, hy, hx⟩ | ⟨y, -, hx⟩
          · cases y with
            | nil => exact ⟨[], hx.symm⟩
            | cons e y =>
              cases hx
              have hmem : c ∈ opening := hy ▸ List.mem_append_right _ List.mem_cons_self
              exact absurd rfl (ne_of_isNameChar hname (hopening c hmem))
          · exact ⟨y, hx⟩
        rcases List.append_eq_append_iff.1 hy with ⟨z, -, hz⟩ | ⟨z, hz, hx⟩
        · have hmem : c ∈ closing := hz ▸ List.mem_append_right _ List.mem_cons_self
          exact absurd rfl (ne_of_isNameChar hname (hclosing c hmem).1)
        · have hnames : ∀ e ∈ z, isNameChar e = true :=
            fun e he => hcore e (hz ▸ List.mem_append_right _ he)
          obtain ⟨e, closing, rfl⟩ := List.exists_cons_of_ne_nil hne
          have he := hclosing e List.mem_cons_self
          rw [hx, List.append_assoc, List.dropWhile_append_of_pos hnames, List.cons_append,
            List.dropWhile_cons_of_neg (by simp [he.1])] at hends
          exact absurd (hends e rfl) he.2
    · exact ⟨x, ht⟩
  · rintro ⟨behind, rfl⟩
    exact ⟨behind ++ rest, List.append_assoc ..⟩

/-- A text is cut in front of one that bars placeholders. -/
theorem segments_append_of_bars {cs rest : List Char} (hrest : Bars rest) :
    segments (cs ++ rest) = segments cs ++ segments rest :=
  segments_append fun _ _ _ => placeholder?_append hrest

/-! ## Every placeholder is found -/

/-- A placeholder begins with two braces or with two brackets, and behind them it has none. -/
theorem exists_marks {s : Segment} (h : s.IsPlaceholder) :
    ∃ c cs, s.source = c :: c :: cs ∧ cs ≠ [] ∧ ∀ d ∈ cs, d ≠ '{' ∧ d ≠ '[' := by
  have hname : ∀ core : List Char, (∀ c ∈ core, isNameChar c = true) →
      ∀ d ∈ core, d ≠ '{' ∧ d ≠ '[' := fun core hcore d hd =>
    ⟨ne_of_isNameChar (hcore d hd) (by decide), ne_of_isNameChar (hcore d hd) (by decide)⟩
  have hpercent : ∀ cs : List Char, cs = [] ∨ cs = ['%'] → ∀ d ∈ cs, d ≠ '{' ∧ d ≠ '[' := by
    rintro cs (rfl | rfl) <;> simp
  cases s with
  | char c => exact h.elim
  | table name =>
    obtain ⟨before, core, behind, rfl, hbefore, hcore, hbehind⟩ := h
    refine ⟨'{', before ++ core ++ behind ++ ['}', '}'], rfl, by simp, ?_⟩
    simp only [List.forall_mem_append]
    exact ⟨⟨⟨hpercent before hbefore, hname core hcore.2⟩, hpercent behind hbehind⟩, by simp⟩
  | column name =>
    refine ⟨'[', name ++ [']', ']'], rfl, by simp, ?_⟩
    simp only [List.forall_mem_append]
    exact ⟨hname name h.2, by simp⟩

/-- Where a placeholder stands, no other one begins before its end. -/
theorem placeholder?_within {s : Segment} (h : s.IsPlaceholder) {front : List Char}
    (hfront : front ≠ []) {rest : List Char} (hsuffix : front <:+ s.source) (hne : front ≠ s.source) :
    placeholder? (front ++ rest) = none := by
  obtain ⟨c, cs, hsource, hcs, hmarks⟩ := exists_marks h
  have hhead : ∀ t : List Char, t ≠ [] → t <:+ cs → placeholder? (t ++ rest) = none := by
    intro t ht htail
    obtain ⟨d, t, rfl⟩ := List.exists_cons_of_ne_nil ht
    exact placeholder?_cons_eq_none (hmarks d (htail.subset List.mem_cons_self)) _
  rw [hsource] at hsuffix hne
  rcases List.suffix_cons_iff.1 hsuffix with heq | hsuffix
  · exact absurd heq hne
  rcases List.suffix_cons_iff.1 hsuffix with rfl | hsuffix
  · -- The second mark stands alone: another character follows it.
    obtain ⟨d, cs, rfl⟩ := List.exists_cons_of_ne_nil hcs
    have hd := hmarks d List.mem_cons_self
    unfold placeholder?
    split
    · rename_i heq
      cases heq
      exact absurd rfl hd.1
    · rename_i heq
      cases heq
      exact absurd rfl hd.2
    · rfl
  · exact hhead front hfront hsuffix

/-- Behind a placeholder, another one stands in the text that follows it. -/
theorem infix_of_infix_append {s t : Segment} (hs : s.IsPlaceholder) (ht : t.IsPlaceholder)
    {rest : List Char} (h : s.source <:+: t.source ++ rest) : s = t ∨ s.source <:+: rest := by
  obtain ⟨u, hlead, skipped, hcut⟩ := List.infix_iff_prefix_suffix.1 h
  rcases List.append_eq_append_iff.1 hcut with ⟨front, hsource, rfl⟩ | ⟨x, -, hrest⟩
  · have hfront : front <:+ t.source := ⟨skipped, hsource.symm⟩
    have hread : placeholder? (front ++ rest) = some s :=
      placeholder?_eq_some_iff.2 ⟨hs, hlead.imp fun _ => Eq.symm⟩
    by_cases hnil : front = []
    · exact .inr (by simpa [hnil] using hlead.isInfix)
    by_cases hall : front = t.source
    · rw [hall, placeholder?_source_append ht] at hread
      exact .inl (Option.some.inj hread).symm
    · rw [placeholder?_within ht hnil hfront hall] at hread
      cases hread
  · exact .inr (List.infix_iff_prefix_suffix.2 ⟨u, hlead, x, hrest.symm⟩)

/-- The placeholders among the segments of a text are those that stand in it. -/
theorem mem_segments_iff {s : Segment} (hs : s.IsPlaceholder) {cs : List Char} :
    s ∈ segments cs ↔ s.source <:+: cs := by
  match cs with
  | [] =>
    rw [List.infix_nil]
    exact iff_of_false List.not_mem_nil (source_ne_nil s)
  | c :: cs =>
    cases hread : placeholder? (c :: cs) with
    | none =>
      have hlead : ¬ s.source <+: c :: cs := placeholder?_eq_none_iff.1 hread s hs
      have hchar : s ≠ .char c := fun heq => by rw [heq] at hs; exact hs
      rw [segments_of_none hread, List.mem_cons, or_iff_right hchar, mem_segments_iff hs,
        List.infix_cons_iff, or_iff_right hlead]
    | some t =>
      obtain ⟨ht, rest, hrest⟩ := placeholder?_eq_some_iff.1 hread
      have hlength := congrArg List.length hrest
      have hpos := List.length_pos_iff.2 (source_ne_nil t)
      rw [hrest, segments_source_append ht, List.mem_cons, mem_segments_iff hs]
      constructor
      · rintro (rfl | hwithin)
        · exact (List.prefix_append _ _).isInfix
        · exact hwithin.trans (List.suffix_append _ _).isInfix
      · exact infix_of_infix_append hs ht
termination_by cs.length
decreasing_by
  · simp
  · rw [hlength, List.length_append]
    omega

end SqlCompose.Segment
