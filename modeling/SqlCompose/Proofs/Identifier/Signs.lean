import Mathlib.Data.List.Basic
import Mathlib.Order.MinMax
import Mathlib.Order.Nat
import SqlCompose.Proofs.Identifier.Expansion

/-!
# Placeholders that a prefix brings back

A table name is looked at once more when the prefix stands in the place of its percent signs, and it
is expanded in turn if it is raw SQL by then (`Leads`). What such a name asks for is what the prefix
asks for, as the characters of a name add no placeholder to it (`Substituted.mostSigns_eq`). Only
between two prefixes a placeholder may stand that is in neither of them: the first one opens it and
the second one closes it (`Bridges`).

So the placeholders of a name ask for the prefix less often than the one that led to it
(`Leads.mostSigns_lt`), unless the prefix brings its own placeholder back; it does so again and again
then (`exists_leads`).
-/

namespace SqlCompose

open Text Segment

/-- How often a segment asks for the prefix. -/
def Segment.signs : Segment → Nat
  | .table name => name.count '%'
  | _ => 0

namespace Identifier

/-- How often the prefix is asked for by the placeholder of a text that asks for it most: not at all,
once or twice. -/
def mostSigns (cs : List Char) : Nat :=
  (segments cs).foldr (fun s most => max s.signs most) 0

/-- What a table name is with the prefix in the place of its percent signs, by their number. -/
inductive Substituted (tablePrefix : List Char) : Nat → List Char → Prop
  | plain {core : List Char} (h : IsName core) : Substituted tablePrefix 0 core
  | before {core : List Char} (h : IsName core) : Substituted tablePrefix 1 (tablePrefix ++ core)
  | behind {core : List Char} (h : IsName core) : Substituted tablePrefix 1 (core ++ tablePrefix)
  | both {core : List Char} (h : IsName core) :
    Substituted tablePrefix 2 (tablePrefix ++ core ++ tablePrefix)

/-- With the prefix on both of its sides, a name stands in a placeholder that is in neither of them,
with a percent sign in front of the name and behind it. -/
structure Bridges (tablePrefix : List Char) : Prop where
  opens : ∃ names, (∀ c ∈ names, isNameChar c = true) ∧ '{' :: '{' :: '%' :: names <:+ tablePrefix
  closes : ∃ names, (∀ c ∈ names, isNameChar c = true) ∧ names ++ ['%', '}', '}'] <+: tablePrefix

/-- In the place of the percent signs of a text, the prefix brings back a placeholder that asks for it
as often. -/
def BringsBack (tablePrefix cs : List Char) : Prop :=
  0 < mostSigns tablePrefix ∧ 0 < mostSigns cs ∨ Bridges tablePrefix ∧ 2 ≤ mostSigns cs

/-- The expansion of a text goes down to the name of one of its table placeholders. -/
def Leads (tablePrefix cs next : List Char) : Prop :=
  ∃ name, table name ∈ segments cs ∧ next = replaceChar '%' tablePrefix name ∧
    isRawTable next = true

variable {tablePrefix cs next core name : List Char} {n : ℕ}

/-! ## Percent signs -/

/-- A text asks for the prefix as often as one of its segments. -/
theorem le_mostSigns_iff (hn : 0 < n) : n ≤ mostSigns cs ↔ ∃ s ∈ segments cs, n ≤ s.signs := by
  unfold mostSigns
  induction segments cs with
  | nil => simpa using hn.ne'
  | cons s rest ih => rw [List.foldr_cons, le_max_iff, ih, List.exists_mem_cons_iff]

/-- A text asks for the prefix as often as a placeholder that stands in it. -/
theorem le_mostSigns_iff_exists (hn : 0 < n) : n ≤ mostSigns cs ↔
    ∃ name, (table name).IsPlaceholder ∧ n ≤ name.count '%' ∧ (table name).source <:+: cs := by
  rw [le_mostSigns_iff hn]
  constructor
  · rintro ⟨s, hs, hle⟩
    cases s with
    | char c => exact absurd hle (Nat.not_le.2 hn)
    | column name => exact absurd hle (Nat.not_le.2 hn)
    | table name =>
      have hplaceholder := (isPlaceholder_of_mem_segments hs).resolve_left fun ⟨_, hc⟩ => nomatch hc
      exact ⟨name, hplaceholder, hle, (mem_segments_iff hplaceholder).1 hs⟩
  · rintro ⟨name, hplaceholder, hle, hwithin⟩
    exact ⟨table name, (mem_segments_iff hplaceholder).2 hwithin, hle⟩

/-- A text asks as often as one that stands in it. -/
theorem mostSigns_le_of_infix (h : cs <:+: next) : mostSigns cs ≤ mostSigns next := by
  rcases Nat.eq_zero_or_pos (mostSigns cs) with hzero | hpos
  · exact hzero ▸ Nat.zero_le _
  · obtain ⟨name, hplaceholder, hle, hwithin⟩ := (le_mostSigns_iff_exists hpos).1 le_rfl
    exact (le_mostSigns_iff_exists hpos).2 ⟨name, hplaceholder, hle, hwithin.trans h⟩

/-- Of two texts that are cut apart, the one that asks more often counts. -/
theorem mostSigns_append (h : segments (cs ++ next) = segments cs ++ segments next) :
    mostSigns (cs ++ next) = max (mostSigns cs) (mostSigns next) := by
  rw [mostSigns, h, mostSigns, mostSigns]
  induction segments cs with
  | nil => simp
  | cons s rest ih => rw [List.cons_append, List.foldr_cons, List.foldr_cons, ih, max_assoc]

/-- A text that asks for the prefix is raw SQL. -/
theorem isRawTable_of_mostSigns (h : 0 < mostSigns cs) : isRawTable cs = true := by
  obtain ⟨name, -, -, before, behind, rfl⟩ := (le_mostSigns_iff_exists Nat.one_pos).1 h
  have hpair : hasPair '{' (before ++ (table name).source ++ behind) = true := by
    rw [List.append_assoc]
    exact hasPair_of_pair '{' before _
  rw [isRawTable, hpair, Bool.or_true]

/-- A text that is no raw SQL does not ask for the prefix. -/
theorem mostSigns_eq_zero (h : isRawTable cs = false) : mostSigns cs = 0 := by
  refine Nat.eq_zero_of_not_pos fun hpos => ?_
  rw [isRawTable_of_mostSigns hpos] at h
  cases h

/-! ## Names next to a prefix -/

/-- A name does not ask for the prefix. -/
theorem mostSigns_names (h : IsName core) : mostSigns core = 0 :=
  mostSigns_eq_zero (isRawTable_names h.2)

/-- A name behind a text does not change how often it asks. -/
theorem mostSigns_append_names (h : IsName core) (cs : List Char) :
    mostSigns (cs ++ core) = mostSigns cs := by
  obtain ⟨hne, hnames⟩ := h
  obtain ⟨c, rest, rfl⟩ := List.exists_cons_of_ne_nil hne
  have hbars : Bars (c :: rest) := ⟨⟨c, rfl, hnames c List.mem_cons_self⟩, fun d hd => by
    rw [List.dropWhile_eq_nil_iff.2 hnames] at hd
    cases hd⟩
  rw [mostSigns_append (segments_append_of_bars hbars), mostSigns_names ⟨hne, hnames⟩,
    Nat.max_zero]

/-- Neither does a name in front of it. -/
theorem mostSigns_names_append (h : IsName core) (cs : List Char) :
    mostSigns (core ++ cs) = mostSigns cs := by
  have hcut : segments (core ++ cs) = segments core ++ segments cs := by
    refine segments_append fun t ht hsuffix => ?_
    obtain ⟨c, t, rfl⟩ := List.exists_cons_of_ne_nil ht
    have hc : isNameChar c = true := h.2 c (hsuffix.subset List.mem_cons_self)
    have hopening : c ≠ '{' ∧ c ≠ '[' :=
      ⟨ne_of_isNameChar hc (by decide), ne_of_isNameChar hc (by decide)⟩
    rw [List.cons_append, placeholder?_cons_eq_none hopening, placeholder?_cons_eq_none hopening]
  rw [mostSigns_append hcut, mostSigns_names h, Nat.zero_max]

/-- The prefix takes the place of the percent signs of a placeholder. -/
theorem substituted_replaceChar (tablePrefix : List Char) (h : (table name).IsPlaceholder) :
    Substituted tablePrefix (name.count '%') (replaceChar '%' tablePrefix name) := by
  obtain ⟨before, core, behind, rfl, hbefore, hcore, hbehind⟩ := h
  have hmem : '%' ∉ core := not_mem_of_names hcore.2 (by decide)
  have hcount : core.count '%' = 0 := List.count_eq_zero.2 hmem
  have hname : replaceChar '%' tablePrefix (before ++ core ++ behind) =
      replaceChar '%' tablePrefix before ++ core ++ replaceChar '%' tablePrefix behind := by
    rw [replaceChar, List.flatMap_append, List.flatMap_append, ← replaceChar, ← replaceChar,
      ← replaceChar, replaceChar_eq_self hmem]
  rw [hname, List.count_append, List.count_append, hcount]
  rcases hbefore with rfl | rfl <;> rcases hbehind with rfl | rfl
  · simpa [replaceChar] using Substituted.plain hcore
  · simpa [replaceChar] using Substituted.behind hcore
  · simpa [replaceChar] using Substituted.before hcore
  · simpa [replaceChar] using Substituted.both hcore

/-- There are two percent signs at most. -/
theorem Substituted.le_two (h : Substituted tablePrefix n next) : n ≤ 2 := by
  cases h <;> decide

/-- A text asks for the prefix twice at most. -/
theorem mostSigns_le (cs : List Char) : mostSigns cs ≤ 2 := by
  by_contra hmore
  obtain ⟨name, hplaceholder, hle, -⟩ :=
    (le_mostSigns_iff_exists (Nat.succ_pos 2)).1 (Nat.lt_of_not_le hmore)
  exact absurd hle (Nat.not_le.2 (Nat.lt_succ_of_le (substituted_replaceChar [] hplaceholder).le_two))

/-- On one side of a name, the prefix asks for itself as it does on its own. -/
theorem Substituted.mostSigns_eq (h : Substituted tablePrefix 1 next) :
    mostSigns next = mostSigns tablePrefix := by
  cases h with
  | before hcore => exact mostSigns_append_names hcore tablePrefix
  | behind hcore => exact mostSigns_names_append hcore tablePrefix

/-- With the prefix in it, a name asks at least as often as the prefix does. -/
theorem Substituted.mostSigns_le (h : Substituted tablePrefix n next) (hn : 0 < n) :
    mostSigns tablePrefix ≤ mostSigns next := by
  cases h with
  | plain => cases hn
  | before => exact mostSigns_le_of_infix (List.prefix_append _ _).isInfix
  | behind => exact mostSigns_le_of_infix (List.suffix_append _ _).isInfix
  | both => exact mostSigns_le_of_infix (List.suffix_append _ _).isInfix

/-! ## A name between two prefixes -/

/-- A name that stands between two texts without characters of names stands within the name that
does. -/
theorem exists_around {opening inner closing before behind : List Char}
    (hopening : ∀ c ∈ opening, isNameChar c = false)
    (hclosing : ∀ c ∈ closing, isNameChar c = false) (hcore : IsName core)
    (h : opening ++ (inner ++ closing) = before ++ (core ++ behind)) :
    ∃ left right, before = opening ++ left ∧ behind = right ++ closing ∧
      inner = left ++ core ++ right := by
  obtain ⟨hne, hnames⟩ := hcore
  obtain ⟨c, core, rfl⟩ := List.exists_cons_of_ne_nil hne
  have hout : ∀ d ∈ c :: core, d ∉ opening ∧ d ∉ closing := fun d hd =>
    ⟨fun hmem => ne_of_isNameChar (hnames d hd) (hopening d hmem) rfl,
      fun hmem => ne_of_isNameChar (hnames d hd) (hclosing d hmem) rfl⟩
  have hc := hout c List.mem_cons_self
  obtain ⟨left, hbefore, hrest⟩ :
      ∃ left, before = opening ++ left ∧ inner ++ closing = left ++ (c :: core ++ behind) := by
    rcases List.append_eq_append_iff.1 h with hfront | ⟨excess, hexcess, hrest⟩
    · exact hfront
    · cases excess with
      | nil => exact ⟨[], by simpa using hexcess.symm, hrest.symm⟩
      | cons d excess =>
        obtain ⟨rfl, -⟩ := List.cons.inj hrest
        exact absurd (hexcess ▸ List.mem_append_right _ List.mem_cons_self) hc.1
  refine ⟨left, ?_⟩
  rcases List.append_eq_append_iff.1 hrest with ⟨excess, -, hexcess⟩ | ⟨excess, hinner, hexcess⟩
  · exact absurd (hexcess ▸ List.mem_append_right _ List.mem_cons_self) hc.2
  rcases List.append_eq_append_iff.1 hexcess with ⟨right, hright, hbehind⟩ | ⟨excess', hsplit, hclosed⟩
  · exact ⟨right, hbefore, hbehind, by rw [hinner, hright, List.append_assoc]⟩
  · cases excess' with
    | nil =>
      refine ⟨[], hbefore, hclosed.symm, ?_⟩
      rw [hinner, hsplit, List.append_nil, List.append_nil]
    | cons d excess' =>
      have hd := hout d (hsplit ▸ List.mem_append_right _ List.mem_cons_self)
      exact absurd (hclosed ▸ List.mem_cons_self) hd.2

/-- A table placeholder that asks twice has a percent sign on each side of its name. -/
theorem eq_of_two_signs (h : (table name).IsPlaceholder) (hsigns : 2 ≤ name.count '%') :
    ∃ inner, IsName inner ∧ (table name).source = ['{', '{', '%'] ++ (inner ++ ['%', '}', '}']) := by
  obtain ⟨before, core, behind, rfl, hbefore, hcore, hbehind⟩ := h
  have hnone : core.count '%' = 0 := List.count_eq_zero.2 (not_mem_of_names hcore.2 (by decide))
  rw [List.count_append, List.count_append, hnone] at hsigns
  rcases hbefore with rfl | rfl <;> rcases hbehind with rfl | rfl
  · cases hsigns
  · simp at hsigns
  · simp at hsigns
  · exact ⟨core, hcore, by simp [source]⟩

/-- Between two prefixes, a placeholder that asks twice is in one of them, or they stand across it. -/
theorem bridges_of_both (hcore : IsName core)
    (h : 2 ≤ mostSigns (tablePrefix ++ core ++ tablePrefix)) :
    2 ≤ mostSigns tablePrefix ∨ Bridges tablePrefix := by
  obtain ⟨name, hplaceholder, hle, hwithin⟩ := (le_mostSigns_iff_exists (Nat.succ_pos 1)).1 h
  have hfound : ∀ {cs}, (table name).source <:+: cs → 2 ≤ mostSigns cs := fun hinfix =>
    (le_mostSigns_iff_exists (Nat.succ_pos 1)).2 ⟨name, hplaceholder, hle, hinfix⟩
  rcases List.infix_append_iff.1 hwithin with hleft | hright | ⟨left, behind, hsource, hleft, hright⟩
  · exact .inl (mostSigns_append_names hcore tablePrefix ▸ hfound hleft)
  · exact .inl (hfound hright)
  obtain ⟨skipped, hskipped⟩ := hleft
  -- The placeholder begins in the first prefix, as no name holds its braces.
  rcases List.append_eq_append_iff.1 hskipped with ⟨before, hown, rfl⟩ | ⟨excess, -, hexcess⟩
  · obtain ⟨inner, hinner, hname⟩ := eq_of_two_signs hplaceholder hle
    have hopening : ∀ c ∈ ['{', '{', '%'], isNameChar c = false :=
      List.all_iff_forall_prop.1 (by decide)
    have hclosing : ∀ c ∈ ['%', '}', '}'], isNameChar c = false :=
      List.all_iff_forall_prop.1 (by decide)
    obtain ⟨x, y, rfl, rfl, rfl⟩ := exists_around hopening hclosing hcore
      (hname.symm.trans (hsource.trans (List.append_assoc ..)))
    have hx : ∀ c ∈ x, isNameChar c = true := fun c hc =>
      hinner.2 c (List.mem_append_left _ (List.mem_append_left _ hc))
    have hy : ∀ c ∈ y, isNameChar c = true := fun c hc => hinner.2 c (List.mem_append_right _ hc)
    exact .inr ⟨⟨x, hx, skipped, hown.symm⟩, y, hy, hright⟩
  · cases left with
    | nil =>
      rw [hsource, List.nil_append] at hfound
      exact .inl (hfound hright.isInfix)
    | cons c left =>
      obtain ⟨rfl, -⟩ := List.cons.inj hsource
      have hname := hcore.2 '{' (hexcess ▸ List.mem_append_right _ List.mem_cons_self)
      exact absurd rfl (ne_of_isNameChar hname (by decide))

/-- Two prefixes that stand across a placeholder ask twice. -/
theorem Substituted.two_le (h : Substituted tablePrefix n next) (hn : 2 ≤ n)
    (hbridges : Bridges tablePrefix) : 2 ≤ mostSigns next := by
  cases h with
  | plain | before | behind => omega
  | @both core hcore =>
    obtain ⟨⟨x, hx, before, hbefore⟩, y, hy, behind, hbehind⟩ := hbridges
    have hnames : IsName (x ++ core ++ y) :=
      ⟨by simp [hcore.1], by simpa only [List.forall_mem_append] using ⟨⟨hx, hcore.2⟩, hy⟩⟩
    refine (le_mostSigns_iff_exists Nat.two_pos).2 ⟨'%' :: (x ++ core ++ y) ++ ['%'], ?_, ?_, ?_⟩
    · exact ⟨['%'], x ++ core ++ y, ['%'], rfl, .inr rfl, hnames, .inr rfl⟩
    · rw [List.cons_append, List.count_cons_self, List.count_append, List.count_singleton_self]
      omega
    · refine ⟨before, behind, ?_⟩
      calc before ++ (table ('%' :: (x ++ core ++ y) ++ ['%'])).source ++ behind
          = (before ++ '{' :: '{' :: '%' :: x) ++ core ++ (y ++ ['%', '}', '}'] ++ behind) := by
            simp [source]
        _ = tablePrefix ++ core ++ tablePrefix := by rw [hbefore, hbehind]

/-! ## Down the levels -/

/-- Without a percent sign, a name does not become raw SQL. -/
theorem Substituted.pos_of_isRawTable (h : Substituted tablePrefix n next)
    (hraw : isRawTable next = true) : 0 < n := by
  cases h with
  | plain hcore =>
    rw [isRawTable_names hcore.2] at hraw
    cases hraw
  | before | behind => exact Nat.one_pos
  | both => exact Nat.two_pos

/-- With a prefix that does not ask for itself, a name asks for it less often than its placeholder
did. -/
theorem Substituted.mostSigns_lt (h : Substituted tablePrefix n next) (hn : 0 < n)
    (hown : mostSigns tablePrefix = 0) (hbridges : 2 ≤ n → ¬ Bridges tablePrefix) :
    mostSigns next < n := by
  cases h with
  | plain => cases hn
  | before hcore =>
    rw [(Substituted.before hcore).mostSigns_eq, hown]
    exact Nat.one_pos
  | behind hcore =>
    rw [(Substituted.behind hcore).mostSigns_eq, hown]
    exact Nat.one_pos
  | both hcore =>
    refine Nat.lt_of_not_le fun htwo => ?_
    rcases bridges_of_both hcore htwo with hasks | hbridge
    · omega
    · exact hbridges le_rfl hbridge

/-- In the placeholders of a text, the prefix takes the place of the percent signs. -/
theorem substituted_of_mem (tablePrefix : List Char) (h : table name ∈ segments cs) :
    Substituted tablePrefix (table name).signs (replaceChar '%' tablePrefix name) :=
  substituted_replaceChar tablePrefix <|
    (isPlaceholder_of_mem_segments h).resolve_left fun ⟨_, hc⟩ => nomatch hc

/-- An expansion goes down to a name with the prefix in it. -/
theorem Leads.substituted (h : Leads tablePrefix cs next) :
    ∃ n, 0 < n ∧ n ≤ mostSigns cs ∧ Substituted tablePrefix n next := by
  obtain ⟨name, hmem, rfl, hraw⟩ := h
  have hsubstituted := substituted_of_mem tablePrefix hmem
  have hpos := hsubstituted.pos_of_isRawTable hraw
  exact ⟨_, hpos, (le_mostSigns_iff hpos).2 ⟨table name, hmem, le_rfl⟩, hsubstituted⟩

/-- An expansion that does not come back to a placeholder of the prefix goes down to a name that asks
for the prefix less often. -/
theorem Leads.mostSigns_lt (h : Leads tablePrefix cs next) (hback : ¬ BringsBack tablePrefix cs) :
    mostSigns next < mostSigns cs ∧ ¬ BringsBack tablePrefix next := by
  obtain ⟨hasks, hbridges⟩ := not_or.1 hback
  obtain ⟨n, hpos, hle, hsubstituted⟩ := h.substituted
  have hown : mostSigns tablePrefix = 0 := by omega
  have hlt : mostSigns next < n :=
    hsubstituted.mostSigns_lt hpos hown fun htwo hbridge => hbridges ⟨hbridge, htwo.trans hle⟩
  have htwo := mostSigns_le cs
  refine ⟨hlt.trans_le hle, ?_⟩
  rintro (⟨hown', -⟩ | ⟨-, hnext⟩) <;> omega

/-- An expansion goes down to a name that brings the prefix back, if every name with that many
prefixes does. -/
theorem exists_leads_of_le (hn : 0 < n) (hcs : n ≤ mostSigns cs)
    (hnext : ∀ {m next}, n ≤ m → Substituted tablePrefix m next →
      0 < mostSigns next ∧ BringsBack tablePrefix next) :
    ∃ next, Leads tablePrefix cs next ∧ BringsBack tablePrefix next := by
  obtain ⟨s, hmem, hle⟩ := (le_mostSigns_iff hn).1 hcs
  cases s with
  | char c => exact absurd hle (Nat.not_le.2 hn)
  | column name => exact absurd hle (Nat.not_le.2 hn)
  | table name =>
    obtain ⟨hpos, hback⟩ := hnext hle (substituted_of_mem tablePrefix hmem)
    exact ⟨_, ⟨name, hmem, rfl, isRawTable_of_mostSigns hpos⟩, hback⟩

/-- An expansion that comes back to a placeholder of the prefix does so again and again. -/
theorem exists_leads (h : BringsBack tablePrefix cs) :
    ∃ next, Leads tablePrefix cs next ∧ BringsBack tablePrefix next := by
  rcases h with ⟨hown, hcs⟩ | ⟨hbridges, hcs⟩
  · refine exists_leads_of_le Nat.one_pos hcs fun hm hsubstituted => ?_
    have hnext := hown.trans_le (hsubstituted.mostSigns_le hm)
    exact ⟨hnext, .inl ⟨hown, hnext⟩⟩
  · refine exists_leads_of_le Nat.two_pos hcs fun hm hsubstituted => ?_
    have hnext := hsubstituted.two_le hm hbridges
    exact ⟨Nat.two_pos.trans_le hnext, .inr ⟨hbridges, hnext⟩⟩

end Identifier

end SqlCompose
