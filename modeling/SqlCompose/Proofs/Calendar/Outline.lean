import SqlCompose.Proofs.Calendar.Writing

/-!
# Outlines

Whether a layout accepts a text hardly depends on its digits: they have to be digits, and numbers of one
or two of them have to be in range, as `1` and `11` are for every part of a date. So a layout that
accepts a text also accepts its outline, which has a one in the place of each digit
(`Layout.isSome_scan_outline`).

The times written in a layout have few outlines, however many times there are (`Layout.outlines`,
`Layout.outline_write_mem`). This decides which layouts never accept them.
-/

namespace SqlCompose.Calendar

/-- A one in the place of a digit. -/
def one (c : Char) : Char :=
  if c.isDigit then '1' else c

/-- A text with ones in the place of its digits. -/
def outline (cs : List Char) : List Char :=
  cs.map one

theorem outline_cons (c : Char) (cs : List Char) : outline (c :: cs) = one c :: outline cs :=
  rfl

theorem outline_append (cs ds : List Char) : outline (cs ++ ds) = outline cs ++ outline ds :=
  List.map_append

theorem length_outline (cs : List Char) : (outline cs).length = cs.length :=
  List.length_map one

theorem take_outline (k : Nat) (cs : List Char) : (outline cs).take k = outline (cs.take k) :=
  List.map_take.symm

theorem drop_outline (k : Nat) (cs : List Char) : (outline cs).drop k = outline (cs.drop k) :=
  List.map_drop.symm

/-- A digit stays a digit. -/
theorem isDigit_one (c : Char) : (one c).isDigit = c.isDigit := by
  unfold one
  by_cases h : c.isDigit = true
  · rw [if_pos h, h]
    rfl
  · rw [if_neg h]

theorem one_of_isDigit {c : Char} (h : c.isDigit = true) : one c = '1' :=
  if_pos h

theorem one_of_not_isDigit {c : Char} (h : c.isDigit = false) : one c = c :=
  if_neg (by rw [h]; exact Bool.false_ne_true)

/-- A character that is no digit is told from all others by the outline. -/
theorem one_eq_iff {c x : Char} (hx : x.isDigit = false) : one c = x ↔ c = x := by
  constructor
  · rintro rfl
    exact (one_of_not_isDigit (isDigit_one c ▸ hx)).symm
  · rintro rfl
    exact one_of_not_isDigit hx

/-- A blank stays a blank, and nothing else becomes one. -/
theorem isBlank_one (c : Char) : Text.isBlank (one c) = Text.isBlank c := by
  by_cases h : c.isDigit = true
  · rw [one_of_isDigit h, isBlank_eq_false_of_isDigit h]
    rfl
  · rw [one_of_not_isDigit (by simpa using h)]

/-- A digit is no letter. -/
theorem isAlpha_eq_false_of_isDigit {c : Char} (h : c.isDigit = true) : c.isAlpha = false :=
  beq_iff_eq.1 (forall_isDigit (p := fun c => c.isAlpha == false) (by decide) h)

/-- A letter stays a letter, and nothing else becomes one. -/
theorem isAlpha_one (c : Char) : (one c).isAlpha = c.isAlpha := by
  by_cases h : c.isDigit = true
  · rw [one_of_isDigit h, isAlpha_eq_false_of_isDigit h]
    rfl
  · rw [one_of_not_isDigit (by simpa using h)]

/-- So is a character whose lower case is no digit. -/
theorem toLower_one_eq_iff {c x : Char} (hx : x.isDigit = false) :
    (one c).toLower = x ↔ c.toLower = x := by
  by_cases h : c.isDigit = true
  · have hlower : c.toLower = c :=
      beq_iff_eq.1 (forall_isDigit (p := fun c => c.toLower == c) (by decide) h)
    have hone : (one c).toLower = one c := by
      rw [one_of_isDigit h]
      rfl
    rw [hone, hlower, one_eq_iff hx]
  · rw [one_of_not_isDigit (by simpa using h)]

/-- The outline of digits is made of as many ones. -/
theorem outline_of_digits {cs : List Char} (h : ∀ c ∈ cs, c.isDigit = true) :
    outline cs = List.replicate cs.length '1' := by
  rw [outline, List.map_congr_left fun c hc => one_of_isDigit (h c hc), List.map_const']

/-! ## Readers and outlines -/

/-- The digits at the front of an outline are those of the text. -/
theorem leadingDigits_outline (cs : List Char) :
    leadingDigits (outline cs) = outline (leadingDigits cs) := by
  have hdigit : Char.isDigit ∘ one = Char.isDigit := funext isDigit_one
  unfold leadingDigits outline
  rw [List.takeWhile_map, hdigit]

/-- The blanks at the front of an outline are those of the text. -/
theorem trimStart_outline (cs : List Char) :
    Text.trimStart (outline cs) = outline (Text.trimStart cs) := by
  have hblank : Text.isBlank ∘ one = Text.isBlank := funext isBlank_one
  unfold Text.trimStart outline
  rw [List.dropWhile_map, hblank]

/-- A text begins with a character that is no digit where its outline does. -/
theorem head?_outline_eq_some_iff {cs : List Char} {x : Char} (hx : x.isDigit = false) :
    (outline cs).head? = some x ↔ cs.head? = some x := by
  rw [outline, List.head?_map]
  cases cs.head? with
  | none => simp
  | some c => rw [Option.map_some, Option.some_inj, Option.some_inj, one_eq_iff hx]

/-- A word without digits is spelled by a text if it is spelled by the outline. -/
theorem lower_outline_eq_iff {cs s : List Char} (hs : ∀ c ∈ s, c.isDigit = false) :
    lower (outline cs) = s ↔ lower cs = s := by
  induction cs generalizing s with
  | nil => rfl
  | cons c cs ih =>
    cases s with
    | nil => simp [outline, lower]
    | cons x s =>
      obtain ⟨hx, hs⟩ := List.forall_mem_cons.1 hs
      have hcons : lower (outline (c :: cs)) = (one c).toLower :: lower (outline cs) := rfl
      rw [hcons, List.cons_eq_cons, ih hs, toLower_one_eq_iff hx, ← List.cons_eq_cons]
      rfl

/-- So it is decided alike of both whether they spell the word. -/
theorem lower_outline_beq {cs s : List Char} (hs : ∀ c ∈ s, c.isDigit = false) :
    (lower (outline cs) == s) = (lower cs == s) := by
  rw [Bool.eq_iff_iff, beq_iff_eq, beq_iff_eq, lower_outline_eq_iff hs]

/-- A reader that accepts the outline of a text whenever it accepts the text, and leaves the outline
of what it leaves. -/
def Carries {α : Type} (scan : List Char → Option (α × List Char)) : Prop :=
  ∀ ⦃cs a rest⦄, scan cs = some (a, rest) → ∃ a', scan (outline cs) = some (a', outline rest)

/-- A number is read in an outline where it is read in the text, as a number of as many ones. -/
theorem scanNumberUpTo_outline {least most n : Nat} {cs rest : List Char}
    (h : scanNumberUpTo least most cs = some (n, rest)) : ∃ k, least ≤ k ∧ k ≤ most ∧
    scanNumberUpTo least most (outline cs) =
      some (Decimal.numberOf (List.replicate k '1'), outline rest) := by
  obtain ⟨digits, hdigits, hleast, -, rfl⟩ := scanNumberUpTo_eq_some_iff.1 h
  have hones : outline digits = List.replicate digits.length '1' :=
    outline_of_digits fun c hc => List.mem_takeWhile_imp (List.mem_of_mem_take (hdigits ▸ hc))
  refine ⟨digits.length, hleast, hdigits ▸ List.length_take_le most _,
    scanNumberUpTo_eq_some_iff.2 ⟨outline digits, ?_, ?_, ?_, ?_⟩⟩
  · rw [leadingDigits_outline, take_outline, hdigits]
  · rwa [length_outline]
  · rw [hones]
  · rw [length_outline, drop_outline]

/-- Numbers of bounded length are read in outlines. -/
theorem carries_scanNumberUpTo (least most : Nat) : Carries (scanNumberUpTo least most) := by
  intro cs n rest h
  obtain ⟨k, -, -, houtline⟩ := scanNumberUpTo_outline h
  exact ⟨_, houtline⟩

/-- Numbers of any length are read in outlines. -/
theorem carries_scanNumber (least : Nat) : Carries (scanNumber least) := by
  intro cs n rest h
  rw [scanNumber_eq] at h ⊢
  rw [length_outline]
  exact carries_scanNumberUpTo least cs.length h

/-- So are parts of at most two digits, whose range has room for `1` and `11`. -/
theorem carries_scanTwoDigits (low high : Nat) (hlow : low ≤ 1) (hhigh : 11 ≤ high) :
    Carries (scanTwoDigits low high) := by
  intro cs n rest h
  obtain ⟨k, hleast, hmost, houtline⟩ := scanNumberUpTo_outline (scanTwoDigits_eq_some_iff.1 h).1
  rw [← trimStart_outline] at houtline
  obtain rfl | rfl : k = 1 ∨ k = 2 := by omega
  · exact ⟨1, scanTwoDigits_eq_some_iff.2 ⟨houtline, hlow, by omega⟩⟩
  · exact ⟨11, scanTwoDigits_eq_some_iff.2 ⟨houtline, by omega, hhigh⟩⟩

/-- What is made of what was read does not matter. -/
theorem Carries.map {α β γ : Type} {scan : List Char → Option (α × List Char)} (h : Carries scan)
    {f : α × List Char → β × List Char} {g : α × List Char → γ × List Char}
    {cs rest : List Char} {b : β} (hmap : (scan cs).map f = some (b, rest))
    (hf : ∀ p, (f p).2 = p.2) (hg : ∀ p, (g p).2 = p.2) :
    ∃ c, (scan (outline cs)).map g = some (c, outline rest) := by
  obtain ⟨⟨a, rest'⟩, hscan, hpair⟩ := Option.map_eq_some_iff.1 hmap
  obtain rfl : rest' = rest := (hf _).symm.trans (congrArg Prod.snd hpair)
  obtain ⟨a', houtline⟩ := h hscan
  exact ⟨_, by rw [houtline, Option.map_some]; exact congrArg some (Prod.ext rfl (hg _))⟩

/-- Years are read in outlines. -/
theorem carries_scanYear : Carries scanYear := by
  intro cs n rest h
  by_cases hplus : (Text.trimStart cs).head? = some '+'
  · obtain ⟨tail, hcs⟩ := List.head?_eq_some_iff.1 hplus
    have houtline : Text.trimStart (outline cs) = '+' :: outline tail := by
      rw [trimStart_outline, hcs]
      rfl
    rw [scanYear_of_plus hcs] at h
    rw [scanYear_of_plus houtline]
    exact (carries_scanNumber 1).map h (fun _ => rfl) fun _ => rfl
  · by_cases hminus : (Text.trimStart cs).head? = some '-'
    · obtain ⟨tail, hcs⟩ := List.head?_eq_some_iff.1 hminus
      have houtline : Text.trimStart (outline cs) = '-' :: outline tail := by
        rw [trimStart_outline, hcs]
        rfl
      rw [scanYear_of_minus hcs] at h
      rw [scanYear_of_minus houtline]
      exact (carries_scanNumber 1).map h (fun _ => rfl) fun _ => rfl
    · rw [scanYear_of_head? hplus hminus] at h
      rw [scanYear_of_head?, trimStart_outline]
      · exact (carries_scanNumberUpTo 1 4).map h (fun _ => rfl) fun _ => rfl
      · rwa [trimStart_outline, ne_eq, head?_outline_eq_some_iff rfl]
      · rwa [trimStart_outline, ne_eq, head?_outline_eq_some_iff rfl]

theorem carries_scanFraction : Carries scanFraction := by
  intro cs n rest h
  unfold scanFraction at h ⊢
  rw [leadingDigits_outline]
  simp only [outline, List.isEmpty_map, List.length_map, ← List.map_drop] at h ⊢
  split at h
  · cases h
  · rename_i hne
    rw [if_neg hne, (Prod.mk.inj (Option.some.inj h)).2]
    exact ⟨_, rfl⟩

/-- Fractions are read in outlines. -/
theorem carries_scanOptionalFraction : Carries scanOptionalFraction := by
  intro cs n rest h
  by_cases hpoint : cs.head? = some '.'
  · obtain ⟨tail, rfl⟩ := List.head?_eq_some_iff.1 hpoint
    exact carries_scanFraction h
  · rw [scanOptionalFraction_of_head? hpoint] at h
    obtain ⟨rfl, rfl⟩ := Prod.mk.inj (Option.some.inj h)
    exact ⟨0, scanOptionalFraction_of_head? ((head?_outline_eq_some_iff rfl).not.2 hpoint)⟩

/-- A name is found in an outline where it is found in the text. -/
theorem scanShortName_outline {names : List String}
    (hnames : ∀ name ∈ names, ∀ c ∈ name.toList, c.isDigit = false) (cs : List Char) :
    scanShortName names (outline cs) =
      (scanShortName names cs).map fun (i, rest) => (i, outline rest) := by
  have hfind : names.findIdx? (fun name => name.toList == lower ((outline cs).take 3)) =
      names.findIdx? (fun name => name.toList == lower (cs.take 3)) := by
    induction names with
    | nil => rfl
    | cons name names ih =>
      obtain ⟨hname, hnames⟩ := List.forall_mem_cons.1 hnames
      have hhead : (name.toList == lower ((outline cs).take 3)) =
          (name.toList == lower (cs.take 3)) := by
        rw [BEq.comm, take_outline, lower_outline_beq hname, BEq.comm]
      rw [List.findIdx?_cons, List.findIdx?_cons, hhead, ih hnames]
  rw [scanShortName, scanShortName, hfind, Option.map_map, drop_outline]
  rfl

/-- The names of the months have no digits. -/
theorem isDigit_of_mem_monthNames : ∀ name ∈ monthNames,
    (∀ c ∈ name.1.toList, c.isDigit = false) ∧ ∀ c ∈ name.2.toList, c.isDigit = false := by
  have hnames : monthNames.all (fun name => name.1.toList.all (!·.isDigit)
      && name.2.toList.all (!·.isDigit)) = true := by
    decide
  simpa only [List.all_eq_true, Bool.and_eq_true, Bool.not_eq_true'] using hnames

/-- The short name of a month is found in an outline where it is found in the text. -/
theorem scanShortMonth_outline (cs : List Char) : scanShortMonth (outline cs) =
    (scanShortMonth cs).map fun (month, rest) => (month, outline rest) := by
  rw [scanShortMonth, scanShortMonth, scanShortName_outline, Option.map_map, Option.map_map]
  · rfl
  · intro name hname
    obtain ⟨pair, hpair, rfl⟩ := List.mem_map.1 hname
    exact (isDigit_of_mem_monthNames pair hpair).1

theorem carries_scanShortMonth : Carries scanShortMonth := by
  intro cs month rest h
  exact ⟨month, by rw [scanShortMonth_outline, h, Option.map_some]⟩

/-- Months by name are read in outlines, in full where they were. -/
theorem carries_scanMonth : Carries scanMonth := by
  intro cs month rest h
  obtain ⟨⟨short, tail⟩, hshort, hlong⟩ := Option.bind_eq_some_iff.1 h
  have hshort' : scanShortMonth (outline cs) = some (short, outline tail) := by
    rw [scanShortMonth_outline, hshort, Option.map_some]
  have hothers : ∀ c ∈ ((monthNames[short - 1]?).elim "" (·.2)).toList, c.isDigit = false := by
    cases hname : monthNames[short - 1]? with
    | none => simp
    | some name => exact (isDigit_of_mem_monthNames name (List.mem_of_getElem? hname)).2
  rw [scanMonth, hshort']
  simp only [Option.bind_eq_bind, Option.bind_some] at hlong ⊢
  generalize ((monthNames[short - 1]?).elim "" (·.2)).toList = others at hothers hlong ⊢
  rw [take_outline, lower_outline_beq hothers, drop_outline]
  split at hlong <;> rename_i hs
  · rw [if_pos hs, (Prod.mk.inj (Option.some.inj hlong)).2]
    exact ⟨_, rfl⟩
  · rw [if_neg hs, (Prod.mk.inj (Option.some.inj hlong)).2]
    exact ⟨_, rfl⟩

/-! ## Layouts -/

/-- The literals of the layout are no digits. -/
def Layout.IsPlain (l : Layout) : Prop :=
  ∀ i ∈ l, ∀ c, i = .literal c → c.isDigit = false

/-- An item that is read off a text is read off its outline, and leaves the outline of what was
left. -/
theorem Item.scan_outline {i : Item} (hi : ∀ c, i = .literal c → c.isDigit = false) {f g : Fields}
    {cs rest : List Char} (h : i.scan f cs = some (g, rest)) (f' : Fields) :
    ∃ g', i.scan f' (outline cs) = some (g', outline rest) := by
  cases i <;> simp only [Item.scan] at h ⊢
  case literal c =>
    obtain ⟨rest', hscan, hpair⟩ := Option.map_eq_some_iff.1 h
    obtain rfl : rest' = rest := (Prod.mk.inj hpair).2
    obtain rfl := scanChar_eq_some_iff.1 hscan
    have houtline : scanChar c (outline (c :: rest')) = some (outline rest') := by
      rw [scanChar_eq_some_iff, outline_cons, one_of_not_isDigit (hi c rfl)]
    exact ⟨f', by rw [houtline, Option.map_some]⟩
  case blank =>
    obtain ⟨rfl, rfl⟩ := Prod.mk.inj (Option.some.inj h)
    exact ⟨f', by rw [trimStart_outline]⟩
  case year => exact carries_scanYear.map h (fun _ => rfl) fun _ => rfl
  case month =>
    exact (carries_scanTwoDigits 1 12 (by decide) (by decide)).map h (fun _ => rfl) fun _ => rfl
  case day =>
    exact (carries_scanTwoDigits 1 31 (by decide) (by decide)).map h (fun _ => rfl) fun _ => rfl
  case hour =>
    exact (carries_scanTwoDigits 0 23 (by decide) (by decide)).map h (fun _ => rfl) fun _ => rfl
  case minute =>
    exact (carries_scanTwoDigits 0 59 (by decide) (by decide)).map h (fun _ => rfl) fun _ => rfl
  case second =>
    exact (carries_scanTwoDigits 0 60 (by decide) (by decide)).map h (fun _ => rfl) fun _ => rfl
  case fraction => exact carries_scanOptionalFraction.map h (fun _ => rfl) fun _ => rfl
  case monthName => exact carries_scanMonth.map h (fun _ => rfl) fun _ => rfl
  case shortMonth => exact carries_scanShortMonth.map h (fun _ => rfl) fun _ => rfl

/-- A layout that accepts a text accepts its outline. -/
theorem Layout.isSome_scan_outline {l : Layout} (hl : l.IsPlain) {f : Fields} {cs : List Char}
    (h : (l.scan f cs).isSome = true) (f' : Fields) : (l.scan f' (outline cs)).isSome = true := by
  induction l generalizing f f' cs with
  | nil =>
    cases cs with
    | nil => rfl
    | cons => cases h
  | cons i l ih =>
    obtain ⟨hi, hl⟩ := List.forall_mem_cons.1 hl
    rw [Layout.scan] at h ⊢
    cases hscan : i.scan f cs with
    | none =>
      rw [hscan] at h
      cases h
    | some scanned =>
      obtain ⟨g', houtline⟩ := Item.scan_outline hi hscan f'
      rw [hscan] at h
      rw [houtline]
      exact ih hl h g'

/-- A text that a layout does not accept by its outline. -/
theorem Layout.scan_eq_none_of_outline {l : Layout} (hl : l.IsPlain) {cs : List Char}
    (h : (l.scan {} (outline cs)).isNone = true) (f : Fields) : l.scan f cs = none := by
  by_contra hne
  have hsome := Layout.isSome_scan_outline hl (Option.isSome_iff_ne_none.2 hne) {}
  rw [Option.isNone_iff_eq_none.1 h] at hsome
  cases hsome

/-! ## Outlines of written times -/

/-- The outlines of the texts that an item is written as. -/
def Item.outlines : Item → List (List Char)
  | .literal c => [[one c]]
  | .blank => [[' ']]
  | .year => ["1111".toList] ++ ['-', '+'].flatMap fun sign =>
      [4, 5, 6].map fun width => sign :: List.replicate width '1'
  | .month | .day | .hour | .minute | .second => ["11".toList]
  | .fraction => [[], ".111".toList, ".111111".toList, ".111111111".toList]
  | .monthName => (List.range' 1 12).map nameOfMonth
  | .shortMonth => (List.range' 1 12).map fun month => (nameOfMonth month).take 3

/-- The outlines of the times written in a layout. -/
def Layout.outlines : Layout → List (List Char)
  | [] => [[]]
  | i :: l => i.outlines.flatMap fun front => (Layout.outlines l).map (front ++ ·)

/-- A number that fits its width has as many ones in its outline. -/
theorem outline_zeroPadded {width n : Nat} (hwidth : 0 < width) (hn : n < 10 ^ width) :
    outline (zeroPadded width n) = List.replicate width '1' := by
  rw [outline_of_digits (isDigit_of_mem_zeroPadded _ _), length_zeroPadded hwidth hn]

/-- The outline of a year has four ones, or a sign and four to six of them. -/
theorem outline_yearText_mem {year : Int} (h : year.natAbs < 1000000) :
    outline (yearText year) ∈ Item.outlines .year := by
  have hsigned {sign : Char} (hsign : sign ∈ ['-', '+']) :
      outline (sign :: zeroPadded 4 year.natAbs) ∈ Item.outlines .year := by
    -- The number of digits is that of the number, and at least four.
    have hlength : (zeroPadded 4 year.natAbs).length ∈ [4, 5, 6] := by
      have hmost : (Nat.toDigits 10 year.natAbs).length ≤ 6 :=
        (Nat.length_toDigits_le_iff (by decide) (by decide)).2 h
      rw [length_zeroPadded_eq]
      simp only [List.mem_cons, List.not_mem_nil, or_false]
      omega
    have hone : one sign = sign := by
      simp only [List.mem_cons, List.not_mem_nil, or_false] at hsign
      rcases hsign with rfl | rfl <;> rfl
    rw [outline_cons, hone, outline_of_digits (isDigit_of_mem_zeroPadded _ _)]
    exact List.mem_append_right _
      (List.mem_flatMap.2 ⟨sign, hsign, List.mem_map.2 ⟨_, hlength, rfl⟩⟩)
  rcases Int.lt_or_le year 0 with hneg | hnonneg
  · rw [yearText_of_neg hneg]
    exact hsigned (by decide)
  · rcases Int.lt_or_le 9999 year with hlong | hshort
    · rw [yearText_of_long hlong]
      exact hsigned (by decide)
    · rw [yearText_of_short ⟨hnonneg, hshort⟩, outline_zeroPadded (by decide) (by omega)]
      decide

/-- The outline of a fraction has groups of three ones, or nothing. -/
theorem outline_fractionText_mem {nano : Nat} (h : nano < 1000000000) :
    outline (fractionText nano) ∈ Item.outlines .fraction := by
  have hgroup {width n : Nat} (hwidth : 0 < width) (hn : n < 10 ^ width) :
      outline ('.' :: zeroPadded width n) = '.' :: List.replicate width '1' := by
    rw [outline_cons, outline_zeroPadded hwidth hn]
    rfl
  unfold fractionText
  split_ifs
  · decide
  · rw [hgroup (by decide) (by omega)]
    decide
  · rw [hgroup (by decide) (by omega)]
    decide
  · rw [hgroup (by decide) (by omega)]
    decide

/-- The name of a month is its own outline. -/
theorem outline_nameOfMonth : ∀ month ∈ List.range' 1 12,
    outline (nameOfMonth month) = nameOfMonth month := by
  decide

/-- An item is written with one of its outlines. -/
theorem Item.outline_write_mem (i : Item) {p : Fields} (hp : p.InRange) :
    outline (i.write p) ∈ i.outlines := by
  have hmonth := hp.month
  have hname : p.month ∈ List.range' 1 12 := List.mem_range'_1.2 (by omega)
  have htwo {n : Nat} (hn : n < 100) : outline (zeroPadded 2 n) ∈ ["11".toList] := by
    rw [outline_zeroPadded (by decide) hn]
    decide
  cases i with
  | literal c => exact List.mem_singleton_self _
  | blank => exact List.mem_singleton_self _
  | year => exact outline_yearText_mem hp.year
  | month => exact htwo (by omega)
  | day => exact htwo (Nat.lt_of_le_of_lt hp.day.2 (by decide))
  | hour => exact htwo (Nat.lt_of_le_of_lt hp.hour (by decide))
  | minute => exact htwo (Nat.lt_of_le_of_lt hp.minute (by decide))
  | second => exact htwo (Nat.lt_of_le_of_lt hp.second (by decide))
  | fraction => exact outline_fractionText_mem hp.nano
  | monthName => exact List.mem_map.2 ⟨p.month, hname, (outline_nameOfMonth _ hname).symm⟩
  | shortMonth =>
    refine List.mem_map.2 ⟨p.month, hname, ?_⟩
    rw [Item.write, ← take_outline, outline_nameOfMonth _ hname]

/-- A time is written in a layout with one of the outlines of the layout. -/
theorem Layout.outline_write_mem (l : Layout) (t : DateTime) : outline (l.write t) ∈ l.outlines := by
  induction l with
  | nil => exact List.mem_singleton_self _
  | cons i l ih =>
    have hwrite : outline (Layout.write (i :: l) t) =
        outline (i.write t.parts) ++ outline (Layout.write l t) := by
      rw [write, List.flatMap_cons, outline_append, write]
    rw [hwrite]
    exact List.mem_flatMap.2 ⟨_, i.outline_write_mem t.inRange_parts, List.mem_map_of_mem ih⟩

end SqlCompose.Calendar
