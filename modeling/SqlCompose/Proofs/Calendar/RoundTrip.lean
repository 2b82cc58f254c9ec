import Mathlib.Tactic.IntervalCases
import SqlCompose.Proofs.Calendar.Outline

/-!
# Written dates read back

An item of a layout is read back if what follows cannot be taken for a part of it (`Item.endsAt`). A
layout may also read, item by item, what is written in another one (`Layout.reads`): a month may be
named in full or by its first three letters, and a fraction of a second may be nothing at all. Then it
reads the same time, or nothing if there is more to read (`Layout.read?_write`).
-/

namespace SqlCompose.Calendar

/-! ## Items -/

/-- Two digits are read as their number, whatever follows. -/
theorem scanTwoDigits_zeroPadded {low high n : Nat} (hn : low ≤ n ∧ n ≤ high) (hhigh : high < 100)
    (rest : List Char) : scanTwoDigits low high (zeroPadded 2 n ++ rest) = some (n, rest) := by
  have hlength : (zeroPadded 2 n).length = 2 := length_zeroPadded (by decide) (by omega)
  have hrange : low ≤ Decimal.numberOf (zeroPadded 2 n) ∧ Decimal.numberOf (zeroPadded 2 n) ≤ high := by
    rwa [numberOf_zeroPadded]
  rw [scanTwoDigits_append (isDigit_of_mem_zeroPadded 2 n) (by omega) (.inl hlength) hrange,
    numberOf_zeroPadded]

/-- A year is read as it is written, if no digit follows. -/
theorem scanYear_yearText (year : Int) {rest : List Char}
    (hrest : ∀ c ∈ rest.head?, c.isDigit = false) :
    scanYear (yearText year ++ rest) = some (year, rest) := by
  have hdigits := isDigit_of_mem_zeroPadded 4 year.natAbs
  have hleast : 1 ≤ (zeroPadded 4 year.natAbs).length := by
    rw [length_zeroPadded_eq]
    omega
  rcases Int.lt_or_le year 0 with hneg | hnonneg
  · rw [yearText_of_neg hneg, List.cons_append, scanYear_minus_append hdigits hleast hrest,
      numberOf_zeroPadded]
    exact congrArg some (Prod.ext (by simp only; omega) rfl)
  · rcases Int.lt_or_le 9999 year with hlong | hshort
    · rw [yearText_of_long hlong, List.cons_append, scanYear_plus_append hdigits hleast hrest,
        numberOf_zeroPadded]
      exact congrArg some (Prod.ext (by simp only; omega) rfl)
    · have hlength : (zeroPadded 4 year.natAbs).length = 4 := length_zeroPadded (by decide) (by omega)
      rw [yearText_of_short ⟨hnonneg, hshort⟩, scanYear_append hdigits hleast (.inl hlength),
        numberOf_zeroPadded]
      exact congrArg some (Prod.ext (by simp only; omega) rfl)

/-- The digits of a fraction are read back as nanoseconds, whatever their number. -/
theorem scanFraction_zeroPadded {width n : Nat} {rest : List Char} (hwidth : 0 < width ∧ width ≤ 9)
    (hn : n < 10 ^ width) (hrest : ∀ c ∈ rest.head?, c.isDigit = false) :
    scanFraction (zeroPadded width n ++ rest) = some (n * 10 ^ (9 - width), rest) := by
  have hlength : (zeroPadded width n).length = width := length_zeroPadded hwidth.1 hn
  have hdigits : leadingDigits (zeroPadded width n ++ rest) = zeroPadded width n :=
    Text.takeWhile_append (isDigit_of_mem_zeroPadded _ _) hrest
  have hne : (zeroPadded width n).isEmpty = false :=
    List.isEmpty_eq_false_iff.2 (List.ne_nil_of_length_pos (by omega))
  have htake : (zeroPadded width n).take 9 = zeroPadded width n :=
    List.take_of_length_le (by omega)
  rw [scanFraction, hdigits]
  simp only [hne, htake, hlength, numberOf_append_zeros, numberOf_zeroPadded]
  exact congrArg some (Prod.ext rfl (List.drop_left' hlength))

/-- A fraction is read back if neither a digit nor a point follows it. -/
theorem scanOptionalFraction_fractionText {nano : Nat} {rest : List Char} (h : nano < 1000000000)
    (hrest : ∀ c ∈ rest.head?, c.isDigit = false ∧ c ≠ '.') :
    scanOptionalFraction (fractionText nano ++ rest) = some (nano, rest) := by
  have hgroup {width n : Nat} (hwidth : 0 < width ∧ width ≤ 9) (hn : n < 10 ^ width)
      (hnano : n * 10 ^ (9 - width) = nano) :
      scanOptionalFraction ('.' :: zeroPadded width n ++ rest) = some (nano, rest) := by
    rw [List.cons_append, scanOptionalFraction,
      scanFraction_zeroPadded hwidth hn fun c hc => (hrest c hc).1, hnano]
  unfold fractionText
  split_ifs with hzero hmilli hmicro
  · rw [List.nil_append, hzero]
    exact scanOptionalFraction_of_head? fun heq => (hrest '.' heq).2 rfl
  · exact hgroup (by decide) (by omega) (by omega)
  · exact hgroup (by decide) (by omega) (by omega)
  · exact hgroup (by decide) (by omega) (by omega)

/-- The name of a month is read back, whatever follows. -/
theorem scanMonth_nameOfMonth {month : Nat} (h : 1 ≤ month ∧ month ≤ 12) (rest : List Char) :
    scanMonth (nameOfMonth month ++ rest) = some (month, rest) := by
  obtain ⟨hlow, hhigh⟩ := h
  interval_cases month <;> rfl

/-- The first three letters of a month are read back, whatever follows. -/
theorem scanShortMonth_take {month : Nat} (h : 1 ≤ month ∧ month ≤ 12) (rest : List Char) :
    scanShortMonth ((nameOfMonth month).take 3 ++ rest) = some (month, rest) := by
  obtain ⟨hlow, hhigh⟩ := h
  interval_cases month <;> rfl

/-- The other letters of a month are letters. -/
theorem isAlpha_head?_of_mem_monthNames : ∀ name ∈ monthNames,
    ∀ c ∈ name.2.toList.head?, c.isAlpha = true := by
  have hnames : monthNames.all (fun name => name.2.toList.head?.all Char.isAlpha) = true := by
    decide
  simpa only [List.all_eq_true, Option.all_eq_true, Option.mem_def] using hnames

/-- The first three letters of a month are read as the month, if no letter follows. -/
theorem scanMonth_take {month : Nat} (h : 1 ≤ month ∧ month ≤ 12) {rest : List Char}
    (hrest : ∀ c ∈ rest.head?, c.isAlpha = false) :
    scanMonth ((nameOfMonth month).take 3 ++ rest) = some (month, rest) := by
  have hothers : ∀ c ∈ ((monthNames[month - 1]?).elim "" (·.2)).toList.head?, c.isAlpha = true := by
    cases hname : monthNames[month - 1]? with
    | none => simp
    | some name => exact isAlpha_head?_of_mem_monthNames name (List.mem_of_getElem? hname)
  rw [scanMonth, scanShortMonth_take h]
  simp only [Option.bind_eq_bind, Option.bind_some]
  generalize ((monthNames[month - 1]?).elim "" (·.2)).toList = others at hothers ⊢
  cases others with
  | nil => rfl
  | cons o others =>
    have hspelled : ¬ lower (rest.take (o :: others).length) = o :: others := by
      cases rest with
      | nil => simp [lower]
      | cons c rest =>
        intro heq
        have hc : c.toLower = o := (List.cons.inj heq).1
        have halpha := Text.isAlpha_of_toLower (hc ▸ hothers o rfl)
        rw [hrest c rfl] at halpha
        cases halpha
    exact if_neg fun heq => hspelled (beq_iff_eq.1 heq)

/-! ## Items and layouts -/

/-- Whether an item ends where a text follows it. -/
def Item.endsAt (rest : List Char) : Item → Bool
  | .blank => rest.head?.all fun c => !Text.isBlank c
  | .year => rest.head?.all fun c => !c.isDigit
  | .fraction => rest.head?.all fun c => !c.isDigit && c != '.'
  | .monthName => rest.head?.all fun c => !c.isAlpha
  | _ => true

/-- Whether an item reads what is written for another one. -/
def Item.Reads (i j : Item) : Prop :=
  i = j ∨ i = .monthName ∧ j = .shortMonth

instance (i j : Item) : Decidable (i.Reads j) :=
  inferInstanceAs (Decidable (_ ∨ _))

/-- The parts `f` with that one from `p` that the item shows. -/
def Item.note (p f : Fields) : Item → Fields
  | .literal _ | .blank => f
  | .year => { f with year := p.year }
  | .month | .monthName | .shortMonth => { f with month := p.month }
  | .day => { f with day := p.day }
  | .hour => { f with hour := p.hour }
  | .minute => { f with minute := p.minute }
  | .second => { f with second := p.second }
  | .fraction => { f with nano := p.nano }

/-- Whether an item ends at a text is seen from the outline of the text. -/
theorem Item.endsAt_outline (i : Item) (rest : List Char) :
    i.endsAt (outline rest) = i.endsAt rest := by
  have hpoint (c : Char) : (one c != '.') = (c != '.') := by
    rw [Bool.eq_iff_iff, bne_iff_ne, bne_iff_ne, ne_eq, one_eq_iff rfl]
  cases rest with
  | nil => rfl
  | cons c rest =>
    cases i with
    | blank => exact congrArg (!·) (isBlank_one c)
    | year => exact congrArg (!·) (isDigit_one c)
    | fraction => exact congrArg₂ (fun a b => !a && b) (isDigit_one c) (hpoint c)
    | monthName => exact congrArg (!·) (isAlpha_one c)
    | _ => rfl

/-- An item reads what is written for it, if it ends there. -/
theorem Item.scan_write {i j : Item} (h : i.Reads j) {p : Fields} (hp : p.InRange)
    {rest : List Char} (hrest : i.endsAt rest = true) (f : Fields) :
    i.scan f (j.write p ++ rest) = some (j.note p f, rest) := by
  obtain rfl | ⟨rfl, rfl⟩ := h
  · cases i <;> simp only [Item.scan, Item.write, Item.note]
    case literal c => rw [List.singleton_append, scanChar, if_pos rfl, Option.map_some]
    case blank =>
      refine Item.scan_blank_append f (List.forall_mem_singleton.2 (by decide)) ?_
      simpa [Item.endsAt, Option.all_eq_true] using hrest
    case year =>
      rw [scanYear_yearText, Option.map_some]
      simpa [Item.endsAt, Option.all_eq_true] using hrest
    case month => rw [scanTwoDigits_zeroPadded hp.month (by decide), Option.map_some]
    case day => rw [scanTwoDigits_zeroPadded hp.day (by decide), Option.map_some]
    case hour =>
      rw [scanTwoDigits_zeroPadded ⟨Nat.zero_le _, hp.hour⟩ (by decide), Option.map_some]
    case minute =>
      rw [scanTwoDigits_zeroPadded ⟨Nat.zero_le _, hp.minute⟩ (by decide), Option.map_some]
    case second =>
      rw [scanTwoDigits_zeroPadded ⟨Nat.zero_le _, hp.second⟩ (by decide), Option.map_some]
    case fraction =>
      rw [scanOptionalFraction_fractionText hp.nano, Option.map_some]
      simpa [Item.endsAt, Option.all_eq_true] using hrest
    case monthName => rw [scanMonth_nameOfMonth hp.month, Option.map_some]
    case shortMonth => rw [scanShortMonth_take hp.month, Option.map_some]
  · have hletter : ∀ c ∈ rest.head?, c.isAlpha = false := by
      simpa [Item.endsAt, Option.all_eq_true] using hrest
    rw [Item.scan, Item.write, scanMonth_take hp.month hletter, Option.map_some, Item.note]

/-- Only a fraction may be written as nothing, and then there is none. -/
theorem Item.eq_fraction_of_write_eq_nil {i : Item} {p : Fields} (hp : p.InRange) (h : i.write p = []) :
    i = .fraction ∧ p.nano = 0 := by
  have hmem : outline [] ∈ i.outlines := h ▸ i.outline_write_mem hp
  cases i with
  | fraction =>
    refine ⟨rfl, ?_⟩
    simp only [Item.write, fractionText] at h
    split_ifs at h with hzero
    exact hzero
  | literal c => simp [Item.outlines, outline] at hmem
  | _ => exact absurd hmem (by decide)

/-- Another item shows another part. -/
theorem Layout.fields_concat (l : Layout) (i : Item) (t : DateTime) :
    Layout.fields (l ++ [i]) t = i.note t.parts (l.fields t) := by
  cases i <;> simp [Layout.fields, Item.note, DateTime.parts]

/-- Whether a layout reads, item by item, what is written in the front of another one. Where an item
ends is seen from the outlines of what follows it. -/
def Layout.reads : Layout → Layout → Bool
  | [], _ => true
  | _ :: _, [] => false
  | i :: r, j :: w => decide (i.Reads j) && (Layout.outlines w).all i.endsAt && Layout.reads r w

namespace Layout

variable {r w : Layout}

/-- What a layout reads of a time that is written in another one are the parts that were written, if
nothing is written behind them. -/
theorem scan_write (h : r.reads w = true) (front : Layout) (t : DateTime) :
    r.scan (front.fields t) (w.write t) =
      if Layout.write (w.drop r.length) t = [] then
        some (Layout.fields (front ++ w.take r.length) t) else none := by
  induction r generalizing w front with
  | nil =>
    rw [scan, List.length_nil, List.drop_zero, List.take_zero, List.append_nil]
    simp only [List.isEmpty_iff]
  | cons i r ih =>
    cases w with
    | nil => cases h
    | cons j w =>
      simp only [reads, Bool.and_eq_true, decide_eq_true_eq, List.all_eq_true] at h
      obtain ⟨⟨hitem, hends⟩, hothers⟩ := h
      have hend : i.endsAt (Layout.write w t) = true := by
        rw [← Item.endsAt_outline]
        exact hends _ (outline_write_mem w t)
      have hwrite : Layout.write (j :: w) t = j.write t.parts ++ Layout.write w t := List.flatMap_cons
      have hrest := ih hothers (front ++ [j])
      rw [List.append_assoc] at hrest
      rw [scan, hwrite, Item.scan_write hitem t.inRange_parts hend, Option.bind_some, ← fields_concat]
      exact hrest

/-- What is written as nothing says nothing. -/
theorem fields_append_of_write_eq_nil {l : Layout} {t : DateTime} (h : l.write t = [])
    (front : Layout) : Layout.fields (front ++ l) t = front.fields t := by
  have hitems : ∀ i ∈ l, i = .fraction ∧ t.nano % 1000000000 = 0 := fun i hi =>
    Item.eq_fraction_of_write_eq_nil t.inRange_parts (List.flatMap_eq_nil_iff.1 h i hi)
  have hmem {i : Item} (hi : i ≠ .fraction) : i ∈ front ++ l ↔ i ∈ front := by
    rw [List.mem_append, or_iff_left fun hl => hi (hitems i hl).1]
  simp only [fields, hmem, ne_eq, reduceCtorEq, not_false_eq_true, Fields.mk.injEq, true_and,
    List.mem_append]
  -- A fraction that is written as nothing is zero, as it is where there is none.
  by_cases hl : .fraction ∈ l
  · simp only [(hitems _ hl).2, ite_self]
  · simp only [hl, or_false]

/-- A layout that reads a time written in another one reads this time. -/
theorem read?_write (h : r.reads w = true) (hw : w.ShowsDate) {t : DateTime} (ht : t.IsNormal) :
    r.read? (w.write t) =
      if Layout.write (w.drop r.length) t = [] then some (w.cut t) else none := by
  have hscan := scan_write h [] t
  rw [List.nil_append] at hscan
  have hstart : r.read? (w.write t) =
      (r.scan (Layout.fields [] t) (w.write t)).bind Fields.dateTime? := rfl
  rw [hstart, hscan]
  split
  · rename_i hnil
    have hfields := fields_append_of_write_eq_nil hnil (w.take r.length)
    rw [List.take_append_drop] at hfields
    rw [← hfields, Option.bind_some, dateTime?_fields hw ht]
  · rfl

end Layout

end SqlCompose.Calendar
