import SqlCompose.Clock
import SqlCompose.Proofs.Calendar.RoundTrip
import SqlCompose.Proofs.Calendar.Zones

/-!
# No layout shadows another

A text is read as a number, by RFC 3339, by RFC 2822 and by the layouts in their order, and the first
reader that accepts it decides. Whatever time is written in one of the layouts, no earlier reader takes
it for another time: numbers, timestamps and dates of mails are told apart by their outlines
(`Layout.isBare_of_mem_outlines`), and an earlier layout either refuses the text or reads the very
time (`Layout.reads_or_refuses`). So each layout reads back what is written in it
(`Moment.parse_write`).

The texts that statements get for dates and times are written in two of the layouts, for years of any
number of digits. They are read back as well, and written again they stay what they are
(`Moment.layouts_read_back`).

What is taken for granted about the single parts of a date is listed at the head of
`SqlCompose.Proofs.Calendar.Conventions`.
-/

namespace SqlCompose

namespace Calendar.Layout

/-! ## Outlines of all layouts -/

/-- No number, no timestamp and no date of a mail, and no blank at either end. -/
def isBare (cs : List Char) : Bool :=
  Text.trim cs == cs && !(cs.drop 1).all Char.isDigit && !Rfc3339.endsInZone cs
    && !Rfc2822.mayBeMail cs

/-- What is written in a layout is not for the readers that are tried before the layouts. -/
theorem isBare_of_mem_outlines : all.all (fun w => (outlines w).all isBare) = true := by
  decide +kernel

/-- A layout reads what is written in a later one item by item, or it does not even read the
outline. -/
theorem reads_or_refuses : ∀ w ∈ all, ∀ r ∈ all.takeWhile (· ≠ w),
    reads r w = true ∨ (outlines w).all (fun s => (scan r {} s).isNone) = true := by
  decide +kernel

/-- Each layout reads what is written in it. -/
theorem reads_self : ∀ w ∈ all, reads w w = true := by
  decide +kernel

/-- No layout asks for a particular digit. -/
theorem isPlain_of_mem_all : ∀ r ∈ all, IsPlain r := by
  have hliterals : ∀ r ∈ all, ∀ i ∈ r, (match i with
      | .literal c => !c.isDigit
      | _ => true) = true := by
    decide
  rintro r hr _ hi c rfl
  simpa using hliterals r hr _ hi

/-! ## The layout that decides -/

/-- A search that finds a value at one place finds it, if no place before has another one. -/
theorem findSome?_eq_some_of_takeWhile {α β : Type} [DecidableEq α] {f : α → Option β} {l : List α}
    {a : α} {b : β} (ha : a ∈ l) (hb : f a = some b)
    (hbefore : ∀ x ∈ l.takeWhile (· ≠ a), ∀ c ∈ f x, c = b) : l.findSome? f = some b := by
  induction l with
  | nil => cases ha
  | cons x l ih =>
    rw [List.findSome?_cons]
    by_cases hx : x = a
    · rw [hx, hb]
    · have htake : (x :: l).takeWhile (· ≠ a) = x :: l.takeWhile (· ≠ a) :=
        List.takeWhile_cons_of_pos (decide_eq_true hx)
      rw [htake] at hbefore
      obtain ⟨hfirst, hbefore⟩ := List.forall_mem_cons.1 hbefore
      cases hfx : f x with
      | none => exact ih ((List.mem_cons.1 ha).resolve_left (Ne.symm hx)) hbefore
      | some c => rw [hfirst c hfx]

variable {l : Layout} {t : DateTime}

/-- The first layout that reads a written time reads that time. -/
theorem findSome?_read?_write (hl : l ∈ all) (ht : t.IsNormal) :
    all.findSome? (fun r => read? r (l.write t)) = some (l.cut t) := by
  have hshows := showsDate_of_mem_all l hl
  refine findSome?_eq_some_of_takeWhile hl ?_ fun r hr u hu => ?_
  · rw [read?_write (reads_self l hl) hshows ht, List.drop_length]
    rfl
  · rcases reads_or_refuses l hl r hr with hreads | hrefuses
    · rw [read?_write hreads hshows ht] at hu
      split at hu
      · exact (Option.some.inj hu).symm
      · cases hu
    · have hnone : scan r {} (l.write t) = none :=
        scan_eq_none_of_outline (isPlain_of_mem_all r ((List.takeWhile_prefix _).subset hr))
          (List.all_eq_true.1 hrefuses _ (outline_write_mem l t)) {}
      rw [read?, hnone] at hu
      cases hu

end Calendar.Layout

namespace Moment

open Calendar (Layout outline)
open Calendar.Layout (all withTime dateOnly yearFirst toSecond)

/-- A text that its outline tells from numbers, timestamps and dates of mails is read by the layouts. -/
theorem parse_of_isBare {cs : List Char} {t : DateTime}
    (hbare : Layout.isBare (outline cs) = true)
    (hread : all.findSome? (fun r => Layout.read? r cs) = some t) :
    parse (String.ofList cs) = .ok t := by
  simp only [Layout.isBare, Bool.and_eq_true, Bool.not_eq_true', beq_iff_eq] at hbare
  obtain ⟨⟨⟨htrim, hdigits⟩, hzone⟩, hmail⟩ := hbare
  have hnumber : Decimal.readInt64? cs = none := by
    rw [Decimal.readInt64?, Option.bind_eq_none_iff]
    intro n hn
    rw [Calendar.all_isDigit_outline, Calendar.all_isDigit_of_readInt? hn] at hdigits
    cases hdigits
  have hinternet : Calendar.Rfc3339.read? cs = none := by
    rw [Option.eq_none_iff_forall_not_mem]
    intro u hu
    rw [Calendar.Rfc3339.endsInZone_of_read? hu] at hzone
    cases hzone
  have hheader : Calendar.Rfc2822.read? cs = none := by
    rw [Option.eq_none_iff_forall_not_mem]
    intro u hu
    rw [Calendar.Rfc2822.mayBeMail_outline, Calendar.Rfc2822.mayBeMail_of_read? hu] at hmail
    cases hmail
  have hreadings : readings.findSome? (fun read => read cs) = some t := by
    rw [readings, List.findSome?_append, List.findSome?_map]
    simp only [List.findSome?_cons, hinternet, hheader, List.findSome?_nil, Option.none_or]
    exact hread
  simp only [parse, String.toList_ofList, Calendar.trim_eq_self_of_outline htrim, hnumber,
    hreadings]

/-- A time that is written in a layout is read back as far as the layout shows it. -/
theorem parse_write {l : Layout} (hl : l ∈ all) (t : DateTime) :
    parse (String.ofList (l.write t)) = .ok (l.cut t.normal) := by
  rw [← Layout.write_normal]
  refine parse_of_isBare ?_ (Layout.findSome?_read?_write hl t.isNormal_normal)
  have hbare := List.all_eq_true.1 Layout.isBare_of_mem_outlines l hl
  exact List.all_eq_true.1 hbare _ (Layout.outline_write_mem l t.normal)

/-! ## Dates and times of statements -/

/-- The layout of a date and a time in a statement. -/
def statementLayout : Layout :=
  yearFirst '-' ++ .blank :: toSecond

/-- The text of a date is the date in the first layout without a time of day. -/
theorem write_yearFirst (t : DateTime) : Layout.write (yearFirst '-') t = t.date.chars := by
  simp [Layout.write, yearFirst, Calendar.Item.write, DateTime.parts, Date.chars]

/-- The text of a date and a time is written in the first layout of all. -/
theorem write_statementLayout (t : DateTime) : Layout.write statementLayout t = t.chars := by
  simp [statementLayout, Layout.write, yearFirst, toSecond, Layout.toMinute, Calendar.Item.write,
    DateTime.parts, Date.chars, DateTime.chars]

/-- A date alone is its midnight. -/
theorem cut_of_mem_dateOnly {l : Layout} (hl : l ∈ dateOnly) (t : DateTime) :
    l.cut t = DateTime.midnight t.date := by
  have hitems : ∀ l ∈ dateOnly, .hour ∉ l ∧ .minute ∉ l ∧ .second ∉ l ∧ .fraction ∉ l := by
    decide
  obtain ⟨hhour, hminute, hsecond, hfraction⟩ := hitems l hl
  simp only [Layout.cut, DateTime.midnight, hhour, hminute, hsecond, hfraction, if_false]

/-- The text of a date is read back as its midnight. -/
theorem parse_dateText (t : DateTime) : parse t.date.text = .ok (.midnight t.date) := by
  rw [Date.text, ← write_yearFirst, parse_write (by decide), cut_of_mem_dateOnly (by decide),
    DateTime.date_normal]

/-- The text of a date and a time is read back to the second. -/
theorem parse_dateTimeText (t : DateTime) : parse t.text = .ok (statementLayout.cut t.normal) := by
  rw [DateTime.text, ← write_statementLayout, parse_write (by decide)]

/-- A time that was read back from a statement is written there as before. -/
theorem text_cut (t : DateTime) : (statementLayout.cut t.normal).text = t.text := by
  rw [DateTime.text, ← write_statementLayout, Layout.write_cut (by decide), Layout.write_normal,
    write_statementLayout, DateTime.text]

/-- No layout shadows another: a time written in any of them is read back as far as it is shown, at
midnight where no time of day is shown. The texts that moments have in statements are read back to
the date, and to the second; and they are their own texts. A leap second in the middle of a minute
counts as the second after it; any other time is normal (`DateTime.IsNormal.normal_eq`). -/
theorem layouts_read_back :
    (∀ l ∈ withTime, ∀ t : DateTime,
      parse (String.ofList (l.write t)) = .ok (l.cut t.normal)) ∧
    (∀ l ∈ dateOnly, ∀ t : DateTime,
      parse (String.ofList (l.write t)) = .ok (.midnight t.date)) ∧
    ∀ (a : Adapter) (clock : DateTime) (m : Moment) (t : DateTime),
      m.resolve (a.now clock) = .ok t →
      (∃ s, a.dateText clock m = .ok s ∧ parse s = .ok (.midnight t.date) ∧
        a.dateText clock (.text s) = .ok s) ∧
      ∃ s, a.dateTimeText clock m = .ok s ∧ parse s = .ok (statementLayout.cut t.normal) ∧
        a.dateTimeText clock (.text s) = .ok s := by
  refine ⟨fun l hl t => parse_write (List.mem_append_left _ hl) t, fun l hl t => ?_,
    fun a clock m t hm => ⟨⟨t.date.text, ?_, parse_dateText t, ?_⟩,
      ⟨t.text, ?_, parse_dateTimeText t, ?_⟩⟩⟩
  · rw [parse_write (List.mem_append_right _ hl), cut_of_mem_dateOnly hl, DateTime.date_normal]
  · rw [Adapter.dateText, hm]
    rfl
  · rw [Adapter.dateText, resolve, parse_dateText]
    rfl
  · rw [Adapter.dateTimeText, hm]
    rfl
  · rw [Adapter.dateTimeText, resolve, parse_dateTimeText]
    exact congrArg Except.ok (text_cut t)

/-- A day in July, half a second after the ninth second of a minute. -/
theorem layouts_read_back_july :
    let day : Date := ⟨2016, 7, 22, by decide, by decide, by decide⟩
    let t : DateTime := ⟨day, 13, 54, 9, 500000000, by decide, by decide, by decide, by decide⟩
    let a : Adapter := .ofDialect .sqlite "" none
    parse "2016-07-22T13:54:09.500" = .ok t ∧ parse "July 22, 2016" = .ok (.midnight day) ∧
      a.dateTimeText t (.dateTime t) = .ok "2016-07-22 13:54:09" ∧
      a.dateTimeText t (.text "2016-07-22 13:54:09") = .ok "2016-07-22 13:54:09" := by
  intro day t a
  let withZeros : Layout := yearFirst '-' ++ .literal 'T' :: toSecond ++ [.fraction]
  let named : Layout := [.monthName, .blank, .day, .literal ',', .blank, .year]
  have htime := layouts_read_back.1 withZeros (by decide) t
  have hdate := layouts_read_back.2.1 named (by decide) t
  obtain ⟨-, s, hs, -, hagain⟩ := layouts_read_back.2.2 a t (.dateTime t) t rfl
  have hwritten : String.ofList (withZeros.write t) = "2016-07-22T13:54:09.500" := by decide
  have hcut : withZeros.cut t.normal = t := by decide
  have hnamed : String.ofList (named.write t) = "July 22, 2016" := by decide
  have htext : t.text = "2016-07-22 13:54:09" := by decide
  obtain rfl : s = t.text := Except.ok.inj (hs.symm.trans rfl)
  rw [htext] at hs hagain
  exact ⟨hcut ▸ hwritten ▸ htime, hnamed ▸ hdate, hs, hagain⟩

end Moment

end SqlCompose
