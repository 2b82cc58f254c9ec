import Mathlib.Algebra.Group.Nat.Defs
import Mathlib.Data.List.Basic
import Mathlib.Data.List.TakeWhile
import SqlCompose.Text.Ascii
import SqlCompose.Calendar.Layout
import SqlCompose.Calendar.Notation
import SqlCompose.Calendar.Rfc2822
import SqlCompose.Calendar.Rfc3339

/-!
# Conventions of dates

That no layout shadows another one rests on how the single parts of a date are written and read. These
conventions are collected here, and the theory of layouts takes them for granted.

* A number is written with zeros in front, up to the width of its part (`length_zeroPadded`,
  `isDigit_of_mem_zeroPadded`, `numberOf_zeroPadded`).
* A year from 0 to 9999 is written with four digits, and any other one with a sign and at least four
  (`yearText_of_short`, `yearText_of_neg`, `yearText_of_long`).
* A month, a day, an hour, a minute and a second are read off one or two digits, with any blanks before
  them, and have to be in range (`scanTwoDigits_eq_some_iff`, `scanTwoDigits_append`).
* A year is read off one to four digits, or off a sign and any number of digits
  (`scanYear_append`, `scanYear_minus_append`, `scanYear_plus_append`).
* A blank of a layout is any number of blanks of a text (`Item.scan_blank_append`).
* Timestamps by RFC 3339 end with a zone (`Rfc3339.endsWithZone_of_read?`), and mail dates by RFC 2822
  have a time of day and a zone behind it (`Rfc2822.hasTimeAndZone_of_read?`). Mail dates begin with
  a letter, or with a blank among the first three characters (`Rfc2822.startsLikeMail_of_read?`).
-/

namespace SqlCompose

open Decimal (numberOf)

/-! ## Numbers as they are written -/

/-- What holds of the ten digits holds of every digit. -/
theorem forall_isDigit {p : Char → Bool}
    (h : ['0', '1', '2', '3', '4', '5', '6', '7', '8', '9'].all p = true) {c : Char}
    (hc : c.isDigit = true) : p c = true := by
  rw [Char.isDigit, Bool.and_eq_true, decide_eq_true_eq, decide_eq_true_eq] at hc
  have hlow : 48 ≤ c.toNat := hc.1
  have hhigh : c.toNat ≤ 57 := hc.2
  obtain ⟨k, hk⟩ := Nat.exists_eq_add_of_le hlow
  have hmem : ∀ k ≤ 9,
      Char.ofNat (48 + k) ∈ ['0', '1', '2', '3', '4', '5', '6', '7', '8', '9'] := by
    decide
  refine List.all_eq_true.1 h c ?_
  rw [← Char.ofNat_toNat c, hk]
  exact hmem k (by omega)

/-- A digit is no blank. -/
theorem isBlank_eq_false_of_isDigit {c : Char} (h : c.isDigit = true) : Text.isBlank c = false :=
  beq_iff_eq.1 (forall_isDigit (p := fun c => Text.isBlank c == false) (by decide) h)

/-- A number is written in digits. -/
theorem isDigit_of_mem_zeroPadded (width n : Nat) :
    ∀ c ∈ zeroPadded width n, c.isDigit = true := by
  intro c h
  rcases List.mem_append.1 h with hzero | hdigit
  · rw [(List.mem_replicate.1 hzero).2]
    rfl
  · exact Decimal.isDigit_of_mem_toDigits hdigit

/-- A zero behind a number takes it ten times. -/
theorem numberOf_append_zeros (digits : List Char) (k : Nat) :
    numberOf (digits ++ List.replicate k '0') = numberOf digits * 10 ^ k := by
  induction k with
  | zero => simp
  | succ k ih =>
    rw [List.replicate_succ', ← List.append_assoc]
    have hlast (cs : List Char) : numberOf (cs ++ ['0']) = 10 * numberOf cs := by simp [numberOf]
    rw [hlast, ih, Nat.pow_succ, Nat.mul_comm 10, Nat.mul_assoc]

/-- The digits that are written are those of the number. -/
theorem numberOf_zeroPadded (width n : Nat) : numberOf (zeroPadded width n) = n := by
  have hzeros (k : Nat) : numberOf (List.replicate k '0') = 0 := by
    simpa [numberOf] using numberOf_append_zeros [] k
  refine Eq.trans ?_ (Decimal.numberOf_toDigits n)
  unfold numberOf at hzeros ⊢
  rw [zeroPadded, List.foldl_append, hzeros]

/-- A number has as many digits as it takes, and at least the width. -/
theorem length_zeroPadded_eq (width n : Nat) :
    (zeroPadded width n).length = max width (Nat.toDigits 10 n).length := by
  rw [zeroPadded, List.length_append, List.length_replicate]
  omega

/-- A number that fits into the width is written with just as many digits. -/
theorem length_zeroPadded {width n : Nat} (hwidth : 0 < width) (hn : n < 10 ^ width) :
    (zeroPadded width n).length = width := by
  have hle : (Nat.toDigits 10 n).length ≤ width :=
    (Nat.length_toDigits_le_iff (by decide) hwidth).2 hn
  rw [length_zeroPadded_eq, Nat.max_eq_left hle]

section

variable {year : Int}

/-- Years of four digits have no sign. -/
theorem yearText_of_short (h : 0 ≤ year ∧ year ≤ 9999) : yearText year = zeroPadded 4 year.natAbs :=
  if_pos (by rwa [Bool.and_eq_true, decide_eq_true_eq, decide_eq_true_eq])

/-- Years before the year 0 have a minus. -/
theorem yearText_of_neg (h : year < 0) : yearText year = '-' :: zeroPadded 4 year.natAbs := by
  have hshort : ¬ (decide (0 ≤ year) && decide (year ≤ 9999)) = true := by
    rw [Bool.and_eq_true, decide_eq_true_eq, decide_eq_true_eq]
    omega
  rw [yearText, if_neg hshort, if_pos h]

/-- Years of five and more digits have a plus. -/
theorem yearText_of_long (h : 9999 < year) : yearText year = '+' :: zeroPadded 4 year.natAbs := by
  have hshort : ¬ (decide (0 ≤ year) && decide (year ≤ 9999)) = true := by
    rw [Bool.and_eq_true, decide_eq_true_eq, decide_eq_true_eq]
    omega
  rw [yearText, if_neg hshort, if_neg (by omega)]

end

namespace Calendar

/-! ## Numbers as they are read -/

/-- Digits in front of a text belong to the digits at its front. -/
theorem leadingDigits_append {digits rest : List Char} (h : ∀ c ∈ digits, c.isDigit = true) :
    leadingDigits (digits ++ rest) = digits ++ leadingDigits rest :=
  List.takeWhile_append_of_pos h

/-- A number is read off as many digits as may be taken, or those in front of something else. -/
theorem scanNumberUpTo_append {least most : Nat} {digits rest : List Char}
    (h : ∀ c ∈ digits, c.isDigit = true) (hleast : least ≤ digits.length)
    (hmost : digits.length = most ∨ digits.length ≤ most ∧ ∀ c ∈ rest.head?, c.isDigit = false) :
    scanNumberUpTo least most (digits ++ rest) = some (numberOf digits, rest) := by
  refine scanNumberUpTo_eq_some_iff.2 ⟨digits, ?_, hleast, rfl, List.drop_left⟩
  rcases hmost with rfl | ⟨hle, hrest⟩
  · rw [leadingDigits_append h, List.take_left]
  · have hall : leadingDigits (digits ++ rest) = digits := Text.takeWhile_append h hrest
    rw [hall, List.take_of_length_le hle]

/-- A number without a bound takes all digits in front of something else. -/
theorem scanNumber_append {least : Nat} {digits rest : List Char}
    (h : ∀ c ∈ digits, c.isDigit = true) (hleast : least ≤ digits.length)
    (hrest : ∀ c ∈ rest.head?, c.isDigit = false) :
    scanNumber least (digits ++ rest) = some (numberOf digits, rest) := by
  rw [scanNumber_eq, scanNumberUpTo_append h hleast]
  exact .inr ⟨by rw [List.length_append]; omega, hrest⟩

/-- A text with digits in front begins with a digit. -/
theorem isDigit_head?_append {digits : List Char} (h : ∀ c ∈ digits, c.isDigit = true)
    (hne : 1 ≤ digits.length) (rest : List Char) :
    ∀ c ∈ (digits ++ rest).head?, c.isDigit = true := by
  cases digits with
  | nil => cases hne
  | cons d digits =>
    intro c hc
    obtain rfl := Option.some.inj hc
    exact h d List.mem_cons_self

/-- There are no blanks in front of a number that is written. -/
theorem trimStart_of_isDigit {cs : List Char} (h : ∀ c ∈ cs.head?, c.isDigit = true) :
    Text.trimStart cs = cs :=
  Text.trimStart_eq_self fun c hc => isBlank_eq_false_of_isDigit (h c hc)

/-- A part of at most two digits is the number that is read behind any blanks, if it is in range. -/
theorem scanTwoDigits_eq_some_iff {low high n : Nat} {cs rest : List Char} :
    scanTwoDigits low high cs = some (n, rest) ↔
      scanNumberUpTo 1 2 (Text.trimStart cs) = some (n, rest) ∧ low ≤ n ∧ n ≤ high := by
  have hscan : scanTwoDigits low high cs =
      (scanNumberUpTo 1 2 (Text.trimStart cs)).bind fun read =>
        if low ≤ read.1 && read.1 ≤ high then some read else none := rfl
  rw [hscan, Option.bind_eq_some_iff]
  constructor
  · rintro ⟨⟨m, tail⟩, hnumber, hrange⟩
    dsimp only at hrange
    split at hrange
    · rename_i hin
      obtain ⟨rfl, rfl⟩ := Prod.mk.inj (Option.some.inj hrange)
      rw [Bool.and_eq_true, decide_eq_true_eq, decide_eq_true_eq] at hin
      exact ⟨hnumber, hin⟩
    · cases hrange
  · rintro ⟨hnumber, hin⟩
    refine ⟨_, hnumber, if_pos ?_⟩
    rwa [Bool.and_eq_true, decide_eq_true_eq, decide_eq_true_eq]

section

variable {digits rest : List Char} (hdigits : ∀ c ∈ digits, c.isDigit = true)
  (hleast : 1 ≤ digits.length)
include hdigits hleast

/-- A part of at most two digits is read off two digits, or off one that no other one follows. -/
theorem scanTwoDigits_append {low high : Nat}
    (hmost : digits.length = 2 ∨ digits.length ≤ 2 ∧ ∀ c ∈ rest.head?, c.isDigit = false)
    (hrange : low ≤ numberOf digits ∧ numberOf digits ≤ high) :
    scanTwoDigits low high (digits ++ rest) = some (numberOf digits, rest) := by
  refine scanTwoDigits_eq_some_iff.2 ⟨?_, hrange⟩
  rw [trimStart_of_isDigit (isDigit_head?_append hdigits hleast rest)]
  exact scanNumberUpTo_append hdigits hleast hmost

/-- A year without a sign is read off four digits, or off fewer that no other one follows. -/
theorem scanYear_append
    (hmost : digits.length = 4 ∨ digits.length ≤ 4 ∧ ∀ c ∈ rest.head?, c.isDigit = false) :
    scanYear (digits ++ rest) = some ((numberOf digits : Int), rest) := by
  have hhead := isDigit_head?_append hdigits hleast rest
  have hstart := trimStart_of_isDigit hhead
  have hsign {c : Char} (hc : c.isDigit = false) : (digits ++ rest).head? ≠ some c := by
    intro heq
    rw [hhead c heq] at hc
    cases hc
  rw [scanYear_of_head? (hstart.symm ▸ hsign rfl) (hstart.symm ▸ hsign rfl), hstart,
    scanNumberUpTo_append hdigits hleast hmost]
  rfl

/-- A year with a minus has any number of digits. -/
theorem scanYear_minus_append (hrest : ∀ c ∈ rest.head?, c.isDigit = false) :
    scanYear ('-' :: (digits ++ rest)) = some (-(numberOf digits : Int), rest) := by
  rw [scanYear_of_minus (Text.trimStart_eq_self (by simp; decide)),
    scanNumber_append hdigits hleast hrest]
  rfl

/-- A year with a plus has any number of digits. -/
theorem scanYear_plus_append (hrest : ∀ c ∈ rest.head?, c.isDigit = false) :
    scanYear ('+' :: (digits ++ rest)) = some ((numberOf digits : Int), rest) := by
  rw [scanYear_of_plus (Text.trimStart_eq_self (by simp; decide)),
    scanNumber_append hdigits hleast hrest]
  rfl

end

/-- A blank of a layout stands for any number of blanks. -/
theorem Item.scan_blank_append (f : Fields) {blanks : List Char}
    (h : ∀ c ∈ blanks, Text.isBlank c = true) {rest : List Char}
    (hrest : ∀ c ∈ rest.head?, Text.isBlank c = false) :
    Item.blank.scan f (blanks ++ rest) = some (f, rest) := by
  rw [Item.scan, Text.trimStart_append h, Text.trimStart_eq_self hrest]

/-! ## What readers leave -/

section

variable {cs rest : List Char}

/-- A number leaves the end of the text. -/
theorem scanNumberUpTo_suffix {least most n : Nat}
    (h : scanNumberUpTo least most cs = some (n, rest)) : rest <:+ cs := by
  obtain ⟨digits, -, -, -, rfl⟩ := scanNumberUpTo_eq_some_iff.1 h
  exact List.drop_suffix _ cs

theorem scanNumber_suffix {least n : Nat} (h : scanNumber least cs = some (n, rest)) :
    rest <:+ cs := by
  rw [scanNumber_eq] at h
  exact scanNumberUpTo_suffix h

/-- A character leaves the text behind it. -/
theorem scanChar_suffix {c : Char} (h : scanChar c cs = some rest) : rest <:+ cs := by
  obtain rfl := scanChar_eq_some_iff.1 h
  exact List.suffix_cons c rest

/-- What is behind the leading blanks is the end of the text. -/
theorem trimStart_suffix (cs : List Char) : Text.trimStart cs <:+ cs :=
  List.dropWhile_suffix Text.isBlank

/-- A fraction leaves the end of the text, and all of it if there is none. -/
theorem scanOptionalFraction_suffix {n : Nat} (h : scanOptionalFraction cs = some (n, rest)) :
    rest <:+ cs := by
  by_cases hpoint : cs.head? = some '.'
  · obtain ⟨tail, rfl⟩ := List.head?_eq_some_iff.1 hpoint
    rw [scanOptionalFraction, scanFraction] at h
    simp only at h
    split at h
    · cases h
    · rw [← (Prod.mk.inj (Option.some.inj h)).2]
      exact (List.drop_suffix _ tail).trans (List.suffix_cons '.' tail)
  · rw [scanOptionalFraction_of_head? hpoint] at h
    exact (Prod.mk.inj (Option.some.inj h)).2 ▸ List.suffix_rfl

/-- A short name leaves the text behind its three letters. -/
theorem scanShortName_suffix {names : List String} {i : Nat}
    (h : scanShortName names cs = some (i, rest)) : rest <:+ cs := by
  obtain ⟨i', -, hpair⟩ := Option.map_eq_some_iff.1 h
  rw [← (Prod.mk.inj hpair).2]
  exact List.drop_suffix 3 cs

theorem scanShortMonth_suffix {month : Nat} (h : scanShortMonth cs = some (month, rest)) :
    rest <:+ cs := by
  obtain ⟨⟨i, rest'⟩, hscan, hpair⟩ := Option.map_eq_some_iff.1 h
  rw [← (Prod.mk.inj hpair).2]
  exact scanShortName_suffix hscan

/-- Blanks are read where a text begins with one. -/
theorem scanBlanks_eq_some {cs rest : List Char} (h : scanBlanks cs = some rest) :
    (∃ c tail, cs = c :: tail ∧ Text.isBlank c = true) ∧ rest <:+ cs := by
  simp only [scanBlanks] at h
  split at h
  · cases h
  · rename_i hlength
    obtain rfl := Option.some.inj h
    refine ⟨?_, trimStart_suffix cs⟩
    by_contra hblank
    refine hlength (congrArg List.length (Text.trimStart_eq_self fun c hc => ?_))
    obtain ⟨tail, rfl⟩ := List.head?_eq_some_iff.1 hc
    exact Bool.eq_false_iff.2 fun hc => hblank ⟨c, tail, rfl, hc⟩

end

/-! ## Timestamps -/

namespace Rfc3339

theorem scanDivider_suffix {cs rest : List Char} (h : scanDivider cs = some rest) :
    rest <:+ cs := by
  unfold scanDivider at h
  split at h
  · exact Option.some.inj h ▸ List.suffix_cons 'T' _
  · exact Option.some.inj h ▸ List.suffix_cons 't' _
  · exact Option.some.inj h ▸ List.suffix_cons ' ' _
  · cases h

/-- A timestamp needs a zone, and ends with it. -/
theorem endsWithZone_of_read? {cs : List Char} {t : DateTime} (h : read? cs = some t) :
    ∃ zone offset, zone <:+ cs ∧ scanOffset zone = some (offset, []) := by
  obtain ⟨⟨_, rest₁⟩, hyear, h⟩ := Option.bind_eq_some_iff.1 h
  obtain ⟨rest₂, hdash, h⟩ := Option.bind_eq_some_iff.1 h
  obtain ⟨⟨_, rest₃⟩, hmonth, h⟩ := Option.bind_eq_some_iff.1 h
  obtain ⟨rest₄, hdash', h⟩ := Option.bind_eq_some_iff.1 h
  obtain ⟨⟨_, rest₅⟩, hday, h⟩ := Option.bind_eq_some_iff.1 h
  obtain ⟨rest₆, hdivider, h⟩ := Option.bind_eq_some_iff.1 h
  obtain ⟨⟨_, rest₇⟩, hhour, h⟩ := Option.bind_eq_some_iff.1 h
  obtain ⟨rest₈, hcolon, h⟩ := Option.bind_eq_some_iff.1 h
  obtain ⟨⟨_, rest₉⟩, hminute, h⟩ := Option.bind_eq_some_iff.1 h
  obtain ⟨rest₁₀, hcolon', h⟩ := Option.bind_eq_some_iff.1 h
  obtain ⟨⟨_, rest₁₁⟩, hsecond, h⟩ := Option.bind_eq_some_iff.1 h
  obtain ⟨⟨_, rest₁₂⟩, hfraction, h⟩ := Option.bind_eq_some_iff.1 h
  obtain ⟨⟨offset, rest₁₃⟩, hoffset, hrest⟩ := Option.bind_eq_some_iff.1 h
  have hdate : rest₅ <:+ cs :=
    (scanNumberUpTo_suffix hday).trans <| (scanChar_suffix hdash').trans <|
      (scanNumberUpTo_suffix hmonth).trans <| (scanChar_suffix hdash).trans <|
        scanNumberUpTo_suffix hyear
  have htime : rest₁₂ <:+ rest₆ :=
    (scanOptionalFraction_suffix hfraction).trans <| (scanNumberUpTo_suffix hsecond).trans <|
      (scanChar_suffix hcolon').trans <| (scanNumberUpTo_suffix hminute).trans <|
        (scanChar_suffix hcolon).trans <| scanNumberUpTo_suffix hhour
  obtain rfl : rest₁₃ = [] := by
    dsimp only at hrest
    split at hrest
    · rename_i hempty
      exact List.isEmpty_iff.1 hempty
    · cases hrest
  exact ⟨rest₁₂, offset, htime.trans ((scanDivider_suffix hdivider).trans hdate), hoffset⟩

end Rfc3339

/-! ## Mail dates -/

namespace Rfc2822

/-- A colon is passed over with the blanks around it. -/
theorem scanColon_eq_some {cs rest : List Char} (h : scanColon cs = some rest) :
    ∃ front, ':' ∈ front ∧ front ++ rest = cs := by
  obtain ⟨tail, hscan, rfl⟩ := Option.map_eq_some_iff.1 h
  obtain ⟨before, hbefore⟩ := trimStart_suffix cs
  obtain ⟨behind, hbehind⟩ := trimStart_suffix tail
  rw [scanChar_eq_some_iff.1 hscan] at hbefore
  refine ⟨before ++ ':' :: behind, List.mem_append_right _ List.mem_cons_self, ?_⟩
  rw [List.append_assoc, List.cons_append, hbehind, hbefore]

theorem scanYear_suffix {cs rest : List Char} {year : Nat} (h : scanYear cs = some (year, rest)) :
    rest <:+ cs := by
  obtain ⟨⟨n, rest'⟩, hscan, hyear⟩ := Option.bind_eq_some_iff.1 h
  have hrest : rest' = rest := by
    simp only at hyear
    split at hyear <;> exact (Prod.mk.inj (Option.some.inj hyear)).2
  exact hrest ▸ scanNumber_suffix hscan

theorem scanSecond_suffix {cs rest : List Char} {second : Nat}
    (h : scanSecond cs = some (second, rest)) : rest <:+ cs := by
  unfold scanSecond at h
  split at h
  · rename_i tail hcolon
    exact (scanNumberUpTo_suffix h).trans ((scanChar_suffix hcolon).trans (trimStart_suffix cs))
  · exact (Prod.mk.inj (Option.some.inj h)).2 ▸ List.suffix_rfl

/-- A text that begins with a name begins with a letter. -/
theorem isAlpha_of_scanShortName {names : List String} {cs rest : List Char} {i : Nat}
    (hnames : names.all (fun name => name.toList.head?.any Char.isAlpha) = true)
    (h : scanShortName names cs = some (i, rest)) : cs.head?.any Char.isAlpha = true := by
  obtain ⟨k, hfind, -⟩ := Option.map_eq_some_iff.1 h
  obtain ⟨hk, hname, -⟩ := List.findIdx?_eq_some_iff_getElem.1 hfind
  have hfirst := List.all_eq_true.1 hnames _ (List.getElem_mem hk)
  rw [beq_iff_eq.1 hname] at hfirst
  cases cs with
  | nil => cases hfirst
  | cons c cs => exact Text.isAlpha_of_toLower hfirst

/-- What begins with a day of the week begins with a letter, and else nothing is read. -/
theorem scanWeekday_eq_some {cs rest : List Char} {day : Option Nat}
    (h : scanWeekday cs = some (day, rest)) :
    rest <:+ cs ∧ (rest = cs ∨ cs.head?.any Char.isAlpha = true) := by
  unfold scanWeekday at h
  split at h
  · obtain ⟨-, rfl⟩ := Prod.mk.inj (Option.some.inj h)
    exact ⟨List.suffix_rfl, .inl rfl⟩
  · rename_i i tail hname
    obtain ⟨rest', hcomma, hpair⟩ := Option.map_eq_some_iff.1 h
    obtain rfl : rest' = rest := (Prod.mk.inj hpair).2
    exact ⟨(scanChar_suffix hcomma).trans (scanShortName_suffix hname),
      .inr (isAlpha_of_scanShortName (by decide) hname)⟩

section

variable {cs : List Char} {t : DateTime} (h : read? cs = some t)
include h

/-- A mail date needs a time of day, with a colon in it, and a zone, behind which there are comments
only. -/
theorem hasTimeAndZone_of_read? : ∃ front zone offset comments, ':' ∈ front ∧ front ++ zone = cs ∧
    scanZone zone = some (offset, comments) ∧ areComments comments.length comments = true := by
  obtain ⟨⟨_, rest₁⟩, hweekday, h⟩ := Option.bind_eq_some_iff.1 h
  obtain ⟨⟨_, rest₂⟩, hday, h⟩ := Option.bind_eq_some_iff.1 h
  obtain ⟨rest₃, hgap₁, h⟩ := Option.bind_eq_some_iff.1 h
  obtain ⟨⟨_, rest₄⟩, hmonth, h⟩ := Option.bind_eq_some_iff.1 h
  obtain ⟨rest₅, hgap₂, h⟩ := Option.bind_eq_some_iff.1 h
  obtain ⟨⟨_, rest₆⟩, hyear, h⟩ := Option.bind_eq_some_iff.1 h
  obtain ⟨rest₇, hgap₃, h⟩ := Option.bind_eq_some_iff.1 h
  obtain ⟨⟨_, rest₈⟩, hhour, h⟩ := Option.bind_eq_some_iff.1 h
  obtain ⟨rest₉, hcolon, h⟩ := Option.bind_eq_some_iff.1 h
  obtain ⟨⟨_, rest₁₀⟩, hminute, h⟩ := Option.bind_eq_some_iff.1 h
  obtain ⟨⟨_, rest₁₁⟩, hsecond, h⟩ := Option.bind_eq_some_iff.1 h
  obtain ⟨rest₁₂, hgap₄, h⟩ := Option.bind_eq_some_iff.1 h
  obtain ⟨⟨offset, rest₁₃⟩, hzone, h⟩ := Option.bind_eq_some_iff.1 h
  have hdate : rest₈ <:+ cs :=
    (scanNumberUpTo_suffix hhour).trans <| (scanBlanks_eq_some hgap₃).2.trans <|
      (scanYear_suffix hyear).trans <| (scanBlanks_eq_some hgap₂).2.trans <|
        (scanShortMonth_suffix hmonth).trans <| (scanBlanks_eq_some hgap₁).2.trans <|
          (scanNumberUpTo_suffix hday).trans <| (trimStart_suffix rest₁).trans <|
            (scanWeekday_eq_some hweekday).1.trans (trimStart_suffix cs)
  have htime : rest₁₂ <:+ rest₉ :=
    (scanBlanks_eq_some hgap₄).2.trans <| (scanSecond_suffix hsecond).trans <|
      scanNumberUpTo_suffix hminute
  have hcomments : areComments rest₁₃.length rest₁₃ = true := by
    dsimp only at h
    split at h
    · cases h
    · rename_i hall
      rwa [Bool.not_eq_true', Bool.not_eq_false] at hall
  obtain ⟨date, hdate⟩ := hdate
  obtain ⟨middle, hmem, hmiddle⟩ := scanColon_eq_some hcolon
  obtain ⟨time, htime⟩ := htime
  refine ⟨date ++ (middle ++ time), rest₁₂, offset, rest₁₃, ?_, ?_, hzone, hcomments⟩
  · exact List.mem_append_right _ (List.mem_append_left _ hmem)
  · rw [List.append_assoc, List.append_assoc, htime, hmiddle, hdate]

/-- A mail date begins with the day of the week or with the day of the month: there is a letter at
the front, or a blank among the first three characters. -/
theorem startsLikeMail_of_read? :
    cs.head?.any Char.isAlpha = true ∨ (cs.take 3).any Text.isBlank = true := by
  obtain ⟨⟨_, rest₁⟩, hweekday, h⟩ := Option.bind_eq_some_iff.1 h
  obtain ⟨⟨_, rest₂⟩, hday, h⟩ := Option.bind_eq_some_iff.1 h
  obtain ⟨rest₃, hgap, -⟩ := Option.bind_eq_some_iff.1 h
  by_cases hfirst : ∃ c tail, cs = c :: tail ∧ Text.isBlank c = true
  · obtain ⟨c, tail, rfl, hc⟩ := hfirst
    exact .inr (List.any_eq_true.2 ⟨c, List.mem_cons_self, hc⟩)
  · have hstart : Text.trimStart cs = cs := by
      refine Text.trimStart_eq_self fun c hc => Bool.eq_false_iff.2 fun hblank => hfirst ?_
      obtain ⟨tail, rfl⟩ := List.head?_eq_some_iff.1 hc
      exact ⟨c, tail, rfl, hblank⟩
    rw [hstart] at hweekday
    obtain ⟨-, hwhole | hletter⟩ := scanWeekday_eq_some hweekday
    · -- The day of the month has one or two digits, and a blank follows them.
      rw [hwhole, hstart] at hday
      obtain ⟨digits, hdigits, -, -, rfl⟩ := scanNumberUpTo_eq_some_iff.1 hday
      obtain ⟨⟨c, tail, hdrop, hc⟩, -⟩ := scanBlanks_eq_some hgap
      have hlength : digits.length ≤ 2 := hdigits ▸ List.length_take_le 2 _
      have hget : (cs.take 3)[digits.length]? = some c := by
        have hfirst : (cs.drop digits.length)[0]? = some c := congrArg (·[0]?) hdrop
        rw [List.getElem?_take_of_lt (by omega), ← hfirst, List.getElem?_drop, Nat.add_zero]
      exact .inr (List.any_eq_true.2 ⟨c, List.mem_of_getElem? hget, hc⟩)
    · exact .inl hletter

end

end Rfc2822

end Calendar

end SqlCompose
