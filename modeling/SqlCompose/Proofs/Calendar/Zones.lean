import SqlCompose.Proofs.Calendar.Outline

/-!
# What the other readers need

Timestamps by RFC 3339 end with a zone (`Rfc3339.endsInZone_of_read?`). Dates of mail headers have a
colon, and they begin with the name of a day of the week or with the day of the month and a blank
(`Rfc2822.mayBeMail_of_read?`). Whole numbers have digits only, but for a sign. All this is seen from
the outline of a text.
-/

namespace SqlCompose.Calendar

/-- Two digits are two ones in the outline. -/
theorem outline_of_scanNumberUpTo_two {cs rest : List Char} {n : Nat}
    (h : scanNumberUpTo 2 2 cs = some (n, rest)) :
    outline cs = '1' :: '1' :: outline rest := by
  obtain ⟨digits, hdigits, hleast, -, rfl⟩ := scanNumberUpTo_eq_some_iff.1 h
  have hlength : digits.length = 2 :=
    Nat.le_antisymm (hdigits ▸ List.length_take_le 2 _) hleast
  have hfront : digits <+: cs :=
    hdigits ▸ (List.take_prefix 2 _).trans (List.takeWhile_prefix Char.isDigit)
  have hones : outline digits = ['1', '1'] := by
    rw [outline_of_digits fun c hc => List.mem_takeWhile_imp (List.mem_of_mem_take (hdigits ▸ hc)),
      hlength]
    rfl
  obtain ⟨tail, rfl⟩ := hfront
  rw [List.drop_left, outline_append, hones]
  rfl

/-! ## RFC 3339 -/

namespace Rfc3339

/-- The outlines of zones. -/
def zones : List (List Char) :=
  ["Z".toList, "z".toList] ++ ['+', '-', '−'].map (· :: "11:11".toList)

/-- Whether a text ends with the outline of a zone. -/
def endsInZone (cs : List Char) : Bool :=
  zones.any (·.isSuffixOf cs)

/-- A sign is one of three characters. -/
theorem scanSign_eq_some {cs rest : List Char} {sign : Int} (h : scanSign cs = some (sign, rest)) :
    ∃ c ∈ ['+', '-', '−'], cs = c :: rest := by
  unfold scanSign at h
  split at h
  · obtain ⟨-, rfl⟩ := Prod.mk.inj (Option.some.inj h)
    exact ⟨'+', by decide, rfl⟩
  · obtain ⟨-, rfl⟩ := Prod.mk.inj (Option.some.inj h)
    exact ⟨'-', by decide, rfl⟩
  · obtain ⟨-, rfl⟩ := Prod.mk.inj (Option.some.inj h)
    exact ⟨'−', by decide, rfl⟩
  · cases h

/-- A text that is a zone has the outline of one. -/
theorem outline_mem_zones {cs : List Char} {offset : Int} (h : scanOffset cs = some (offset, [])) :
    outline cs ∈ zones := by
  unfold scanOffset at h
  split at h
  · obtain ⟨-, rfl⟩ := Prod.mk.inj (Option.some.inj h)
    decide
  · obtain ⟨-, rfl⟩ := Prod.mk.inj (Option.some.inj h)
    decide
  · obtain ⟨⟨sign, rest₁⟩, hsign, h⟩ := Option.bind_eq_some_iff.1 h
    obtain ⟨⟨hours, rest₂⟩, hhours, h⟩ := Option.bind_eq_some_iff.1 h
    obtain ⟨rest₃, hcolon, h⟩ := Option.bind_eq_some_iff.1 h
    obtain ⟨⟨minutes, rest₄⟩, hminutes, hrest⟩ := Option.bind_eq_some_iff.1 h
    obtain ⟨c, hc, rfl⟩ := scanSign_eq_some hsign
    obtain rfl := scanChar_eq_some_iff.1 hcolon
    obtain rfl : rest₄ = [] := by
      dsimp only at hrest
      split at hrest
      · exact (Prod.mk.inj (Option.some.inj hrest)).2
      · cases hrest
    have hone : one c = c := by
      simp only [List.mem_cons, List.not_mem_nil, or_false] at hc
      rcases hc with rfl | rfl | rfl <;> rfl
    have houtline : outline (c :: rest₁) = c :: "11:11".toList := by
      have htail : outline (':' :: rest₃) = ':' :: outline rest₃ := rfl
      rw [outline_cons, hone, outline_of_scanNumberUpTo_two hhours, htail,
        outline_of_scanNumberUpTo_two hminutes]
      rfl
    rw [houtline]
    exact List.mem_append_right _ (List.mem_map_of_mem hc)

/-- A timestamp ends with a zone. -/
theorem endsInZone_of_read? {cs : List Char} {t : DateTime} (h : read? cs = some t) :
    endsInZone (outline cs) = true := by
  obtain ⟨zone, offset, ⟨front, rfl⟩, hoffset⟩ := endsWithZone_of_read? h
  refine List.any_eq_true.2 ⟨_, outline_mem_zones hoffset, List.isSuffixOf_iff_suffix.2 ?_⟩
  exact ⟨outline front, (outline_append front zone).symm⟩

end Rfc3339

/-! ## RFC 2822 -/

namespace Rfc2822

/-- Whether there is a colon in a text, and either a letter at the front or a blank among the first
three characters. -/
def mayBeMail (cs : List Char) : Bool :=
  cs.any (· == ':') && (cs.head?.any Char.isAlpha || (cs.take 3).any Text.isBlank)

/-- The test looks at the outline of a text only. -/
theorem mayBeMail_outline (cs : List Char) : mayBeMail (outline cs) = mayBeMail cs := by
  have hcolon : ((· == ':') ∘ one) = (· == ':') := funext fun c => by
    rw [Function.comp_apply, Bool.eq_iff_iff, beq_iff_eq, beq_iff_eq, one_eq_iff rfl]
  have halpha : (fun c => (one c).isAlpha) = Char.isAlpha := funext isAlpha_one
  have hblank : Text.isBlank ∘ one = Text.isBlank := funext isBlank_one
  rw [mayBeMail, mayBeMail, outline, List.any_map, List.head?_map, Option.any_map, ← List.map_take,
    List.any_map, hcolon, halpha, hblank]

/-- The date of a mail has a colon, and it begins with the day of the week or the day of the month. -/
theorem mayBeMail_of_read? {cs : List Char} {t : DateTime} (h : read? cs = some t) :
    mayBeMail cs = true := by
  obtain ⟨front, zone, -, -, hcolon, hcs, -, -⟩ := hasTimeAndZone_of_read? h
  have hmem : cs.any (· == ':') = true :=
    List.any_eq_true.2 ⟨':', hcs ▸ List.mem_append_left zone hcolon, rfl⟩
  rw [mayBeMail, hmem, Bool.true_and, Bool.or_eq_true]
  exact startsLikeMail_of_read? h

end Rfc2822

/-! ## Whole numbers and blanks -/

/-- A number without a sign is made of digits. -/
theorem all_isDigit_of_readNat? {cs : List Char} {n : Nat} (h : Decimal.readNat? cs = some n) :
    cs.all Char.isDigit = true := by
  unfold Decimal.readNat? at h
  split at h
  · cases h
  · rename_i hall
    simp only [Bool.or_eq_true, not_or, Bool.not_eq_true', Bool.not_eq_false] at hall
    exact hall.2

/-- A whole number has digits only behind its first character. -/
theorem all_isDigit_of_readInt? {cs : List Char} {n : Int} (h : Decimal.readInt? cs = some n) :
    (cs.drop 1).all Char.isDigit = true := by
  unfold Decimal.readInt? at h
  split at h
  all_goals
    obtain ⟨_, hbind, -⟩ := Option.map_eq_some_iff.1 h
    obtain ⟨m, hm, -⟩ := Option.bind_eq_some_iff.1 hbind
    have hdigits := all_isDigit_of_readNat? hm
  · exact hdigits
  · exact hdigits
  · exact List.all_eq_true.2 fun c hc => List.all_eq_true.1 hdigits c (List.mem_of_mem_drop hc)

/-- Digits are where they are in the outline. -/
theorem all_isDigit_outline (cs : List Char) :
    ((outline cs).drop 1).all Char.isDigit = (cs.drop 1).all Char.isDigit := by
  have hdigit : Char.isDigit ∘ one = Char.isDigit := funext isDigit_one
  rw [drop_outline, outline, List.all_map, hdigit]

/-- A text is trimmed if its outline is. -/
theorem trim_eq_self_of_outline {cs : List Char} (h : Text.trim (outline cs) = outline cs) :
    Text.trim cs = cs := by
  have hblank {c : Char} {o : Option Char} (h : ∀ c ∈ o.map one, Text.isBlank c = false)
      (hc : c ∈ o) : Text.isBlank c = false := by
    rw [← isBlank_one]
    exact h (one c) (Option.mem_map_of_mem one hc)
  rw [Text.trim_eq_self_iff, outline, List.head?_map, List.getLast?_map] at h
  exact Text.trim_eq_self_iff.2 ⟨fun c hc => hblank h.1 hc, fun c hc => hblank h.2 hc⟩

end SqlCompose.Calendar
