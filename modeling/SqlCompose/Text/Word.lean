import SqlCompose.Text.Blank
import SqlCompose.Text.WordTable

/-!
# Word characters and digits

A word character is a letter, a mark, a digit, a connecting punctuation sign or a join control.
Below code point 128 these are the ASCII letters, the ASCII digits and the underscore. No blank is one
of them (`isWord_of_isBlank`).
-/

namespace SqlCompose.Text

/-- Letters, marks, digits, connecting punctuation and join controls. -/
def isWord (c : Char) : Bool :=
  c.isAlphanum || c == '_' || (128 ≤ c.toNat && inRanges wordRanges c.toNat)

/-- Decimal digits of any script. -/
def isAnyDigit (c : Char) : Bool :=
  c.isDigit || (128 ≤ c.toNat && inRanges digitRanges c.toNat)

/-- The characters of a name inside a placeholder: word characters, hyphens, dots and spaces. -/
def isNameChar (c : Char) : Bool :=
  isWord c || c == '-' || c == '.' || c == ' '

/-- ASCII letters and digits are word characters. -/
theorem isWord_of_isAlphanum {c : Char} (h : c.isAlphanum = true) : isWord c = true := by
  simp [isWord, h]

/-- The code points of the ASCII digits and letters. -/
theorem toNat_of_isAlphanum {c : Char} (h : c.isAlphanum = true) : 48 ≤ c.toNat ∧ c.toNat ≤ 57 ∨
    65 ≤ c.toNat ∧ c.toNat ≤ 90 ∨ 97 ≤ c.toNat ∧ c.toNat ≤ 122 := by
  rcases Bool.or_eq_true_iff.1 h with halpha | hdigit
  · rcases Bool.or_eq_true_iff.1 halpha with hupper | hlower
    · exact .inr (.inl (of_decide_eq_true hupper))
    · obtain ⟨hlow, hhigh⟩ := Bool.and_eq_true_iff.1 hlower
      exact .inr (.inr ⟨of_decide_eq_true hlow, of_decide_eq_true hhigh⟩)
  · obtain ⟨hlow, hhigh⟩ := Bool.and_eq_true_iff.1 hdigit
    exact .inl ⟨of_decide_eq_true hlow, of_decide_eq_true hhigh⟩

/-- A blank is no word character. -/
theorem isWord_of_isBlank {c : Char} (h : isBlank c = true) : isWord c = false := by
  -- Every range of word characters lies between two neighbouring ranges of blanks.
  have hranges : ∀ r ∈ wordRanges, r.2 < 9 ∨ 13 < r.1 ∧ r.2 < 32 ∨ 32 < r.1 ∧ r.2 < 0x85 ∨
      0x85 < r.1 ∧ r.2 < 0xA0 ∨ 0xA0 < r.1 ∧ r.2 < 0x1680 ∨ 0x1680 < r.1 ∧ r.2 < 0x2000 ∨
      0x200A < r.1 ∧ r.2 < 0x2028 ∨ 0x202F < r.1 ∧ r.2 < 0x205F ∨
      0x205F < r.1 ∧ r.2 < 0x3000 ∨ 0x3000 < r.1 := by
    decide +kernel
  simp only [isBlank, Bool.or_eq_true, Bool.and_eq_true, decide_eq_true_eq, beq_iff_eq] at h
  have houtside : inRanges wordRanges c.toNat = false := by
    rw [Bool.eq_false_iff, ne_eq, inRanges_iff]
    rintro ⟨r, hr, hlow, hhigh⟩
    have := hranges r hr
    omega
  have halphanum : c.isAlphanum = false := by
    refine Bool.eq_false_iff.2 fun hc => ?_
    have hcodes := toNat_of_isAlphanum hc
    omega
  have hconnector : c ≠ '_' := by
    rintro rfl
    simp at h
  rw [isWord, halphanum, beq_false_of_ne hconnector, houtside, Bool.and_false]
  rfl

/-- A word character is no blank. -/
theorem isBlank_of_isWord {c : Char} (h : isWord c = true) : isBlank c = false := by
  refine Bool.eq_false_iff.2 fun hblank => ?_
  rw [isWord_of_isBlank hblank] at h
  cases h

end SqlCompose.Text
