/-!
# Letter case of ASCII letters

Keywords and names are compared without regard to the case of the letters `A` to `Z`; every other
character stands for itself.
-/

namespace SqlCompose.Text

/-- The string with the letters `A` to `Z` in lower case. -/
def asciiLower (s : String) : String :=
  String.ofList (s.toList.map Char.toLower)

/-- The string with the letters `a` to `z` in upper case. -/
def asciiUpper (s : String) : String :=
  String.ofList (s.toList.map Char.toUpper)

/-- Whether two texts differ at most in the case of ASCII letters. -/
def sameLetters (a b : List Char) : Bool :=
  a.map Char.toLower == b.map Char.toLower

/-- Whether two strings differ at most in the case of ASCII letters. -/
def sameIgnoringCase (a b : String) : Bool :=
  sameLetters a.toList b.toList

/-- Only letters become letters in lower case. -/
theorem isAlpha_of_toLower {c : Char} (h : c.toLower.isAlpha = true) : c.isAlpha = true := by
  by_cases hc : c.isUpper = true
  · exact Bool.or_eq_true_iff.2 (.inl hc)
  · have hlower : c.toLower = c := dif_neg fun hrange => hc (decide_eq_true hrange)
    rwa [hlower] at h

/-- Only letters become other characters in lower case, and these are letters again. -/
theorem eq_of_toLower_eq {c d : Char} (hd : d.isAlpha = false) (h : c.toLower = d) : c = d := by
  by_cases hc : c.isUpper = true
  · have hrange : 65 ≤ c.val.toNat ∧ c.val.toNat ≤ 90 := of_decide_eq_true hc
    have hval : c.toLower.val = c.val + 32 := congrArg Char.val (dif_pos (of_decide_eq_true hc))
    have hshift : (c.val + 32).toNat = (c.val.toNat + 32) % 2 ^ 32 := UInt32.toNat_add ..
    have hlow : 97 ≤ c.toLower.val.toNat := by rw [hval]; omega
    have hhigh : c.toLower.val.toNat ≤ 122 := by rw [hval]; omega
    have halpha : c.toLower.isAlpha = true := Bool.or_eq_true_iff.2
      (.inr (Bool.and_eq_true_iff.2 ⟨decide_eq_true hlow, decide_eq_true hhigh⟩))
    rw [h, hd] at halpha
    cases halpha
  · have hlower : c.toLower = c := dif_neg fun hrange => hc (decide_eq_true hrange)
    rw [← h, hlower]

end SqlCompose.Text
