/-!
# Texts of whole numbers

A whole number is written with ASCII digits and read back with an optional sign, as long as it fits
the 64 bits of a signed word.
-/

namespace SqlCompose.Decimal

/-- The number written by a run of digits. -/
def numberOf (digits : List Char) : Nat :=
  digits.foldl (fun n c => 10 * n + (c.toNat - '0'.toNat)) 0

/-- The number that a text of digits alone writes. -/
def readNat? (cs : List Char) : Option Nat :=
  if cs.isEmpty || !cs.all Char.isDigit then none else some (numberOf cs)

/-- The number that a text of digits writes, with a sign in front of them or none. -/
def readInt? (cs : List Char) : Option Int :=
  match cs with
  | '+' :: rest => (readNat? rest).map fun n => (n : Int)
  | '-' :: rest => (readNat? rest).map fun n => -(n : Int)
  | _ => (readNat? cs).map fun n => (n : Int)

/-- The number as a signed word, if it fits. -/
def int64? (n : Int) : Option Int64 :=
  if Int64.minValue.toInt ≤ n ∧ n ≤ Int64.maxValue.toInt then some (Int64.ofInt n) else none

/-- The signed word that a text writes, if the number fits. -/
def readInt64? (cs : List Char) : Option Int64 :=
  (readInt? cs).bind int64?

/-- A signed word in digits. -/
def int64Text (n : Int64) : String :=
  toString n.toInt

/-! ## Digits -/

/-- The digits of a number are read back as the number. -/
theorem numberOf_toDigits (n : Nat) : numberOf (Nat.toDigits 10 n) = n :=
  Nat.ofDigitChars_toDigits (by decide) (by decide)

/-- A number is written in digits alone. -/
theorem isDigit_of_mem_toDigits {n : Nat} {c : Char} (h : c ∈ Nat.toDigits 10 n) :
    c.isDigit = true :=
  Nat.isDigit_of_mem_toDigits (by decide) (by decide) h

/-- Nothing but digits stands in a written number. -/
theorem notMem_toDigits {c : Char} (h : c.isDigit = false) (n : Nat) : c ∉ Nat.toDigits 10 n :=
  fun hmem => Bool.false_ne_true (h.symm.trans (isDigit_of_mem_toDigits hmem))

/-- A written number is read back. -/
theorem readNat?_toDigits (n : Nat) : readNat? (Nat.toDigits 10 n) = some n := by
  have hdigits : (Nat.toDigits 10 n).all Char.isDigit = true :=
    List.all_eq_true.2 fun _ => isDigit_of_mem_toDigits
  rw [readNat?, List.isEmpty_eq_false_iff.2 Nat.toDigits_ne_nil, hdigits, numberOf_toDigits]
  rfl

/-- The text of a number is made of its digits. -/
theorem toList_toString (n : Nat) : (toString n).toList = Nat.toDigits 10 n := by
  rw [Nat.toString_eq_ofList_toDigits, String.toList_ofList]

/-! ## Signed words -/

/-- A signed word is the number that it has. -/
theorem int64?_eq_some_iff {n : Int} {w : Int64} : int64? n = some w ↔ w.toInt = n := by
  unfold int64?
  constructor
  · intro h
    split at h
    · rename_i hr
      have hlow : Int64.minValue.toInt = -9223372036854775808 := by decide
      have hhigh : Int64.maxValue.toInt = 9223372036854775807 := by decide
      simp only [Option.some.injEq] at h
      subst h
      exact Int64.toInt_ofInt_of_le (by omega) (by omega)
    · simp at h
  · rintro rfl
    rw [if_pos ⟨w.minValue_le_toInt, w.toInt_le⟩]
    simp

/-- A written signed word is read back. -/
theorem readInt64?_int64Text (w : Int64) : readInt64? (int64Text w).toList = some w := by
  have hread : readInt? (toString w.toInt).toList = some w.toInt := by
    cases w.toInt with
    | ofNat n =>
      have htext : (toString (Int.ofNat n)).toList = Nat.toDigits 10 n := toList_toString n
      rw [htext, readInt?]
      · rw [readNat?_toDigits]
        rfl
      · exact fun rest hsign => notMem_toDigits rfl n (hsign ▸ List.mem_cons_self)
      · exact fun rest hsign => notMem_toDigits rfl n (hsign ▸ List.mem_cons_self)
    | negSucc n =>
      have htext : (toString (Int.negSucc n)).toList = '-' :: Nat.toDigits 10 (n + 1) :=
        String.toList_append.trans (congrArg ('-' :: ·) (toList_toString (n + 1)))
      rw [htext, readInt?, readNat?_toDigits]
      rfl
  rw [readInt64?, int64Text, hread, Option.bind_some]
  exact int64?_eq_some_iff.2 rfl

/-- Different signed words have different texts. -/
theorem int64Text_inj {v w : Int64} (h : int64Text v = int64Text w) : v = w :=
  Option.some.inj <| by rw [← readInt64?_int64Text, h, readInt64?_int64Text]

end SqlCompose.Decimal
