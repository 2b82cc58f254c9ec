import SqlCompose.Literal

/-!
# Values written as null

Null is written as null, and so are the floating-point numbers that are not finite, for want of a
literal. The literals of all other values differ from it (`Adapter.quoteValue_eq_null_iff`): there are
quotes around texts and bytes, and there is no letter in a number.
-/

namespace SqlCompose

/-! ## Texts of numbers -/

/-- A text without an `N` is not `NULL`. -/
theorem ne_null_of_notMem {s : String} (h : 'N' ∉ s.toList) : s ≠ "NULL" := by
  rintro rfl
  exact h (by decide)

/-- The text of a whole number has digits only, and a minus at most. -/
theorem Decimal.notMem_int64Text {c : Char} (hdigit : c.isDigit = false) (hsign : c ≠ '-')
    (n : Int64) : c ∉ (Decimal.int64Text n).toList := by
  rw [Decimal.int64Text]
  cases n.toInt with
  | ofNat m =>
    change c ∉ (toString m).toList
    rw [toList_toString]
    exact notMem_toDigits hdigit m
  | negSucc m =>
    change c ∉ ("-" ++ toString (m + 1)).toList
    rw [String.toList_append, toList_toString, List.mem_append, not_or]
    exact ⟨by simpa using hsign, notMem_toDigits hdigit (m + 1)⟩

namespace Decimal

/-- The digits of a number are digits. -/
theorem isDigit_of_mem_ofNat {number n : Nat} {k : Int} {c : Char}
    (h : c ∈ (Digits.ofNat number n k).digits) : c.isDigit = true := by
  rw [Digits.ofNat, List.mem_reverse] at h
  exact isDigit_of_mem_toDigits (List.mem_reverse.1 ((List.dropWhile_sublist _).mem h))

/-- So are the shortest ones between two bounds. -/
theorem isDigit_of_mem_shortestFrom {i : Interval} {tie : Tie} {k : Int} {n more : Nat} {c : Char}
    (h : c ∈ (i.shortestFrom tie k n more).digits) : c.isDigit = true := by
  induction more generalizing n with
  | zero => exact isDigit_of_mem_ofNat h
  | succ more ih =>
    rw [Interval.shortestFrom] at h
    split at h
    · exact isDigit_of_mem_ofNat h
    · exact ih h

/-- Written in their places, digits have zeros and a point between them at most. -/
theorem mem_positional {d : Digits} {c : Char} (h : c ∈ d.positional) :
    c ∈ d.digits ∨ c = '0' ∨ c = '.' := by
  unfold Digits.positional at h
  dsimp only at h
  split at h
  · simp only [List.cons_append, List.mem_cons, List.mem_append] at h
    obtain rfl | rfl | h | h := h
    · exact .inr (.inl rfl)
    · exact .inr (.inr rfl)
    · exact .inr (.inl (List.eq_of_mem_replicate h))
    · exact .inl h
  · split at h
    · obtain h | h := List.mem_append.1 h
      · exact .inl h
      · exact .inr (.inl (List.eq_of_mem_replicate h))
    · simp only [List.mem_append, List.mem_cons] at h
      obtain h | rfl | h := h
      · exact .inl (List.mem_of_mem_take h)
      · exact .inr (.inr rfl)
      · exact .inl (List.mem_of_mem_drop h)

end Decimal

/-- There is no letter in a finite number. -/
theorem Binary64.notMem_positionalText {x : Binary64} (hx : x.isFinite = true) :
    'N' ∉ x.positionalText.toList := by
  have hnan : x.isNaN = false := by
    rw [isNaN, bne_iff_ne.1 hx |> beq_eq_false_iff_ne.2, Bool.false_and]
  have hmagnitude : 'N' ∉ (if x.significand = 0 then "0"
      else String.ofList (Decimal.shortest .up x).positional).toList := by
    split
    · decide
    · rw [String.toList_ofList]
      intro h
      obtain h | h | h := Decimal.mem_positional h
      · cases Decimal.isDigit_of_mem_shortestFrom h
      · cases h
      · cases h
  simp only [positionalText, hnan, hx, Bool.not_true, Bool.false_eq_true, if_false]
  split
  · rw [String.toList_append, List.mem_append, not_or]
    exact ⟨by decide, hmagnitude⟩
  · exact hmagnitude

/-! ## Literals -/

/-- A text with a quote in it is not `NULL`. -/
theorem ne_null_of_quote {s : String} (h : '\'' ∈ s.toList) : s ≠ "NULL" := by
  rintro rfl
  exact absurd h (by decide)

namespace Dialect

/-- No dialect writes a truth value as null. -/
theorem boolLiteral_ne_null (d : Dialect) (b : Bool) : d.boolLiteral b ≠ "NULL" := by
  cases d <;> cases b <;> decide

/-- A literal for a string has quotes. -/
theorem quote_mem_stringLiteral (d : Dialect) (s : String) : '\'' ∈ (d.stringLiteral s).toList := by
  simp [stringLiteral, String.toList_append]

/-- A literal for bytes has quotes, whatever stands around them. -/
theorem quote_mem_blobLiteral (d : Dialect) (bytes : List UInt8) :
    '\'' ∈ (d.blobLiteral bytes).toList := by
  cases d <;> simp [blobLiteral, String.toList_append]

end Dialect

namespace Value

/-- Whether a value has a literal: null has none, and neither has a number that is not finite. -/
def hasLiteral : Value → Bool
  | .null => false
  | .float x => x.isFinite
  | _ => true

end Value

namespace Adapter

variable {a : Adapter}

/-- A connection that quotes in its own way puts its strings between quotes. -/
def QuotesStrings (a : Adapter) : Prop :=
  ∀ d ∈ a.driver, ∀ s literal, d.quoteString s = some literal → '\'' ∈ literal.toList

/-- Without a connection, strings are quoted by the dialect. -/
theorem quotesStrings_of_driver_eq_none (ha : a.driver = none) : a.QuotesStrings := by
  intro d hd
  rw [ha] at hd
  cases hd

/-- A string is written between quotes, by the connection or by the dialect. -/
theorem quote_mem_quoteString (ha : a.QuotesStrings) (s : String) :
    '\'' ∈ (a.quoteString s).toList := by
  rw [quoteString]
  cases hown : a.driver.bind fun d => d.quoteString s with
  | none => exact a.dialect.quote_mem_stringLiteral s
  | some literal =>
    obtain ⟨d, hd, hliteral⟩ := Option.bind_eq_some_iff.1 hown
    exact ha d hd s literal hliteral

/-- The values that are written as null are those without a literal. -/
theorem quoteValue_eq_null_iff (ha : a.QuotesStrings) (v : Value) :
    a.quoteValue v = "NULL" ↔ v.hasLiteral = false := by
  have hstring (s : String) : a.quoteString s ≠ "NULL" :=
    ne_null_of_quote (quote_mem_quoteString ha s)
  cases v with
  | null => exact iff_of_true rfl rfl
  | bool b => exact iff_of_false (a.dialect.boolLiteral_ne_null b) nofun
  | int n =>
    exact iff_of_false (ne_null_of_notMem (Decimal.notMem_int64Text rfl (by decide) n)) nofun
  | float x =>
    rw [Value.hasLiteral]
    by_cases hx : x.isFinite = true
    · have htext : a.quoteValue (.float x) = x.positionalText := if_pos hx
      rw [htext, hx]
      exact iff_of_false (ne_null_of_notMem (Binary64.notMem_positionalText hx)) nofun
    · exact iff_of_true (if_neg hx) (Bool.not_eq_true _ ▸ hx)
  | text s => exact iff_of_false (hstring s) nofun
  | blob bytes =>
    exact iff_of_false (ne_null_of_quote (a.dialect.quote_mem_blobLiteral bytes)) nofun
  | date d => exact iff_of_false (hstring d.text) nofun
  | dateTime t => exact iff_of_false (hstring t.text) nofun

end Adapter

end SqlCompose
