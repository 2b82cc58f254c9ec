import SqlCompose.Query.Basic

/-!
# Keys and their parts

A pair of underscores is the last one of a text just if none is in what follows its second underscore,
this underscore included (`splitLastPair?_eq_some_iff`): so three underscores in a row leave one to the
field. A key is read as the field and the lookup that it is written from (`Key.Writes`), and it is a
field as a whole where there are none (`Test.ofKey_eq_iff`).
-/

namespace SqlCompose

/-! ## The last pair of underscores -/

/-- There is nothing to split at just if no two underscores stand in a row. -/
theorem splitLastPair?_eq_none_iff {cs : List Char} :
    splitLastPair? cs = none ↔ ¬ ['_', '_'] <:+: cs := by
  fun_induction splitLastPair? cs with
  | case1 => simp
  | case2 c cs before behind hsplit ih =>
    have hpair : ['_', '_'] <:+: cs := Decidable.not_not.1 fun h => by
      rw [hsplit] at ih
      cases ih.2 h
    exact iff_of_false nofun fun h => h (List.infix_cons hpair)
  | case3 behind hsplit ih =>
    exact iff_of_false nofun fun h => h (List.prefix_append ['_', '_'] behind).isInfix
  | case4 c cs hsplit hnot ih =>
    refine iff_of_true rfl fun hpair => ?_
    rcases List.infix_cons_iff.1 hpair with hlead | hrest
    · obtain ⟨behind, hbehind⟩ := hlead
      cases hbehind
      exact hnot behind rfl rfl
    · exact ih.1 hsplit hrest

/-- A text is split where no pair begins behind the first underscore of a pair. -/
theorem splitLastPair?_append (before : List Char) {behind : List Char}
    (h : ¬ ['_', '_'] <:+: '_' :: behind) :
    splitLastPair? (before ++ '_' :: '_' :: behind) = some (before, behind) := by
  induction before with
  | nil => rw [List.nil_append, splitLastPair?, splitLastPair?_eq_none_iff.2 h]
  | cons c before ih => simp only [List.cons_append, splitLastPair?, ih]

/-- A text is split at the last two underscores in a row. -/
theorem splitLastPair?_eq_some_iff {cs before behind : List Char} :
    splitLastPair? cs = some (before, behind) ↔
      cs = before ++ '_' :: '_' :: behind ∧ ¬ ['_', '_'] <:+: '_' :: behind := by
  constructor
  · intro h
    fun_induction splitLastPair? cs generalizing before with
    | case1 => cases h
    | case2 c cs front behind hsplit ih =>
      cases h
      obtain ⟨rfl, hnone⟩ := ih hsplit
      exact ⟨rfl, hnone⟩
    | case3 behind hsplit =>
      cases h
      exact ⟨rfl, splitLastPair?_eq_none_iff.1 hsplit⟩
    | case4 => cases h
  · rintro ⟨rfl, hnone⟩
    exact splitLastPair?_append before hnone

/-- An underscore in front makes a pair with one that the text begins with. -/
theorem infix_cons_underscore_iff {cs : List Char} :
    ['_', '_'] <:+: '_' :: cs ↔ ['_', '_'] <:+: cs ∨ cs.head? = some '_' := by
  have hlead : ['_', '_'] <+: '_' :: cs ↔ cs.head? = some '_' := by
    rw [List.prefix_cons_inj]
    cases cs <;> simp [eq_comm]
  rw [List.infix_cons_iff, hlead, or_comm]

/-! ## Fields and lookups -/

/-- A key is written from a field and the name of a lookup: with a pair of underscores between them,
and with none in the name nor an underscore at its front. -/
structure Key.Writes (field operator key : String) : Prop where
  eq : key = field ++ "__" ++ operator
  field_ne : field ≠ ""
  operator_ne : operator ≠ ""
  single : ¬ ['_', '_'] <:+: operator.toList
  begins : operator.toList.head? ≠ some '_'

variable {field operator key : String}

/-- A key is split where it was put together. -/
theorem Key.writes_iff : Key.Writes field operator key ↔
    splitLastPair? key.toList = some (field.toList, operator.toList) ∧
      field ≠ "" ∧ operator ≠ "" := by
  have heq : key = field ++ "__" ++ operator ↔
      key.toList = field.toList ++ '_' :: '_' :: operator.toList := by
    rw [← String.toList_inj, String.toList_append, String.toList_append, List.append_assoc]
    rfl
  rw [splitLastPair?_eq_some_iff, infix_cons_underscore_iff, not_or, ← heq]
  constructor
  · rintro ⟨hkey, hfield, hoperator, hsingle, hbegins⟩
    exact ⟨⟨hkey, hsingle, hbegins⟩, hfield, hoperator⟩
  · rintro ⟨⟨hkey, hsingle, hbegins⟩, hfield, hoperator⟩
    exact ⟨hkey, hfield, hoperator, hsingle, hbegins⟩

/-- A key that was written from a field and an operator is parsed to these. -/
theorem Key.parse_of_writes (h : Key.Writes field operator key) :
    Key.parse key = ⟨field, some operator⟩ := by
  obtain ⟨hsplit, hfield, hoperator⟩ := Key.writes_iff.1 h
  have hnot : (field.toList.isEmpty || operator.toList.isEmpty) = false := by
    simp [hfield, hoperator]
  rw [Key.parse, hsplit]
  simp [hnot]

/-- A key that is written from nothing is a field as a whole. -/
theorem Key.parse_of_forall_not_writes (h : ∀ field operator, ¬ Key.Writes field operator key) :
    Key.parse key = ⟨key, none⟩ := by
  rw [Key.parse]
  split
  · rename_i field operator hsplit
    split
    · rfl
    · rename_i hne
      rw [Bool.or_eq_true, List.isEmpty_iff, List.isEmpty_iff, not_or] at hne
      refine absurd (Key.writes_iff.2 ⟨?_, ?_, ?_⟩) (h (String.ofList field) (String.ofList operator))
      · rw [hsplit, String.toList_ofList, String.toList_ofList]
      · simpa using hne.1
      · simpa using hne.2
  · rfl

/-- A condition on a key is one on the field that the key is written from, by the lookup that it is
written from; and a condition on the whole key, without a lookup, just if the key is written from
nothing. -/
theorem Test.ofKey_eq_iff (key : String) (operand : Operand) :
    (∀ field operator, Test.ofKey key operand = ⟨field, some operator, operand⟩ ↔
      Key.Writes field operator key) ∧
    (∀ field, Test.ofKey key operand = ⟨field, none, operand⟩ ↔
      field = key ∧ ∀ field operator, ¬ Key.Writes field operator key) := by
  have hparse : ∀ field operator,
      Test.ofKey key operand = ⟨field, operator, operand⟩ ↔ Key.parse key = ⟨field, operator⟩ := by
    intro field operator
    rw [Test.ofKey]
    cases Key.parse key
    simp
  by_cases h : ∃ field operator, Key.Writes field operator key
  · obtain ⟨field, operator, hwrites⟩ := h
    refine ⟨fun field' operator' => ⟨fun heq => ?_, fun hwrites' => ?_⟩, fun field' => ?_⟩
    · rw [hparse, Key.parse_of_writes hwrites] at heq
      cases heq
      exact hwrites
    · rw [hparse, Key.parse_of_writes hwrites']
    · rw [hparse, Key.parse_of_writes hwrites]
      exact iff_of_false nofun fun hnone => hnone.2 field operator hwrites
  · have hnone : ∀ field operator, ¬ Key.Writes field operator key := fun field operator hwrites =>
      h ⟨field, operator, hwrites⟩
    refine ⟨fun field operator => ?_, fun field => ?_⟩
    · rw [hparse, Key.parse_of_forall_not_writes hnone]
      exact iff_of_false nofun (hnone field operator)
    · rw [hparse, Key.parse_of_forall_not_writes hnone, Key.mk.injEq, and_iff_left rfl,
        and_iff_left hnone, eq_comm]

end SqlCompose
