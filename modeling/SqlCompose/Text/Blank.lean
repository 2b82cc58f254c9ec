import SqlCompose.Text.Split

/-!
# Blanks

The blank characters are those with the Unicode property `White_Space`. Trimming drops them from
either end of a text, and a text is blank when it holds nothing else. Trimming leaves alone just the
texts with a blank at neither end (`trim_eq_self_iff`).
-/

namespace SqlCompose.Text

/-- The characters with the property `White_Space`. -/
def isBlank (c : Char) : Bool :=
  let n := c.toNat
  (9 ≤ n && n ≤ 13) || n == 32 || n == 0x85 || n == 0xA0 || n == 0x1680
    || (0x2000 ≤ n && n ≤ 0x200A) || n == 0x2028 || n == 0x2029 || n == 0x202F
    || n == 0x205F || n == 0x3000

/-- The text after its leading blanks. -/
def trimStart (cs : List Char) : List Char :=
  cs.dropWhile isBlank

/-- The text before its trailing blanks. -/
def trimEnd (cs : List Char) : List Char :=
  (cs.reverse.dropWhile isBlank).reverse

/-- The text between its leading and its trailing blanks. -/
def trim (cs : List Char) : List Char :=
  trimEnd (trimStart cs)

/-- The string between its leading and its trailing blanks. -/
def trimmed (s : String) : String :=
  String.ofList (trim s.toList)

/-- Whether a string holds blanks only. -/
def isBlankText (s : String) : Bool :=
  s.toList.all isBlank

/-- The stretches of characters between blanks, none of them empty. -/
def words (cs : List Char) : List (List Char) :=
  let (current, done) := cs.foldr
    (fun c (current, done) =>
      if isBlank c then
        if current.isEmpty then ([], done) else ([], current :: done)
      else (c :: current, done))
    ([], [])
  if current.isEmpty then done else current :: done

/-- Nothing blank is left at the front of a trimmed text. -/
theorem trimStart_eq_nil_iff (cs : List Char) : trimStart cs = [] ↔ ∀ c ∈ cs, isBlank c = true := by
  induction cs with
  | nil => simp [trimStart]
  | cons c cs ih =>
    unfold trimStart at ih ⊢
    by_cases h : isBlank c = true
    · simp [h, ih]
    · simp [h]

/-- Something is left of every text that is not blank. -/
theorem trim_eq_nil_iff (cs : List Char) : trim cs = [] ↔ ∀ c ∈ cs, isBlank c = true := by
  have hend : trim cs = [] ↔ ∀ c ∈ trimStart cs, isBlank c = true := by
    rw [trim, trimEnd, List.reverse_eq_nil_iff]
    refine (trimStart_eq_nil_iff _).trans ?_
    simp only [List.mem_reverse]
  rw [hend, ← trimStart_eq_nil_iff cs]
  constructor
  · intro h
    -- The first character that is not dropped is not blank.
    by_cases hcs : cs.dropWhile isBlank = []
    · exact hcs
    · have hhead := h _ (List.head_mem hcs)
      rw [List.head_dropWhile_not isBlank hcs] at hhead
      cases hhead
  · intro h c hc
    rw [h] at hc
    cases hc

/-! ## Trimming -/

/-- Blanks in front of a text are dropped. -/
theorem trimStart_append {blanks : List Char} (h : ∀ c ∈ blanks, isBlank c = true)
    (cs : List Char) : trimStart (blanks ++ cs) = trimStart cs :=
  List.dropWhile_append_of_pos h

/-- A text that begins with no blank stays as it is at the front. -/
theorem trimStart_eq_self {cs : List Char} (h : ∀ c ∈ cs.head?, isBlank c = false) :
    trimStart cs = cs := by
  cases cs with
  | nil => rfl
  | cons c cs =>
    rw [trimStart, List.dropWhile_cons_of_neg (by rw [h c rfl]; exact Bool.false_ne_true)]

/-- What is left begins with no blank. -/
theorem isBlank_head?_trimStart (cs : List Char) :
    ∀ c ∈ (trimStart cs).head?, isBlank c = false :=
  head?_dropWhile isBlank cs

/-- What is left at the end is the front of the text. -/
theorem trimEnd_prefix (cs : List Char) : trimEnd cs <+: cs := by
  rw [trimEnd, ← List.reverse_suffix, List.reverse_reverse]
  exact List.dropWhile_suffix isBlank

/-- Blanks behind a text are dropped. -/
theorem trimEnd_append {blanks : List Char} (h : ∀ c ∈ blanks, isBlank c = true)
    (cs : List Char) : trimEnd (cs ++ blanks) = trimEnd cs := by
  rw [trimEnd, List.reverse_append,
    List.dropWhile_append_of_pos fun c hc => h c (List.mem_reverse.1 hc), trimEnd]

/-- A text that ends with no blank stays as it is at the end. -/
theorem trimEnd_eq_self {cs : List Char} (h : ∀ c ∈ cs.getLast?, isBlank c = false) :
    trimEnd cs = cs := by
  rw [← List.head?_reverse] at h
  have hkept : cs.reverse.dropWhile isBlank = cs.reverse := trimStart_eq_self h
  rw [trimEnd, hkept, List.reverse_reverse]

/-- A trimmed text does not begin with a blank. -/
theorem isBlank_head?_trim (cs : List Char) : ∀ c ∈ (trim cs).head?, isBlank c = false := by
  intro c hc
  obtain ⟨rest, hrest⟩ := trimEnd_prefix (trimStart cs)
  rw [trim, Option.mem_def] at hc
  refine isBlank_head?_trimStart cs c ?_
  rw [← hrest, List.head?_append, hc]
  rfl

/-- A trimmed text does not end in a blank. -/
theorem isBlank_getLast?_trim (cs : List Char) :
    ∀ c ∈ (trim cs).getLast?, isBlank c = false := by
  rw [trim, trimEnd, List.getLast?_reverse]
  exact isBlank_head?_trimStart _

/-- A text that neither begins nor ends with a blank is left alone, and no other one is. -/
theorem trim_eq_self_iff {cs : List Char} : trim cs = cs ↔
    (∀ c ∈ cs.head?, isBlank c = false) ∧ ∀ c ∈ cs.getLast?, isBlank c = false := by
  constructor
  · intro h
    rw [← h]
    exact ⟨isBlank_head?_trim cs, isBlank_getLast?_trim cs⟩
  · rintro ⟨hfirst, hlast⟩
    rw [trim, trimStart_eq_self hfirst, trimEnd_eq_self hlast]

/-- Blanks on both sides of a trimmed text are dropped. -/
theorem trim_append {before cs behind : List Char} (hbefore : ∀ c ∈ before, isBlank c = true)
    (hcs : trim cs = cs) (hbehind : ∀ c ∈ behind, isBlank c = true) :
    trim (before ++ (cs ++ behind)) = cs := by
  obtain ⟨hfirst, hlast⟩ := trim_eq_self_iff.1 hcs
  rw [trim, trimStart_append hbefore]
  cases cs with
  | nil => exact (trim_eq_nil_iff behind).2 hbehind
  | cons c cs =>
    have hstart : trimStart (c :: cs ++ behind) = c :: cs ++ behind := trimStart_eq_self hfirst
    rw [hstart, trimEnd_append hbehind, trimEnd_eq_self hlast]

end SqlCompose.Text
