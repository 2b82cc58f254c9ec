import Mathlib.Data.List.Basic
import Mathlib.Data.List.TakeWhile
import SqlCompose.ColumnType
import SqlCompose.Text.Split

/-!
# Column definitions taken apart

A column definition is a name, a size in parentheses and modifiers, one behind the other
(`TypeText.text`). It is taken apart to a reading of which the parts end where they have to
(`TypeText.IsReading`), and there is only one such reading (`TypeText.read?_eq_some_iff`).
-/

namespace SqlCompose.TypeText

open Text (isBlank isWord trim)

/-- A size in its parentheses, if there is one. -/
def sizeText : Option (List Char) → List Char
  | some size => '(' :: size ++ [')']
  | none => []

/-- The definition that was taken apart. -/
def text (p : TypeText) : List Char :=
  p.name ++ (sizeText p.size ++ p.modifiers)

theorem mem_getLast?_text {p : TypeText} {c : Char} (h : c ∈ p.modifiers.getLast?) :
    c ∈ p.text.getLast? :=
  List.mem_getLast?_append_of_mem_getLast? (List.mem_getLast?_append_of_mem_getLast? h)

/-- A size stands between parentheses, and none of them is in it. -/
theorem size?_eq_some_iff {cs size behind : List Char} :
    size? cs = some (size, behind) ↔ ')' ∉ size ∧ cs = '(' :: size ++ ')' :: behind := by
  constructor
  · intro h
    unfold size? at h
    split at h
    · rename_i rest
      dsimp only at h
      have hdrop := Text.drop_takeWhile (· != ')') rest
      have hrest := List.takeWhile_append_dropWhile (p := (· != ')')) (l := rest)
      split at h
      · rename_i c modifiers heq
        obtain ⟨rfl, rfl⟩ := Prod.mk.inj (Option.some.inj h)
        rw [hdrop] at heq
        obtain rfl : c = ')' := by
          simpa using Text.head?_dropWhile (· != ')') rest c (by rw [heq]; rfl)
        rw [heq] at hrest
        refine ⟨fun hmem => ?_, ?_⟩
        · simpa using List.mem_takeWhile_imp hmem
        · rw [List.cons_append, hrest]
      · cases h
    · cases h
  · rintro ⟨hsize, rfl⟩
    have htake : (size ++ ')' :: behind).takeWhile (· != ')') = size :=
      Text.takeWhile_append (fun c hc => bne_iff_ne.2 fun h => hsize (h ▸ hc))
        fun c hc => by cases hc; rfl
    rw [List.cons_append, size?]
    simp only [htake, List.drop_left]

/-- A written size is read back. -/
theorem size?_sizeText {size : List Char} (h : ')' ∉ size) (behind : List Char) :
    size? (sizeText (some size) ++ behind) = some (size, behind) := by
  rw [size?_eq_some_iff]
  exact ⟨h, by simp [sizeText]⟩

/-- What a definition may be taken apart to: a name that is a word, a size without a closing
parenthesis, and modifiers without a line break, which go on neither with the name nor, where there
is no size, with one. -/
structure IsReading (p : TypeText) : Prop where
  name_ne_nil : p.name ≠ []
  isWord_name : ∀ c ∈ p.name, isWord c = true
  closed : ∀ size ∈ p.size, ')' ∉ size
  ends : p.size = none → (∀ c ∈ p.modifiers.head?, isWord c = false) ∧ size? p.modifiers = none
  oneLine : '\n' ∉ p.modifiers

namespace IsReading

variable {p : TypeText}

/-- Behind the name of a definition, no word goes on. -/
theorem head?_behind (h : p.IsReading) :
    ∀ c ∈ (sizeText p.size ++ p.modifiers).head?, isWord c = false := by
  cases hsize : p.size with
  | none => exact (h.ends hsize).1
  | some size =>
    intro c hc
    cases hc
    decide

/-- The name of a definition is its first word. -/
theorem takeWhile_text (h : p.IsReading) : p.text.takeWhile isWord = p.name :=
  Text.takeWhile_append h.isWord_name h.head?_behind

/-- Behind the first word stand the size and the modifiers. -/
theorem dropWhile_text (h : p.IsReading) : p.text.dropWhile isWord = sizeText p.size ++ p.modifiers :=
  Text.dropWhile_append h.isWord_name h.head?_behind

end IsReading

/-- A definition without a size behind its first word. -/
theorem read?_of_bare {cs : List Char} (h : size? (cs.dropWhile isWord) = none) :
    read? cs = if cs.takeWhile isWord = [] ∨ '\n' ∈ cs.dropWhile isWord then none
      else some ⟨cs.takeWhile isWord, none, cs.dropWhile isWord⟩ := by
  unfold read?
  simp only [Text.drop_takeWhile, h, Bool.or_eq_true, List.isEmpty_iff, List.contains_iff_mem]

/-- A definition with a size behind its first word. -/
theorem read?_of_sized {cs size modifiers : List Char}
    (h : size? (cs.dropWhile isWord) = some (size, modifiers)) :
    read? cs = if cs.takeWhile isWord = [] ∨ '\n' ∈ modifiers then none
      else some ⟨cs.takeWhile isWord, some size, modifiers⟩ := by
  unfold read?
  simp only [Text.drop_takeWhile, h, Bool.or_eq_true, List.isEmpty_iff, List.contains_iff_mem]

/-- A definition is taken apart to what it is put together from, and to nothing else. -/
theorem read?_eq_some_iff {cs : List Char} {p : TypeText} :
    read? cs = some p ↔ p.IsReading ∧ p.text = cs := by
  constructor
  · intro h
    have hname : ∀ c ∈ cs.takeWhile isWord, isWord c = true := fun c hc => List.mem_takeWhile_imp hc
    have hcs := List.takeWhile_append_dropWhile (p := isWord) (l := cs)
    cases hsize : size? (cs.dropWhile isWord) with
    | none =>
      rw [read?_of_bare hsize] at h
      obtain ⟨hfits, ⟨⟩⟩ := Option.ite_none_left_eq_some.1 h
      rw [not_or] at hfits
      exact ⟨⟨hfits.1, hname, nofun, fun _ => ⟨Text.head?_dropWhile isWord cs, hsize⟩, hfits.2⟩,
        hcs⟩
    | some parts =>
      obtain ⟨size, modifiers⟩ := parts
      obtain ⟨hclosed, hrest⟩ := size?_eq_some_iff.1 hsize
      rw [read?_of_sized hsize] at h
      obtain ⟨hfits, ⟨⟩⟩ := Option.ite_none_left_eq_some.1 h
      rw [not_or] at hfits
      refine ⟨⟨hfits.1, hname, ?_, nofun, hfits.2⟩, ?_⟩
      · rintro _ ⟨⟩
        exact hclosed
      · rw [hrest] at hcs
        simpa [text, sizeText] using hcs
  · rintro ⟨h, rfl⟩
    have hname := h.takeWhile_text
    have hbehind := h.dropWhile_text
    cases hsize : p.size with
    | none =>
      have hbehind : p.text.dropWhile isWord = p.modifiers := by
        rw [hbehind, hsize]
        rfl
      have hbare : size? (p.text.dropWhile isWord) = none := hbehind ▸ (h.ends hsize).2
      rw [read?_of_bare hbare, hname, hbehind, if_neg (not_or.2 ⟨h.name_ne_nil, h.oneLine⟩),
        ← hsize]
    | some size =>
      have hsized : size? (p.text.dropWhile isWord) = some (size, p.modifiers) := by
        rw [hbehind, hsize]
        exact size?_sizeText (h.closed size hsize) p.modifiers
      rw [read?_of_sized hsized, hname, if_neg (not_or.2 ⟨h.name_ne_nil, h.oneLine⟩), ← hsize]

/-! ## Sizes put into a type -/

/-- A type with a size in the place of its own, or as it stands. -/
def resized (type : List Char) : Option (List Char) → List Char
  | some size => withSize size type
  | none => type

/-- No parenthesis is in a word. -/
theorem paren_notMem {name : List Char} (h : ∀ c ∈ name, isWord c = true) : '(' ∉ name :=
  fun hmem => absurd (h '(' hmem) (by decide)

/-- A size takes the place of the one behind the name. -/
theorem withSize_of_sized {t : TypeText} (ht : t.IsReading) {own : List Char}
    (hown : t.size = some own) (size : List Char) :
    withSize size t.text = t.name ++ (sizeText (some size) ++ t.modifiers) := by
  have htext : t.text = t.name ++ '(' :: (own ++ ')' :: t.modifiers) := by
    simp [text, hown, sizeText]
  have htake : t.text.takeWhile (· != '(') = t.name := by
    rw [htext]
    refine Text.takeWhile_append (fun c hc => bne_iff_ne.2 fun h => ?_) fun c hc => by cases hc; rfl
    exact paren_notMem ht.isWord_name (h ▸ hc)
  have hsize : size? ('(' :: (own ++ ')' :: t.modifiers)) = some (own, t.modifiers) :=
    size?_eq_some_iff.2 ⟨ht.closed own hown, rfl⟩
  unfold withSize
  simp only [htake]
  rw [htext, List.drop_left, hsize]
  simp [sizeText]

/-- A size is put behind a type without one. -/
theorem withSize_of_unsized {type : List Char} (h : '(' ∉ type) (size : List Char) :
    withSize size type = type ++ sizeText (some size) := by
  have htake : type.takeWhile (· != '(') = type :=
    List.takeWhile_eq_self_iff.2 fun c hc => bne_iff_ne.2 fun heq => h (heq ▸ hc)
  unfold withSize
  simp only [htake, List.drop_length, size?]
  simp [sizeText]

end SqlCompose.TypeText
