/-!
# Splitting and replacing

A text is cut at every occurrence of a separator, at the first or at the last one; joining the parts
with the separator gives the text back, and splitting joined parts gives the parts back, if the
separator is in none of them. What stands in a text and is without the separator stands in one of its
parts. A character is replaced by a text wherever it occurs.
-/

namespace SqlCompose.Text

/-- The stretches between the occurrences of `sep`. There is always at least one. -/
def splitOn (sep : Char) : List Char → List (List Char)
  | [] => [[]]
  | c :: cs =>
    if c = sep then [] :: splitOn sep cs
    else
      match splitOn sep cs with
      | [] => [[c]]
      | part :: parts => (c :: part) :: parts

/-- The parts written one after the other with `sep` between them. -/
def joinWith (sep : List Char) : List (List Char) → List Char
  | [] => []
  | [part] => part
  | part :: parts => part ++ sep ++ joinWith sep parts

/-- What stands before and after the first `sep`. -/
def splitFirst? (sep : Char) : List Char → Option (List Char × List Char)
  | [] => none
  | c :: cs =>
    if c = sep then some ([], cs)
    else (splitFirst? sep cs).map fun (before, after) => (c :: before, after)

/-- What stands before and after the last character that satisfies `p`. -/
def splitLastBy? (p : Char → Bool) : List Char → Option (List Char × List Char)
  | [] => none
  | c :: cs =>
    match splitLastBy? p cs with
    | some (before, after) => some (c :: before, after)
    | none => if p c then some ([], cs) else none

/-- What stands before and after the last `sep`. -/
def splitLast? (sep : Char) (cs : List Char) : Option (List Char × List Char) :=
  splitLastBy? (· == sep) cs

/-- The text with `text` in the place of every `c`. -/
def replaceChar (c : Char) (text : List Char) (cs : List Char) : List Char :=
  cs.flatMap fun x => if x = c then text else [x]

/-- The text with every `c` written twice. -/
def doubled (c : Char) (cs : List Char) : List Char :=
  replaceChar c [c, c] cs

/-- Whether two `c` stand side by side somewhere. -/
def hasPair (c : Char) : List Char → Bool
  | [] => false
  | [_] => false
  | a :: b :: rest => (a == c && b == c) || hasPair c (b :: rest)

/-- What follows `lead` at the front of a text. -/
def after? : List Char → List Char → Option (List Char)
  | [], cs => some cs
  | _ :: _, [] => none
  | l :: lead, c :: cs => if l = c then after? lead cs else none

/-- A stretch of characters of one kind ends where one of another kind stands. -/
theorem takeWhile_append {p : Char → Bool} {front rest : List Char}
    (hfront : ∀ c ∈ front, p c = true) (hrest : ∀ c ∈ rest.head?, p c = false) :
    (front ++ rest).takeWhile p = front := by
  rw [List.takeWhile_append_of_pos hfront]
  cases rest with
  | nil => rw [List.takeWhile_nil, List.append_nil]
  | cons c rest =>
    rw [List.takeWhile_cons_of_neg (by rw [hrest c rfl]; exact Bool.false_ne_true),
      List.append_nil]

/-- What is left behind a stretch of characters of one kind begins with one of another kind. -/
theorem head?_dropWhile (p : Char → Bool) (cs : List Char) :
    ∀ c ∈ (cs.dropWhile p).head?, p c = false := by
  intro c hc
  have hnot := List.head?_dropWhile_not p cs
  rw [Option.mem_def.1 hc] at hnot
  exact hnot

/-- Behind the stretch of one kind there is what is left without it. -/
theorem drop_takeWhile (p : Char → Bool) (cs : List Char) :
    cs.drop (cs.takeWhile p).length = cs.dropWhile p := by
  induction cs with
  | nil => rfl
  | cons c cs ih =>
    by_cases h : p c = true
    · rw [List.takeWhile_cons_of_pos h, List.dropWhile_cons_of_pos h, List.length_cons,
        List.drop_succ_cons, ih]
    · rw [List.takeWhile_cons_of_neg h, List.dropWhile_cons_of_neg h, List.length_nil,
        List.drop_zero]

/-- What stands behind a stretch of characters of one kind is left when they are dropped. -/
theorem dropWhile_append {p : Char → Bool} {front rest : List Char}
    (hfront : ∀ c ∈ front, p c = true) (hrest : ∀ c ∈ rest.head?, p c = false) :
    (front ++ rest).dropWhile p = rest := by
  rw [← drop_takeWhile, takeWhile_append hfront hrest, List.drop_left]

/-- What holds of the first character of two texts holds of the first one of both together. -/
theorem forall_head?_append {P : Char → Prop} {front rest : List Char}
    (hfront : ∀ c ∈ front.head?, P c) (hrest : ∀ c ∈ rest.head?, P c) :
    ∀ c ∈ (front ++ rest).head?, P c := by
  cases front with
  | nil => exact hrest
  | cons => exact hfront

/-- What holds of the last character of two texts holds of the last one of both together. -/
theorem forall_getLast?_append {P : Char → Prop} {front rest : List Char}
    (hfront : ∀ c ∈ front.getLast?, P c) (hrest : ∀ c ∈ rest.getLast?, P c) :
    ∀ c ∈ (front ++ rest).getLast?, P c := by
  rw [← List.head?_reverse, List.reverse_append]
  rw [← List.head?_reverse] at hfront hrest
  exact forall_head?_append hrest hfront

/-- A text has at least one part. -/
theorem splitOn_ne_nil (sep : Char) (cs : List Char) : splitOn sep cs ≠ [] := by
  cases cs with
  | nil => simp [splitOn]
  | cons c cs =>
    unfold splitOn
    split
    · simp
    · split <;> simp

/-- Joining the parts of a text with the separator gives the text back. -/
theorem joinWith_splitOn (sep : Char) (cs : List Char) : joinWith [sep] (splitOn sep cs) = cs := by
  induction cs with
  | nil => rfl
  | cons c cs ih =>
    unfold splitOn
    split
    · rename_i h
      match hs : splitOn sep cs with
      | [] => exact absurd hs (splitOn_ne_nil sep cs)
      | part :: parts => rw [hs] at ih; simp [joinWith, ih, h]
    · match hs : splitOn sep cs with
      | [] => exact absurd hs (splitOn_ne_nil sep cs)
      | [part] => rw [hs] at ih; simp_all [joinWith]
      | part :: next :: parts => rw [hs] at ih; simp_all [joinWith]

/-- The two sides of the first separator and the separator make up the text. -/
theorem eq_of_splitFirst? {sep : Char} {cs before after : List Char}
    (h : splitFirst? sep cs = some (before, after)) : cs = before ++ sep :: after := by
  induction cs generalizing before with
  | nil => simp [splitFirst?] at h
  | cons c cs ih =>
    unfold splitFirst? at h
    split at h
    · simp_all
    · obtain ⟨⟨b, a⟩, hb, he⟩ := Option.map_eq_some_iff.1 h
      simp only [Prod.mk.injEq] at he
      obtain ⟨rfl, rfl⟩ := he
      simp [ih hb]

/-- There is nothing to split at just if the separator does not occur. -/
theorem splitFirst?_eq_none_iff {sep : Char} {cs : List Char} :
    splitFirst? sep cs = none ↔ sep ∉ cs := by
  induction cs with
  | nil => simp [splitFirst?]
  | cons c cs ih =>
    by_cases hc : c = sep
    · simp [splitFirst?, hc]
    · simp [splitFirst?, hc, ih, Ne.symm hc]

/-- From the end, too, there is nothing to split at just if the separator does not occur. -/
theorem splitLast?_eq_none_iff {sep : Char} {cs : List Char} :
    splitLast? sep cs = none ↔ sep ∉ cs := by
  unfold splitLast?
  induction cs with
  | nil => simp [splitLastBy?]
  | cons c cs ih =>
    unfold splitLastBy?
    rw [List.mem_cons, not_or, ← ih]
    cases splitLastBy? (· == sep) cs with
    | none => simp [eq_comm (a := sep)]
    | some sides => simp

/-- The two sides of the last separator and the separator make up the text, and no separator follows
it. -/
theorem eq_of_splitLast? {sep : Char} {cs before after : List Char}
    (h : splitLast? sep cs = some (before, after)) : cs = before ++ sep :: after ∧ sep ∉ after := by
  induction cs generalizing before with
  | nil => cases h
  | cons c cs ih =>
    rw [splitLast?, splitLastBy?] at h
    split at h
    · rename_i b a hsplit
      cases h
      obtain ⟨rfl, hafter⟩ := ih hsplit
      exact ⟨rfl, hafter⟩
    · rename_i hsplit
      split at h
      · rename_i hc
        cases h
        exact ⟨by rw [beq_iff_eq.1 hc, List.nil_append], splitLast?_eq_none_iff.1 hsplit⟩
      · cases h

/-- A text without the separator is its only part. -/
theorem splitOn_eq_singleton {sep : Char} {cs : List Char} (h : sep ∉ cs) :
    splitOn sep cs = [cs] := by
  induction cs with
  | nil => rfl
  | cons c cs ih =>
    rw [List.mem_cons, not_or] at h
    rw [splitOn, if_neg (Ne.symm h.1), ih h.2]

/-- The first part ends at the first separator. -/
theorem splitOn_of_splitFirst? {sep : Char} {cs before after : List Char}
    (h : splitFirst? sep cs = some (before, after)) :
    splitOn sep cs = before :: splitOn sep after := by
  induction cs generalizing before with
  | nil => cases h
  | cons c cs ih =>
    unfold splitFirst? at h
    split at h
    · rename_i hc
      cases h
      rw [splitOn, if_pos hc]
    · rename_i hc
      obtain ⟨⟨b, a⟩, hsplit, heq⟩ := Option.map_eq_some_iff.1 h
      cases heq
      rw [splitOn, if_neg hc, ih hsplit]

/-- A separator cuts a text in two, which are split on their own. -/
theorem splitOn_append (sep : Char) (before after : List Char) :
    splitOn sep (before ++ sep :: after) = splitOn sep before ++ splitOn sep after := by
  induction before with
  | nil => simp [splitOn]
  | cons c cs ih =>
    rw [List.cons_append, splitOn, splitOn, ih]
    split
    · rfl
    · match hs : splitOn sep cs with
      | [] => exact absurd hs (splitOn_ne_nil sep cs)
      | part :: parts => rfl

/-- Two lists of parts are joined with a separator between them. -/
theorem joinWith_append (sep : List Char) {parts others : List (List Char)} (hparts : parts ≠ [])
    (hothers : others ≠ []) :
    joinWith sep (parts ++ others) = joinWith sep parts ++ sep ++ joinWith sep others := by
  obtain ⟨other, others, rfl⟩ := List.exists_cons_of_ne_nil hothers
  induction parts with
  | nil => exact absurd rfl hparts
  | cons part parts ih =>
    cases parts with
    | nil => simp [joinWith]
    | cons next parts =>
      calc part ++ sep ++ joinWith sep (next :: parts ++ other :: others)
          = part ++ sep ++ (joinWith sep (next :: parts) ++ sep ++ joinWith sep (other :: others)) :=
            congrArg _ (ih nofun)
        _ = part ++ sep ++ joinWith sep (next :: parts) ++ sep ++ joinWith sep (other :: others) := by
            simp only [List.append_assoc]

/-- The last part stands behind the others, each of them with a separator. -/
theorem joinWith_concat (sep : List Char) (parts : List (List Char)) (last : List Char) :
    joinWith sep (parts ++ [last]) = parts.flatMap (· ++ sep) ++ last := by
  induction parts with
  | nil => rfl
  | cons part parts ih =>
    have hcons : joinWith sep ([part] ++ (parts ++ [last])) =
        part ++ sep ++ joinWith sep (parts ++ [last]) :=
      joinWith_append sep (List.cons_ne_nil part []) (List.concat_ne_nil last parts)
    rw [List.cons_append, ← List.singleton_append, hcons, ih, List.flatMap_cons,
      List.append_assoc _ _ last]

/-- No part has the separator in it. -/
theorem notMem_of_mem_splitOn {sep : Char} {cs part : List Char} (h : part ∈ splitOn sep cs) :
    sep ∉ part := by
  induction cs generalizing part with
  | nil =>
    obtain rfl := List.mem_singleton.1 h
    exact List.not_mem_nil
  | cons c cs ih =>
    unfold splitOn at h
    split at h
    · rcases List.mem_cons.1 h with rfl | h
      · exact List.not_mem_nil
      · exact ih h
    · rename_i hc
      match hs : splitOn sep cs with
      | [] => exact absurd hs (splitOn_ne_nil sep cs)
      | first :: others =>
        rw [hs] at h ih
        rcases List.mem_cons.1 h with rfl | h
        · rw [List.mem_cons, not_or]
          exact ⟨Ne.symm hc, ih List.mem_cons_self⟩
        · exact ih (List.mem_cons_of_mem _ h)

/-- What stands in a part stands in the joined text. -/
theorem mem_joinWith_of_mem {sep part : List Char} {parts : List (List Char)} {c : Char}
    (h : part ∈ parts) (hc : c ∈ part) : c ∈ joinWith sep parts := by
  fun_induction joinWith sep parts with
  | case1 => cases h
  | case2 => exact List.mem_singleton.1 h ▸ hc
  | case3 first others hne ih =>
    rcases List.mem_cons.1 h with rfl | h
    · exact List.mem_append_left _ (List.mem_append_left _ hc)
    · exact List.mem_append_right _ (ih h)

/-- What stands in a part stood in the text. -/
theorem mem_of_mem_splitOn {sep c : Char} {cs part : List Char} (h : part ∈ splitOn sep cs)
    (hc : c ∈ part) : c ∈ cs := by
  rw [← joinWith_splitOn sep cs]
  exact mem_joinWith_of_mem h hc

/-- Splitting at the separator gives the joined parts back. -/
theorem splitOn_joinWith {sep : Char} {parts : List (List Char)} (hne : parts ≠ [])
    (h : ∀ part ∈ parts, sep ∉ part) : splitOn sep (joinWith [sep] parts) = parts := by
  fun_induction joinWith [sep] parts with
  | case1 => exact absurd rfl hne
  | case2 part => exact splitOn_eq_singleton (h part List.mem_cons_self)
  | case3 part others hothers ih =>
    obtain ⟨hpart, h⟩ := List.forall_mem_cons.1 h
    rw [List.append_assoc, List.singleton_append, splitOn_append, splitOn_eq_singleton hpart,
      ih hothers h, List.singleton_append]

/-- Characters may be filtered before or after joining, if the separator is kept. -/
theorem filter_joinWith {p : Char → Bool} {sep : Char} (hsep : p sep = true)
    (parts : List (List Char)) :
    (joinWith [sep] parts).filter p = joinWith [sep] (parts.map (List.filter p)) := by
  fun_induction joinWith [sep] parts with
  | case1 => rfl
  | case2 => rfl
  | case3 part others hothers ih =>
    obtain ⟨next, others, rfl⟩ := List.exists_cons_of_ne_nil hothers
    rw [List.filter_append, List.filter_append, ih, List.filter_cons_of_pos hsep]
    rfl

/-- A text without the separator stands in one with it, if it stands on one of its sides. -/
theorem infix_append_cons_iff {sep : Char} {cs before after : List Char} (h : sep ∉ cs) :
    cs <:+: before ++ sep :: after ↔ cs <:+: before ∨ cs <:+: after := by
  have hfront : ∀ t, t <:+ cs → t <+: sep :: after → t = [] := by
    intro t hsuffix hprefix
    rcases List.prefix_cons_iff.1 hprefix with ht | ⟨t', rfl, -⟩
    · exact ht
    · exact absurd (hsuffix.subset List.mem_cons_self) h
  rw [List.infix_append_iff, List.infix_cons_iff]
  constructor
  · rintro (hbefore | (hcs | hafter) | ⟨l, r, rfl, hl, hr⟩)
    · exact .inl hbefore
    · exact .inl (hfront cs List.suffix_rfl hcs ▸ List.nil_infix)
    · exact .inr hafter
    · rw [hfront r (List.suffix_append l r) hr, List.append_nil]
      exact .inl hl.isInfix
  · exact Or.imp_right fun hafter => .inl (.inr hafter)

/-- A text without the separator stands in joined parts, if it stands in one of them. -/
theorem infix_joinWith_iff {sep : Char} {cs : List Char} {parts : List (List Char)}
    (hne : parts ≠ []) (h : sep ∉ cs) :
    cs <:+: joinWith [sep] parts ↔ ∃ part ∈ parts, cs <:+: part := by
  fun_induction joinWith [sep] parts with
  | case1 => exact absurd rfl hne
  | case2 part => simp only [List.mem_singleton, exists_eq_left]
  | case3 part others hothers ih =>
    rw [List.append_assoc, List.singleton_append, infix_append_cons_iff h, ih hothers]
    simp only [List.mem_cons, exists_eq_or_imp]

/-- Where the character does not occur, nothing is replaced. -/
theorem replaceChar_eq_self {c : Char} {text cs : List Char} (h : c ∉ cs) :
    replaceChar c text cs = cs := by
  rw [replaceChar]
  induction cs with
  | nil => rfl
  | cons d cs ih =>
    rw [List.mem_cons, not_or] at h
    rw [List.flatMap_cons, if_neg (Ne.symm h.1), ih h.2, List.singleton_append]

/-- There is a pair where the character stands twice in a row. -/
theorem hasPair_eq_true_iff {c : Char} {cs : List Char} : hasPair c cs = true ↔ [c, c] <:+: cs := by
  fun_induction hasPair c cs with
  | case1 => simp
  | case2 a => simp [List.infix_cons_iff]
  | case3 a b rest ih =>
    have hfront : [c, c] <+: a :: b :: rest ↔ a = c ∧ b = c := by
      rw [List.cons_prefix_cons, List.cons_prefix_cons, and_iff_left List.nil_prefix, eq_comm,
        eq_comm (a := c) (b := b)]
    rw [Bool.or_eq_true, Bool.and_eq_true, beq_iff_eq, beq_iff_eq, ih, ← hfront]
    exact List.infix_cons_iff.symm

theorem hasPair_eq_false_iff {c : Char} {cs : List Char} :
    hasPair c cs = false ↔ ¬ [c, c] <:+: cs := by
  rw [← Bool.not_eq_true, hasPair_eq_true_iff]

/-- A character that does not occur has no pair. -/
theorem hasPair_eq_false {c : Char} {cs : List Char} (h : c ∉ cs) : hasPair c cs = false := by
  fun_induction hasPair c cs with
  | case1 => rfl
  | case2 => rfl
  | case3 a b rest ih =>
    rw [List.mem_cons, not_or] at h
    simp [ih h.2, Ne.symm h.1]

/-- A text without the character adds no pair to one in front of it. -/
theorem hasPair_append {c : Char} (cs : List Char) {rest : List Char} (h : c ∉ rest) :
    hasPair c (cs ++ rest) = hasPair c cs := by
  fun_induction hasPair c cs with
  | case1 => exact hasPair_eq_false h
  | case2 a =>
    cases rest with
    | nil => rfl
    | cons b rest =>
      have hb : b ≠ c := by
        rintro rfl
        exact h List.mem_cons_self
      simp [hasPair, hb, hasPair_eq_false h]
  | case3 a b rest' ih =>
    rw [List.cons_append] at ih
    rw [List.cons_append, List.cons_append, hasPair, ih]

/-- A pair is found wherever it stands. -/
theorem hasPair_of_pair (c : Char) (cs rest : List Char) :
    hasPair c (cs ++ c :: c :: rest) = true := by
  induction cs with
  | nil => simp [hasPair]
  | cons a cs ih =>
    cases cs with
    | nil => simp [hasPair]
    | cons b cs =>
      rw [List.cons_append] at ih
      rw [List.cons_append, List.cons_append, hasPair, ih, Bool.or_true]

/-- `after? lead` accepts the texts that begin with `lead`, and gives what follows it. -/
theorem after?_eq_some_iff {lead cs rest : List Char} :
    after? lead cs = some rest ↔ cs = lead ++ rest := by
  induction lead generalizing cs with
  | nil => simp [after?]
  | cons l lead ih =>
    cases cs with
    | nil => simp [after?]
    | cons c cs =>
      unfold after?
      split
      · rename_i h; subst h; simp [ih]
      · rename_i h; simp [Ne.symm h]

end SqlCompose.Text
