import SqlCompose.Proofs.Identifier.Chains
import SqlCompose.Proofs.Lookup.Outcome

/-!
# What is written of a condition

Nothing is written of an empty condition (`Condition.renderingIn_of_isEmpty`), whatever the lookups of
the adapter are. Where no lookup writes the empty text, something is written of any other condition
(`Condition.neverEmpty_renderingIn`). Then it makes no difference that what is left out is told by its
text: a clause consists of its keyword and of the conditions that are not empty, all but the first of
them in parentheses (`Condition.clauseRendering_of_live`).
-/

namespace SqlCompose.Condition

variable {a : Adapter} {cs : List (Condition Test)}

/-! ## Empty conditions -/

/-- Nothing is written of a group without parts. -/
theorem groupRendering_nil (glue : String) (nested : Bool) :
    groupRendering glue nested [] = .empty := by
  cases nested <;> rfl

mutual

/-- Nothing is written of an empty condition. -/
theorem renderingIn_of_isEmpty (a : Adapter) (nested : Bool) :
    ∀ {c : Condition Test}, c.isEmpty = true → c.renderingIn a nested = .empty
  | .leaf _, h => nomatch h
  | .raw sql, h => by
    have hblank : Text.isBlankText sql = true := h
    rw [renderingIn, if_pos hblank]
  | .all parts, h | .any parts, h => by
    rw [renderingIn, liveRenderings_of_areEmpty a _ h]
    exact groupRendering_nil _ nested
  | .not part, h => by
    have hpart : part.renderingIn a false = .empty := renderingIn_of_isEmpty a false h
    rw [renderingIn, hpart]
    rfl

/-- No part is left of a list of empty conditions. -/
theorem liveRenderings_of_areEmpty (a : Adapter) (nested : Bool) :
    ∀ {cs : List (Condition Test)}, areEmpty cs = true → liveRenderings a nested cs = []
  | [], _ => by rw [liveRenderings]
  | c :: cs, h => by
    obtain ⟨hc, hcs⟩ := Bool.and_eq_true_iff.1 h
    rw [liveRenderings, if_pos hc, liveRenderings_of_areEmpty a nested hcs]

end

/-! ## Other conditions -/

/-- A negation puts its words around what is written, if that is never empty. -/
theorem map_notText {r : Rendering} (h : r.NeverEmpty) :
    r.map notText = .text "NOT " ++ r.paren := by
  have hwords (s : String) : "NOT (" ++ s ++ ")" = "NOT " ++ ("(" ++ s ++ ")") := by
    simp only [← String.append_assoc]
    rfl
  calc r.map notText = r.bind fun s => .text ("NOT " ++ ("(" ++ s ++ ")")) :=
        h.bind_congr fun s hs => by rw [notText, if_neg hs, hwords]
    _ = .text "NOT " ++ r.paren := by
        simp only [Rendering.paren, Rendering.append_def, Rendering.bind_assoc, Rendering.text_bind]

/-- A group with a first part that says something says something. -/
theorem neverEmpty_groupRendering {r : Rendering} (h : r.NeverEmpty) (glue : String) (nested : Bool)
    (rs : List Rendering) : (groupRendering glue nested (r :: rs)).NeverEmpty := by
  rw [groupRendering]
  split
  · exact Rendering.neverEmpty_paren _
  · exact h.joinWith glue rs

/-- Raw SQL that is not blank is written as something. -/
theorem quoteSql_ne_empty (a : Adapter) {sql : String} (h : Text.isBlankText sql = false) :
    a.quoteSql (Text.trimmed sql) ≠ "" := by
  have htrim : Text.trim sql.toList ≠ [] := by
    rw [ne_eq, Text.trim_eq_nil_iff, ← List.all_eq_true]
    exact Bool.eq_false_iff.1 h
  intro hempty
  rw [Adapter.quoteSql, Text.trimmed, String.toList_ofList] at hempty
  exact Adapter.quoteSqlChars_ne_nil htrim (String.ofList_injective hempty)

mutual

/-- A condition that is not empty is not written as the empty text, where no lookup writes it. -/
theorem neverEmpty_renderingIn (ha : a.lookups.NeverEmpty) (nested : Bool) :
    ∀ {c : Condition Test}, c.isEmpty = false → (c.renderingIn a nested).NeverEmpty
  | .leaf t, _ => by
    rw [renderingIn]
    exact t.neverEmpty_rendering ha
  | .raw sql, h => by
    have hblank : Text.isBlankText sql = false := h
    rw [renderingIn, if_neg (Bool.eq_false_iff.1 hblank)]
    cases nested with
    | true => exact Rendering.neverEmpty_paren (.text (a.quoteSql (Text.trimmed sql)))
    | false => exact Rendering.neverEmpty_text (quoteSql_ne_empty a h)
  | .all parts, h | .any parts, h => by
    obtain ⟨r, rs, hparts, hr⟩ := exists_liveRenderings ha (nested || 1 < liveCount parts) h
    rw [renderingIn, hparts]
    exact neverEmpty_groupRendering hr _ nested rs
  | .not part, h => by
    have hpart : (part.renderingIn a false).NeverEmpty := neverEmpty_renderingIn ha false h
    rw [renderingIn, map_notText hpart]
    exact (Rendering.neverEmpty_text (by decide)).append _

/-- Of conditions that are not all empty, the first part that is left says something. -/
theorem exists_liveRenderings (ha : a.lookups.NeverEmpty) (nested : Bool) :
    ∀ {cs : List (Condition Test)}, areEmpty cs = false →
      ∃ r rs, liveRenderings a nested cs = r :: rs ∧ r.NeverEmpty
  | [], h => nomatch h
  | c :: cs, h => by
    rw [liveRenderings]
    by_cases hc : c.isEmpty = true
    · rw [if_pos hc]
      rw [areEmpty, hc, Bool.true_and] at h
      exact exists_liveRenderings ha nested h
    · rw [if_neg hc]
      exact ⟨_, _, rfl, neverEmpty_renderingIn ha nested (Bool.eq_false_iff.2 hc)⟩

end

/-! ## Clauses -/

/-- Parts joined by `AND`, all but the first of them in parentheses. -/
def bracketedRendering : List Rendering → Rendering
  | [] => .empty
  | r :: rs => Rendering.joinWith " AND " (r :: rs.map .paren)

/-- A condition that says something is written behind `front` as `joined`, and what follows it is the
same for all its texts, if it is the same behind all texts that are not empty. -/
theorem conjunctionRendering_cons {front : String} {joined : String → String} {r rest : Rendering}
    {rs : List Rendering} (hr : r.NeverEmpty)
    (hjoined : ∀ s, s ≠ "" → conjoinedText front s = joined s ∧ joined s ≠ "")
    (hrest : ∀ front, front ≠ "" → conjunctionRendering front rs = .text front ++ rest) :
    conjunctionRendering front (r :: rs) = r.bind fun s => .text (joined s) ++ rest := by
  rw [conjunctionRendering]
  refine hr.bind_congr fun s hs => ?_
  obtain ⟨heq, hne⟩ := hjoined s hs
  rw [heq, hrest _ hne]

/-- Behind conditions that are written already, those that are not empty are joined in
parentheses. -/
theorem conjunctionRendering_of_ne (ha : a.lookups.NeverEmpty) {front : String}
    (hfront : front ≠ "") (cs : List (Condition Test)) :
    conjunctionRendering front (renderings a cs) =
      Rendering.joinWith " AND " (.text front :: (liveRenderings a false cs).map .paren) := by
  induction cs generalizing front with
  | nil => rw [renderings, liveRenderings]; rfl
  | cons c cs ih =>
    rw [renderings, liveRenderings]
    by_cases hc : c.isEmpty = true
    · rw [if_pos hc, renderingIn_of_isEmpty a false hc]
      exact ih hfront
    · rw [if_neg hc, List.map_cons, Rendering.joinWith_cons_cons]
      obtain ⟨rest, hrest⟩ :=
        Rendering.exists_joinWith_cons " AND " ((liveRenderings a false cs).map .paren)
      have hr := neverEmpty_renderingIn ha false (Bool.eq_false_iff.2 hc)
      have hjoined (s : String) (hs : s ≠ "") :
          conjoinedText front s = front ++ (" AND " ++ ("(" ++ s ++ ")")) ∧
            front ++ (" AND " ++ ("(" ++ s ++ ")")) ≠ "" := by
        refine ⟨?_, fun hempty => hfront (String.append_eq_empty_iff.1 hempty).1⟩
        have hopening : " AND (" = " AND " ++ "(" := rfl
        rw [conjoinedText, if_neg hs, if_neg hfront, hopening]
        simp only [String.append_assoc]
      rw [conjunctionRendering_cons hr hjoined fun front h => (ih h).trans (hrest _), hrest]
      simp only [Rendering.paren, Rendering.append_def, Rendering.bind_assoc, Rendering.text_bind,
        String.append_assoc]

/-- The conditions of a clause that are not empty are joined, in parentheses but for the first. -/
theorem conjunctionRendering_eq (ha : a.lookups.NeverEmpty) (cs : List (Condition Test)) :
    conjunctionRendering "" (renderings a cs) = bracketedRendering (liveRenderings a false cs) := by
  induction cs with
  | nil => rw [renderings, liveRenderings]; rfl
  | cons c cs ih =>
    rw [renderings, liveRenderings]
    by_cases hc : c.isEmpty = true
    · rw [if_pos hc, renderingIn_of_isEmpty a false hc]
      exact ih
    · rw [if_neg hc, bracketedRendering]
      obtain ⟨rest, hrest⟩ :=
        Rendering.exists_joinWith_cons " AND " ((liveRenderings a false cs).map .paren)
      have hr := neverEmpty_renderingIn ha false (Bool.eq_false_iff.2 hc)
      have hjoined (s : String) (hs : s ≠ "") : conjoinedText "" s = s ∧ s ≠ "" :=
        ⟨by rw [conjoinedText, if_neg hs, if_pos rfl], hs⟩
      rw [hrest]
      exact conjunctionRendering_cons hr hjoined fun front h =>
        (conjunctionRendering_of_ne ha h cs).trans (hrest _)

/-- A clause is left out if all its conditions are empty. -/
theorem clauseRendering_of_areEmpty (a : Adapter) (keyword : String) (h : areEmpty cs = true) :
    clauseRendering keyword (renderings a cs) = .empty := by
  have hconjunction : conjunctionRendering "" (renderings a cs) = .empty := by
    induction cs with
    | nil => rw [renderings]; rfl
    | cons c cs ih =>
      obtain ⟨hc, hcs⟩ := Bool.and_eq_true_iff.1 h
      rw [renderings, conjunctionRendering, renderingIn_of_isEmpty a false hc]
      exact ih hcs
  rw [clauseRendering, hconjunction]
  rfl

/-- Any other clause is its keyword and the conditions in it that are not empty. -/
theorem clauseRendering_of_live (ha : a.lookups.NeverEmpty) (keyword : String)
    (h : areEmpty cs = false) :
    clauseRendering keyword (renderings a cs) =
      .text keyword ++ bracketedRendering (liveRenderings a false cs) := by
  obtain ⟨r, rs, hlive, hr⟩ := exists_liveRenderings ha false h
  have hne : (bracketedRendering (liveRenderings a false cs)).NeverEmpty := by
    rw [hlive]
    exact hr.joinWith " AND " _
  rw [clauseRendering, conjunctionRendering_eq ha]
  exact hne.bind_congr fun s hs => congrArg Rendering.text (if_neg hs)

end SqlCompose.Condition
