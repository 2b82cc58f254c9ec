import SqlCompose.Proofs.Condition.Rendering
import SqlCompose.Proofs.Condition.Truth
import SqlCompose.Proofs.Rendering.Parts

/-!
# Every leaf is written

What is left out of a condition holds no comparison (`Condition.isEmpty_of_leaf_mem`), so whatever a
condition and the clause around it are written as, each of its comparisons stands in it
(`Test.standsIn_clauseRendering`).
-/

namespace SqlCompose

namespace Condition

variable {a : Adapter} {t : Test} {cs : List (Condition Test)}

mutual

/-- A condition with a comparison in it is not empty. -/
theorem isEmpty_of_leaf_mem : ∀ {c : Condition Test}, .leaf t ∈ c.leaves → c.isEmpty = false
  | .leaf _, _ => rfl
  | .raw _, h => nomatch List.mem_singleton.1 h
  | .all _, h | .any _, h => areEmpty_of_leaf_mem h
  | .not part, h => isEmpty_of_leaf_mem (c := part) h

/-- Conditions with a comparison among them are not all empty. -/
theorem areEmpty_of_leaf_mem :
    ∀ {cs : List (Condition Test)}, .leaf t ∈ leavesOf cs → areEmpty cs = false
  | [], h => nomatch h
  | c :: cs, h => by
    rw [areEmpty]
    obtain hc | hcs := List.mem_append.1 h
    · rw [isEmpty_of_leaf_mem hc, Bool.false_and]
    · rw [areEmpty_of_leaf_mem hcs, Bool.and_false]

end

/-! ## Comparisons in conditions -/

/-- A part of a group stands in the group. -/
theorem standsIn_groupRendering {r : Rendering} {rs : List Rendering} (glue : String)
    (nested : Bool) (h : r ∈ rs) : r.StandsIn (groupRendering glue nested rs) := by
  rw [groupRendering]
  split
  · exact (Rendering.StandsIn.joinWith glue h).trans (.paren _)
  · exact .joinWith glue h

/-- What is negated stands in the negation. -/
theorem standsIn_map_notText (r : Rendering) : r.StandsIn (r.map notText) := by
  refine .bind fun text => ?_
  rw [notText]
  split
  · next hempty =>
    rw [hempty]
    exact .refl _
  · rw [← Rendering.text_append_text, ← Rendering.text_append_text]
    exact .append_left (.append_right _ (.refl _)) _

mutual

/-- A comparison in a condition stands in what is written of it. -/
theorem standsIn_renderingIn (a : Adapter) (nested : Bool) :
    ∀ {c : Condition Test}, .leaf t ∈ c.leaves → (t.rendering a).StandsIn (c.renderingIn a nested)
  | .leaf _, h => by
    cases List.mem_singleton.1 h
    rw [renderingIn]
    exact .refl _
  | .raw _, h => nomatch List.mem_singleton.1 h
  | .all parts, h | .any parts, h => by
    obtain ⟨r, hr, ht⟩ := exists_liveRenderings_standsIn a (nested || 1 < liveCount parts) h
    rw [renderingIn]
    exact ht.trans (standsIn_groupRendering _ nested hr)
  | .not part, h => by
    have hpart : (t.rendering a).StandsIn (part.renderingIn a false) :=
      standsIn_renderingIn a false h
    rw [renderingIn]
    exact hpart.trans (standsIn_map_notText _)

/-- A comparison in one of several conditions stands in a part that is not left out. -/
theorem exists_liveRenderings_standsIn (a : Adapter) (nested : Bool) :
    ∀ {cs : List (Condition Test)}, .leaf t ∈ leavesOf cs →
      ∃ r ∈ liveRenderings a nested cs, (t.rendering a).StandsIn r
  | [], h => nomatch h
  | c :: cs, h => by
    rw [liveRenderings]
    obtain hc | hcs := List.mem_append.1 h
    · rw [if_neg (Bool.eq_false_iff.1 (isEmpty_of_leaf_mem hc))]
      exact ⟨_, List.mem_cons_self, standsIn_renderingIn a nested hc⟩
    · obtain ⟨r, hr, ht⟩ := exists_liveRenderings_standsIn a nested hcs
      split
      · exact ⟨r, hr, ht⟩
      · exact ⟨r, List.mem_cons_of_mem _ hr, ht⟩

end

/-! ## Comparisons in clauses -/

/-- A comparison in a clause stands in one of its conditions. -/
theorem exists_renderings_standsIn (a : Adapter) (h : .leaf t ∈ leavesOf cs) :
    ∃ r ∈ renderings a cs, (t.rendering a).StandsIn r := by
  induction cs with
  | nil => cases h
  | cons c cs ih =>
    rw [renderings]
    obtain hc | hcs := List.mem_append.1 h
    · exact ⟨_, List.mem_cons_self, standsIn_renderingIn a false hc⟩
    · obtain ⟨r, hr, ht⟩ := ih hcs
      exact ⟨r, List.mem_cons_of_mem _ hr, ht⟩

/-- The text of a clause so far and that of another condition stand in the two together. -/
theorem standsIn_conjoinedText (clause condition : String) :
    (Rendering.text clause).StandsIn (.text (conjoinedText clause condition)) ∧
      (Rendering.text condition).StandsIn (.text (conjoinedText clause condition)) := by
  rw [conjoinedText]
  split
  · next hcondition =>
    rw [hcondition]
    exact ⟨.refl _, .empty _⟩
  · split
    · next hclause =>
      rw [hclause]
      exact ⟨.empty _, .refl _⟩
    · rw [← Rendering.text_append_text, ← Rendering.text_append_text,
        ← Rendering.text_append_text]
      exact ⟨.append_left (.append_left (.append_left (.refl _) _) _) _,
        .append_left (.append_right _ (.refl _)) _⟩

/-- What is written of a clause already stays. -/
theorem text_standsIn_conjunctionRendering (clause : String) (rs : List Rendering) :
    (Rendering.text clause).StandsIn (conjunctionRendering clause rs) := by
  induction rs generalizing clause with
  | nil => exact .refl _
  | cons r rs ih =>
    exact .bind_right fun condition => (standsIn_conjoinedText clause condition).1.trans (ih _)

/-- Each condition of a clause stands in it. -/
theorem standsIn_conjunctionRendering {r : Rendering} {rs : List Rendering} (h : r ∈ rs)
    (clause : String) : r.StandsIn (conjunctionRendering clause rs) := by
  induction h generalizing clause with
  | head rs =>
    exact .bind fun condition => (standsIn_conjoinedText clause condition).2.trans
      (text_standsIn_conjunctionRendering _ rs)
  | tail _ _ ih => exact .bind_right fun condition => ih _

/-- A clause stands behind its keyword. -/
theorem standsIn_clauseRendering {r : Rendering} {rs : List Rendering} (h : r ∈ rs)
    (keyword : String) : r.StandsIn (clauseRendering keyword rs) := by
  refine (standsIn_conjunctionRendering h "").trans (.bind fun clause => ?_)
  dsimp only
  split
  · next hempty =>
    rw [hempty]
    exact .refl _
  · rw [← Rendering.text_append_text]
    exact .append_right _ (.refl _)

end Condition

/-- The comparison of a leaf stands in the clause. -/
theorem Test.standsIn_clauseRendering {t : Test} {cs : List (Condition Test)}
    (h : .leaf t ∈ Condition.leavesOf cs) (a : Adapter) (keyword : String) :
    (t.rendering a).StandsIn (Condition.clauseRendering keyword (Condition.renderings a cs)) := by
  obtain ⟨r, hr, ht⟩ := Condition.exists_renderings_standsIn a h
  exact ht.trans (Condition.standsIn_clauseRendering hr keyword)

end SqlCompose
