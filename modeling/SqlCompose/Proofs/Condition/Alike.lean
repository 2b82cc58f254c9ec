import SqlCompose.Proofs.Rendering.Alike
import SqlCompose.Query.Render

/-!
# Conditions with alike leaves

What is put around the parts of a condition depends on its shape, and on whether anything is written
of them, which is the same for parts that are written alike. So two conditions of one shape are
rendered alike if their leaves are (`Condition.Matched`), and so are clauses of such conditions
(`Condition.clauseRendering_alike`).
-/

namespace SqlCompose.Condition

variable {a : Adapter} {us us' ws ws' : List Value} {rs rs' : List Rendering}
  {c c' : Condition Test} {cs cs' : List (Condition Test)}

/-- Groups of alike parts are rendered alike. -/
theorem groupRendering_alike (glue : String) (nested : Bool)
    (h : Gathered Rendering.Alike us us' rs rs') :
    Rendering.Alike us us' (groupRendering glue nested rs) (groupRendering glue nested rs') := by
  rw [groupRendering, groupRendering, h.length_eq]
  split
  · exact (Rendering.Alike.joinWith glue h).paren
  · exact .joinWith glue h

/-- Alike conditions that are written behind the same text are rendered alike. -/
theorem conjunctionRendering_alike (clause : String) (h : Gathered Rendering.Alike us us' rs rs') :
    Rendering.Alike us us' (conjunctionRendering clause rs) (conjunctionRendering clause rs') := by
  induction h generalizing clause with
  | nil => exact .text clause
  | unused u u' _ ih =>
    exact Rendering.Alike.empty_append (show [u].length = [u'].length from rfl) (ih clause)
  | cons hr _ ih => exact hr.bind fun condition => ih (conjoinedText clause condition)

/-- Clauses of alike conditions are rendered alike. -/
theorem clauseRendering_alike (keyword : String) (h : Gathered Rendering.Alike us us' rs rs') :
    Rendering.Alike us us' (clauseRendering keyword rs) (clauseRendering keyword rs') :=
  (conjunctionRendering_alike "" h).map _

/-- Conditions of one shape that are rendered alike wherever they stand. -/
structure Matched (a : Adapter) (us us' : List Value) (c c' : Condition Test) : Prop where
  isEmpty_eq : c.isEmpty = c'.isEmpty
  renderingIn (nested : Bool) :
    Rendering.Alike us us' (c.renderingIn a nested) (c'.renderingIn a nested)

/-- Lists of conditions that match one by one. -/
structure MatchedAll (a : Adapter) (us us' : List Value) (cs cs' : List (Condition Test)) :
    Prop where
  areEmpty_eq : areEmpty cs = areEmpty cs'
  liveCount_eq : liveCount cs = liveCount cs'
  liveRenderings (nested : Bool) :
    Gathered Rendering.Alike us us' (liveRenderings a nested cs) (liveRenderings a nested cs')
  renderings : Gathered Rendering.Alike us us' (renderings a cs) (renderings a cs')

/-- Comparisons that are rendered alike match. -/
theorem matched_leaf {t t' : Test} (h : Rendering.Alike us us' (t.rendering a) (t'.rendering a)) :
    Matched a us us' (.leaf t) (.leaf t') := by
  refine ⟨rfl, fun nested => ?_⟩
  rw [Condition.renderingIn, Condition.renderingIn]
  exact h

/-- Raw SQL has no values. -/
theorem matched_raw (a : Adapter) (sql : String) : Matched a [] [] (.raw sql) (.raw sql) := by
  refine ⟨rfl, fun nested => ?_⟩
  rw [Condition.renderingIn]
  split
  · exact .empty rfl
  · exact .text _

/-- Matched parts make matched groups, whatever is between them. -/
theorem MatchedAll.group (h : MatchedAll a us us' cs cs') (glue : String) (nested : Bool) :
    Rendering.Alike us us'
      (groupRendering glue nested (Condition.liveRenderings a (nested || 1 < liveCount cs) cs))
      (groupRendering glue nested (Condition.liveRenderings a (nested || 1 < liveCount cs') cs')) := by
  rw [h.liveCount_eq]
  exact groupRendering_alike glue nested (h.liveRenderings _)

/-- Conjunctions of matched parts match. -/
theorem MatchedAll.all (h : MatchedAll a us us' cs cs') : Matched a us us' (.all cs) (.all cs') := by
  refine ⟨h.areEmpty_eq, fun nested => ?_⟩
  rw [Condition.renderingIn, Condition.renderingIn]
  exact h.group " AND " nested

/-- So do disjunctions. -/
theorem MatchedAll.any (h : MatchedAll a us us' cs cs') : Matched a us us' (.any cs) (.any cs') := by
  refine ⟨h.areEmpty_eq, fun nested => ?_⟩
  rw [Condition.renderingIn, Condition.renderingIn]
  exact h.group " OR " nested

/-- A negation depends on the text of its part, which is the same. -/
theorem Matched.not (h : Matched a us us' c c') : Matched a us us' (.not c) (.not c') := by
  refine ⟨h.isEmpty_eq, fun nested => ?_⟩
  rw [Condition.renderingIn, Condition.renderingIn]
  exact (h.renderingIn false).map notText

/-- No conditions match no conditions. -/
theorem matchedAll_nil (a : Adapter) : MatchedAll a [] [] [] [] := by
  refine ⟨rfl, rfl, fun nested => ?_, ?_⟩
  · rw [Condition.liveRenderings]
    exact .nil
  · rw [Condition.renderings]
    exact .nil

/-- What is left out of one list is left out of the other. -/
theorem MatchedAll.cons (h : Matched a us us' c c') (h' : MatchedAll a ws ws' cs cs') :
    MatchedAll a (us ++ ws) (us' ++ ws') (c :: cs) (c' :: cs') := by
  refine ⟨?_, ?_, fun nested => ?_, ?_⟩
  · rw [areEmpty, areEmpty, h.isEmpty_eq, h'.areEmpty_eq]
  · have hcount : liveCount cs = liveCount cs' := h'.liveCount_eq
    rw [liveCount, liveCount] at hcount ⊢
    rw [List.countP_cons, List.countP_cons, hcount, h.isEmpty_eq]
  · rw [Condition.liveRenderings, Condition.liveRenderings, ← h.isEmpty_eq]
    split
    · exact (h'.liveRenderings nested).append_unused (h.renderingIn nested).length_places
    · exact .cons (h.renderingIn nested) (h'.liveRenderings nested)
  · rw [Condition.renderings, Condition.renderings]
    exact .cons (h.renderingIn false) h'.renderings

end SqlCompose.Condition
