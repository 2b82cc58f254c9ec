import SqlCompose.Proofs.Condition.Comparisons
import SqlCompose.Proofs.Condition.Tidying

/-!
# Groups that take one another in

The conjunction of two conditions has the parts of both, where a conjunction brings its own parts and
anything else is one part (`Condition.and_eq`), and so it is associative. The same goes for
disjunctions. A group that stands in a group of its kind may be opened
(`Condition.Connective.meansAlike_opened`), so taking one in changes neither which leaves are written in
which order nor what they mean together, only how deep they are nested, wherever the condition stands
(`Condition.MeansAlike.fill`).
-/

namespace SqlCompose

open Token

namespace Condition

variable {α : Type}

/-- What a condition brings into a conjunction. -/
def conjuncts : Condition α → List (Condition α)
  | all parts => parts
  | c => [c]

/-- What a condition brings into a disjunction. -/
def disjuncts : Condition α → List (Condition α)
  | any parts => parts
  | c => [c]

/-- The same leaves in the same order, and the same truth once the empty parts are dropped. -/
structure MeansAlike (c d : Condition α) : Prop where
  isEmpty_eq : c.isEmpty = d.isEmpty
  leaves_eq : c.leaves = d.leaves
  agrees : c.pruned.Agrees d.pruned

/-- Two conditions fail alike and collect the same values. Either both are empty and nothing is written
of them, or both are not, and their texts are each read in one way only: as the same leaves in the same
order, with the same truth whatever the truth of each, which is the truth of the conditions. -/
structure SameMeaning (a : Adapter) (c d : Condition Test) : Prop where
  error_iff : ∀ p e,
    ((c.rendering a).write p).1 = .error e ↔ ((d.rendering a).write p).1 = .error e
  parameters_eq : ∀ p, ((c.rendering a).write p).2 = ((d.rendering a).write p).2
  isEmpty_eq : c.isEmpty = d.isEmpty
  empty : c.isEmpty = true → ∀ p,
    (c.rendering a).write p = (.ok "", p) ∧ (d.rendering a).write p = (.ok "", p)
  texts : c.isEmpty = false → ∀ {p p' text text'}, (c.rendering a).write p = (.ok text, p') →
    (d.rendering a).write p = (.ok text', p') →
      ∃ ts ts' r r', a.Writes p ts text p' ∧ a.Writes p ts' text' p' ∧
        (∀ e, Reads .text ts e ↔ e = r) ∧ (∀ e, Reads .text ts' e ↔ e = r') ∧ r.Agrees r' ∧
          r.Agrees c.pruned

variable {c d x y z : Condition α} {cs ds es : List (Condition α)}

/-! ## Parts -/

/-- A conjunction has the parts of both sides. -/
theorem and_eq (x y : Condition α) : x.and y = all (x.conjuncts ++ y.conjuncts) := by
  cases x <;> cases y <;> rfl

/-- A disjunction has the parts of both sides. -/
theorem or_eq (x y : Condition α) : x.or y = any (x.disjuncts ++ y.disjuncts) := by
  cases x <;> cases y <;> rfl

/-- It does not matter how conjunctions are grouped. -/
theorem and_assoc (x y z : Condition α) : (x.and y).and z = x.and (y.and z) := by
  simp only [and_eq, conjuncts, List.append_assoc]

/-- It does not matter how disjunctions are grouped. -/
theorem or_assoc (x y z : Condition α) : (x.or y).or z = x.or (y.or z) := by
  simp only [or_eq, disjuncts, List.append_assoc]

/-- Two lists are empty together if both are. -/
theorem areEmpty_append (cs ds : List (Condition α)) :
    areEmpty (cs ++ ds) = (areEmpty cs && areEmpty ds) := by
  induction cs with
  | nil => rfl
  | cons c cs ih => rw [List.cons_append, areEmpty, ih, areEmpty, Bool.and_assoc]

/-- The leaves of two lists stand one behind the other. -/
theorem leavesOf_append (cs ds : List (Condition α)) :
    leavesOf (cs ++ ds) = leavesOf cs ++ leavesOf ds := by
  induction cs with
  | nil => rfl
  | cons c cs ih => rw [List.cons_append, leavesOf, ih, leavesOf, List.append_assoc]

/-- The parts that are not empty are those of both lists. -/
theorem expandLive_append {γ : Type} (leafOf : α → γ) (rawAs : String → Condition γ)
    (cs ds : List (Condition α)) :
    expandLive leafOf rawAs (cs ++ ds) = expandLive leafOf rawAs cs ++ expandLive leafOf rawAs ds := by
  induction cs with
  | nil => rfl
  | cons c cs ih =>
    rw [List.cons_append, expandLive, ih, expandLive]
    split <;> rfl

/-- Nothing is left of empty parts. -/
theorem expandLive_eq_nil {γ : Type} {leafOf : α → γ} {rawAs : String → Condition γ}
    (h : areEmpty cs = true) : expandLive leafOf rawAs cs = [] := by
  induction cs with
  | nil => rfl
  | cons c cs ih =>
    rw [areEmpty, Bool.and_eq_true] at h
    rw [expandLive, if_pos h.1, ih h.2]

/-- Two lists hold together if both do, the second one with the leaves behind those of the first. -/
theorem holdAll_append (v : Nat → Bool) (k : Nat) (cs ds : List (Condition α)) :
    holdAll v k (cs ++ ds) = (holdAll v k cs && holdAll v (k + (leavesOf cs).length) ds) := by
  induction cs generalizing k with
  | nil => rfl
  | cons c cs ih =>
    rw [List.cons_append, holdAll, ih, holdAll, leavesOf, List.length_append, Bool.and_assoc,
      Nat.add_assoc]

/-- Some condition of two lists holds if one of either list does. -/
theorem holdAny_append (v : Nat → Bool) (k : Nat) (cs ds : List (Condition α)) :
    holdAny v k (cs ++ ds) = (holdAny v k cs || holdAny v (k + (leavesOf cs).length) ds) := by
  induction cs generalizing k with
  | nil => rfl
  | cons c cs ih =>
    rw [List.cons_append, holdAny, ih, holdAny, leavesOf, List.length_append, Bool.or_assoc,
      Nat.add_assoc]

/-! ## Opening a group -/

/-- What conjunctions and disjunctions have in common as groups of parts that may be empty: a group
that stands in a group of its kind can be opened anywhere. -/
structure Connective (group : List (Condition α) → Condition α) : Prop
    extends Associative group where
  isEmpty_eq cs : (group cs).isEmpty = areEmpty cs
  leaves_eq cs : (group cs).leaves = leavesOf cs
  pruned_eq cs : (group cs).pruned = group (expandLive id raw cs)
  opened cs ds es : Agrees (group (cs ++ group ds :: es)) (group (cs ++ (ds ++ es)))

/-- Conjunctions are groups of this kind. -/
theorem connective_all : Connective (@all α) where
  toAssociative := associative_all
  isEmpty_eq _ := rfl
  leaves_eq _ := rfl
  pruned_eq _ := rfl
  opened cs ds es := by
    constructor
    · simp only [leaves, leavesOf_append, leavesOf]
    · intro v k
      simp only [holds, holdAll_append, holdAll, leaves]

/-- Disjunctions are groups of this kind. -/
theorem connective_any : Connective (@any α) where
  toAssociative := associative_any
  isEmpty_eq _ := rfl
  leaves_eq _ := rfl
  pruned_eq _ := rfl
  opened cs ds es := by
    constructor
    · simp only [leaves, leavesOf_append, leavesOf]
    · intro v k
      simp only [holds, holdAny_append, holdAny, leaves]

namespace Connective

variable {group : List (Condition α) → Condition α}

/-- One part of a group may be opened, if it is a group of this kind, also if nothing is in it. -/
theorem meansAlike_opened (G : Connective group) (h : c = group ds ∨ ds = [c])
    (cs es : List (Condition α)) :
    MeansAlike (group (cs ++ (ds ++ es))) (group (cs ++ c :: es)) := by
  rcases h with rfl | rfl
  · refine ⟨?_, ?_, ?_⟩
    · rw [G.isEmpty_eq, G.isEmpty_eq, areEmpty_append, areEmpty_append, areEmpty_append, areEmpty,
        G.isEmpty_eq]
    · rw [G.leaves_eq, G.leaves_eq, leavesOf_append, leavesOf_append, leavesOf_append, leavesOf,
        G.leaves_eq]
    · rw [G.pruned_eq, G.pruned_eq, expandLive_append, expandLive_append, expandLive_append,
        expandLive]
      split
      · next hempty =>
        have hnone : expandLive id raw ds = [] :=
          expandLive_eq_nil ((G.isEmpty_eq ds).symm.trans hempty)
        rw [hnone]
        exact .refl _
      · have hpruned : (group ds).expand id raw = group (expandLive id raw ds) := G.pruned_eq ds
        rw [hpruned]
        exact (G.opened ..).symm
  · exact ⟨rfl, rfl, .refl _⟩

end Connective

namespace MeansAlike

/-- What means like a third condition means like what that one means like. -/
theorem trans {e : Condition α} (h : MeansAlike c d) (h' : MeansAlike d e) : MeansAlike c e :=
  ⟨h.isEmpty_eq.trans h'.isEmpty_eq, h.leaves_eq.trans h'.leaves_eq, h.agrees.trans h'.agrees⟩

/-- Negations of conditions that mean alike mean alike. -/
theorem not (h : MeansAlike c d) : MeansAlike (not c) (not d) :=
  ⟨h.isEmpty_eq, h.leaves_eq, h.agrees.not⟩

end MeansAlike

namespace Connective

variable {group : List (Condition α) → Condition α}

/-- Two conditions that mean alike do so as parts of a group. -/
theorem meansAlike_replace (G : Connective group) (h : MeansAlike c d)
    (before behind : List (Condition α)) :
    MeansAlike (group (before ++ c :: behind)) (group (before ++ d :: behind)) := by
  refine ⟨?_, ?_, ?_⟩
  · rw [G.isEmpty_eq, G.isEmpty_eq, areEmpty_append, areEmpty_append, areEmpty, areEmpty,
      h.isEmpty_eq]
  · rw [G.leaves_eq, G.leaves_eq, leavesOf_append, leavesOf_append, leavesOf, leavesOf, h.leaves_eq]
  · rw [G.pruned_eq, G.pruned_eq, expandLive_append, expandLive_append, expandLive, expandLive,
      h.isEmpty_eq]
    have hrefl : ∀ cs : List (Condition α), List.Forall₂ Agrees cs cs := fun cs =>
      List.forall₂_same.2 fun c _ => .refl c
    refine G.congr (List.rel_append (hrefl _) ?_)
    split
    · exact hrefl _
    · exact .cons h.agrees (hrefl _)

/-- Two parts of a group may be opened, each of them if it is a group of this kind. -/
theorem meansAlike_pair (G : Connective group) (hx : x = group cs ∨ cs = [x])
    (hy : y = group ds ∨ ds = [y]) : MeansAlike (group (cs ++ ds)) (group [x, y]) := by
  have hfirst : MeansAlike (group (cs ++ [y])) (group [x, y]) := G.meansAlike_opened hx [] [y]
  have hsecond := G.meansAlike_opened hy cs []
  rw [List.append_nil] at hsecond
  exact hsecond.trans hfirst

end Connective

/-- What stands around conditions that mean alike means alike. -/
theorem MeansAlike.fill (h : MeansAlike c d) (around : Around α) :
    MeansAlike (around.fill c) (around.fill d) := by
  induction around with
  | gap => exact h
  | all before _ behind ih => exact connective_all.meansAlike_replace ih before behind
  | any before _ behind ih => exact connective_any.meansAlike_replace ih before behind
  | not _ ih => exact ih.not

/-- A conjunction means the same as that of its two sides, unopened. -/
theorem meansAlike_and (x y : Condition α) : MeansAlike (x.and y) (all [x, y]) := by
  have hparts : ∀ c : Condition α, c = all c.conjuncts ∨ c.conjuncts = [c] := by
    rintro (_ | _ | _ | _ | _)
    exacts [.inr rfl, .inr rfl, .inl rfl, .inr rfl, .inr rfl]
  rw [and_eq]
  exact connective_all.meansAlike_pair (hparts x) (hparts y)

/-- A disjunction means the same as that of its two sides, unopened. -/
theorem meansAlike_or (x y : Condition α) : MeansAlike (x.or y) (any [x, y]) := by
  have hparts : ∀ c : Condition α, c = any c.disjuncts ∨ c.disjuncts = [c] := by
    rintro (_ | _ | _ | _ | _)
    exacts [.inr rfl, .inr rfl, .inr rfl, .inl rfl, .inr rfl]
  rw [or_eq]
  exact connective_any.meansAlike_pair (hparts x) (hparts y)

/-! ## What is written -/

/-- Conditions that mean alike are written so. -/
theorem MeansAlike.sameMeaning {a : Adapter} (ha : a.lookups.NeverEmpty) {c d : Condition Test}
    (h : MeansAlike c d) : SameMeaning a c d := by
  have houtcome (p : Parameters) : (c.rendering a).outcome p = (d.rendering a).outcome p := by
    rw [outcome_rendering ha, outcome_rendering ha, comparisons, h.leaves_eq, comparisons]
  have hempty_text {c : Condition Test} (hc : c.isEmpty = true) (p : Parameters) :
      (c.rendering a).write p = (.ok "", p) := by
    rw [Condition.rendering, renderingIn_of_isEmpty a false hc, Rendering.write_empty]
  refine ⟨fun p e => ?_, fun p => ?_, h.isEmpty_eq, fun hc p => ?_,
    fun hc {p p' text text'} htext htext' => ?_⟩
  · rw [← Rendering.outcome_fst_eq_some_iff, houtcome, Rendering.outcome_fst_eq_some_iff]
  · rw [← Rendering.outcome_snd, houtcome, Rendering.outcome_snd]
  · exact ⟨hempty_text hc p, hempty_text (h.isEmpty_eq.symm.trans hc) p⟩
  · have hd : d.isEmpty = false := h.isEmpty_eq.symm.trans hc
    obtain ⟨r, hreads, hr⟩ := (spells_pruned hc false).exists_reads_iff
    obtain ⟨r', hreads', hr'⟩ := (spells_pruned hd false).exists_reads_iff
    exact ⟨c.tokens false, d.tokens false, r, r', writes_tokens ha htext, writes_tokens ha htext',
      hreads, hreads', hr.trans (h.agrees.trans hr'.symm), hr⟩

/-- Conjunctions and disjunctions are associative. A conjunction has the parts of both sides, where one
that is no conjunction is a part itself; wherever it stands, it means the same as the conjunction of
the two sides, unopened. The same goes for disjunctions. So nothing is merged into a group of the other
kind, and nothing through a negation. -/
theorem merged_interchangeable {a : Adapter} (ha : a.lookups.NeverEmpty) (x y z : Condition Test) :
    ((x.and y).and z = x.and (y.and z) ∧ (x.or y).or z = x.or (y.or z)) ∧
    (∀ around : Around Test,
      SameMeaning a (around.fill (x.and y)) (around.fill (.all [x, y])) ∧
      SameMeaning a (around.fill (x.or y)) (around.fill (.any [x, y]))) ∧
    (x.and y = .all (x.conjuncts ++ y.conjuncts) ∧ x.or y = .any (x.disjuncts ++ y.disjuncts)) ∧
    (∀ c : Condition Test, (∀ parts, c ≠ .all parts) → c.conjuncts = [c]) ∧
    (∀ c : Condition Test, (∀ parts, c ≠ .any parts) → c.disjuncts = [c]) := by
  refine ⟨⟨and_assoc x y z, or_assoc x y z⟩, fun around => ⟨?_, ?_⟩, ⟨and_eq x y, or_eq x y⟩,
    fun c hc => ?_, fun c hc => ?_⟩
  · exact ((meansAlike_and x y).fill around).sameMeaning ha
  · exact ((meansAlike_or x y).fill around).sameMeaning ha
  · cases c with
    | all parts => exact absurd rfl (hc parts)
    | leaf | raw | any | not => rfl
  · cases c with
    | any parts => exact absurd rfl (hc parts)
    | leaf | raw | all | not => rfl

/-- Of a conjunction that takes another one in, inside a disjunction, and of conditions that are empty. -/
theorem merged_interchangeable_all :
    let a := Adapter.ofDialect .sqlite "" none
    let x (n : Int64) : Condition Test := .leaf ⟨"x", none, .value (.int n)⟩
    let merged := (x 1).and (.all [x 2, .any [x 3, x 4]])
    let apart : Condition Test := .all [x 1, .all [x 2, .any [x 3, x 4]]]
    let around : Around Test := .any [x 5] .gap []
    merged = .all [x 1, x 2, .any [x 3, x 4]] ∧
      ((around.fill merged).rendering a).inlineText =
        .ok "`x`=5 OR (`x`=1 AND `x`=2 AND (`x`=3 OR `x`=4))" ∧
      ((around.fill apart).rendering a).inlineText =
        .ok "`x`=5 OR (`x`=1 AND (`x`=2 AND (`x`=3 OR `x`=4)))" ∧
      SameMeaning a (around.fill merged) (around.fill apart) ∧
      SameMeaning a ((Condition.all []).and (.raw " ")) (.all [.all [], .raw " "]) := by
  intro a x merged apart around
  have ha : a.lookups.NeverEmpty := Lookup.standard_neverEmpty
  obtain ⟨-, hmeaning, -⟩ := merged_interchangeable ha (x 1) (.all [x 2, .any [x 3, x 4]]) (x 5)
  obtain ⟨-, hempty, -⟩ := merged_interchangeable ha (.all []) (.raw " ") (x 5)
  exact ⟨rfl, by decide +kernel, by decide +kernel, (hmeaning around).1, (hempty .gap).1⟩

end Condition

end SqlCompose
