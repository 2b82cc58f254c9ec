import Mathlib.Data.List.Forall2
import SqlCompose.Proofs.Condition.Token

/-!
# The truth of conditions

The leaves of a condition, raw SQL among them, are counted from left to right, and a truth
assignment gives each of them its own truth, even where two leaves are equal (`Condition.holds`).
Two conditions agree if they have the same leaves in the same order and the same truth under every
assignment (`Condition.Agrees`).

What is written of a condition is the condition without its empty parts (`Condition.pruned`).
-/

namespace SqlCompose.Condition

variable {α γ : Type}

/-! ## Leaves and truth -/

mutual

/-- The leaves of a condition and its raw SQL, in order. -/
def leaves : Condition α → List (Token α)
  | leaf a => [.leaf a]
  | raw sql => [.raw sql]
  | all parts => leavesOf parts
  | any parts => leavesOf parts
  | not part => part.leaves

/-- The leaves of every condition of a list. -/
def leavesOf : List (Condition α) → List (Token α)
  | [] => []
  | c :: cs => c.leaves ++ leavesOf cs

end

mutual

/-- Whether a condition holds, where `v` tells the truth of its leaves and the first of them has
number `k`. -/
def holds (v : Nat → Bool) (k : Nat) : Condition α → Bool
  | leaf _ => v k
  | raw _ => v k
  | all parts => holdAll v k parts
  | any parts => holdAny v k parts
  | not part => !part.holds v k

/-- Whether every condition of a list holds. -/
def holdAll (v : Nat → Bool) (k : Nat) : List (Condition α) → Bool
  | [] => true
  | c :: cs => c.holds v k && holdAll v (k + c.leaves.length) cs

/-- Whether some condition of a list holds. -/
def holdAny (v : Nat → Bool) (k : Nat) : List (Condition α) → Bool
  | [] => false
  | c :: cs => c.holds v k || holdAny v (k + c.leaves.length) cs

end

mutual

/-- Only the truth of its own leaves matters to a condition. -/
theorem holds_congr {v w : Nat → Bool} : ∀ {k : Nat} {c : Condition α},
    (∀ i, k ≤ i → i < k + c.leaves.length → v i = w i) → c.holds v k = c.holds w k
  | k, leaf _, h | k, raw _, h => h k (Nat.le_refl k) (Nat.lt_succ_self k)
  | _, all _, h => (holdLists_congr h).1
  | _, any _, h => (holdLists_congr h).2
  | _, not part, h => by rw [holds, holds, holds_congr (c := part) h]

/-- So it is with lists of conditions. -/
theorem holdLists_congr {v w : Nat → Bool} : ∀ {k : Nat} {cs : List (Condition α)},
    (∀ i, k ≤ i → i < k + (leavesOf cs).length → v i = w i) →
      holdAll v k cs = holdAll w k cs ∧ holdAny v k cs = holdAny w k cs
  | _, [], _ => ⟨rfl, rfl⟩
  | k, c :: cs, h => by
    rw [leavesOf, List.length_append] at h
    have hc : c.holds v k = c.holds w k := holds_congr fun i hi hlt => h i hi (by omega)
    have hcs : holdAll v (k + c.leaves.length) cs = holdAll w (k + c.leaves.length) cs ∧
        holdAny v (k + c.leaves.length) cs = holdAny w (k + c.leaves.length) cs :=
      holdLists_congr fun i hi hlt => h i (by omega) (by omega)
    simp only [holdAll, holdAny, hc, hcs.1, hcs.2, and_self]

end

/-- The first assignment below `n`, and the second one from there on. -/
def spliced (n : Nat) (v w : Nat → Bool) (i : Nat) : Bool :=
  if i < n then v i else w i

/-- In front of the joint, the first assignment decides. -/
theorem holds_spliced_of_le {n k : Nat} {c : Condition α} (h : k + c.leaves.length ≤ n)
    (v w : Nat → Bool) : c.holds (spliced n v w) k = c.holds v k :=
  holds_congr fun _ _ hlt => if_pos (Nat.lt_of_lt_of_le hlt h)

/-- Behind the joint, the second assignment decides. -/
theorem holds_spliced_of_ge {n k : Nat} {c : Condition α} (h : n ≤ k) (v w : Nat → Bool) :
    c.holds (spliced n v w) k = c.holds w k :=
  holds_congr fun _ hi _ => if_neg (Nat.not_lt_of_le (Nat.le_trans h hi))

/-- Of two conditions, one behind the other, each can be made to hold or not whatever the other one
does. -/
theorem exists_holds_both {c d : Condition α} {k l : Nat} {b b' : Bool}
    (hkl : k + c.leaves.length ≤ l) (hc : ∃ v, c.holds v k = b) (hd : ∃ v, d.holds v l = b') :
    ∃ v, c.holds v k = b ∧ d.holds v l = b' := by
  obtain ⟨v, hv⟩ := hc
  obtain ⟨w, hw⟩ := hd
  refine ⟨spliced l v w, ?_, ?_⟩
  · rw [holds_spliced_of_le hkl, hv]
  · rw [holds_spliced_of_ge (Nat.le_refl l), hw]

/-! ## Agreement -/

/-- The same leaves in the same order, and the same truth whatever the truth of each. -/
structure Agrees (c d : Condition γ) : Prop where
  leaves_eq : c.leaves = d.leaves
  holds_eq : ∀ v k, c.holds v k = d.holds v k

namespace Agrees

theorem refl (c : Condition γ) : Agrees c c := ⟨rfl, fun _ _ => rfl⟩

theorem symm {c d : Condition γ} (h : Agrees c d) : Agrees d c :=
  ⟨h.leaves_eq.symm, fun v k => (h.holds_eq v k).symm⟩

theorem trans {c d e : Condition γ} (h : Agrees c d) (h' : Agrees d e) : Agrees c e :=
  ⟨h.leaves_eq.trans h'.leaves_eq, fun v k => (h.holds_eq v k).trans (h'.holds_eq v k)⟩

/-- Negations of conditions that agree do so, too. -/
theorem not {c d : Condition γ} (h : Agrees c d) : Agrees (.not c) (.not d) :=
  ⟨h.leaves_eq, fun v k => congrArg (!·) (h.holds_eq v k)⟩

/-- Lists that agree one by one have the same leaves. -/
theorem leavesOf_eq {cs ds : List (Condition γ)} (h : List.Forall₂ Agrees cs ds) :
    leavesOf cs = leavesOf ds := by
  induction h with
  | nil => rfl
  | cons hc _ ih => rw [leavesOf, leavesOf, hc.leaves_eq, ih]

/-- Of lists that agree one by one, all conditions hold or not together. -/
theorem holdAll_eq {cs ds : List (Condition γ)} (h : List.Forall₂ Agrees cs ds) (v : Nat → Bool) :
    ∀ k, holdAll v k cs = holdAll v k ds := by
  induction h with
  | nil => exact fun _ => rfl
  | cons hc _ ih => exact fun k => by rw [holdAll, holdAll, hc.holds_eq, hc.leaves_eq, ih]

/-- Of lists that agree one by one, some condition holds or not together. -/
theorem holdAny_eq {cs ds : List (Condition γ)} (h : List.Forall₂ Agrees cs ds) (v : Nat → Bool) :
    ∀ k, holdAny v k cs = holdAny v k ds := by
  induction h with
  | nil => exact fun _ => rfl
  | cons hc _ ih => exact fun k => by rw [holdAny, holdAny, hc.holds_eq, hc.leaves_eq, ih]

end Agrees

/-- What conjunctions and disjunctions have in common: a group of agreeing parts agrees, a group of
one part agrees with that part, and a group at the front of a group of its kind can be opened. -/
structure Associative (group : List (Condition γ) → Condition γ) : Prop where
  congr {cs ds} : List.Forall₂ Agrees cs ds → Agrees (group cs) (group ds)
  single c : Agrees (group [c]) c
  nested c d es : Agrees (group (group [c, d] :: es)) (group (c :: d :: es))

/-- Conjunctions may be opened from the left. -/
theorem associative_all : Associative (@all γ) where
  congr h := ⟨Agrees.leavesOf_eq h, Agrees.holdAll_eq h⟩
  single c := ⟨List.append_nil _, fun v k => Bool.and_true _⟩
  nested c d es := by
    constructor
    · simp [leaves, leavesOf]
    · intro v k
      simp [holds, holdAll, leaves, leavesOf, Bool.and_assoc, Nat.add_assoc]

/-- Disjunctions may be opened from the left. -/
theorem associative_any : Associative (@any γ) where
  congr h := ⟨Agrees.leavesOf_eq h, Agrees.holdAny_eq h⟩
  single c := ⟨List.append_nil _, fun v k => Bool.or_false _⟩
  nested c d es := by
    constructor
    · simp [leaves, leavesOf]
    · intro v k
      simp [holds, holdAny, leaves, leavesOf, Bool.or_assoc, Nat.add_assoc]

/-! ## Without empty parts -/

mutual

/-- The condition without its empty parts, with other leaves in the place of its leaves, and with
conditions in the place of its raw SQL. -/
def expand (leafOf : α → γ) (rawAs : String → Condition γ) : Condition α → Condition γ
  | leaf a => leaf (leafOf a)
  | raw sql => rawAs sql
  | all parts => all (expandLive leafOf rawAs parts)
  | any parts => any (expandLive leafOf rawAs parts)
  | not part => not (part.expand leafOf rawAs)

/-- `expand` of the conditions of a list that are not empty. -/
def expandLive (leafOf : α → γ) (rawAs : String → Condition γ) :
    List (Condition α) → List (Condition γ)
  | [] => []
  | c :: cs =>
    if c.isEmpty then expandLive leafOf rawAs cs
    else c.expand leafOf rawAs :: expandLive leafOf rawAs cs

end

/-- The condition without its empty parts. -/
def pruned (c : Condition α) : Condition α :=
  c.expand id raw

end SqlCompose.Condition
