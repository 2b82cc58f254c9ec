import SqlCompose.Text.Split
import SqlCompose.Text.Word

/-!
# Placeholders

Raw SQL names a column as `[[column]]` and a table as `{{table}}`, where a percent sign in front of
the name or behind it stands for the prefix of table names. A text is cut into segments from left to
right: placeholders, which do not overlap, and the characters between them. The segments make up the
text (`flatMap_source_segments`).
-/

namespace SqlCompose

/-- A stretch of raw SQL. -/
inductive Segment where
  /-- A character outside placeholders. -/
  | char (c : Char)
  /-- A table placeholder: the name with its percent signs. -/
  | table (name : List Char)
  /-- A column placeholder. -/
  | column (name : List Char)
  deriving DecidableEq

namespace Segment

/-- The stretch as it stands in the text. -/
def source : Segment → List Char
  | .char c => [c]
  | .table name => '{' :: '{' :: name ++ ['}', '}']
  | .column name => '[' :: '[' :: name ++ [']', ']']

/-- The percent sign at the front of a text, if there is one. -/
def percent : List Char → List Char
  | '%' :: _ => ['%']
  | _ => []

/-- The table name behind two opening braces, if two closing ones follow it. -/
def tableName? (cs : List Char) : Option (List Char) :=
  let before := percent cs
  let rest := cs.drop before.length
  let name := rest.takeWhile Text.isNameChar
  let rest := rest.drop name.length
  let behind := percent rest
  if name.isEmpty then none
  else (Text.after? ['}', '}'] (rest.drop behind.length)).map fun _ => before ++ name ++ behind

/-- The column name behind two opening brackets, if two closing ones follow it. -/
def columnName? (cs : List Char) : Option (List Char) :=
  let name := cs.takeWhile Text.isNameChar
  if name.isEmpty then none
  else (Text.after? [']', ']'] (cs.drop name.length)).map fun _ => name

/-- The placeholder at the front of a text. -/
def placeholder? : List Char → Option Segment
  | '{' :: '{' :: rest => (tableName? rest).map .table
  | '[' :: '[' :: rest => (columnName? rest).map .column
  | _ => none

/-- The segments of a text behind its first `skip` characters. -/
def segmentsAfter (skip : Nat) : List Char → List Segment
  | [] => []
  | c :: cs =>
    match skip with
    | skip + 1 => segmentsAfter skip cs
    | 0 =>
      match placeholder? (c :: cs) with
      | some s => s :: segmentsAfter (s.source.length - 1) cs
      | none => .char c :: segmentsAfter 0 cs

/-- The segments of a text. -/
def segments (cs : List Char) : List Segment :=
  segmentsAfter 0 cs

/-- Characters that belong to a placeholder already read are passed over. -/
theorem segmentsAfter_eq_drop (skip : Nat) (cs : List Char) :
    segmentsAfter skip cs = segments (cs.drop skip) := by
  induction cs generalizing skip with
  | nil => simp [segments, segmentsAfter]
  | cons c cs ih =>
    cases skip with
    | zero => rfl
    | succ skip => simpa [segmentsAfter] using ih skip

/-- A percent sign at the front, if any, is taken off as it stands. -/
theorem percent_append_drop (cs : List Char) : percent cs ++ cs.drop (percent cs).length = cs := by
  unfold percent
  split <;> simp

/-- The name of a table is followed by the closing braces. -/
theorem eq_of_tableName? {cs name : List Char} (h : tableName? cs = some name) :
    ∃ rest, cs = name ++ ['}', '}'] ++ rest := by
  unfold tableName? at h
  dsimp only at h
  split at h
  · simp at h
  · obtain ⟨rest, hr, hn⟩ := Option.map_eq_some_iff.1 h
    rw [Text.after?_eq_some_iff] at hr
    refine ⟨rest, ?_⟩
    rw [← hn, List.append_assoc, ← hr, List.append_assoc, List.append_assoc,
      percent_append_drop, Text.drop_takeWhile, List.takeWhile_append_dropWhile,
      percent_append_drop]

/-- The name of a column is followed by the closing brackets. -/
theorem eq_of_columnName? {cs name : List Char} (h : columnName? cs = some name) :
    ∃ rest, cs = name ++ [']', ']'] ++ rest := by
  unfold columnName? at h
  dsimp only at h
  split at h
  · simp at h
  · obtain ⟨rest, hr, hn⟩ := Option.map_eq_some_iff.1 h
    rw [Text.after?_eq_some_iff] at hr
    refine ⟨rest, ?_⟩
    rw [← hn, List.append_assoc, ← hr, Text.drop_takeWhile, List.takeWhile_append_dropWhile]

/-- A placeholder is found only where its own text stands. -/
theorem eq_of_placeholder? {cs : List Char} {s : Segment} (h : placeholder? cs = some s) :
    ∃ rest, cs = s.source ++ rest := by
  unfold placeholder? at h
  split at h
  · obtain ⟨name, hn, rfl⟩ := Option.map_eq_some_iff.1 h
    obtain ⟨rest, rfl⟩ := eq_of_tableName? hn
    exact ⟨rest, by simp [source]⟩
  · obtain ⟨name, hn, rfl⟩ := Option.map_eq_some_iff.1 h
    obtain ⟨rest, rfl⟩ := eq_of_columnName? hn
    exact ⟨rest, by simp [source]⟩
  · simp at h

/-- Every segment comes from some characters of the text. -/
theorem source_ne_nil (s : Segment) : s.source ≠ [] := by
  cases s <;> simp [source]

/-- The segments of a text make up the text. -/
theorem flatMap_source_segments (cs : List Char) : (segments cs).flatMap source = cs := by
  match cs with
  | [] => rfl
  | c :: cs =>
    unfold segments segmentsAfter
    dsimp only
    split
    · rename_i s hs
      obtain ⟨rest, hr⟩ := eq_of_placeholder? hs
      have hlen : (c :: cs).drop s.source.length = rest := by rw [hr]; simp
      have hpos : 0 < s.source.length := List.length_pos_iff.2 (source_ne_nil s)
      have hdrop : cs.drop (s.source.length - 1) = rest := by
        rw [← hlen, ← Nat.succ_pred_eq_of_pos hpos]; rfl
      rw [List.flatMap_cons, segmentsAfter_eq_drop, flatMap_source_segments, hdrop, hr]
    · rw [List.flatMap_cons, segmentsAfter_eq_drop, List.drop_zero, flatMap_source_segments]
      rfl
termination_by cs.length
decreasing_by
  · simp only [List.length_drop, List.length_cons]; omega
  · simp

end Segment

end SqlCompose
