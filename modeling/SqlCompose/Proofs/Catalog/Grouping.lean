import Mathlib.Algebra.BigOperators.Group.List.Lemmas
import Mathlib.Algebra.Ring.Nat
import SqlCompose.Proofs.Catalog.Folding

/-!
# Entries are grouped without loss

The entries of several keys or indexes may come in any order, those of one name between those of
others. A map that they are folded into has just the names that occur, and under each name what the
entries of this name make (`NameMap.Groups`). As each entry has just one name, the columns of all
values account for all entries (`NameMap.sum_length_of_names`). This holds of indexes and of foreign
keys alike (`Catalog.groups_collected`).
-/

namespace SqlCompose

namespace NameMap

variable {ε α : Type}

/-- A map groups entries by their names: it has just the names that occur in them, the value under a
name is made of the entries of this name in their order, and together the values have as many columns
as there are entries. -/
structure Groups (key : ε → String) (made : List ε → α → Prop) (columns : α → List String)
    (entries : List ε) (m : NameMap α) : Prop where
  mem_names_iff (name : String) : name ∈ m.names ↔ ∃ e ∈ entries, key e = name
  made (name : String) : name ∈ m.names →
    ∃ a, m.get? name = some a ∧ made (entries.filter (key · == name)) a
  total : (m.entries.map fun e => (columns e.2).length).sum = entries.length

variable {key : ε → String} {made : List ε → α → Prop} {columns : α → List String}
  {entries : List ε} {m : NameMap α}

/-- Where each value has as many columns as there are entries of its name, all columns together are
as many as all entries: an entry has one name, and a name has one value. -/
theorem sum_length_of_names (hnames : ∀ name, name ∈ m.names ↔ ∃ e ∈ entries, key e = name)
    (hlength : ∀ e ∈ m.entries, (columns e.2).length = (entries.filter (key · == e.1)).length) :
    (m.entries.map fun e => (columns e.2).length).sum = entries.length := by
  have hperm : m.names.Perm (entries.map key).dedup := by
    refine (List.perm_ext_iff_of_nodup m.nodup_names (List.nodup_dedup _)).2 fun name => ?_
    rw [hnames, List.mem_dedup, List.mem_map]
  have hcount : ∀ e ∈ m.entries, (columns e.2).length = (entries.map key).count e.1 := by
    intro e he
    rw [hlength e he, List.count, List.countP_map, List.countP_eq_length_filter]
    rfl
  calc (m.entries.map fun e => (columns e.2).length).sum
      = (m.names.map fun name => (entries.map key).count name).sum := by
        rw [names, List.map_map]
        exact congrArg List.sum (List.map_congr_left hcount)
    _ = ((entries.map key).dedup.map fun name => (entries.map key).count name).sum :=
        (hperm.map _).sum_eq
    _ = entries.length := by rw [List.sum_map_count_dedup_eq_length, List.length_map]

/-- A map groups entries if what is found under a name is made of the entries of this name, and
nothing is found where there are none. -/
theorem groups_of_made
    (hnone : ∀ name, entries.filter (key · == name) = [] → m.get? name = none)
    (hmade : ∀ name e es, entries.filter (key · == name) = e :: es →
      ∃ a, m.get? name = some a ∧ made (e :: es) a)
    (hlength : ∀ {es a}, made es a → (columns a).length = es.length) :
    m.Groups key made columns entries := by
  have hfound : ∀ name, name ∈ m.names →
      ∃ a, m.get? name = some a ∧ made (entries.filter (key · == name)) a := by
    intro name hname
    obtain ⟨a, ha⟩ := NameMap.mem_names_iff.1 hname
    cases hfilter : entries.filter (key · == name) with
    | nil =>
      rw [hnone name hfilter] at ha
      cases ha
    | cons e es => exact hmade name e es hfilter
  have hnames : ∀ name, name ∈ m.names ↔ ∃ e ∈ entries, key e = name := by
    intro name
    have hoccurs : (∃ e ∈ entries, key e = name) ↔ entries.filter (key · == name) ≠ [] := by
      simp [List.filter_eq_nil_iff]
    rw [NameMap.mem_names_iff, hoccurs]
    cases hfilter : entries.filter (key · == name) with
    | nil => simp [hnone name hfilter]
    | cons e es =>
      obtain ⟨a, ha, -⟩ := hmade name e es hfilter
      simp [ha]
  refine ⟨hnames, hfound, sum_length_of_names hnames fun e he => ?_⟩
  obtain ⟨a, ha, hmadeof⟩ := hfound e.1 (List.mem_map_of_mem he)
  rw [get?_of_mem_entries he] at ha
  cases ha
  exact hlength hmadeof

end NameMap

namespace Catalog

/-- An index is made of entries: it has their columns in their order, and the flag of the first. -/
structure Index.MadeOf (entries : List IndexEntry) (index : Index) : Prop where
  columns : index.columns = entries.map (·.column)
  unique : entries.head?.map (·.unique) = some index.unique

/-- A foreign key is made of entries: it has their columns in their order, each beside the one that
it refers to, and refers to the table of the first. -/
structure Reference.MadeOf (entries : List ReferenceEntry) (key : Reference) : Prop where
  length_refColumns : key.refColumns.length = key.columns.length
  pairs : key.columns.zip key.refColumns = entries.map fun e => (e.column, e.refColumn)
  refTable : entries.head?.map (·.refTable) = some key.refTable

/-- A foreign key has as many columns as there are entries for it. -/
theorem Reference.MadeOf.length_columns {entries : List ReferenceEntry} {key : Reference}
    (h : key.MadeOf entries) : key.columns.length = entries.length := by
  have hpairs := congrArg List.length h.pairs
  rwa [List.length_zip, h.length_refColumns, Nat.min_self, List.length_map] at hpairs

/-- Indexes and foreign keys are collected without loss: under just the names that occur in the
entries, each is made of the entries of its name in their order, and together they have as many
columns as there are entries. -/
theorem groups_collected (entries : List IndexEntry) (references : List ReferenceEntry) :
    (collectIndexes entries).Groups (·.index) Index.MadeOf (·.columns) entries ∧
      (collectReferences references).Groups (·.key) Reference.MadeOf (·.columns) references := by
  constructor
  · refine NameMap.groups_of_made (fun name hnone => ?_) (fun name e es hfilter => ?_) fun h => ?_
    · rw [get?_collectIndexes, hnone]
    · exact ⟨_, by rw [get?_collectIndexes, hfilter], rfl, rfl⟩
    · rw [h.columns, List.length_map]
  · refine NameMap.groups_of_made (fun name hnone => ?_) (fun name e es hfilter => ?_)
      Reference.MadeOf.length_columns
    · rw [get?_collectReferences, hnone]
    · refine ⟨_, by rw [get?_collectReferences, hfilter], ?_, List.zip_map', rfl⟩
      rw [List.length_map, List.length_map]

example : (collectIndexes [⟨"b", "x", true⟩, ⟨"a", "y", false⟩, ⟨"b", "z", false⟩]).entries =
    [("a", ⟨["y"], false⟩), ("b", ⟨["x", "z"], true⟩)] := by
  decide

end Catalog

end SqlCompose
