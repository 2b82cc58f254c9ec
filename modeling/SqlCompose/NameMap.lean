/-!
# Maps from names

A finite map whose keys are strings, kept in the order of their code points: the entries are strictly
ascending, so a map has one form. `get?_insert_self` and `get?_insert_of_ne` say what a written entry
changes, `get?_erase_self` and `get?_erase_of_ne` what a removed one does, and `get?_filter` and
`get?_map` what is found where all entries are looked through. Each entry is what is found under its
name (`get?_of_mem_entries`), and no name comes twice (`nodup_names`).
-/

namespace SqlCompose

/-- A map from names, in ascending order. -/
structure NameMap (α : Type) where
  entries : List (String × α)
  ascending : entries.Pairwise (·.1 < ·.1)

namespace NameMap

variable {α β : Type}

/-- The map without entries. -/
def empty : NameMap α := ⟨[], .nil⟩

instance : EmptyCollection (NameMap α) := ⟨empty⟩
instance : Inhabited (NameMap α) := ⟨empty⟩

/-- The entries with one more, or with another value under a name. -/
def insertEntry (name : String) (a : α) : List (String × α) → List (String × α)
  | [] => [(name, a)]
  | (n, b) :: rest =>
    if name < n then (name, a) :: (n, b) :: rest
    else if name = n then (name, a) :: rest
    else (n, b) :: insertEntry name a rest

/-- Only the new entry is added. -/
theorem mem_insertEntry {name : String} {a : α} {e : String × α} {l : List (String × α)}
    (h : e ∈ insertEntry name a l) : e = (name, a) ∨ e ∈ l := by
  induction l with
  | nil => simpa [insertEntry] using h
  | cons head rest ih =>
    obtain ⟨n, b⟩ := head
    rw [insertEntry] at h
    split at h
    · simpa using h
    · split at h
      · rcases List.mem_cons.1 h with h | h
        · exact .inl h
        · exact .inr (List.mem_cons_of_mem _ h)
      · rcases List.mem_cons.1 h with h | h
        · exact .inr (h ▸ List.mem_cons_self)
        · exact (ih h).imp id (List.mem_cons_of_mem _)

/-- The names stay in ascending order. -/
theorem ascending_insertEntry {name : String} {a : α} {l : List (String × α)}
    (h : l.Pairwise (·.1 < ·.1)) : (insertEntry name a l).Pairwise (·.1 < ·.1) := by
  induction l with
  | nil => simp [insertEntry]
  | cons head rest ih =>
    obtain ⟨n, b⟩ := head
    rw [List.pairwise_cons] at h
    rw [insertEntry]
    split
    · rename_i hlt
      refine List.pairwise_cons.2 ⟨fun e he => ?_, List.pairwise_cons.2 h⟩
      rcases List.mem_cons.1 he with rfl | he
      · exact hlt
      · exact String.lt_trans hlt (h.1 e he)
    · split
      · rename_i heq
        subst heq
        exact List.pairwise_cons.2 h
      · rename_i hlt hne
        refine List.pairwise_cons.2 ⟨fun e he => ?_, ih h.2⟩
        rcases mem_insertEntry he with rfl | he
        · show n < name
          grind
        · exact h.1 e he

/-- The map with a value under a name, whatever was there before. -/
def insert (m : NameMap α) (name : String) (a : α) : NameMap α :=
  ⟨insertEntry name a m.entries, ascending_insertEntry m.ascending⟩

/-- The value under a name. -/
def get? (m : NameMap α) (name : String) : Option α :=
  m.entries.lookup name

/-- Whether there is a value under a name. -/
def contains (m : NameMap α) (name : String) : Bool :=
  (m.get? name).isSome

/-- The names in ascending order. -/
def names (m : NameMap α) : List String :=
  m.entries.map (·.1)

/-- The map without a name. -/
def erase (m : NameMap α) (name : String) : NameMap α :=
  ⟨m.entries.filter (·.1 != name), m.ascending.filter _⟩

/-- The map with the value under a name changed, beginning with `start` where there is none. -/
def alter (m : NameMap α) (name : String) (start : α) (change : α → α) : NameMap α :=
  m.insert name (change ((m.get? name).getD start))

/-- The map with the entries of a list, later ones in the place of earlier ones of the same name. -/
def ofList (l : List (String × α)) : NameMap α :=
  l.foldl (fun m (name, a) => m.insert name a) {}

/-- The entries whose value satisfies `p`. -/
def filter (m : NameMap α) (p : α → Bool) : NameMap α :=
  ⟨m.entries.filter fun e => p e.2, m.ascending.filter _⟩

/-- The map with every value replaced by its image. -/
def map (f : α → β) (m : NameMap α) : NameMap β :=
  ⟨m.entries.map fun e => (e.1, f e.2), List.pairwise_map.2 m.ascending⟩

/-- The new entry is found under its name. -/
theorem lookup_insertEntry_self (name : String) (a : α) (l : List (String × α)) :
    (insertEntry name a l).lookup name = some a := by
  induction l with
  | nil => simp [insertEntry]
  | cons head rest ih =>
    obtain ⟨n, b⟩ := head
    rw [insertEntry]
    split
    · simp
    · split
      · simp
      · rename_i hne
        have hb : (name == n) = false := by simpa using hne
        rw [List.lookup_cons, hb]
        exact ih

/-- Other names are found as before. -/
theorem lookup_insertEntry_of_ne {name other : String} (a : α) (h : other ≠ name)
    (l : List (String × α)) : (insertEntry name a l).lookup other = l.lookup other := by
  have hb : (other == name) = false := by simpa using h
  induction l with
  | nil => simp [insertEntry, hb, List.lookup_cons]
  | cons head rest ih =>
    obtain ⟨n, b⟩ := head
    rw [insertEntry]
    split
    · rw [List.lookup_cons, hb]
    · split
      · rename_i heq
        subst heq
        rw [List.lookup_cons, List.lookup_cons, hb]
      · rw [List.lookup_cons, List.lookup_cons, ih]

/-- What is entered under a name is found under it. -/
@[simp] theorem get?_insert_self (m : NameMap α) (name : String) (a : α) :
    (m.insert name a).get? name = some a :=
  lookup_insertEntry_self name a m.entries

/-- Entering a value leaves all other names alone. -/
theorem get?_insert_of_ne (m : NameMap α) {name other : String} (a : α) (h : other ≠ name) :
    (m.insert name a).get? other = m.get? other :=
  lookup_insertEntry_of_ne a h m.entries

@[simp] theorem get?_empty (name : String) : (empty : NameMap α).get? name = none :=
  rfl

/-- Nothing is found under a name that was erased. -/
@[simp] theorem get?_erase_self (m : NameMap α) (name : String) :
    (m.erase name).get? name = none := by
  obtain ⟨l, h⟩ := m
  show (l.filter (·.1 != name)).lookup name = none
  clear h
  induction l with
  | nil => rfl
  | cons head rest ih =>
    obtain ⟨n, b⟩ := head
    by_cases hn : n = name
    · simp [hn, ih]
    · have : (name == n) = false := by simpa using Ne.symm hn
      simp [hn, List.lookup_cons, this, ih]

/-- Erasing a name leaves all others alone. -/
theorem get?_erase_of_ne (m : NameMap α) {name other : String} (h : other ≠ name) :
    (m.erase name).get? other = m.get? other := by
  obtain ⟨l, hl⟩ := m
  show (l.filter (·.1 != name)).lookup other = l.lookup other
  clear hl
  induction l with
  | nil => rfl
  | cons head rest ih =>
    obtain ⟨n, b⟩ := head
    by_cases hn : n = name
    · have hb : (other == n) = false := by simpa [hn] using h
      rw [List.lookup_cons, hb, ← ih]
      simp [hn]
    · simp [hn, List.lookup_cons, ih]

/-- What is found under the name is changed, or else the start value. -/
@[simp] theorem get?_alter_self (m : NameMap α) (name : String) (start : α) (change : α → α) :
    (m.alter name start change).get? name = some (change ((m.get? name).getD start)) :=
  get?_insert_self m name _

/-- Altering a name leaves all others alone. -/
theorem get?_alter_of_ne (m : NameMap α) {name other : String} (start : α) (change : α → α)
    (h : other ≠ name) : (m.alter name start change).get? other = m.get? other :=
  get?_insert_of_ne m _ h

/-- A function is applied to what is found. -/
@[simp] theorem get?_map (f : α → β) (m : NameMap α) (name : String) :
    (m.map f).get? name = (m.get? name).map f := by
  obtain ⟨l, h⟩ := m
  show (l.map fun e => (e.1, f e.2)).lookup name = (l.lookup name).map f
  clear h
  induction l with
  | nil => rfl
  | cons head rest ih =>
    rw [List.map_cons, List.lookup_cons, List.lookup_cons, ih]
    cases name == head.1 <;> rfl

/-- What is found is kept if it passes the test. -/
theorem get?_filter (m : NameMap α) (p : α → Bool) (name : String) :
    (m.filter p).get? name = (m.get? name).filter p := by
  obtain ⟨l, h⟩ := m
  show (l.filter fun e => p e.2).lookup name = (l.lookup name).filter p
  induction l with
  | nil => rfl
  | cons head rest ih =>
    obtain ⟨n, b⟩ := head
    rw [List.pairwise_cons] at h
    rw [List.lookup_cons, List.filter_cons]
    by_cases hn : name = n
    · subst hn
      have hrest : (rest.filter fun e => p e.2).lookup name = none := by
        rw [List.lookup_eq_none_iff]
        intro e he
        have hlt := h.1 e (List.mem_filter.1 he).1
        exact bne_iff_ne.2 (String.ne_of_lt hlt)
      cases hp : p b <;> simp [Option.filter, hp, hrest]
    · have hb : (name == n) = false := by simpa using hn
      rw [hb, ← ih h.2]
      split
      · rw [List.lookup_cons, hb]
      · rfl

/-- An entry is what is found under its name. -/
theorem get?_of_mem_entries {m : NameMap α} {e : String × α} (h : e ∈ m.entries) :
    m.get? e.1 = some e.2 := by
  obtain ⟨l, hl⟩ := m
  replace h : e ∈ l := h
  show l.lookup e.1 = some e.2
  induction l with
  | nil => cases h
  | cons head rest ih =>
    rw [List.pairwise_cons] at hl
    rcases List.mem_cons.1 h with rfl | h
    · rw [List.lookup_cons, beq_self_eq_true]
    · have hb : (e.1 == head.1) = false := beq_false_of_ne (String.ne_of_lt (hl.1 e h)).symm
      rw [List.lookup_cons, hb]
      exact ih hl.2 h

/-- The names are those under which something is found. -/
theorem mem_names_iff {m : NameMap α} {name : String} :
    name ∈ m.names ↔ ∃ a, m.get? name = some a := by
  constructor
  · intro h
    obtain ⟨e, he, rfl⟩ := List.mem_map.1 h
    exact ⟨e.2, get?_of_mem_entries he⟩
  · rintro ⟨a, h⟩
    have hsome : (m.entries.lookup name).isSome := Option.isSome_of_eq_some h
    obtain ⟨e, he, heq⟩ := List.lookup_isSome_iff.1 hsome
    exact List.mem_map.2 ⟨e, he, (eq_of_beq heq).symm⟩

/-- No name is listed twice. -/
theorem nodup_names (m : NameMap α) : m.names.Nodup :=
  List.pairwise_map.2 (m.ascending.imp String.ne_of_lt)

/-- What is found after several entries is one of them, or was there before. -/
theorem mem_or_of_get?_foldl {l : List (String × α)} {m : NameMap α} {name : String} {a : α}
    (h : (l.foldl (fun m (name, a) => m.insert name a) m).get? name = some a) :
    (name, a) ∈ l ∨ m.get? name = some a := by
  induction l generalizing m with
  | nil => exact .inr h
  | cons e l ih =>
    rcases ih h with h | h
    · exact .inl (List.mem_cons_of_mem _ h)
    · by_cases hn : name = e.1
      · subst hn
        rw [get?_insert_self, Option.some.injEq] at h
        exact .inl (h ▸ List.mem_cons_self)
      · exact .inr (by rwa [get?_insert_of_ne m e.2 hn] at h)

/-- What is found under a name in the map of a list is an entry of the list. -/
theorem mem_of_get?_ofList {l : List (String × α)} {name : String} {a : α}
    (h : (ofList l).get? name = some a) : (name, a) ∈ l :=
  (mem_or_of_get?_foldl h).resolve_right nofun

end NameMap

end SqlCompose
