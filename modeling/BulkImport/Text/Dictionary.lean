/-!
# Dictionaries

Finite maps from texts, kept as a list of entries in strictly increasing order of the keys
(by code point, which is also the order of the bytes in UTF-8).  Each operation is described by
what it does to look-ups (`find?_insert`, `find?_erase`, `find?_mapValues`), and the entries are
exactly what look-ups find (`mem_entries_iff`), so that a map is determined by them (`ext_find?`).
-/

namespace BulkImport

/-- A finite map from texts, listed by key. -/
structure Dictionary (α : Type) where
  /-- Keys with their values. -/
  entries : List (String × α)
  /-- Each key comes once, and before every greater one. -/
  ordered : entries.Pairwise fun a b => a.1 < b.1

namespace Dictionary

variable {α β : Type}

/-- The map with no entry. -/
def empty : Dictionary α := ⟨[], .nil⟩

instance : Inhabited (Dictionary α) := ⟨empty⟩

instance [DecidableEq α] : DecidableEq (Dictionary α) := fun a b =>
  if h : a.entries = b.entries then
    isTrue (by cases a; cases b; cases h; rfl)
  else isFalse fun e => h (by rw [e])

@[ext] theorem ext {a b : Dictionary α} (h : a.entries = b.entries) : a = b := by
  cases a; cases b; cases h; rfl

/-- The value under a key. -/
def find? (d : Dictionary α) (key : String) : Option α :=
  d.entries.lookup key

/-- The keys, in order. -/
def keys (d : Dictionary α) : List String :=
  d.entries.map (·.1)

/-- The values, in the order of their keys. -/
def values (d : Dictionary α) : List α :=
  d.entries.map (·.2)

/-- The number of entries. -/
def size (d : Dictionary α) : Nat := d.entries.length

/-- Whether there is no entry. -/
def isEmpty (d : Dictionary α) : Bool := d.entries.isEmpty

/-- Entries with one more, or with another value under its key. -/
def insertEntry (key : String) (value : α) : List (String × α) → List (String × α)
  | [] => [(key, value)]
  | (k, v) :: rest =>
    if key < k then (key, value) :: (k, v) :: rest
    else if key = k then (key, value) :: rest
    else (k, v) :: insertEntry key value rest

theorem mem_insertEntry {key : String} {value : α} {es : List (String × α)} {e : String × α}
    (h : e ∈ insertEntry key value es) : e = (key, value) ∨ e ∈ es := by
  induction es with
  | nil => simpa [insertEntry] using h
  | cons x rest ih =>
    obtain ⟨k, v⟩ := x
    unfold insertEntry at h
    split at h
    · simpa using h
    · split at h
      · rcases List.mem_cons.1 h with h | h
        · exact .inl h
        · exact .inr (List.mem_cons_of_mem _ h)
      · rcases List.mem_cons.1 h with rfl | h
        · exact .inr (by simp)
        · exact (ih h).imp id (List.mem_cons_of_mem _)

theorem pairwise_insertEntry {key : String} {value : α} {es : List (String × α)}
    (h : es.Pairwise fun a b => a.1 < b.1) :
    (insertEntry key value es).Pairwise fun a b => a.1 < b.1 := by
  induction es with
  | nil => simp [insertEntry]
  | cons x rest ih =>
    obtain ⟨k, v⟩ := x
    obtain ⟨hk, hrest⟩ := List.pairwise_cons.1 h
    unfold insertEntry
    split
    · next hlt =>
      refine List.pairwise_cons.2 ⟨fun e he => ?_, h⟩
      rcases List.mem_cons.1 he with rfl | he
      · exact hlt
      · exact String.lt_trans hlt (hk e he)
    · next hlt =>
      split
      · next heq => subst heq; exact List.pairwise_cons.2 ⟨hk, hrest⟩
      · next hne =>
        refine List.pairwise_cons.2 ⟨fun e he => ?_, ih hrest⟩
        rcases mem_insertEntry he with rfl | he
        · exact Std.lt_of_le_of_ne (String.not_lt.1 hlt) (Ne.symm hne)
        · exact hk e he

/-- The map with this value under the key. -/
def insert (d : Dictionary α) (key : String) (value : α) : Dictionary α :=
  ⟨insertEntry key value d.entries, pairwise_insertEntry d.ordered⟩

/-- The map without the key. -/
def erase (d : Dictionary α) (key : String) : Dictionary α :=
  ⟨d.entries.filter (·.1 ≠ key), d.ordered.filter _⟩

/-- The map with every value changed, which may depend on the key. -/
def mapValues (f : String → α → β) (d : Dictionary α) : Dictionary β :=
  ⟨d.entries.map fun e => (e.1, f e.1 e.2), List.pairwise_map.2 (d.ordered.imp fun h => h)⟩

/-- The map of a list of entries, a later entry replacing an earlier one of the same key. -/
def ofList (es : List (String × α)) : Dictionary α :=
  es.foldl (fun d e => d.insert e.1 e.2) empty

theorem lookup_cons (k key : String) (value : α) (es : List (String × α)) :
    ((key, value) :: es).lookup k = if k = key then some value else es.lookup k := by
  by_cases h : k = key
  · subst h; simp
  · rw [List.lookup_cons, beq_eq_false_iff_ne.2 h]; simp [h]

theorem lookup_insertEntry (key k : String) (value : α) (es : List (String × α)) :
    (insertEntry key value es).lookup k = if k = key then some value else es.lookup k := by
  induction es with
  | nil => simp [insertEntry, lookup_cons]
  | cons x rest ih =>
    obtain ⟨k', v⟩ := x
    unfold insertEntry
    split
    · simp [lookup_cons]
    · split
      · next heq =>
        subst heq
        by_cases hk : k = key <;> simp [lookup_cons, hk]
      · next hne =>
        by_cases hk' : k = k'
        · subst hk'; simp [Ne.symm hne]
        · simp [lookup_cons, hk', ih]

theorem find?_insert (d : Dictionary α) (key k : String) (value : α) :
    (d.insert key value).find? k = if k = key then some value else d.find? k :=
  lookup_insertEntry key k value d.entries

theorem find?_empty (k : String) : (empty : Dictionary α).find? k = none := rfl

theorem lookup_filter_ne (key k : String) (es : List (String × α)) :
    (es.filter (·.1 ≠ key)).lookup k = if k = key then none else es.lookup k := by
  induction es with
  | nil => simp
  | cons x rest ih =>
    obtain ⟨k', v⟩ := x
    by_cases hk' : k' = key
    · subst hk'
      rw [List.filter_cons_of_neg (by simp), ih, lookup_cons]
      by_cases hk : k = k' <;> simp [hk]
    · rw [List.filter_cons_of_pos (by simpa using hk'), lookup_cons, lookup_cons, ih]
      by_cases hk : k = k'
      · subst hk; simp [hk']
      · simp [hk]

theorem find?_erase (d : Dictionary α) (key k : String) :
    (d.erase key).find? k = if k = key then none else d.find? k :=
  lookup_filter_ne key k d.entries

theorem lookup_map (f : String → α → β) (k : String) (es : List (String × α)) :
    (es.map fun e => (e.1, f e.1 e.2)).lookup k = (es.lookup k).map (f k) := by
  induction es with
  | nil => simp
  | cons x rest ih =>
    obtain ⟨k', v⟩ := x
    rw [List.map_cons, lookup_cons, lookup_cons, ih]
    by_cases hk : k = k'
    · subst hk; simp
    · simp [hk]

theorem find?_mapValues (f : String → α → β) (d : Dictionary α) (k : String) :
    (d.mapValues f).find? k = (d.find? k).map (f k) :=
  lookup_map f k d.entries

theorem lookup_eq_some_of_mem {es : List (String × α)}
    (h : es.Pairwise fun a b => a.1 < b.1) {k : String} {v : α} (he : (k, v) ∈ es) :
    es.lookup k = some v := by
  induction es with
  | nil => cases he
  | cons x rest ih =>
    obtain ⟨k', v'⟩ := x
    obtain ⟨hx, hrest⟩ := List.pairwise_cons.1 h
    rw [lookup_cons]
    rcases List.mem_cons.1 he with he | he
    · cases he; simp
    · have hlt : k' < k := hx _ he
      have hne : k ≠ k' := fun e => String.lt_irrefl _ (e ▸ hlt)
      rw [if_neg hne, ih hrest he]

theorem mem_of_lookup_eq_some {es : List (String × α)} {k : String} {v : α}
    (h : es.lookup k = some v) : (k, v) ∈ es := by
  induction es with
  | nil => cases h
  | cons x rest ih =>
    obtain ⟨k', v'⟩ := x
    rw [lookup_cons] at h
    split at h
    · next hk => cases h; subst hk; simp
    · exact List.mem_cons_of_mem _ (ih h)

theorem mem_entries_iff {d : Dictionary α} {k : String} {v : α} :
    (k, v) ∈ d.entries ↔ d.find? k = some v :=
  ⟨fun h => lookup_eq_some_of_mem d.ordered h, mem_of_lookup_eq_some⟩

theorem keys_nodup (d : Dictionary α) : d.keys.Nodup :=
  List.pairwise_map.2 (d.ordered.imp String.ne_of_lt)

theorem entries_nodup (d : Dictionary α) : d.entries.Nodup :=
  d.ordered.imp fun hlt heq => String.ne_of_lt hlt (congrArg Prod.fst heq)

theorem mem_keys_iff {d : Dictionary α} {k : String} : k ∈ d.keys ↔ ∃ v, d.find? k = some v := by
  unfold keys
  rw [List.mem_map]
  constructor
  · rintro ⟨⟨k, v⟩, he, rfl⟩
    exact ⟨v, mem_entries_iff.1 he⟩
  · rintro ⟨v, hv⟩
    exact ⟨(k, v), mem_entries_iff.2 hv, rfl⟩

theorem mem_values_iff {d : Dictionary α} {v : α} : v ∈ d.values ↔ ∃ k, d.find? k = some v := by
  unfold values
  rw [List.mem_map]
  constructor
  · rintro ⟨⟨k, v⟩, he, rfl⟩
    exact ⟨k, mem_entries_iff.1 he⟩
  · rintro ⟨k, hk⟩
    exact ⟨(k, v), mem_entries_iff.2 hk, rfl⟩

/-- A map is determined by what look-ups find. -/
theorem ext_find? {a b : Dictionary α} (h : ∀ k, a.find? k = b.find? k) : a = b := by
  have hmem : ∀ e, e ∈ a.entries ↔ e ∈ b.entries := by
    rintro ⟨k, v⟩
    rw [mem_entries_iff, mem_entries_iff, h]
  have hperm := (List.perm_ext_iff_of_nodup a.entries_nodup b.entries_nodup).2 hmem
  refine ext (hperm.eq_of_pairwise ?_ a.ordered b.ordered)
  exact fun x y _ _ hxy hyx => absurd (String.lt_trans hxy hyx) (String.lt_irrefl _)

end Dictionary

end BulkImport
