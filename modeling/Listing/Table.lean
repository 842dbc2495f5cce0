/-! # Tables

  A table keeps at most one value under each name. Entries stay in
  the order in which their names came; a second value for a name
  takes the place of the first.
-/

namespace Listing

/-- Values under distinct names. -/
structure Table (α : Type) where
  /-- The names and their values. -/
  entries : List (String × α)
  /-- Each name occurs once. -/
  distinct : (entries.map Prod.fst).Nodup

namespace Table

variable {α : Type}

/-! ### Operations -/

/-- Nothing under any name. -/
def empty : Table α := ⟨[], List.nodup_nil⟩

/-- Replace the value of `key`, or append it. -/
def put (key : String) (value : α) : List (String × α) → List (String × α)
  | [] => [(key, value)]
  | (k, v) :: rest => if k = key then (key, value) :: rest else (k, v) :: put key value rest

theorem mem_keys_put {key k : String} {value : α} {l : List (String × α)} :
    k ∈ (put key value l).map Prod.fst ↔ k = key ∨ k ∈ l.map Prod.fst := by
  induction l with
  | nil => simp [put]
  | cons e l ih =>
    simp only [put]
    split
    · next h => simp [← h]
    · next h => rw [List.map_cons, List.mem_cons, ih, List.map_cons, List.mem_cons]; grind

theorem nodup_put {key : String} {value : α} {l : List (String × α)}
    (h : (l.map Prod.fst).Nodup) : ((put key value l).map Prod.fst).Nodup := by
  induction l with
  | nil => simp [put]
  | cons e l ih =>
    rw [List.map_cons, List.nodup_cons] at h
    simp only [put]
    split
    · next he => rw [List.map_cons, List.nodup_cons, ← he]; exact h
    · next he =>
      rw [List.map_cons, List.nodup_cons, mem_keys_put]
      exact ⟨fun hk => hk.elim he h.1, ih h.2⟩

/-- The table with `value` under `key`. -/
def insert (t : Table α) (key : String) (value : α) : Table α :=
  ⟨put key value t.entries, nodup_put t.distinct⟩

/-- The value under `key`. -/
def get? (t : Table α) (key : String) : Option α := t.entries.lookup key

/-- There is a value under `key`. -/
def contains (t : Table α) (key : String) : Bool := (t.get? key).isSome

/-- The table with the entries of `u` put in, one after another. -/
def merge (t u : Table α) : Table α := u.entries.foldl (fun t e => t.insert e.1 e.2) t

/-- The names in use. -/
def keys (t : Table α) : List String := t.entries.map Prod.fst

/-- No name is in use. -/
def isEmpty (t : Table α) : Bool := t.entries.isEmpty

/-- The table of a list of entries; the last one of a name counts. -/
def ofList (l : List (String × α)) : Table α := l.foldl (fun t e => t.insert e.1 e.2) empty

/-! ### Small facts -/

theorem lookup_cons_eq (k a : String) (b : α) (l : List (String × α)) :
    ((a, b) :: l).lookup k = if k = a then some b else l.lookup k := by
  rw [List.lookup_cons]
  by_cases h : k = a
  · simp [h]
  · rw [beq_eq_false_iff_ne.2 h, if_neg h]

theorem lookup_put (key k : String) (value : α) (l : List (String × α)) :
    (put key value l).lookup k = if k = key then some value else l.lookup k := by
  induction l with
  | nil => rw [put, lookup_cons_eq]
  | cons e l ih =>
    obtain ⟨a, b⟩ := e
    unfold put
    by_cases ha : a = key
    · subst ha
      by_cases hk : k = a <;> simp [lookup_cons_eq, hk]
    · rw [if_neg ha, lookup_cons_eq, lookup_cons_eq, ih]
      by_cases hk : k = a
      · subst hk; simp [ha]
      · simp [hk]

theorem get?_insert (t : Table α) (key k : String) (value : α) :
    (t.insert key value).get? k = if k = key then some value else t.get? k :=
  lookup_put key k value t.entries

theorem mem_of_get? {t : Table α} {key : String} {value : α} (h : t.get? key = some value) :
    (key, value) ∈ t.entries := by
  obtain ⟨before, after, hentries, -⟩ := List.lookup_eq_some_iff.mp h
  simp [hentries]

theorem lookup_of_mem {l : List (String × α)} (hd : (l.map Prod.fst).Nodup) {key : String}
    {value : α} (h : (key, value) ∈ l) : l.lookup key = some value := by
  induction l with
  | nil => cases h
  | cons e l ih =>
    obtain ⟨k, v⟩ := e
    rw [List.map_cons, List.nodup_cons] at hd
    rw [lookup_cons_eq]
    rcases List.mem_cons.mp h with heq | hl
    · cases heq
      rw [if_pos rfl]
    · have hne : key ≠ k := by
        rintro rfl
        exact hd.1 (List.mem_map.mpr ⟨_, hl, rfl⟩)
      rw [if_neg hne, ih hd.2 hl]

theorem get?_of_mem {t : Table α} {key : String} {value : α} (h : (key, value) ∈ t.entries) :
    t.get? key = some value :=
  lookup_of_mem t.distinct h

theorem not_mem_keys_of_get? {t : Table α} {key : String} (h : t.get? key = none) :
    key ∉ t.keys := by
  intro hmem
  obtain ⟨e, he, rfl⟩ := List.mem_map.mp hmem
  have hne : e.1 ≠ e.1 := by simpa using List.lookup_eq_none_iff.mp h e he
  exact hne rfl

theorem isSome_get?_iff {t : Table α} {key : String} :
    (t.get? key).isSome = true ↔ key ∈ t.keys := by
  cases hget : t.get? key with
  | none => exact iff_of_false nofun (not_mem_keys_of_get? hget)
  | some value => exact iff_of_true rfl (List.mem_map_of_mem (mem_of_get? hget))

theorem keys_put_of_mem {key : String} {value : α} {l : List (String × α)}
    (h : key ∈ l.map Prod.fst) : (put key value l).map Prod.fst = l.map Prod.fst := by
  induction l with
  | nil => cases h
  | cons e l ih =>
    simp only [put]
    split
    · next he => rw [List.map_cons, List.map_cons, he]
    · next he =>
      have hl : key ∈ l.map Prod.fst := by
        rcases List.mem_cons.mp h with heq | hl
        · exact absurd heq.symm he
        · exact hl
      rw [List.map_cons, List.map_cons, ih hl]

theorem keys_insert_of_mem {t : Table α} {key : String} (h : key ∈ t.keys) (value : α) :
    (t.insert key value).keys = t.keys :=
  keys_put_of_mem h

theorem nodup_keys (t : Table α) : t.keys.Nodup := t.distinct

end Table
end Listing
