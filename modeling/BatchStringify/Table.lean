/-!
# Tables

A table gives a value to each of finitely many keys and keeps the keys in the order in which they
first came. A table is seen through `find?`; the lemmas here say what each operation does to that
view and to the list of keys.
-/

namespace BatchStringify

/-- Values by key, in order of first entry. -/
structure Table (κ ν : Type) where
  /-- The keys with their values. -/
  entries : List (κ × ν) := []

namespace Table

variable {κ ν : Type} [DecidableEq κ]

/-- The table without keys. -/
def empty : Table κ ν := ⟨[]⟩

/-- The value at a key in a list of entries. -/
def findEntry (k : κ) : List (κ × ν) → Option ν
  | [] => none
  | e :: rest => if e.1 = k then some e.2 else findEntry k rest

/-- The value at a key. -/
def find? (t : Table κ ν) (k : κ) : Option ν := findEntry k t.entries

/-- The keys in order. -/
def keys (t : Table κ ν) : List κ := t.entries.map (·.1)

/-- The entries with a value at a key: in place if the key is known, else at the end. -/
def putEntry (k : κ) (v : ν) : List (κ × ν) → List (κ × ν)
  | [] => [(k, v)]
  | e :: rest => if e.1 = k then (k, v) :: rest else e :: putEntry k v rest

/-- Gives a value to a key. -/
def put (t : Table κ ν) (k : κ) (v : ν) : Table κ ν := ⟨putEntry k v t.entries⟩

/-- Takes a key out. -/
def erase (t : Table κ ν) (k : κ) : Table κ ν := ⟨t.entries.filter (·.1 ≠ k)⟩

omit [DecidableEq κ] in
@[simp] theorem keys_empty : (empty : Table κ ν).keys = [] := rfl

@[simp] theorem find?_empty (k : κ) : (empty : Table κ ν).find? k = none := rfl

/-- A value is found at just the keys of a table. -/
theorem find?_isSome_iff (t : Table κ ν) (k : κ) : (t.find? k).isSome ↔ k ∈ t.keys := by
  obtain ⟨entries⟩ := t
  induction entries with
  | nil => simp [find?, findEntry, keys]
  | cons e rest ih =>
    by_cases h : e.1 = k
    · simp [find?, findEntry, keys, h]
    · have hk : ¬ k = e.1 := fun hk => h hk.symm
      simpa [find?, findEntry, keys, h, hk] using ih

/-- A new key comes last, and a known one stays where it is. -/
theorem keys_put (t : Table κ ν) (k : κ) (v : ν) :
    (t.put k v).keys = if k ∈ t.keys then t.keys else t.keys ++ [k] := by
  obtain ⟨entries⟩ := t
  induction entries with
  | nil => simp [put, putEntry, keys]
  | cons e rest ih =>
    by_cases h : e.1 = k
    · simp [put, putEntry, keys, h]
    · have hk : ¬ k = e.1 := fun hk => h hk.symm
      simp only [put, keys] at ih
      simp only [put, putEntry, keys, h, if_false, List.map_cons, List.mem_cons, hk, false_or, ih]
      by_cases hr : k ∈ rest.map (·.1) <;> simp [hr]

/-- Putting leaves no key twice. -/
theorem nodup_keys_put {t : Table κ ν} (nodup : t.keys.Nodup) (k : κ) (v : ν) :
    (t.put k v).keys.Nodup := by
  rw [keys_put]
  split
  · exact nodup
  · rename_i hnew
    refine List.nodup_append.2 ⟨nodup, List.nodup_cons.2 ⟨List.not_mem_nil, List.nodup_nil⟩, ?_⟩
    intro a ha b hb hab
    rw [List.mem_singleton.1 hb] at hab
    exact hnew (hab ▸ ha)

@[simp] theorem keys_erase (t : Table κ ν) (k : κ) : (t.erase k).keys = t.keys.filter (· ≠ k) := by
  simp [keys, erase, List.filter_map, Function.comp_def]

@[simp] theorem find?_put_self (t : Table κ ν) (k : κ) (v : ν) : (t.put k v).find? k = some v := by
  obtain ⟨entries⟩ := t
  induction entries with
  | nil => simp [put, putEntry, find?, findEntry]
  | cons e rest ih =>
    by_cases h : e.1 = k
    · simp [put, putEntry, find?, findEntry, h]
    · simpa [put, putEntry, find?, findEntry, h] using ih

/-- Putting changes no other key. -/
theorem find?_put_of_ne (t : Table κ ν) {k j : κ} (v : ν) (h : j ≠ k) :
    (t.put k v).find? j = t.find? j := by
  have hk : ¬ k = j := fun hk => h hk.symm
  obtain ⟨entries⟩ := t
  induction entries with
  | nil => simp [put, putEntry, find?, findEntry, hk]
  | cons e rest ih =>
    by_cases he : e.1 = k
    · simp [put, putEntry, find?, findEntry, he, hk]
    · by_cases hj : e.1 = j
      · simp [put, putEntry, find?, findEntry, hj, h]
      · simpa [put, putEntry, find?, findEntry, he, hj] using ih

/-- What is found after a value was given to a key: this value at this key, and elsewhere what was found before. -/
theorem find?_put_eq_some_iff {t : Table κ ν} {k j : κ} {v w : ν} :
    (t.put k v).find? j = some w ↔ j = k ∧ w = v ∨ j ≠ k ∧ t.find? j = some w := by
  by_cases h : j = k
  · subst h
    simp [eq_comm]
  · simp [find?_put_of_ne t v h, h]

@[simp] theorem find?_erase_self (t : Table κ ν) (k : κ) : (t.erase k).find? k = none := by
  rw [← Option.not_isSome_iff_eq_none, find?_isSome_iff]
  simp

/-- Nor does erasing. -/
theorem find?_erase_of_ne (t : Table κ ν) {k j : κ} (h : j ≠ k) :
    (t.erase k).find? j = t.find? j := by
  obtain ⟨entries⟩ := t
  simp only [find?, erase]
  induction entries with
  | nil => rfl
  | cons e rest ih =>
    by_cases he : e.1 = k
    · have hj : ¬ e.1 = j := fun hj => h (hj.symm.trans he)
      rw [List.filter_cons_of_neg (by simpa using he), ih, findEntry, if_neg hj]
    · rw [List.filter_cons_of_pos (by simpa using he), findEntry, findEntry, ih]

theorem mem_entries_of_find? {t : Table κ ν} {k : κ} {v : ν} (h : t.find? k = some v) :
    (k, v) ∈ t.entries := by
  obtain ⟨entries⟩ := t
  simp only [find?] at h
  induction entries with
  | nil => simp [findEntry] at h
  | cons e rest ih =>
    by_cases he : e.1 = k
    · rw [findEntry, if_pos he, Option.some.injEq] at h
      rw [← he, ← h]
      exact List.mem_cons_self
    · rw [findEntry, if_neg he] at h
      exact List.mem_cons_of_mem _ (ih h)

/-- If no key comes twice, an entry is what is found at its key. -/
theorem find?_of_mem_entries {t : Table κ ν} {e : κ × ν} (nodup : t.keys.Nodup)
    (h : e ∈ t.entries) : t.find? e.1 = some e.2 := by
  obtain ⟨entries⟩ := t
  induction entries with
  | nil => cases h
  | cons d rest ih =>
    obtain ⟨hnew, hrest⟩ := List.nodup_cons.1 nodup
    rcases List.mem_cons.1 h with rfl | h
    · rw [find?, findEntry, if_pos rfl]
    · have hne : d.1 ≠ e.1 := fun heq => hnew (List.mem_map.2 ⟨e, h, heq.symm⟩)
      rw [find?, findEntry, if_neg hne]
      exact ih hrest h

/-- Putting adds the new entry and keeps some of the old ones. -/
theorem mem_entries_put {t : Table κ ν} {k : κ} {v : ν} {e : κ × ν}
    (h : e ∈ (t.put k v).entries) : e = (k, v) ∨ e ∈ t.entries := by
  obtain ⟨entries⟩ := t
  simp only [put] at h
  induction entries with
  | nil => exact .inl (List.mem_singleton.1 h)
  | cons d rest ih =>
    by_cases hd : d.1 = k
    · rw [putEntry, if_pos hd] at h
      exact (List.mem_cons.1 h).imp_right (List.mem_cons_of_mem _)
    · rw [putEntry, if_neg hd] at h
      rcases List.mem_cons.1 h with rfl | h
      · exact .inr List.mem_cons_self
      · exact (ih h).imp_right (List.mem_cons_of_mem _)

/-- Erasing keeps the entries with other keys. -/
theorem mem_entries_erase {t : Table κ ν} {k : κ} {e : κ × ν} :
    e ∈ (t.erase k).entries ↔ e ∈ t.entries ∧ e.1 ≠ k := by
  simp [erase]

theorem keys_put_of_find?_eq_some {t : Table κ ν} {k : κ} {old : ν} (v : ν)
    (h : t.find? k = some old) : (t.put k v).keys = t.keys := by
  rw [keys_put, if_pos ((find?_isSome_iff t k).1 (by rw [h]; rfl))]

theorem keys_put_of_find?_eq_none {t : Table κ ν} {k : κ} (v : ν) (h : t.find? k = none) :
    (t.put k v).keys = t.keys ++ [k] := by
  rw [keys_put, if_neg fun hk => ?_]
  rw [← find?_isSome_iff, h] at hk
  cases hk

theorem find?_eq_none_iff (t : Table κ ν) (k : κ) : t.find? k = none ↔ k ∉ t.keys := by
  rw [← find?_isSome_iff, Option.not_isSome_iff_eq_none]

end Table

end BatchStringify
