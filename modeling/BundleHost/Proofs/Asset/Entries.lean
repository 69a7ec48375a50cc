import BundleHost.Asset.Registry

/-! A registry as the list of its entries. A look-up finds what the entries list under a key, and
entries under different keys, none of them empty, make up a registry that has just these entries. -/

namespace BundleHost.Registry

/-! ### Looking up -/

theorem find?_eq_none {r : Registry} {key : Text} : r.find? key = none ↔ key ∉ r.keys := by
  simp [find?, keys]

theorem mem_entries {r : Registry} {key : Text} {data : ByteArray} :
    (key, data) ∈ r.entries ↔ ⟨key, data⟩ ∈ r.assets := by
  simp only [entries, List.mem_map, Prod.mk.injEq]
  constructor
  · rintro ⟨⟨k, b⟩, hm, rfl, rfl⟩
    exact hm
  · intro hm
    exact ⟨_, hm, rfl, rfl⟩

/-- The first file of a key is the only one of that key. -/
theorem find_of_mem {files : List Asset} {a : Asset} (hn : (files.map Asset.key).Nodup)
    (ha : a ∈ files) : files.find? (fun b => b.key = a.key) = some a := by
  induction files with
  | nil => cases ha
  | cons b rest ih =>
    rw [List.map_cons, List.nodup_cons] at hn
    rcases List.mem_cons.mp ha with rfl | ha
    · simp
    · have hb : b.key ≠ a.key := fun e => hn.1 (e ▸ List.mem_map_of_mem ha)
      rw [List.find?_cons_of_neg (by simpa using hb)]
      exact ih hn.2 ha

/-- A look-up finds exactly what is entered under the key. -/
theorem find?_eq_some {r : Registry} {key : Text} {data : ByteArray} :
    r.find? key = some ⟨key, data⟩ ↔ (key, data) ∈ r.entries := by
  rw [mem_entries]
  constructor
  · intro h
    exact List.mem_of_find?_eq_some h
  · intro h
    exact find_of_mem r.nodup_keys h

theorem mem_keys {r : Registry} {key : Text} : key ∈ r.keys ↔ ∃ data, (key, data) ∈ r.entries := by
  simp only [keys, entries, List.mem_map, Prod.mk.injEq]
  constructor
  · rintro ⟨a, ha, rfl⟩
    exact ⟨a.data, a, ha, rfl, rfl⟩
  · rintro ⟨data, a, ha, hk, -⟩
    exact ⟨a, ha, hk⟩

theorem keys_eq (r : Registry) : r.keys = r.entries.map Prod.fst := by
  simp [keys, entries, Function.comp_def]

theorem eq_empty_of_size {r : Registry} (h : r.size = 0) : r = .empty := by
  obtain ⟨assets, hn⟩ := r
  obtain rfl : assets = [] := List.eq_nil_of_length_eq_zero h
  rfl

/-! ### Building -/

theorem insert_ok {r : Registry} {key : Text} (data : ByteArray) (hk : key ≠ [])
    (hr : key ∉ r.keys) : ∃ r', r.insert key data = .ok r' := by
  rw [insert, if_neg hk, dif_neg hr]
  exact ⟨_, rfl⟩

theorem insertAll_ok {r : Registry} {new : List (Text × ByteArray)}
    (hk : ∀ entry ∈ new, entry.1 ≠ []) (hn : (r.keys ++ new.map Prod.fst).Nodup) :
    ∃ r', r.insertAll new = .ok r' := by
  induction new generalizing r with
  | nil => exact ⟨r, rfl⟩
  | cons entry rest ih =>
    obtain ⟨key, data⟩ := entry
    have hr : key ∉ r.keys := by
      intro h
      exact (List.nodup_append.mp hn).2.2 key h key (by simp) rfl
    obtain ⟨r', h⟩ := insert_ok data (hk (key, data) (by simp)) hr
    have hn' : (r'.keys ++ rest.map Prod.fst).Nodup := by
      rw [keys_insert h]
      simpa using hn
    obtain ⟨r'', h'⟩ := ih (fun e he => hk e (by simp [he])) hn'
    exact ⟨r'', by rw [insertAll, h]; exact h'⟩

/-- Entries under different keys, none of them empty, are the entries of a registry. -/
theorem ofEntries_ok {new : List (Text × ByteArray)} (hk : ∀ entry ∈ new, entry.1 ≠ [])
    (hn : (new.map Prod.fst).Nodup) : ∃ r, ofEntries new = .ok r ∧ r.entries = new := by
  obtain ⟨r, h⟩ := insertAll_ok (r := empty) hk (by simpa [empty, keys] using hn)
  exact ⟨r, h, by simpa [empty, entries] using entries_insertAll h⟩

end BundleHost.Registry
