import BundleHost.Proofs.Asset.Entries
import BundleHost.Proofs.Text.Order
import Mathlib.Data.List.Induction
import Mathlib.Data.List.Nodup

/-! Which entries make up a registry, and what can be read from it afterwards. Building a registry
either takes all entries, in their order, or ends at the first one whose key is empty or was there
before, with a fault that names this key. All ways of reading a finished registry agree on the
entries that it was made from. -/

namespace BundleHost.Registry

variable {r : Registry} {entries before after : List (Text × ByteArray)} {key : Text}
  {data : ByteArray}

/-- Entries under different keys, none of them empty. -/
structure AreFit (entries : List (Text × ByteArray)) : Prop where
  ne_nil : ∀ entry ∈ entries, entry.1 ≠ []
  nodup : (entries.map Prod.fst).Nodup

/-- The key of the first entry that cannot be entered: all entries before it can, and the key is
empty or one of theirs. -/
def IsFirstUnfit (entries : List (Text × ByteArray)) (key : Text) : Prop :=
  ∃ before data after, entries = before ++ (key, data) :: after ∧ AreFit before ∧
    (key = [] ∨ key ∈ before.map Prod.fst)

def BuildError.refusing (key : Text) : BuildError :=
  if key = [] then .emptyKey else .duplicateKey key

/-- What every reading of a registry shows of the entries that it was made from. -/
structure Shows (r : Registry) (entries : List (Text × ByteArray)) : Prop where
  keys_eq : r.keys = entries.map Prod.fst
  found : ∀ key data, (key, data) ∈ entries →
    ∃ a, r.find? key = some a ∧ a.key = key ∧ a.data = data ∧ a.length = data.size
  absent : ∀ key, key ∉ entries.map Prod.fst → r.find? key = none
  contains_eq : ∀ key, r.contains key = (r.find? key).isSome
  size_eq : r.size = entries.length
  perm : r.sortedKeys.Perm r.keys
  increasing : r.sortedKeys.Pairwise Text.Precedes

/-! ### The first entry that is refused -/

/-- The fault names the key that is refused, also if it is empty. -/
theorem BuildError.fault_refusing (key : Text) :
    (refusing key).fault =
      { kind := .registry
        message := .text (refusing key).message
        subject := .text key
        context := .record [("key", .text key)] } := by
  by_cases h : key = []
  · subst h
    rfl
  · rw [refusing, if_neg h]
    rfl

theorem insert_of_unfit (data : ByteArray) (h : key = [] ∨ key ∈ r.keys) :
    r.insert key data = .error (.refusing key) := by
  rw [insert, BuildError.refusing]
  by_cases hk : key = []
  · rw [if_pos hk, if_pos hk]
  · rw [if_neg hk, if_neg hk, dif_pos (h.resolve_left hk)]

theorem insertAll_append (r : Registry) (before after : List (Text × ByteArray)) :
    r.insertAll (before ++ after) = r.insertAll before >>= fun r' => r'.insertAll after := by
  induction before generalizing r with
  | nil => rfl
  | cons entry rest ih =>
    rw [List.cons_append, insertAll, insertAll]
    cases r.insert entry.1 entry.2 with
    | ok r' => exact ih r'
    | error e => rfl

theorem AreFit.concat (h : AreFit entries) (hk : key ≠ []) (hn : key ∉ entries.map Prod.fst)
    (data : ByteArray) : AreFit (entries ++ [(key, data)]) where
  ne_nil := by
    rw [List.forall_mem_append, List.forall_mem_singleton]
    exact ⟨h.ne_nil, hk⟩
  nodup := by
    rw [List.map_append, List.nodup_append]
    refine ⟨h.nodup, List.nodup_singleton _, ?_⟩
    rintro k hm _ hm' rfl
    have he : k = key := List.mem_singleton.mp hm'
    exact hn (he ▸ hm)

/-- Entries are fit, or there is a first one that is not. -/
theorem areFit_or_first (entries : List (Text × ByteArray)) :
    AreFit entries ∨ ∃ key, IsFirstUnfit entries key := by
  -- from the end, because an entry is judged by those before it
  induction entries using List.reverseRecOn with
  | nil => exact .inl ⟨nofun, List.nodup_nil⟩
  | append_singleton first entry ih =>
    obtain ⟨key, data⟩ := entry
    obtain hfit | ⟨unfit, before, data', after, rfl, hbefore, hunfit⟩ := ih
    · by_cases hk : key = [] ∨ key ∈ first.map Prod.fst
      · exact .inr ⟨key, first, data, [], rfl, hfit, hk⟩
      · obtain ⟨hne, hn⟩ := not_or.mp hk
        exact .inl (hfit.concat hne hn data)
    · refine .inr ⟨unfit, before, data', after ++ [(key, data)], ?_, hbefore, hunfit⟩
      rw [List.append_assoc, List.cons_append]

theorem ofEntries_of_first (h : IsFirstUnfit entries key) :
    ofEntries entries = .error (.refusing key) := by
  obtain ⟨before, data, after, rfl, hfit, hunfit⟩ := h
  obtain ⟨r, hr, he⟩ := ofEntries_ok hfit.ne_nil hfit.nodup
  have hk : key = [] ∨ key ∈ r.keys := by rwa [keys_eq, he]
  rw [ofEntries, insertAll_append, ← ofEntries, hr]
  show r.insertAll ((key, data) :: after) = _
  rw [insertAll, insert_of_unfit data hk]

/-- Exactly fit entries make up a registry. -/
theorem ofEntries_ok_iff : (∃ r, ofEntries entries = .ok r) ↔ AreFit entries := by
  constructor
  · rintro ⟨r, hr⟩
    refine (areFit_or_first entries).resolve_right ?_
    rintro ⟨key, hkey⟩
    rw [ofEntries_of_first hkey] at hr
    cases hr
  · intro h
    obtain ⟨r, hr, -⟩ := ofEntries_ok h.ne_nil h.nodup
    exact ⟨r, hr⟩

/-! ### Reading -/

theorem entries_ofEntries (h : ofEntries entries = .ok r) : r.entries = entries := by
  simpa [empty, Registry.entries] using entries_insertAll h

theorem shows_entries (r : Registry) : r.Shows r.entries where
  keys_eq := r.keys_eq
  found key data hm := ⟨_, find?_eq_some.mpr hm, rfl, rfl, rfl⟩
  absent key hk := find?_eq_none.mpr (by rwa [keys_eq])
  contains_eq key := (r.isSome_find? key).symm
  size_eq := by rw [← length_keys, keys_eq, List.length_map]
  perm := Text.sort_perm r.keys
  increasing := Text.sort_strict r.nodup_keys

/-- Entries make up a registry exactly if they are fit; all that can be read from it then are these
entries. Otherwise there is a first entry that is not fit, and the fault is about its key. -/
theorem ofEntries_exact (entries : List (Text × ByteArray)) :
    ((∃ r, ofEntries entries = .ok r) ↔ AreFit entries) ∧
    (∀ r, ofEntries entries = .ok r → r.Shows entries) ∧
    (¬ AreFit entries → ∃ key, IsFirstUnfit entries key) ∧
    ∀ key, IsFirstUnfit entries key →
      ofEntries entries = .error (.refusing key) ∧
      (BuildError.refusing key).fault =
        { kind := .registry
          message := .text (BuildError.refusing key).message
          subject := .text key
          context := .record [("key", .text key)] } := by
  refine ⟨ofEntries_ok_iff, ?_, (areFit_or_first entries).resolve_left, ?_⟩
  · intro r hr
    have hs : r.Shows r.entries := r.shows_entries
    rwa [entries_ofEntries hr] at hs
  · intro key hkey
    exact ⟨ofEntries_of_first hkey, BuildError.fault_refusing key⟩

end BundleHost.Registry
