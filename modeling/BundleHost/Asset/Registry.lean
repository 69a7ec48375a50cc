import BundleHost.Fault

/-! The registry: all files of a bundle, each under its key. It is built in one go before the
first request and is only read after that. Building fails at the first entry whose key is empty
or was there before; a registry with some of the entries left out is never made. -/

namespace BundleHost

structure Asset where
  key : Text
  data : ByteArray

namespace Asset

def length (a : Asset) : Nat := a.data.size

end Asset

/-- The files in the order in which they were entered, under different keys. -/
structure Registry where
  assets : List Asset
  nodup_keys : (assets.map Asset.key).Nodup

namespace Registry

def empty : Registry := ⟨[], List.nodup_nil⟩

instance : Inhabited Registry := ⟨empty⟩

/-! ### Reading -/

def keys (r : Registry) : List Text := r.assets.map Asset.key

def size (r : Registry) : Nat := r.assets.length

def find? (r : Registry) (key : Text) : Option Asset :=
  r.assets.find? fun a => a.key = key

def contains (r : Registry) (key : Text) : Bool := r.keys.contains key

/-- The keys in increasing order, for listings. -/
def sortedKeys (r : Registry) : List Text := Text.sort r.keys

def entries (r : Registry) : List (Text × ByteArray) := r.assets.map fun a => (a.key, a.data)

def summaryOf (size : Nat) : Text :=
  ("AssetRegistry(" : Text) ++ Text.ofNat size ++ (" assets)" : Text)

def summary (r : Registry) : Text := summaryOf r.size

/-- A file is found exactly under the keys that the registry contains. -/
theorem isSome_find? (r : Registry) (key : Text) : (r.find? key).isSome = r.contains key := by
  rw [Bool.eq_iff_iff]
  simp [find?, contains, keys, List.find?_isSome]

theorem key_of_find? {r : Registry} {key : Text} {a : Asset} (h : r.find? key = some a) :
    a.key = key := by
  simpa [find?] using List.find?_some h

theorem length_keys (r : Registry) : r.keys.length = r.size := by simp [keys, size]

/-! ### Building -/

inductive BuildError
  | emptyKey
  | duplicateKey (key : Text)
deriving DecidableEq, Repr

namespace BuildError

def key : BuildError → Text
  | emptyKey => []
  | duplicateKey k => k

def message : BuildError → Text
  | emptyKey => "Asset keys must not be empty"
  | duplicateKey k => ("Duplicate asset key '" : Text) ++ k ++ ['\'']

def fault (e : BuildError) : Fault :=
  Fault.raise .registry (some (.text e.message)) (.text e.key) []

end BuildError

def insert (r : Registry) (key : Text) (data : ByteArray) : Except BuildError Registry :=
  if key = [] then .error .emptyKey
  else if h : key ∈ r.keys then .error (.duplicateKey key)
  else .ok ⟨r.assets ++ [⟨key, data⟩], by
    rw [List.map_append, List.nodup_append]
    refine ⟨r.nodup_keys, by simp, ?_⟩
    intro k hk k' hk' e
    simp only [List.map_cons, List.map_nil, List.mem_singleton] at hk'
    exact h (hk' ▸ e ▸ hk)⟩

def insertAll (r : Registry) : List (Text × ByteArray) → Except BuildError Registry
  | [] => .ok r
  | (key, data) :: rest =>
    match r.insert key data with
    | .ok r' => insertAll r' rest
    | .error e => .error e

def ofEntries (entries : List (Text × ByteArray)) : Except BuildError Registry :=
  insertAll empty entries

theorem entries_insert {r r' : Registry} {key : Text} {data : ByteArray}
    (h : r.insert key data = .ok r') : r'.entries = r.entries ++ [(key, data)] := by
  simp only [insert] at h
  split at h
  · simp at h
  · split at h
    · simp at h
    · simp only [Except.ok.injEq] at h
      subst h
      simp [entries]

theorem keys_insert {r r' : Registry} {key : Text} {data : ByteArray}
    (h : r.insert key data = .ok r') : r'.keys = r.keys ++ [key] := by
  have he := congrArg (List.map Prod.fst) (entries_insert h)
  simpa [entries, keys, Function.comp_def] using he

/-- A finished registry has all entries, in order. -/
theorem entries_insertAll {r r' : Registry} {new : List (Text × ByteArray)}
    (h : insertAll r new = .ok r') : r'.entries = r.entries ++ new := by
  induction new generalizing r with
  | nil => simp only [insertAll, Except.ok.injEq] at h; simp [h]
  | cons entry rest ih =>
    obtain ⟨key, data⟩ := entry
    simp only [insertAll] at h
    split at h
    · next r₁ h₁ => rw [ih h, entries_insert h₁]; simp
    · simp at h

end Registry
end BundleHost
