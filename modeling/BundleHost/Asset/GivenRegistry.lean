import BundleHost.Asset.Registry
import BundleHost.Value.Key

/-! A registry as it may be handed over from outside, where the keys need not be texts. Files under
texts are the ones that a request can ask for; those under other keys are counted and listed along
with them. No two files have one key, and no key counts as a no. -/

namespace BundleHost

structure GivenRegistry where
  named : Registry
  keys : List Value
  others : List (Value × ByteArray)

namespace GivenRegistry

def ofRegistry (r : Registry) : GivenRegistry where
  named := r
  keys := r.keys.map .text
  others := []

/-! ### Reading -/

def size (g : GivenRegistry) : Nat := g.keys.length

/-- The file under a key, with the key that it was entered under. -/
def find? (g : GivenRegistry) : Value → Option (Value × ByteArray)
  | .text key => (g.named.find? key).map fun a => (.text a.key, a.data)
  | key => g.others.find? fun e => e.1.sameKey key

def contains (g : GivenRegistry) (key : Value) : Bool := (g.find? key).isSome

/-- Looks up a value, which has to be one that can be a key. -/
def lookUp (g : GivenRegistry) (key : Value) : Except Failure (Option (Value × ByteArray)) :=
  if key.isKey then .ok (g.find? key) else .error (.wrongType [])

def sortedKeys (g : GivenRegistry) : Except Failure (List Value) := Value.sortKeys g.keys

def summary (g : GivenRegistry) : Text := Registry.summaryOf g.size

theorem sortedKeys_ofRegistry (r : Registry) :
    (ofRegistry r).sortedKeys = .ok (r.sortedKeys.map .text) := Value.sortKeys_texts r.keys

/-! ### Building -/

def refusal (message : Text) (key : Value) : Failure :=
  .fault (Fault.raise .registry (some (.text message)) key [])

/-- Why a key that is no text cannot be entered, if it cannot. -/
def problem? (g : GivenRegistry) (key : Value) : Option Failure :=
  if !key.holds then some (refusal Registry.BuildError.emptyKey.message key)
  else if !key.isKey then some (.wrongType [])
  else if g.contains key then
    some (refusal (Registry.BuildError.duplicateKey key.plain).message key)
  else none

def insert (g : GivenRegistry) (key : Value) (data : ByteArray) :
    Except Failure GivenRegistry :=
  match key with
  | .text t =>
    match g.named.insert t data with
    | .ok named => .ok { g with named, keys := g.keys ++ [.text t] }
    | .error e => .error (.fault e.fault)
  | other =>
    match g.problem? other with
    | some f => .error f
    | none => .ok { g with keys := g.keys ++ [other], others := g.others ++ [(other, data)] }

def insertAll (g : GivenRegistry) : List (Value × ByteArray) → Except Failure GivenRegistry
  | [] => .ok g
  | (key, data) :: rest =>
    match g.insert key data with
    | .ok g' => insertAll g' rest
    | .error e => .error e

def ofEntries (entries : List (Value × ByteArray)) : Except Failure GivenRegistry :=
  insertAll (ofRegistry .empty) entries

theorem insert_text (r : Registry) (key : Text) (data : ByteArray) :
    (ofRegistry r).insert (.text key) data =
      match r.insert key data with
      | .ok r' => .ok (ofRegistry r')
      | .error e => .error (.fault e.fault) := by
  simp only [insert, ofRegistry]
  split
  · next h => simp [Registry.keys_insert h]
  · rfl

theorem insertAll_texts (r : Registry) (entries : List (Text × ByteArray)) :
    (ofRegistry r).insertAll (entries.map fun e => (.text e.1, e.2)) =
      match r.insertAll entries with
      | .ok r' => .ok (ofRegistry r')
      | .error e => .error (.fault e.fault) := by
  induction entries generalizing r with
  | nil => rfl
  | cons entry rest ih =>
    simp only [List.map_cons, insertAll, insert_text, Registry.insertAll]
    cases r.insert entry.1 entry.2 with
    | ok r' => exact ih r'
    | error e => rfl

/-- Entries under texts make up the registry that they make up as texts. -/
theorem ofEntries_texts (entries : List (Text × ByteArray)) :
    ofEntries (entries.map fun e => (.text e.1, e.2)) =
      match Registry.ofEntries entries with
      | .ok r => .ok (ofRegistry r)
      | .error e => .error (.fault e.fault) := insertAll_texts .empty entries

end GivenRegistry
end BundleHost
