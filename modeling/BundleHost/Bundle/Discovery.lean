import BundleHost.Bundle.Directory
import BundleHost.Bundle.Selection

/-! The files of a bundle in their order. Paths are ordered name by name, from the root down, so
that a directory stays together; the order in which the file system lists its entries does not
matter. -/

namespace BundleHost.Bundle

/-- Name by name, and a directory before what is in it. -/
def Path.le : Path → Path → Bool := Text.dictionaryLe fun a b => Text.le a b && a != b

def Directory.isSelected (d : Directory) (s : Selection) (path : Path) : Bool :=
  d.isFile path && s.selects path.relative

def Directory.discover (d : Directory) (s : Selection) : List Path :=
  (d.paths.mergeSort Path.le).filter (d.isSelected s)

/-- What keeps the files from being told: an entry that cannot be listed, or else, in their order,
one that cannot be asked for. -/
def Directory.failure? (d : Directory) : Option FileError :=
  match d.listingFailure? with
  | some e => some e
  | none => (d.paths.mergeSort Path.le).findSome? d.refusal?

/-- The paths of the selected files, unless something keeps them from being told. -/
def Directory.discovered (d : Directory) (s : Selection) : Except FileError (List Path) :=
  match d.failure? with
  | some e => .error e
  | none => .ok (d.discover s)

/-- What is discovered are the selected files, all of them and nothing else. -/
theorem Directory.mem_discover {d : Directory} {s : Selection} {path : Path} :
    path ∈ d.discover s ↔ path ∈ d.paths ∧ d.isFile path ∧ s.selects path.relative := by
  simp [discover, isSelected]

end BundleHost.Bundle
