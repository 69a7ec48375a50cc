import BundleHost.Bundle.FileSystem

/-! The directory that a bundle is read from. Its entries are listed from the top down. A directory
that may not be listed is passed over, with all that is below it. One whose path is too long, or
that is too deep for the program to go into, is a failure, and so is a question about an entry that
has no answer. -/

namespace BundleHost.Bundle

/-- A place in a file system, by its path from the top. -/
structure Directory where
  system : FileSystem
  place : Path

namespace Directory

def wayTo (d : Directory) (path : Path) : Way := ⟨true, d.place ++ path⟩

/-- The full path as it is written in messages. -/
def fullPath (d : Directory) (path : Path) : Text := (d.wayTo path).text

def location (d : Directory) : Text := d.fullPath []

def isPresent (d : Directory) : Except FileError Bool := d.system.isDirectory (d.wayTo [])

/-- What is at the place, if that can be asked for. -/
def root? (d : Directory) : Option Node := (d.system.look (d.wayTo [])).toOption.join

/-- The contents of the file at a path, or nothing if there is no file. -/
def fileAt (d : Directory) (path : Path) : Except FileError (Option ByteArray) :=
  d.system.fileAt (d.wayTo path)

def fileAt? (d : Directory) (path : Path) : Option ByteArray := (d.fileAt path).toOption.join

/-- Whether a path is that of a file, or of a link that leads to one. -/
def isFile (d : Directory) (path : Path) : Bool := (d.fileAt? path).isSome

/-! ### Listing -/

/-- The paths of all entries that are listed, in the order of the file system. -/
def paths (d : Directory) : List Path :=
  match d.root? with
  | some node => node.paths.filter node.shows
  | none => []

/-- Whether there is a directory at the path of an entry, which is no link. -/
def goesOn (d : Directory) (path : Path) : Bool :=
  match d.root?.bind fun node => node.at? path with
  | some (.directory ..) => true
  | _ => false

/-- What keeps the service from going into a directory at a path. -/
def obstacle? (d : Directory) (path : Path) : Option FileError :=
  if d.goesOn path then
    if d.system.walkRoom < path.length then some .tooDeep
    else if longestPath < (Text.utf8 (d.fullPath path)).size then some .nameTooLong
    else none
  else none

/-- What keeps the entries from being listed: first of all the question for the directory itself. -/
def listingFailure? (d : Directory) : Option FileError :=
  match d.isPresent with
  | .error e => some e
  | .ok _ => ([] :: d.paths).findSome? d.obstacle?

/-- Why the question for a file at a path has no answer. -/
def refusal? (d : Directory) (path : Path) : Option FileError :=
  match d.fileAt path with
  | .ok _ => none
  | .error e => some e

/-- Why a file cannot be read, if the system gives a reason. -/
def reason? (d : Directory) (path : Path) : Option Text :=
  d.system.unreadable.lookup (d.place ++ path)

def read (d : Directory) (path : Path) : Except Text ByteArray :=
  match d.reason? path with
  | some reason => .error reason
  | none => .ok ((d.fileAt? path).getD .empty)

end Directory

/-- The directory at the place that a text names, and whether there is one. -/
def FileSystem.opened (fs : FileSystem) (t : Text) : Except FileError (Directory × Bool) := do
  let place ← fs.placeOf t
  let d : Directory := ⟨fs, place⟩
  let isPresent ← d.isPresent
  return (d, isPresent)

end BundleHost.Bundle
