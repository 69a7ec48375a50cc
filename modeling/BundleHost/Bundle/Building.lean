import BundleHost.Bundle.FileSystem
import BundleHost.Text.Blank

/-! How the directory of a bundle comes about: directories, files and links are made one after
another at the places that written paths name. The directories above a new directory or file are
made along with it; a link needs one that is already there. A path may lead out of the bundle,
and what is made there is not part of it. -/

namespace BundleHost.Bundle

/-- The place of the directory that is made. -/
def base : Path := ["tmp", "tmp00000000"]

/-- The octets before a path in the directory. -/
def baseOctets : Nat := (Text.utf8 (Way.text ⟨true, base⟩)).size + 1

def longestTarget : Nat := 4095

/-! ### Putting nodes into a tree -/

namespace Entries

/-- Gives a name a node: in its place if it is there, at the end otherwise. -/
def put (es : Entries) (name : Text) (node : Node) : Entries :=
  match es with
  | [] => [(name, node)]
  | (n, old) :: rest => if n = name then (n, node) :: rest else (n, old) :: put rest name node

def inside (es : Entries) (name : Text) : Entries :=
  match es.lookup name with
  | some (.directory _ sub) => sub
  | _ => []

/-- Puts a node at a path along directories that the service may do everything with. -/
def putAt (es : Entries) (node : Node) : Path → Entries
  | [] => es
  | [name] => put es name node
  | name :: next :: rest =>
    put es name (.directory {} (putAt (inside es name) node (next :: rest)))

end Entries

/-- Gives the directory at a path of a tree an entry. -/
def Node.put (world : Node) (path : Path) (node : Node) : Node :=
  match world with
  | .directory access entries => .directory access (Entries.putAt entries node path)
  | other => other

/-! ### Making -/

/-- A written path: where it starts, and the names on it. -/
structure Route where
  start : Path
  names : List Text

namespace Route

def ofText (t : Text) : Route where
  start := startOf base t
  names := Text.split '/' t

def above (r : Route) : List Text := r.names.dropLast.filter fun name => !name.isEmpty

def last (r : Route) : Text := r.names.getLast?.getD []

def problem? (names : List Text) : Option FileError :=
  if names.any fun name => name.contains zero then some .zeroInName
  else if longestPath < baseOctets + (Text.utf8 (Text.join ['/'] names)).size then
    some .nameTooLong
  else none

end Route

/-- The directory that names lead to from a place. -/
def Node.directoryAt (world : Node) (start : Path) (names : List Text) : Except FileError Path :=
  match world.follow linkLimit start names with
  | .error e => .error e
  | .ok place =>
    match world.at? place with
    | some (.directory ..) => .ok place
    | _ => .error .notDirectory

/-- Makes an entry in the directory that names lead to. A name that stands for no step or for a step
up is already taken. -/
def Node.makeEntry (world : Node) (start : Path) (names : List Text) (name : Text) (node : Node) :
    Except FileError Node :=
  match Route.problem? (names ++ [name]) with
  | some e => .error e
  | none =>
    match world.directoryAt start names with
    | .error e => .error e
    | .ok place =>
      if isIdle name || isUp name then .error .present
      else if isTooLong name then .error .nameTooLong
      else if (world.at? (place ++ [name])).isSome then .error .present
      else .ok (world.put (place ++ [name]) node)

def Node.exists (world : Node) (start : Path) (names : List Text) : Bool :=
  (Route.problem? names).isNone && (world.follow linkLimit start names).isOk

def Node.makeOne (world : Node) (start : Path) (names : List Text) (name : Text) :
    Except FileError Node :=
  match world.makeEntry start names name (.directory {} []) with
  | .ok world => .ok world
  | .error .zeroInName => .error .zeroInName
  | .error e =>
    if (world.directoryAt start (names ++ [name])).isOk then .ok world else .error e

/-- Makes the directories on a way that are not there. The names come last to first. -/
def Node.makeAll (world : Node) (start : Path) : List Text → Except FileError Node
  | [] => .ok world
  | name :: above =>
    if world.exists start above.reverse then world.makeOne start above.reverse name
    else match world.makeAll start above with
      | .ok world =>
        if name = ['.'] then .ok world else world.makeOne start above.reverse name
      | .error .present =>
        if name = ['.'] then .ok world else world.makeOne start above.reverse name
      | .error e => .error e

def Node.makeDirectory (world : Node) (t : Text) : Except FileError Node :=
  let route := Route.ofText t
  world.makeAll route.start (route.names.filter fun name => !name.isEmpty).reverse

/-- Writes a file, and makes the directories above it. -/
def Node.makeFile (world : Node) (t : Text) (data : ByteArray) : Except FileError Node := do
  let route := Route.ofText t
  let world ← world.makeAll route.start route.above.reverse
  match Route.problem? route.names with
  | some e => .error e
  | none =>
    let place ← world.directoryAt route.start route.above
    if isIdle route.last || isUp route.last then .error .directory
    else if isTooLong route.last then .error .nameTooLong
    else match world.at? (place ++ [route.last]) with
      | some (.directory ..) => .error .directory
      | _ => return world.put (place ++ [route.last]) (.file data)

def targetProblem? (target : Text) : Option FileError :=
  if target.contains zero then some .zeroInName
  else if target.isEmpty then some .absent
  else if longestTarget < (Text.utf8 target).size then some .nameTooLong
  else none

/-- The names of a path without the slashes at its end, and whether there are any. -/
def bareRoute (t : Text) : Route × Bool :=
  let bare := Text.trimEnd Text.isSlash t
  ({ start := startOf base t, names := Text.split '/' bare }, bare.length != t.length)

/-- Makes a link where nothing is yet. With a slash at its end a path can only name a directory. -/
def Node.makeLink (world : Node) (t target : Text) : Except FileError Node := do
  let (route, isSlashed) := bareRoute t
  if t.contains zero then .error .zeroInName
  else match targetProblem? target with
    | some e => .error e
    | none =>
      let made ← world.makeEntry route.start route.above route.last (.link target)
      if isSlashed then .error .absent else .ok made

def Node.empty : Node := (Node.directory {} []).put base (.directory {} [])

/-- The tree after directories, files and links were made in this order at written paths. -/
def Node.ofLists (directories : List Text) (files : List (Text × ByteArray))
    (links : List (Text × Text)) : Except FileError Node := do
  let made ← directories.foldlM Node.makeDirectory Node.empty
  let filled ← files.foldlM (fun world f => world.makeFile f.1 f.2) made
  links.foldlM (fun world l => world.makeLink l.1 l.2) filled

end BundleHost.Bundle
