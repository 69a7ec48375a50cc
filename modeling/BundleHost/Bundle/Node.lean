import BundleHost.Fault

/-! Files, directories and links as a tree. The entries of a directory come in the order in which
the file system lists them, which has no meaning. A directory may refuse to list its entries, and it
may refuse to be gone into; then what is below it cannot be asked for. A link is followed by the
rules of paths: its target starts at the directory in which the link stands, or at the top, and may
lead over further links, but only over so many of them. -/

namespace BundleHost.Bundle

abbrev Path := List Text

/-- What the service is allowed to do with a directory. -/
structure Access where
  list : Bool := true
  enter : Bool := true
deriving DecidableEq, Repr

inductive Node
  | file (data : ByteArray)
  | directory (access : Access) (entries : List (Text × Node))
  | link (target : Text)

abbrev Entries := List (Text × Node)

def Path.relative (p : Path) : Text := Text.join ['/'] p

/-! ### The tree -/

mutual

/-- The paths of all entries below a node. Links are entries and are not walked into. -/
def Node.paths : Node → List Path
  | .directory _ entries => entriesPaths entries
  | _ => []

def entriesPaths : List (Text × Node) → List Path
  | [] => []
  | (name, node) :: rest => [name] :: (Node.paths node).map (name :: ·) ++ entriesPaths rest

end

/-- The node at a path along real directories. -/
def Node.at? : Node → Path → Option Node
  | node, [] => some node
  | .directory _ entries, name :: rest => (entries.lookup name).bind fun node => node.at? rest
  | _, _ :: _ => none

/-- Whether listing one directory after the other comes to the entry at a path. All directories
before it are listed, and all but the last of them are gone into. -/
def Node.shows : Node → Path → Bool
  | _, [] => true
  | .directory access _, [_] => access.list
  | .directory access entries, name :: next :: rest =>
    access.list && access.enter && (entries.lookup name).any fun node => node.shows (next :: rest)
  | _, _ :: _ => false

/-! ### Following a path -/

def longestName : Nat := 255

def isTooLong (name : Text) : Bool := longestName < (Text.utf8 name).size

def isIdle (name : Text) : Bool := name.isEmpty || name = ['.']

def isUp (name : Text) : Bool := name = ['.', '.']

/-- How far a path leads before the next link: to an entry that is none, to a link in a directory
with the names after it, or to an error. -/
inductive Walk
  | reached (path : Path)
  | atLink (here : Path) (target : Text) (rest : List Text)
  | ended (why : FileError)

/-- Takes the steps of a path from a place. A step can only be taken from a directory, and only from
one that may be gone into; an empty step is none. Two dots lead to the directory above, and stay
where they are if there is none. -/
def Node.walk (root : Node) (here : Path) : List Text → Walk
  | [] => .reached here
  | name :: rest =>
    match root.at? here with
    | some (.directory access entries) =>
      if name.isEmpty then root.walk here rest
      else if !access.enter then .ended .denied
      else if isIdle name then root.walk here rest
      else if isUp name then root.walk here.dropLast rest
      else if isTooLong name then .ended .nameTooLong
      else match entries.lookup name with
        | some (.link target) => .atLink here target rest
        | some _ => root.walk (here ++ [name]) rest
        | none => .ended .absent
    | some _ => .ended .notDirectory
    | none => .ended .absent

/-- How many links may be followed on the way to one entry. -/
def linkLimit : Nat := 40

/-- The place where a path or the target of a link starts. -/
def startOf (here : Path) (t : Text) : Path := if t.head? = some '/' then [] else here

/-- The entry that a path leads to, over at most so many links. -/
def Node.follow (root : Node) (limit : Nat) (here : Path) (names : List Text) :
    Except FileError Path :=
  match root.walk here names with
  | .reached path => .ok path
  | .ended why => .error why
  | .atLink place target rest =>
    match limit with
    | 0 => .error .tooManyLinks
    | limit + 1 => root.follow limit (startOf place target) (Text.split '/' target ++ rest)

end BundleHost.Bundle
