import BundleHost.Bundle.Node

/-! The file system as the service finds it, and the questions that the service asks about written
paths. That something is not there is an answer; that a path is too long to be asked for, or leads
through a directory that may not be gone into, is a failure.

The place that the settings name is asked for once, with all links on the way to it replaced by
where they lead. Links are replaced one within the other, which can be done only so often, and a
link that leads back to itself has no place. -/

namespace BundleHost.Bundle

/-- A written path, from the top or from the directory in which the program runs. -/
structure Way where
  fromTop : Bool := false
  names : List Text := []
deriving DecidableEq, Repr

namespace Way

/-- The path that a text names. Empty steps and those that stay where they are do not count. -/
def ofText (t : Text) : Way where
  fromTop := t.head? = some '/'
  names := (Text.split '/' t).filter fun name => !isIdle name

def text (w : Way) : Text := (if w.fromTop then ['/'] else []) ++ Text.join ['/'] w.names

def down (w : Way) (name : Text) : Way := { w with names := w.names ++ [name] }

/-- The directory above, by the names alone. Above where the program runs there are only steps up,
and above the top there is nothing. -/
def up (w : Way) : Way :=
  if w.fromTop then { w with names := w.names.dropLast }
  else match w.names.getLast? with
    | none => w.down ['.', '.']
    | some name => if isUp name then w.down name else { w with names := w.names.dropLast }

/-- A way with the rest of a path behind it. A rest that starts with a slash starts anew. -/
def joined (w : Way) (rest : List Text) : Way :=
  match rest with
  | [] :: _ :: _ => ⟨true, rest⟩
  | _ => { w with names := w.names ++ rest }

end Way

/-- The names of a path from the top, with every step up taken. -/
def settled (names : List Text) : List Text :=
  (names.foldl (fun way name => if isIdle name then way
    else if isUp name then way.drop 1 else name :: way) []).reverse

/-- What the service finds around it: all nodes below the top, the place where the program runs, the
homes of people, and the files that cannot be read, each with the reason that the system gives. The
stack of the program has room for so many directories and so many links, each below or within the
one before. -/
structure FileSystem where
  top : Node
  here : Path := []
  homes : List (Text × Path) := []
  unreadable : List (Path × Text) := []
  walkRoom : Nat
  linkRoom : Nat

def longestPath : Nat := 4095

/-- The character that no path may hold. -/
def zero : Char := '\x00'

/-- Whether an error says no more than that there is nothing. -/
def isAbsence : FileError → Bool
  | .nameTooLong => false
  | .denied => false
  | .tooDeep => false
  | _ => true

namespace FileSystem

/-! ### Questions -/

def start (fs : FileSystem) (w : Way) : Path := if w.fromTop then [] else fs.here

def problem? (w : Way) : Option FileError :=
  if w.text.contains zero then some .zeroInName
  else if longestPath < (Text.utf8 w.text).size then some .nameTooLong
  else none

/-- The node to which a path leads. -/
def find (fs : FileSystem) (w : Way) : Except FileError (Option Node) :=
  match problem? w with
  | some e => .error e
  | none => (fs.top.follow linkLimit (fs.start w) w.names).map fs.top.at?

/-- The node to which a path leads, or nothing if there is none. -/
def look (fs : FileSystem) (w : Way) : Except FileError (Option Node) :=
  match fs.find w with
  | .ok found => .ok found
  | .error e => if isAbsence e then .ok none else .error e

def fileAt (fs : FileSystem) (w : Way) : Except FileError (Option ByteArray) :=
  (fs.look w).map fun
    | some (.file data) => some data
    | _ => none

def isDirectory (fs : FileSystem) (w : Way) : Except FileError Bool :=
  (fs.look w).map fun
    | some (.directory ..) => true
    | _ => false

/-! ### The place of a path -/

/-- The target of the link at a path. What cannot be asked for is taken for no link, unless it has
a character that no path may hold. -/
def linkAt (fs : FileSystem) (w : Way) : Except FileError (Option Text) :=
  match problem? w with
  | some .zeroInName => .error .zeroInName
  | some _ => .ok none
  | none =>
    match fs.top.walk (fs.start w) w.names with
    | .atLink _ target [] => .ok (some target)
    | _ => .ok none

/-- The links that were met, with the ways to which they lead. A link that is still being replaced
has no way yet. -/
abbrev Met := List (Way × Option Way)

/-- Where a path leads, unless it leads to a link that is still being replaced. -/
structure Traced where
  way : Way
  isWhole : Bool := true
  met : Met

/-- Takes the steps of a path by their names alone, but for links, which are replaced. -/
def trace (linkAt : Way → Except FileError (Option Text))
    (replace : Met → Way → Text → Except FileError Traced) (met : Met) (w : Way) :
    List Text → Except FileError Traced
  | [] => .ok { way := w, met }
  | name :: rest =>
    if isIdle name then trace linkAt replace met w rest
    else if isUp name then trace linkAt replace met w.up rest
    else
      let next := w.down name
      match linkAt next with
      | .error e => .error e
      | .ok none => trace linkAt replace met next rest
      | .ok (some target) =>
        match met.lookup next with
        | some (some done) => trace linkAt replace met done rest
        | some none => .ok { way := next.joined rest, isWhole := false, met }
        | none =>
          match replace ((next, none) :: met) w target with
          | .error e => .error e
          | .ok r =>
            if r.isWhole then trace linkAt replace ((next, some r.way) :: r.met) r.way rest
            else .ok { r with way := r.way.joined rest }

/-- Where the target of a link leads that stands below a way, with room for so many links. -/
def replace (linkAt : Way → Except FileError (Option Text)) :
    Nat → Met → Way → Text → Except FileError Traced
  | 0, _, _, _ => .error .tooDeep
  | room + 1, met, w, target =>
    trace linkAt (replace linkAt room) met (if target.head? = some '/' then ⟨true, []⟩ else w)
      (Text.split '/' target)

/-- The path from the top of the place that a text names. There need not be anything. -/
def placeOf (fs : FileSystem) (t : Text) : Except FileError Path := do
  let w := Way.ofText t
  let traced ← trace fs.linkAt (replace fs.linkAt fs.linkRoom) [] { fromTop := w.fromTop } w.names
  let place := settled (fs.start traced.way ++ traced.way.names)
  match fs.find ⟨true, place⟩ with
  | .error .tooManyLinks => .error .circle
  | .error .zeroInName => .error .zeroInName
  | _ => .ok place

end FileSystem
end BundleHost.Bundle
