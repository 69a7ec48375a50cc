import BundleHost.Settings.Check
import BundleHost.Settings.EnvironmentFile
import BundleHost.Settings.Expansion

/-! Where settings come from. A value of the command line comes before one that is given directly,
that before one of the environment, and that before one of a file of environment variables. Names
are compared without regard to letter case, unless the environment and the file are to be read in
another way. Only the value that is chosen is checked; a name that no setting has is a problem of
its own, unless it comes from the environment, which other programs use too. -/

namespace BundleHost.Settings

open Validation

/-- How the environment and the file are read. -/
structure Reading where
  /-- Whether a name counts only if it is written exactly as that of the setting. -/
  exactNames : Bool := false
  nameStart : Text := []
  /-- Whether the file may hold settings without that start too, which then are passed over. -/
  passesPlain : Bool := false
  skipsEmpty : Bool := false
  /-- A text that stands for nothing. -/
  nothing : Option Text := none

namespace Reading

def form (r : Reading) (name : Text) : Text := if r.exactNames then name else Text.lower name

def nameOf (r : Reading) (setting : Text) : Text := r.form (r.nameStart ++ setting)

def valueOf (r : Reading) (t : Text) : Value := if r.nothing = some t then .null else .text t

end Reading

structure Sources where
  reading : Reading := {}
  commandLine : Fields := []
  given : Fields := []
  environment : List (Text × Text) := []
  files : List Text := []

namespace Sources

/-- Gives a name a value: in its place if it is there, at the end otherwise. -/
def replace {α : Type} : List (Text × α) → Text → α → List (Text × α)
  | [], name, v => [(name, v)]
  | (n, w) :: rest, name, v =>
    if n = name then (n, v) :: rest else (n, w) :: replace rest name v

def find? {α : Type} : List (Text × α) → Text → Option α
  | [], _ => none
  | (n, v) :: rest, name => if n = name then some v else find? rest name

/-- Values under the compared form of their names, the last value of a name in the place of the
first. -/
def byForm (r : Reading) (pairs : List (Text × Option Text)) : List (Text × Option Text) :=
  let counted := pairs.filter fun p => !(r.skipsEmpty && p.2 = some [])
  counted.foldl (fun seen p => replace seen (r.form p.1) p.2) []

/-- The value that a reference finds: that of a line above, or else that of the environment. A
variable of the file that has no value is empty. -/
def referred? (environment : List (Text × Text)) (above : List (Text × Option Text))
    (name : Text) : Option Text :=
  match find? above name with
  | some v => some (v.getD [])
  | none => find? environment name

/-- The values of a file under their names, line after line, with the references in them
replaced. -/
def expanded (s : Sources) (file : Text) : List (Text × Option Text) :=
  (EnvironmentFile.bindings file).foldl (fun above b =>
    replace above b.name (b.value.map (Expansion.expand (referred? s.environment above)))) []

/-- The values of all files, of which the last one that names a value counts. -/
def fromFiles (s : Sources) : List (Text × Option Text) :=
  s.files.foldl (fun seen file =>
    (byForm s.reading (s.expanded file)).foldl (fun seen p => replace seen p.1 p.2) seen) []

def fromEnvironment (s : Sources) : List (Text × Option Text) :=
  byForm s.reading (s.environment.map fun p => (p.1, some p.2))

/-- The value that is given directly. Of several spellings of a name the first one counts. -/
def given? (s : Sources) (name : Text) : Option Value :=
  (s.given.find? fun f => Text.lower f.1 = name).map Prod.snd

def valueIn? (r : Reading) (pairs : List (Text × Option Text)) (name : Text) : Option Value :=
  (find? pairs (r.nameOf name)).bind fun v => v.map r.valueOf

/-- The value of a setting, from the first source that has one. -/
def value? (s : Sources) (name : Text) : Option Value :=
  s.commandLine.get? name
    |>.or (s.given? name)
    |>.or (valueIn? s.reading s.fromEnvironment name)
    |>.or (valueIn? s.reading s.fromFiles name)

def chosen (s : Sources) : Fields :=
  names.filterMap fun name => (s.value? name).map fun v => (name, v)

/-- Whether a name in a file is that of a setting, or passed over. -/
def isExpected (r : Reading) (name : Text) : Bool :=
  (names.map r.nameOf).contains name || (r.passesPlain && names.contains name)

/-- Names in the files that no setting has. A name without a value is passed over. -/
def unknownInFiles (s : Sources) : List Text :=
  (s.fromFiles.filter fun p =>
    !isExpected s.reading p.1 && (p.2.any fun v => !v.isEmpty)).map Prod.fst

def unknownGiven (s : Sources) : List Text :=
  (s.given.map Prod.fst).filter fun name => !names.contains (Text.lower name)

def unknown (s : Sources) : List Text :=
  s.unknownInFiles ++ s.unknownGiven.filter fun name => !s.unknownInFiles.contains name

end Sources

def unknownIssues (unknown : List Text) : Checked Unit :=
  if unknown.isEmpty then .valid ()
  else .invalid (unknown.map fun name => ⟨[name], .unknownField⟩)

/-- Settings from their sources, or all that is wrong with them. -/
def load (s : Sources) : Checked Settings :=
  Checked.zipWith (fun settings _ => settings) (check s.chosen) (unknownIssues s.unknown)
end BundleHost.Settings
