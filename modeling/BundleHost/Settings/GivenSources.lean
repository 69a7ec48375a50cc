import BundleHost.Settings.GivenCommandLine
import BundleHost.Settings.Home
import BundleHost.Settings.Source
import BundleHost.Text.Charset

/-! The sources of settings as they are given from outside, with options among the values that are
given directly: which files are read and how they hold their text, what stands before the names,
which texts count, and what a command line gives. -/

namespace BundleHost.Settings

structure GivenSources where
  given : Fields := []
  environment : List (Text × Text) := []
  system : Bundle.FileSystem

namespace GivenSources

/-! ### Names -/

/-- A limit, which has to be a number if it counts as a yes. -/
def checkLimit (v : Value) : Except Failure Unit :=
  if v.holds then v.asNumber.map fun _ => () else .ok ()

/-- What stands before the names. Only a text can, but it does not show before the names are made
that something else with elements is none. -/
def nameStart (s : GivenSources) : Except Failure (Except Failure Text) :=
  match option? s.given "_env_prefix" with
  | none => .ok (.ok [])
  | some (.text t) => .ok (.ok t)
  | some v => v.elements.map fun _ => .error (.source .unnamed)

/-- Whether the start belongs to the names of settings, and not to other names for them only. -/
def startsSettings (s : GivenSources) : Bool :=
  match option? s.given "_env_prefix_target" with
  | none => true
  | some (.text t) => t = "variable".toList || t = "all".toList
  | some _ => false

def reading (s : GivenSources) (start : Text) : Reading where
  exactNames := isOn s.given "_case_sensitive"
  nameStart := if s.startsSettings then start else []
  passesPlain := !start.isEmpty
  skipsEmpty := isOn s.given "_env_ignore_empty"
  nothing := match option? s.given "_env_parse_none_str" with
    | some (.text t) => some t
    | _ => none

/-! ### Files -/

/-- The paths that an option names: one, or those in a list. Only a text is a path. -/
def pathsIn : Value → Except Failure (List Value)
  | .text path => .ok [.text path]
  | v => v.elements

/-- The place that the environment names as the home of the one who runs the program. -/
def home (s : GivenSources) : Option Text := Sources.find? s.environment "HOME"

def pathOf (s : GivenSources) (v : Value) : Except Failure Bundle.Way := do
  expanded s.system s.home (.ofText (← v.asStart))

def fileAt (s : GivenSources) (path : Bundle.Way) : Except Failure (Option ByteArray) :=
  (s.system.fileAt path).mapError .fileSystem

def charset (s : GivenSources) : Except Failure Charset :=
  match option? s.given "_env_file_encoding" with
  | none => .ok .utf8
  | some (.text name) =>
    if name.contains Bundle.zero then .error (.badValue [])
    else match Charset.ofName? name with
      | some c => .ok c
      | none => .error (.source .unknownCharset)
  | some _ => .error (.wrongType [])

def decodingFailure : Charset.Error → Failure
  | .undecodable => .source .undecodable
  | .unfit => .source .unfitFile

def fileText (s : GivenSources) (octets : ByteArray) : Except Failure Text := do
  ((← s.charset).decode octets).mapError decodingFailure

/-- In how many directories above a file is looked for has to be a whole number. There is none in
any of them. -/
def checkDepth (s : GivenSources) : Except Failure Unit :=
  match option? s.given "_env_file_depth" with
  | none => .ok ()
  | some (.int _) => .ok ()
  | some (.bool _) => .ok ()
  | some _ => .error (.wrongType [])

def textAt (s : GivenSources) (v : Value) : Except Failure (Option Text) := do
  match ← s.fileAt (← s.pathOf v) with
  | some octets => return some (← s.fileText octets)
  | none =>
    s.checkDepth
    return none

def listedTexts (s : GivenSources) : Except Failure (List Text) :=
  match s.given.get? "_env_file" with
  | none => (s.textAt (.text fileName)).map Option.toList
  | some .null => .ok []
  | some v => do
    let texts ← (← pathsIn v).mapM s.textAt
    return texts.filterMap id

/-- Directories of secrets may be missing, but not be files. There is nothing in them. -/
def checkSecrets (s : GivenSources) : Except Failure Unit :=
  match option? s.given "_secrets_dir" with
  | none => .ok ()
  | some v => do
    let paths ← (← pathsIn v).mapM s.pathOf
    let files ← paths.mapM s.fileAt
    if files.any Option.isSome then throw (.source .noDirectory)

/-! ### All together -/

/-- What is taken for the sources of settings: nothing, and something that does not matter. -/
def checkMadeSources (v : Value) : Except Failure Unit := do
  match ← v.elements with
  | [sources, _] => if sources.holds then throw (.wrongType [])
  | _ => throw (.badValue [])

/-- The sources, with the options taken out and followed. -/
def read (s : GivenSources) : Except Failure Sources := do
  checkLimit ((option? s.given "_env_nested_max_split").getD .null)
  let start ← s.nameStart
  let files ← s.listedTexts
  let commandLine ← GivenCommandLine.values s.given
  let start ← start
  s.checkSecrets
  return {
    reading := s.reading start
    commandLine
    given := s.given.filter fun f => !isOption f.1
    environment := s.environment
    files }

/-- The sources that count. Sources that were made before come in the place of all others, and no
sources at all can be made before. -/
def sources (s : GivenSources) : Except Failure Sources :=
  match option? s.given "_build_sources" with
  | some made => (checkMadeSources made).map fun _ => {}
  | none => s.read

end GivenSources
end BundleHost.Settings
