import BundleHost.Asset.Registry
import BundleHost.Bundle.Discovery
import BundleHost.Log

/-! Loading a bundle into a registry. Without a directory at its place the registry is empty. The
first file that cannot be read ends the loading, and then there is no registry at all. There are two
loaders: one that reads file after file while other work goes on, and keeps a log, and one that
reads all files at once. -/

namespace BundleHost.Bundle

/-- Why no registry came of a bundle: its files could not be told, one of them could not be read, or
they make up none. -/
inductive LoadError
  | unlisted (e : FileError)
  | unreadable (full relative reason : Text)
  | refused (e : Registry.BuildError)
deriving DecidableEq, Repr

namespace LoadError

/-- A file that cannot be read and files that make up no registry are faults of the bundle, which
the service can live with. -/
def failure : LoadError → Failure
  | unlisted e => .fileSystem e
  | unreadable full relative reason =>
    .fault <| Fault.raise .bundleLoad
      (some (.text (("Failed to read bundle file '" : Text) ++ relative ++ ['\'']))) (.text full)
      [("os_error", .text reason)]
  | refused e => .fault e.fault

end LoadError

/-- What came of loading, and what was logged on the way. -/
structure Loaded where
  result : Except LoadError Registry
  records : List Log.Record

def logger : Text := "assetdock.services.bundle_loader"

def keyOf (ns : Text) (path : Path) : Text := ns ++ path.relative

/-- Nothing is loaded because of an error. -/
def failed (e : FileError) : Loaded where
  result := .error (.unlisted e)
  records := []

def missingRecord (d : Directory) : Log.Record where
  level := .warning
  logger := logger
  message := ("Admin UI bundle directory " : Text) ++ d.location ++
    (" not found; the admin interface will be unavailable" : Text)

/-! ### Reading all files at once -/

def readEntry (d : Directory) (ns : Text) (path : Path) : Except LoadError (Text × ByteArray) :=
  match d.read path with
  | .ok data => .ok (keyOf ns path, data)
  | .error reason => .error (.unreadable (d.fullPath path) path.relative reason)

def readAll (d : Directory) (ns : Text) (s : Selection) : Loaded where
  result := do
    let paths ← (d.discovered s).mapError .unlisted
    let entries ← paths.mapM (readEntry d ns)
    (Registry.ofEntries entries).mapError .refused
  records := []

/-! ### Reading file after file -/

def unreadableRecord (d : Directory) (path : Path) (reason : Text) : Log.Record where
  level := .error
  logger := logger
  message := ("Failed to read bundle file " : Text) ++ d.fullPath path ++ (": " : Text) ++ reason

def totalSize : List (Text × ByteArray) → Nat
  | [] => 0
  | entry :: rest => entry.2.size + totalSize rest

def loadedRecord (d : Directory) (registry : Registry) (total : Nat) : Log.Record where
  level := .info
  logger := logger
  message := ("Loaded " : Text) ++ Text.ofNat registry.size ++ (" bundle assets (" : Text) ++
    Text.ofNat total ++ (" bytes) from " : Text) ++ d.location

/-- Builds the registry from the entries, which were gathered last to first. -/
def finish (d : Directory) (gathered : List (Text × ByteArray)) : Loaded :=
  match Registry.ofEntries gathered.reverse with
  | .ok registry =>
    { result := .ok registry, records := [loadedRecord d registry (totalSize gathered)] }
  | .error e => { result := .error (.refused e), records := [] }

/-- Reads the remaining files and adds them to what was gathered. -/
def gather (d : Directory) (ns : Text) (gathered : List (Text × ByteArray)) :
    List Path → Loaded
  | [] => finish d gathered
  | path :: rest =>
    match d.read path with
    | .ok data => gather d ns ((keyOf ns path, data) :: gathered) rest
    | .error reason =>
      { result := .error (.unreadable (d.fullPath path) path.relative reason)
        records := [unreadableRecord d path reason] }

def readInTurn (d : Directory) (ns : Text) (s : Selection) : Loaded :=
  match d.discovered s with
  | .ok paths => gather d ns [] paths
  | .error e => failed e

/-! ### The place of the bundle -/

def readAt (fs : FileSystem) (t : Text) (readFiles : Directory → Loaded) : Loaded :=
  match fs.opened t with
  | .ok (d, true) => readFiles d
  | .ok (d, false) => { result := .ok .empty, records := [missingRecord d] }
  | .error e => failed e

def load (fs : FileSystem) (t ns : Text) (s : Selection) : Loaded :=
  readAt fs t fun d => readInTurn d ns s

def loadAtOnce (fs : FileSystem) (t ns : Text) (s : Selection) : Loaded :=
  readAt fs t fun d => readAll d ns s

end BundleHost.Bundle
