import BundleHost.Asset.Key
import BundleHost.Glob.Match

/-! The choice of files that belong to a bundle, by patterns for the files to take and patterns
for the files to leave out. A pattern is tried on the name of a file and on its whole path. -/

namespace BundleHost.Bundle

structure Selection where
  /-- Patterns of the files to take; without any, all files are taken. -/
  taken : List Text
  leftOut : List Text
deriving DecidableEq, Repr

namespace Selection

/-- The kinds of files that a build of the interface makes, without source maps. -/
def default : Selection where
  taken := ["*.html", "*.js", "*.css", "*.ico", "*.png", "*.svg", "*.woff", "*.woff2", "*.ttf",
    "*.eot"]
  leftOut := ["*.map"]

/-- Whether a pattern matches the name or the path of a file. -/
def fits (path pattern : Text) : Bool :=
  let p := Glob.Pattern.ofText pattern
  p.matches (Key.finalSegment path) || p.matches path

def fitsAny (path : Text) (patterns : List Text) : Bool := patterns.any (fits path)

def selects (s : Selection) (path : Text) : Bool :=
  (s.taken.isEmpty || fitsAny path s.taken) && !fitsAny path s.leftOut

theorem fitsAny_iff {path : Text} {patterns : List Text} :
    fitsAny path patterns = true ↔ ∃ p ∈ patterns, fits path p = true := by
  simp [fitsAny]

end Selection
end BundleHost.Bundle
