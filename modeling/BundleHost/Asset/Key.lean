import BundleHost.Text.Blank

/-! Keys of bundled files. Every key starts with the namespace of the bundle, so that a file
has one key whether a request spells out the namespace or not. Dots in a path have no meaning
here: a key either is that of a file or it is not. -/

namespace BundleHost.Key

/-- The key that a request path asks for. -/
def ofPath (ns path : Text) : Text :=
  let rest := path.dropWhile Text.isSlash
  if ns.isPrefixOf rest then rest else ns ++ rest

def isDirectoryRoute (path : Text) : Bool := path.getLast? == some '/'

/-- What follows the last slash, or the whole key. -/
def finalSegment (key : Text) : Text := (Text.afterLast? '/' key).getD key

/-- A key without the namespace, if it starts with it. -/
def relative (ns key : Text) : Text := Text.dropStart ns key

theorem namespace_isPrefix_ofPath (ns path : Text) : ns <+: ofPath ns path := by
  simp only [ofPath]
  split
  · next h => exact List.isPrefixOf_iff_prefix.1 h
  · exact List.prefix_append ..

/-- Slashes at the start of a path do not count. -/
theorem ofPath_slash (ns path : Text) : ofPath ns ('/' :: path) = ofPath ns path := by
  simp [ofPath, Text.isSlash]

end BundleHost.Key
