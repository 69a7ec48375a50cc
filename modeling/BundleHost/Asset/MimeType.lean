import BundleHost.Text.Case

/-! The media type under which a file is served. It follows from the letters after the last dot
of the name alone; the contents are never looked at. -/

namespace BundleHost.MimeType

def html : Text := "text/html; charset=utf-8"

def unknown : Text := "application/octet-stream"

/-- Extensions in small letters, with their types. -/
def table : List (Text × Text) := [
  ("html", html),
  ("css", "text/css; charset=utf-8"),
  ("js", "application/javascript; charset=utf-8"),
  ("json", "application/json; charset=utf-8"),
  ("ico", "image/x-icon"),
  ("png", "image/png"),
  ("jpg", "image/jpeg"),
  ("jpeg", "image/jpeg"),
  ("gif", "image/gif"),
  ("svg", "image/svg+xml"),
  ("webp", "image/webp"),
  ("woff", "font/woff"),
  ("woff2", "font/woff2"),
  ("ttf", "font/ttf"),
  ("eot", "application/vnd.ms-fontobject"),
  ("otf", "font/otf")]

/-- The type of an extension in any mixture of letter cases. -/
def ofExtension (extension : Text) : Text :=
  (table.lookup (Text.lower extension)).getD unknown

def ofPath (path : Text) : Text :=
  match Text.afterLast? '.' path with
  | some extension => ofExtension extension
  | none => unknown

theorem ofPath_of_no_dot {path : Text} (h : '.' ∉ path) : ofPath path = unknown := by
  simp [ofPath, Text.afterLast?_eq_none.2 h]

end BundleHost.MimeType
