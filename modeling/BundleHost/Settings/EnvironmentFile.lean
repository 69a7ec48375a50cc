import BundleHost.Text.Blank

/-! Files of environment variables, one to a line: a name, an equals sign and a value. A line may
start with the word export, blank lines and comments are passed over, and so is a line that has
another form. Values in quotes may hold line breaks and escapes; a value without quotes ends at
a number sign that follows a blank. A mark of the byte order at the very start is no part of the
first name. -/

namespace BundleHost.Settings.EnvironmentFile

structure Binding where
  name : Text
  value : Option Text
deriving DecidableEq, Repr

def isLineBreak (c : Char) : Bool := c == '\n' || c == '\r'

def isLineBlank (c : Char) : Bool := Text.isBlank c && !isLineBreak c

/-- Line breaks of every kind as one character. -/
def unifyLineBreaks : Text → Text
  | [] => []
  | '\r' :: '\n' :: r => '\n' :: unifyLineBreaks r
  | c :: r => (if c = '\r' then '\n' else c) :: unifyLineBreaks r

/-- The mark of the byte order, with which some editors start a file. -/
def orderMark : Char := '\uFEFF'

/-- The text up to the closing quote and the text after it. What follows a backslash, be it a quote
or another backslash, closes nothing. -/
def closeQuote (quote : Char) : Text → Option (Text × Text)
  | [] => none
  | '\\' :: [] => none
  | '\\' :: c :: r => (closeQuote quote r).map fun found => ('\\' :: c :: found.1, found.2)
  | c :: r =>
    if c = quote then some ([], r)
    else (closeQuote quote r).map fun found => (c :: found.1, found.2)

/-- What a backslash before a character stands for, in double quotes. -/
def doubleEscapes : List (Char × Char) := [
  ('\\', '\\'), ('\'', '\''), ('"', '"'), ('a', '\x07'), ('b', '\x08'), ('f', '\x0c'),
  ('n', '\n'), ('r', '\r'), ('t', '\t'), ('v', '\x0b')]

def singleEscapes : List (Char × Char) := [('\\', '\\'), ('\'', '\'')]

/-- Resolves the escapes of a list and leaves all other backslashes. -/
def unescape (escapes : List (Char × Char)) : Text → Text
  | '\\' :: c :: r =>
    match escapes.lookup c with
    | some d => d :: unescape escapes r
    | none => '\\' :: unescape escapes (c :: r)
  | c :: r => c :: unescape escapes r
  | [] => []

/-- The text before a number sign that follows white space. -/
def beforeComment : Text → Text
  | c :: '#' :: r => if Text.isBlank c then [] else c :: beforeComment ('#' :: r)
  | c :: r => c :: beforeComment r
  | [] => []

/-- The rest of a line without its comment and the white space around it. -/
def readUnquoted (t : Text) : Text × Text :=
  let line := t.takeWhile fun c => !isLineBreak c
  (Text.strip (beforeComment line), t.drop line.length)

/-- What stands behind an equals sign as a value, and the text after it. -/
def readValue (t : Text) : Option (Text × Text) :=
  match t.dropWhile isLineBlank with
  | '\'' :: r =>
    (closeQuote '\'' r).map fun found => (unescape singleEscapes found.1, found.2)
  | '"' :: r =>
    (closeQuote '"' r).map fun found => (unescape doubleEscapes found.1, found.2)
  | _ => some (readUnquoted t)

def readName (t : Text) : Option (Text × Text) :=
  let isNameChar (c : Char) : Bool := c != '=' && c != '#' && !Text.isBlank c
  match t with
  | '\'' :: r =>
    let name := r.takeWhile (· != '\'')
    match r.drop name.length with
    | _ :: rest => if name = [] then none else some (name, rest)
    | [] => none
  | t =>
    let name := t.takeWhile isNameChar
    if name = [] then none else some (name, t.drop name.length)

/-- The text after the word export, if white space follows it. -/
def dropExport (t : Text) : Text :=
  let word : Text := "export"
  let rest := t.drop word.length
  if word.isPrefixOf t && rest.head?.any isLineBlank then rest.dropWhile isLineBlank else t

/-- The text after a comment, if there is one, and the end of the line; nothing if there is more
on the line. -/
def finishLine (t : Text) : Option Text :=
  let t := t.dropWhile isLineBlank
  let t := if t.head? = some '#' then t.dropWhile fun c => !isLineBreak c else t
  match t with
  | [] => some []
  | c :: r => if isLineBreak c then some r else none

/-- The binding of a line that starts with neither white space nor a comment, and the text after
it. Where the line goes wrong, there is no binding and the text starts there. -/
def readBinding (t : Text) : Except Text (Option Binding × Text) :=
  let t := dropExport t
  if t.head? = some '#' then .ok (none, t)
  else match readName t with
    | none => .error t
    | some (name, rest) =>
      match rest.dropWhile isLineBlank with
      | '=' :: r =>
        match readValue r with
        | some (v, rest) => .ok (some ⟨name, some v⟩, rest)
        | none => .error r
      | rest => .ok (some ⟨name, none⟩, rest)

def skipLine (t : Text) : Text := (t.dropWhile fun c => !isLineBreak c).drop 1

/-- The binding of a line, if all of the line has the right form, and the lines after it. -/
def readLine (t : Text) : Option Binding × Text :=
  match readBinding t with
  | .error rest => (none, skipLine rest)
  | .ok (binding, rest) =>
    match finishLine rest with
    | some next => (binding, next)
    | none => (none, skipLine rest)

def readLines : Nat → Text → List Binding
  | 0, _ => []
  | lines + 1, t =>
    match t.dropWhile Text.isBlank with
    | [] => []
    | c :: r =>
      let found := readLine (c :: r)
      found.1.toList ++ readLines lines found.2

def dropOrderMark (file : Text) : Text := if file.head? = some orderMark then file.drop 1 else file

def bindings (file : Text) : List Binding :=
  readLines (file.length + 1) (unifyLineBreaks (dropOrderMark file))

end BundleHost.Settings.EnvironmentFile
