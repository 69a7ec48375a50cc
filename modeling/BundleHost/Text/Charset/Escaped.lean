import BundleHost.Text.Charset.Basic

/-! Text in which a backslash and what follows it stand for a character, by its number or by a
letter for it. All other octets stand for the code points of the same numbers. -/

namespace BundleHost.Charset

/-- Characters that a backslash and a letter or mark stand for. -/
def letterEscapes : List (Char × Char) := [
  ('\\', '\\'), ('\'', '\''), ('"', '"'), ('a', '\x07'), ('b', '\x08'), ('f', '\x0c'),
  ('n', '\n'), ('r', '\r'), ('t', '\t'), ('v', '\x0b')]

def octalDigit? (c : Char) : Option Nat :=
  if '0' ≤ c && c ≤ '7' then some (c.toNat - 48) else none

def hexDigit? (c : Char) : Option Nat :=
  if c.isDigit then some (c.toNat - 48)
  else if 'a' ≤ c && c ≤ 'f' then some (c.toNat - 87)
  else if 'A' ≤ c && c ≤ 'F' then some (c.toNat - 55)
  else none

def hexChar (digits : Text) : Except Error Char :=
  match digits.mapM hexDigit? with
  | some values => charOf (values.foldl (fun n d => 16 * n + d) 0)
  | none => .error .undecodable

/-- The octal digits with which a text starts, of at most three characters. -/
def octalStart (t : Text) : List Nat :=
  ((t.take 3).takeWhile fun c => (octalDigit? c).isSome).filterMap octalDigit?

def before (c : Except Error Char) (rest : Except Error Text) : Except Error Text := do
  return (← c) :: (← rest)

/-- Resolves all escapes after so many characters. A backslash before any other character stands for
itself, and one before a line break takes it away. -/
def unescapeAfter : Nat → Text → Except Error Text
  | _, [] => .ok []
  | skipped + 1, _ :: rest => unescapeAfter skipped rest
  | 0, '\\' :: rest =>
    match rest with
    | [] => .error .undecodable
    | '\n' :: _ => unescapeAfter 1 rest
    | 'x' :: _ =>
      if rest.length < 3 then .error .undecodable
      else before (hexChar ((rest.drop 1).take 2)) (unescapeAfter 3 rest)
    | 'u' :: _ =>
      if rest.length < 5 then .error .undecodable
      else before (hexChar ((rest.drop 1).take 4)) (unescapeAfter 5 rest)
    | 'U' :: _ =>
      if rest.length < 9 then .error .undecodable
      else before (hexChar ((rest.drop 1).take 8)) (unescapeAfter 9 rest)
    | 'N' :: _ => .error .undecodable
    | c :: _ =>
      match letterEscapes.lookup c, octalStart rest with
      | some d, _ => (unescapeAfter 1 rest).map (d :: ·)
      | none, [] => (unescapeAfter 1 rest).map fun t => '\\' :: c :: t
      | none, digits =>
        before (charOf (digits.foldl (fun n d => 8 * n + d) 0))
          (unescapeAfter digits.length rest)
  | 0, c :: rest => (unescapeAfter 0 rest).map (c :: ·)

/-- Resolves the escapes by number after so many characters. A backslash before any other character
leaves that character as it is, and so it does at the end. -/
def unescapeNumbersAfter : Nat → Text → Except Error Text
  | _, [] => .ok []
  | skipped + 1, _ :: rest => unescapeNumbersAfter skipped rest
  | 0, '\\' :: rest =>
    match rest with
    | [] => .ok ['\\']
    | 'u' :: _ =>
      if rest.length < 5 then .error .undecodable
      else before (hexChar ((rest.drop 1).take 4)) (unescapeNumbersAfter 5 rest)
    | 'U' :: _ =>
      if rest.length < 9 then .error .undecodable
      else before (hexChar ((rest.drop 1).take 8)) (unescapeNumbersAfter 9 rest)
    | c :: _ => (unescapeNumbersAfter 1 rest).map fun t => '\\' :: c :: t
  | 0, c :: rest => (unescapeNumbersAfter 0 rest).map (c :: ·)

def points (octets : List UInt8) : Text := octets.map fun o => Char.ofNat o.toNat

def ofEscaped (octets : List UInt8) : Except Error Text := unescapeAfter 0 (points octets)

def ofNumberEscaped (octets : List UInt8) : Except Error Text :=
  unescapeNumbersAfter 0 (points octets)

end BundleHost.Charset
