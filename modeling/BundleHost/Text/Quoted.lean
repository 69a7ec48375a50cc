import BundleHost.Text.Hex
import BundleHost.Text.Printable

/-! The quoted form of a text in a log line. Single quotes stand around it, or double quotes if
the text has single quotes in it and no double ones. Characters that are not shown as they are
get an escape, the shortest of the four kinds that reaches their code point. -/

namespace BundleHost.Text

def quoteFor (t : Text) : Char :=
  if t.contains '\'' && !t.contains '"' then '"' else '\''

/-- The escape of a code point without a name of its own. -/
def codeEscape (n : Nat) : Text :=
  if n < 0x100 then '\\' :: 'x' :: hex false 2 n
  else if n < 0x10000 then '\\' :: 'u' :: hex false 4 n
  else '\\' :: 'U' :: hex false 8 n

def quoteChar (quote c : Char) : Text :=
  if c = quote || c = '\\' then ['\\', c]
  else if c = '\n' then ['\\', 'n']
  else if c = '\r' then ['\\', 'r']
  else if c = '\t' then ['\\', 't']
  else if isPrintable c then [c]
  else codeEscape c.toNat

def quoted (t : Text) : Text :=
  let quote := quoteFor t
  quote :: t.flatMap (quoteChar quote) ++ [quote]

end BundleHost.Text
