import BundleHost.Text.Hex
import BundleHost.Value.Basic

/-! The compact written form of values in bodies: no blanks between the parts, fields in their
order, and every character as it is except quotes, backslashes and control characters. -/

namespace BundleHost

namespace Text

def jsonChar (c : Char) : Text :=
  if c = '"' || c = '\\' then ['\\', c]
  else if c = '\n' then ['\\', 'n']
  else if c = '\r' then ['\\', 'r']
  else if c = '\t' then ['\\', 't']
  else if c = '\x08' then ['\\', 'b']
  else if c = '\x0c' then ['\\', 'f']
  else if c.toNat < 0x20 then '\\' :: 'u' :: hex false 4 c.toNat
  else [c]

def jsonString (t : Text) : Text := '"' :: t.flatMap jsonChar ++ ['"']

end Text

namespace Value

/-- A number, for which some readers know three words beside the written form. -/
def numberToJson (x : Number) : Text :=
  if x.isFinite then x.shortest
  else if x.isUndefined then "NaN"
  else x.signText ++ ("Infinity" : Text)

mutual

def toJson : Value → Text
  | null => "null"
  | bool true => "true"
  | bool false => "false"
  | int n => Text.ofInt n
  | real x => numberToJson x
  | text t => Text.jsonString t
  | list items => '[' :: Text.join [','] (itemsToJson items) ++ [']']
  | record fields => '\x7b' :: Text.join [','] (fieldsToJson fields) ++ ['\x7d']

def itemsToJson : List Value → List Text
  | [] => []
  | v :: rest => toJson v :: itemsToJson rest

def fieldsToJson : List (Text × Value) → List Text
  | [] => []
  | (name, v) :: rest => (Text.jsonString name ++ ':' :: toJson v) :: fieldsToJson rest

end

end Value
end BundleHost
