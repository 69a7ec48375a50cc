import BundleHost.Text.Quoted
import BundleHost.Value.Basic

/-! The form of values in log lines: texts quoted, parts after a comma and a blank, and words
with a capital for the values that are neither numbers nor texts. -/

namespace BundleHost.Value

mutual

def display : Value → Text
  | null => "None"
  | bool true => "True"
  | bool false => "False"
  | int n => Text.ofInt n
  | real x => x.shortest
  | text t => Text.quoted t
  | list items => '[' :: Text.join ", " (displayItems items) ++ [']']
  | record fields => '\x7b' :: Text.join ", " (displayFields fields) ++ ['\x7d']

def displayItems : List Value → List Text
  | [] => []
  | v :: rest => display v :: displayItems rest

def displayFields : List (Text × Value) → List Text
  | [] => []
  | (name, v) :: rest => (Text.quoted name ++ (": " : Text) ++ display v) :: displayFields rest

end

/-- The form of a value within other text: a text as it is, and all else as in a log line. -/
def plain : Value → Text
  | text t => t
  | v => v.display

def typeName : Value → Text
  | null => "NoneType"
  | bool _ => "bool"
  | int _ => "int"
  | real _ => "float"
  | text _ => "str"
  | list _ => "list"
  | record _ => "dict"

end BundleHost.Value
