import BundleHost.Fault

/-! What is made of loosely typed values where one of a certain type is needed. A value of another
type does no harm before that: any value can be written into a text, and any value can be a yes
or a no, but only a text can be cut into pieces. -/

namespace BundleHost.Value

/-- A value where a text is cut or compared. -/
def asText : Value → Except Failure Text
  | text t => .ok t
  | _ => .error (.lacking [])

/-- The elements of a value that has some: those of a list, the characters of a text, the names in a
record. -/
def elements : Value → Except Failure (List Value)
  | list items => .ok items
  | text t => .ok (t.map fun c => text [c])
  | record fields => .ok (fields.map fun f => text f.1)
  | _ => .error (.wrongType [])

/-- A start that texts are compared with has to be a text itself. -/
def asStart : Value → Except Failure Text
  | text t => .ok t
  | _ => .error (.wrongType [])

end BundleHost.Value
