import BundleHost.Number.Decimal

/-! Loosely typed data: what configuration sources hold before it is checked, what an error
carries as its context, and what is sent as a body of structured data. Records keep the order
in which their fields were given. -/

namespace BundleHost

inductive Value where
  | null
  | bool (b : Bool)
  | int (n : Int)
  | real (x : Number)
  | text (t : Text)
  | list (items : List Value)
  | record (fields : List (Text × Value))
deriving Repr, Inhabited

/-- Whether a value counts as a yes: it is neither nothing, nor a no, nor zero, nor empty. -/
def Value.holds : Value → Bool
  | null => false
  | bool b => b
  | int n => n != 0
  | real x => x.mantissa != 0 || x.isUndefined
  | text t => !t.isEmpty
  | list items => !items.isEmpty
  | record fields => !fields.isEmpty

abbrev Fields := List (Text × Value)

namespace Fields

def get? : Fields → Text → Option Value
  | [], _ => none
  | (n, v) :: rest, name => if n = name then some v else get? rest name

/-- Gives a field a value: in its place if it is there, at the end otherwise. -/
def put (fields : Fields) (name : Text) (v : Value) : Fields :=
  match fields with
  | [] => [(name, v)]
  | (n, w) :: rest => if n = name then (n, v) :: rest else (n, w) :: put rest name v

end Fields
end BundleHost
