import BundleHost.Value.Numeric
import BundleHost.Value.Sorting

/-! Values as keys. Texts, numbers, and yes and no can be looked up; a yes counts as one and a no as
zero, and numbers of one value are one key, however they are written. Keys have an order as long
as they are all texts or all numbers; others are sorted up to the first two that have none. -/

namespace BundleHost.Value

def isKey : Value → Bool
  | list _ => false
  | record _ => false
  | _ => true

/-- Whether two numbers are one key. What has no value is still the same key as itself. -/
def sameNumber (v w : Value) : Bool :=
  match v.number?, w.number? with
  | some x, some y => x = y || x.same y
  | _, _ => false

/-- Whether two values are one key. -/
def sameKey : Value → Value → Bool
  | null, null => true
  | text s, text t => s == t
  | v, w => sameNumber v w

/-! ### Order -/

/-- Whether there is an order between two keys. -/
def haveOrder : Value → Value → Bool
  | text _, text _ => true
  | v, w => v.number?.isSome && w.number?.isSome

def numberLe (v w : Value) : Bool :=
  match v.number?, w.number? with
  | some x, some y => x.le y
  | _, _ => false

def keyLe : Value → Value → Bool
  | text s, text t => Text.le s t
  | v, w => numberLe v w

/-- Whether a key has a place in an order at all. -/
def hasPlace : Value → Bool
  | real x => !x.isUndefined
  | _ => true

def allOrdered : List Value → Bool
  | [] => true
  | [v] => v.hasPlace
  | v :: w :: rest => v.hasPlace && haveOrder v w && allOrdered (w :: rest)

def clashText (v w : Value) : Text :=
  ("'<' not supported between instances of " : Text) ++ Text.quoted v.typeName ++
    (" and " : Text) ++ Text.quoted w.typeName

/-- Whether one key comes before another one, if that can be said. -/
def keyLess (v w : Value) : Except Failure Bool :=
  match v, w with
  | text s, text t => .ok (!Text.le t s)
  | v, w =>
    match v.number?, w.number? with
    | some x, some y => .ok (x.lt y)
    | _, _ => .error (.wrongType (clashText v w))

def sortKeys (keys : List Value) : Except Failure (List Value) :=
  if allOrdered keys then .ok (keys.mergeSort keyLe) else Sorting.sort keyLess keys

theorem allOrdered_texts (ts : List Text) : allOrdered (ts.map text) = true := by
  induction ts with
  | nil => rfl
  | cons t rest ih =>
    cases rest with
    | nil => rfl
    | cons u rest => simpa [allOrdered, haveOrder, hasPlace] using ih

/-- Texts are sorted as texts. -/
theorem sortKeys_texts (ts : List Text) :
    sortKeys (ts.map text) = .ok ((Text.sort ts).map text) := by
  simp only [sortKeys, allOrdered_texts, Text.sort, ite_true]
  rw [List.map_mergeSort (s := keyLe)]
  intros
  rfl

end BundleHost.Value
