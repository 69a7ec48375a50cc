import BundleHost.Fault
import BundleHost.Number.Order
import BundleHost.Number.Reading

/-! Values as numbers. A yes counts as one and a no as zero, wherever a number is needed. Whole
numbers of any size can be compared with all others; only where time is measured do they have to be
within the range of the finite values. -/

namespace BundleHost.Value

def number? : Value → Option Number
  | int n => some (.ofInt n)
  | bool b => some (.ofInt (if b then 1 else 0))
  | real x => some x
  | _ => none

/-- A value where a number is compared with another one. -/
def asNumber (v : Value) : Except Failure Number :=
  match v.number? with
  | some x => .ok x
  | none => .error (.wrongType [])

/-- The whole number that is left of a number. -/
def wholeOf (x : Number) : Except Failure Int :=
  if x.isUndefined then .error (.badValue "cannot convert float NaN to integer")
  else if x.isInfinite then .error (.outOfRange "cannot convert float infinity to integer")
  else .ok x.truncated

/-- A value where a number is written without its fraction. -/
def asWhole : Value → Except Failure Int
  | int n => .ok n
  | bool b => .ok (if b then 1 else 0)
  | real x => wholeOf x
  | _ => .error (.wrongType [])

/-! ### Time -/

/-- The number nearest to a whole one, which has to be finite. -/
def nearest (n : Int) : Except Failure Number :=
  let x := Number.ofRatio (n < 0) n.natAbs 1
  if x.isFinite then .ok x else .error (.outOfRange "int too large to convert to float")

def nearestOfBool (b : Bool) : Except Failure Number := nearest (if b then 1 else 0)

def unreadableNumber (t : Text) : Failure :=
  .badValue (("could not convert string to float: " : Text) ++ Text.quoted t)

/-- What a clock shows, in seconds. -/
def asInstant : Value → Except Failure Number
  | int n => nearest n
  | bool b => nearestOfBool b
  | real x => .ok x
  | text t =>
    match Number.ofText? t with
    | some x => .ok x
    | none => .error (unreadableNumber t)
  | v => .error (.wrongType
      (("float() argument must be a string or a real number, not " : Text) ++
        Text.quoted v.typeName))

/-- The seconds that have passed since the clock showed zero. A text is no time here. -/
def asElapsed : Value → Except Failure Number
  | int n => nearest n
  | bool b => nearestOfBool b
  | real x => .ok x
  | v => .error (.wrongType
      (("unsupported operand type(s) for -: " : Text) ++ Text.quoted v.typeName ++
        (" and 'float'" : Text)))

end BundleHost.Value
