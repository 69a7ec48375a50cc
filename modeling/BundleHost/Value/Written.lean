import BundleHost.Fault

/-! Writing values into texts. A whole number is only written if it does not have too many digits;
then no value can be written either that has such a number in it. -/

namespace BundleHost

/-- The most digits of a whole number that is read or written. -/
def mostDigits : Nat := 4300

/-- The least number with more than so many digits. It is not to be worked out in proofs. -/
@[irreducible] def leastBeyond (digits : Nat) : Nat := Nat.pow 10 digits

theorem length_ofNat_le_iff {n digits : Nat} (h : 0 < digits) :
    (Text.ofNat n).length ≤ digits ↔ n < leastBeyond digits := by
  rw [leastBeyond]
  exact Nat.length_toDigits_le_iff (by decide) h

def leastOverlong : Nat := leastBeyond mostDigits

/-- What is said about a number with too many digits, or about what was found in its place. -/
def overlongFailure (found : Text) : Failure :=
  .badValue (("Exceeds the limit (" : Text) ++ Text.ofNat mostDigits ++
    (" digits) for integer string conversion" : Text) ++ found ++
    ("; use sys.set_int_max_str_digits() to increase the limit" : Text))

def writtenNat (n : Nat) : Except Failure Text :=
  if n < leastOverlong then .ok (Text.ofNat n) else .error (overlongFailure [])

/-- A number with no more digits than can be written. -/
def IsShort (n : Nat) : Prop := (Text.ofNat n).length ≤ mostDigits

theorem isShort_iff {n : Nat} : IsShort n ↔ n < leastOverlong :=
  length_ofNat_le_iff (by decide)

theorem not_isShort_leastOverlong : ¬ IsShort leastOverlong := mt isShort_iff.mp (Nat.lt_irrefl _)

theorem writtenNat_of_isShort {n : Nat} (h : IsShort n) : writtenNat n = .ok (Text.ofNat n) :=
  if_pos (isShort_iff.mp h)

theorem writtenNat_of_not_isShort {n : Nat} (h : ¬ IsShort n) :
    writtenNat n = .error (overlongFailure []) :=
  if_neg (mt isShort_iff.mpr h)

namespace Value

mutual

def isWritable : Value → Bool
  | int n => n.natAbs < leastOverlong
  | list items => areWritable items
  | record fields => fieldsWritable fields
  | _ => true

def areWritable : List Value → Bool
  | [] => true
  | v :: rest => isWritable v && areWritable rest

def fieldsWritable : List (Text × Value) → Bool
  | [] => true
  | (_, v) :: rest => isWritable v && fieldsWritable rest

end

/-- A value within other text. -/
def written (v : Value) : Except Failure Text :=
  if v.isWritable then .ok v.plain else .error (overlongFailure [])

theorem written_int {n : Int} (h : IsShort n.natAbs) : (int n).written = .ok (Text.ofInt n) := by
  rw [written, isWritable, decide_eq_true (isShort_iff.mp h), if_pos rfl]
  rfl

theorem written_long {n : Int} (h : ¬ IsShort n.natAbs) :
    (int n).written = .error (overlongFailure []) := by
  rw [written, isWritable, decide_eq_false (mt isShort_iff.mpr h), if_neg Bool.false_ne_true]

theorem written_bool (b : Bool) : (bool b).written = .ok (bool b).plain := rfl

end Value
end BundleHost
