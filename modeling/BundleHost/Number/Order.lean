import BundleHost.Number.Binary

/-! The order of numbers. Two finite values are compared as quotients, without rounding, so that
whole numbers of any size find their place between the others. All of them lie between the two
infinite numbers, and a number without a value has no place at all. -/

namespace BundleHost.Number

def ofInt (n : Int) : Number := ⟨n < 0, n.natAbs, 0⟩

def quotientLe (x y : Number) : Bool :=
  x.signed (x.ratio.1 * y.ratio.2) ≤ y.signed (y.ratio.1 * x.ratio.2)

def valueLe (x y : Number) : Bool :=
  if x.isInfinite then x.negative || (y.isInfinite && !y.negative)
  else if y.isInfinite then !y.negative
  else quotientLe x y

/-- Whether one number is no more than another one, which needs values on both sides. -/
def le (x y : Number) : Bool := !x.isUndefined && !y.isUndefined && valueLe x y

/-- Whether two numbers have one value. Zero has one, whatever its sign is. -/
def same (x y : Number) : Bool := le x y && le y x

def lt (x y : Number) : Bool := le x y && !le y x

theorem signed_ofInt (n : Int) : (ofInt n).signed n.natAbs = n := by
  simp only [ofInt, signed, decide_eq_true_eq]
  split <;> omega

/-- Whole numbers are compared as such. -/
theorem le_ofInt (m n : Int) : le (ofInt m) (ofInt n) = decide (m ≤ n) := by
  have hm := signed_ofInt m
  have hn := signed_ofInt n
  have finite (k : Int) : (ofInt k).isUndefined = false ∧ (ofInt k).isInfinite = false := by
    simp [ofInt, isUndefined, isInfinite, isFinite, greatestExponent]
  have ratio (k : Int) : (ofInt k).ratio = (k.natAbs, 1) := by simp [ofInt, Number.ratio, twoTo]
  simp [le, valueLe, quotientLe, finite, ratio, hm, hn]

theorem same_ofInt (m n : Int) : same (ofInt m) (ofInt n) = decide (m = n) := by
  simp only [same, le_ofInt, ← Bool.decide_and]
  exact decide_eq_decide.2 ⟨fun h => by omega, fun h => by omega⟩

end BundleHost.Number
