/-! Numbers with a sign, a whole mantissa and a power of two, which are the values of floating point
arithmetic. Every operation is exact on whole numbers first and is then rounded once to a mantissa
of 53 bits, a half to the even neighbour. A power of two that no finite value has marks what is
beyond all of them: one infinite number of each sign, and, with a mantissa of zero, the number that
stands for no value. -/

namespace BundleHost

/-- The value is the mantissa times two to the exponent, with the sign. -/
structure Number where
  negative : Bool
  mantissa : Nat
  exponent : Int
deriving DecidableEq, Repr

def twoTo (n : Nat) : Nat := Nat.pow 2 n

def tenTo (n : Nat) : Nat := Nat.pow 10 n

/-- The whole number nearest to a quotient, a half to the even one. -/
def roundHalfEven (num den : Nat) : Nat :=
  let q := num / den
  let r := num % den
  if 2 * r < den then q
  else if den < 2 * r then q + 1
  else if q % 2 = 0 then q else q + 1

namespace Number

def zero : Number := ⟨false, 0, 0⟩

def leastExponent : Int := -1074

def mantissaBits : Nat := 53

def greatestExponent : Int := 971

def isFinite (x : Number) : Bool := x.exponent ≤ greatestExponent

/-- Whether a number is beyond all finite values of its sign. -/
def isInfinite (x : Number) : Bool := !x.isFinite && x.mantissa != 0

/-- Whether a number has no value at all. -/
def isUndefined (x : Number) : Bool := !x.isFinite && x.mantissa == 0

def infinite (negative : Bool) : Number :=
  ⟨negative, twoTo (mantissaBits - 1), greatestExponent + 1⟩

def undefined : Number := ⟨false, 0, greatestExponent + 1⟩

/-- A number with any power of two, or the infinite one in its place. -/
def bounded (x : Number) : Number := if x.isFinite then x else infinite x.negative

def scaled (num den : Nat) (e : Int) : Nat × Nat :=
  if 0 ≤ e then (num, den * twoTo e.toNat) else (num * twoTo (-e).toNat, den)

/-- The number nearest to a quotient. -/
def ofRatio (negative : Bool) (num den : Nat) : Number :=
  if num = 0 || den = 0 then ⟨negative, 0, 0⟩
  else
    let guess : Int := (num.log2 : Int) - (den.log2 : Int) - mantissaBits
    let first := max guess leastExponent
    let low := scaled num den first
    let e := if low.1 / low.2 < twoTo mantissaBits then first else first + 1
    let parts := scaled num den e
    let m := roundHalfEven parts.1 parts.2
    bounded <| if m = twoTo mantissaBits then ⟨negative, twoTo (mantissaBits - 1), e + 1⟩
      else ⟨negative, m, e⟩

def ofDecimal (negative : Bool) (digits : Nat) (power : Int) : Number :=
  if 0 ≤ power then ofRatio negative (digits * tenTo power.toNat) 1
  else ofRatio negative digits (tenTo (-power).toNat)

/-- The magnitude of a finite number as a quotient of whole numbers. -/
def ratio (x : Number) : Nat × Nat :=
  if 0 ≤ x.exponent then (x.mantissa * twoTo x.exponent.toNat, 1)
  else (x.mantissa, twoTo (-x.exponent).toNat)

def signed (x : Number) (n : Nat) : Int := if x.negative then -(n : Int) else n

/-- The whole number that has this value, if there is one. -/
def whole? (x : Number) : Option Int :=
  let q := x.ratio
  if x.isFinite && q.1 % q.2 = 0 then some (x.signed (q.1 / q.2)) else none

/-- The whole number that is left of a finite number without its fraction. -/
def truncated (x : Number) : Int :=
  let q := x.ratio
  x.signed (q.1 / q.2)

/-- The difference of finite numbers, rounded once. Nothing is left with a minus sign only by taking
a zero from a zero with that sign. -/
def subFinite (x y : Number) : Number :=
  let p := x.ratio
  let q := y.ratio
  let d := x.signed (p.1 * q.2) - y.signed (q.1 * p.2)
  ofRatio (d < 0 || (d = 0 && x.negative && !y.negative)) d.natAbs (p.2 * q.2)

/-- The difference. Nothing can be said about that of two infinite numbers of one sign. -/
def sub (x y : Number) : Number :=
  if x.isUndefined || y.isUndefined then undefined
  else if x.isInfinite then
    if y.isInfinite && x.negative == y.negative then undefined else x
  else if y.isInfinite then infinite (!y.negative)
  else subFinite x y

/-- A whole positive multiple, rounded once. -/
def times (x : Number) (n : Nat) : Number :=
  if x.isFinite then ofRatio x.negative (x.ratio.1 * n) x.ratio.2 else x

end Number
end BundleHost
