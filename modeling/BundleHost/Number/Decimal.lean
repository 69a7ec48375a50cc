import BundleHost.Number.Binary
import BundleHost.Text.Basic

/-! Decimal texts of numbers: with a fixed count of places, and with the fewest digits that
read back as the same number. The second form is searched for on the decimal grids of one, two,
up to seventeen digits; on each grid only the two neighbours of the value can read back. -/

namespace BundleHost.Number

def signText (x : Number) : Text := if x.negative then ['-'] else []

/-- The value in units of the last place, a half to the even one. -/
def units (x : Number) (places : Nat) : Nat :=
  roundHalfEven (x.ratio.1 * tenTo places) x.ratio.2

/-- Digits with a point before the last `places` of them. -/
def pointed (n places : Nat) : Text :=
  let fraction := Text.ofNat (n % tenTo places)
  Text.ofNat (n / tenTo places) ++
    '.' :: (List.replicate (places - fraction.length) '0' ++ fraction)

/-- The text of a number that is not finite. -/
def wordText (x : Number) : Text :=
  if x.isUndefined then "nan" else x.signText ++ ("inf" : Text)

def fixed (x : Number) (places : Nat) : Text :=
  if x.isFinite then x.signText ++ pointed (x.units places) places else x.wordText

def roundTo (x : Number) (places : Nat) : Number :=
  if x.isFinite then ofRatio x.negative (x.units places) (tenTo places) else x

/-! ### Fewest digits -/

/-- The value and the ends of the interval that rounds to it, over one denominator. The ends
belong to it if the mantissa is even. -/
structure Span where
  low : Nat
  value : Nat
  high : Nat
  den : Nat
  closed : Bool

/-- Below a power of two the neighbouring number is only half as far away. -/
def span (x : Number) : Span :=
  let e := x.exponent - 2
  let up := if 0 ≤ e then twoTo e.toNat else 1
  let below := if x.mantissa = twoTo (mantissaBits - 1) && leastExponent < x.exponent then 1 else 2
  { low := (4 * x.mantissa - below) * up
    value := 4 * x.mantissa * up
    high := (4 * x.mantissa + 2) * up
    den := if 0 ≤ e then 1 else twoTo (-e).toNat
    closed := x.mantissa % 2 == 0 }

/-- A multiple of a power of ten, brought to the denominator of a span on one side and the
numerators of the span scaled alike on the other. -/
def Span.grid (s : Span) (power : Int) (n : Nat) : Nat × Nat :=
  if 0 ≤ power then (n * tenTo power.toNat * s.den, 1) else (n * s.den, tenTo (-power).toNat)

def Span.contains (s : Span) (power : Int) (n : Nat) : Bool :=
  let g := s.grid power n
  if s.closed then s.low * g.2 ≤ g.1 && g.1 ≤ s.high * g.2
  else s.low * g.2 < g.1 && g.1 < s.high * g.2

/-- How many digits stand before the point; zeros after the point count below zero. -/
def Span.magnitude (s : Span) : Int :=
  if s.den ≤ s.value then (Text.ofNat (s.value / s.den)).length
  else match (List.range 400).find? fun j => s.den ≤ s.value * tenTo (j + 1) with
    | some j => -(j : Int)
    | none => -400

/-- The point of a grid in the span that is nearest to the value. -/
def Span.nearest? (s : Span) (power : Int) : Option Nat :=
  let unit := s.grid power 1
  let n := s.value * unit.2 / unit.1
  match s.contains power n, s.contains power (n + 1) with
  | true, true =>
    let below := s.value * unit.2 - (s.grid power n).1
    let above := (s.grid power (n + 1)).1 - s.value * unit.2
    if below < above then some n
    else if above < below then some (n + 1)
    else if n % 2 = 0 then some n else some (n + 1)
  | true, false => some n
  | false, true => some (n + 1)
  | false, false => none

/-- Fewest digits that read back, with the power of ten of the last of them. -/
def shortestDigits (x : Number) : Nat × Int :=
  let s := x.span
  let k := s.magnitude
  let found := (List.range 17).findSome? fun (i : Nat) =>
    let power := k - ((i : Int) + 1)
    (s.nearest? power).map fun n => (n, power)
  found.getD (s.value / s.den, 0)

def trimZeros (digits : Text) : Text := Text.trimEnd (fun c => c == '0') digits

/-- Digits with a given count of them before the point: written in full if the point lies within
sixteen digits or behind at most four zeros, and with a power of ten of at least two digits
otherwise. -/
def laidOut (digits : Text) (point : Int) : Text :=
  if -4 < point && point ≤ 0 then
    '0' :: '.' :: (List.replicate (-point).toNat '0' ++ digits)
  else if 0 < point && point ≤ 16 then
    if (digits.length : Int) ≤ point then
      digits ++ List.replicate (point.toNat - digits.length) '0' ++ ['.', '0']
    else digits.take point.toNat ++ '.' :: digits.drop point.toNat
  else
    let power := Text.ofNat (point - 1).natAbs
    let mark := if point - 1 < 0 then '-' else '+'
    digits.take 1 ++ (if digits.length ≤ 1 then [] else '.' :: digits.drop 1) ++
      'e' :: mark :: (List.replicate (2 - power.length) '0' ++ power)

/-- The shortest text that reads back as the number. That of a finite number has a point or a power
in it. -/
def shortest (x : Number) : Text :=
  if !x.isFinite then x.wordText
  else if x.mantissa = 0 then x.signText ++ ['0', '.', '0']
  else
    let found := x.shortestDigits
    let digits := Text.ofNat found.1
    x.signText ++ laidOut (trimZeros digits) (found.2 + digits.length)

end BundleHost.Number
