import BundleHost.Number.Binary
import BundleHost.Text.Blank
import BundleHost.Text.Case
import BundleHost.Text.Digit

/-! Numbers as people write them: digits with a point among them or not, a sign before them, and a
power of ten behind them, or one of the words for what is not finite. White space around a number
does not count, low lines may stand between digits, and the digits may be those of any script. -/

namespace BundleHost.Number

/-- The digits at the start of a text, without the low lines that stand singly between them, and the
text after them. -/
def readDigits : Text → Text × Text
  | c :: '_' :: d :: r =>
    if c.isDigit then
      if d.isDigit then
        let found := readDigits (d :: r)
        (c :: found.1, found.2)
      else ([c], '_' :: d :: r)
    else ([], c :: '_' :: d :: r)
  | c :: r =>
    if c.isDigit then
      let found := readDigits r
      (c :: found.1, found.2)
    else ([], c :: r)
  | [] => ([], [])

def readSign : Text → Bool × Text
  | '-' :: r => (true, r)
  | '+' :: r => (false, r)
  | t => (false, t)

/-- The power of ten that all of a text stands for. -/
def readPower? : Text → Option Int
  | [] => some 0
  | c :: r =>
    let (negative, digits) := readSign r
    match readDigits digits with
    | ([], _) => none
    | (ds, []) =>
      if c = 'e' || c = 'E' then
        some (if negative then -(Text.digitsValue ds : Int) else Text.digitsValue ds)
      else none
    | _ => none

def readFraction : Text → Text × Text
  | '.' :: r => readDigits r
  | t => ([], t)

/-- The highest power of ten that is worked out for a count of digits. Beyond it a number is
infinite, and beyond its opposite it is zero. -/
def powerBound (digits : Nat) : Int := digits + 400

def ofDigits (negative : Bool) (digits : Text) (power : Int) : Number :=
  let n := Text.digitsValue digits
  let bound := powerBound digits.length
  if n = 0 || power < -bound then ⟨negative, 0, 0⟩
  else if bound < power then infinite negative
  else ofDecimal negative n power

/-- The finite number that all of a text stands for. -/
def readFinite? (negative : Bool) (t : Text) : Option Number :=
  let whole := readDigits t
  let fraction := readFraction whole.2
  let digits := whole.1 ++ fraction.1
  if digits.isEmpty then none
  else (readPower? fraction.2).map fun power =>
    ofDigits negative digits (power - (fraction.1.length : Int))

def infiniteWords : List Text := ["inf", "infinity"]

def undefinedWord : Text := "nan"

/-- The number that a text stands for. -/
def ofText? (t : Text) : Option Number :=
  let (negative, rest) := readSign ((Text.trim Text.isNumberBlank t).map Text.plainDigit)
  let word := Text.lowerAscii rest
  if infiniteWords.contains word then some (infinite negative)
  else if word = undefinedWord then some undefined
  else readFinite? negative rest

end BundleHost.Number
